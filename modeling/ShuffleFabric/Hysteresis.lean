import ShuffleFabric.Pressure

/-!
# ShuffleFabric.Hysteresis

Whether dispatch to a participant is paused, and which evidence it follows.

The flag that remembers a decision belongs to the scheduler and is moved by waves; the reading
belongs to the coordinator and is replaced by reports.  A reading between the thresholds
leaves the decision to the flag, so it changes nothing if and only if the flag has caught up
with the reading that is replaced.
-/

namespace ShuffleFabric

open Lib Action

namespace WaveScheduler

/-- What a fresh reading says. -/
def verdict (policy : CongestionPolicy) (level : UInt32) (paused : Bool) : PressureDecision :=
  if level ≥ policy.pauseThreshold then .paused
  else if level ≤ policy.resumeThreshold then .allow
  else if paused then .paused else .allow

/-- A fresh reading is decided by its level, and the flag it leaves is what was decided. -/
theorem decide_of_fresh {policy : CongestionPolicy} {reading : PressureReading}
    (hobserved : reading.observed = true) (hfresh : reading.fresh = true) (id : UInt64)
    (pausedMap : Std.ExtTreeMap UInt64 Bool) :
    (decide policy id reading pausedMap).1 =
      verdict policy reading.level (pausedMap.getD id false) := by
  unfold decide verdict
  simp only [hobserved, hfresh, not_true, or_self, if_false, getD_insertIfNew_default]
  split
  · rfl
  · split <;> rfl

/-- The pause flag after a fresh reading, as a verdict. -/
theorem unpaused_iff_verdict {policy : CongestionPolicy} {reading : PressureReading}
    (hobserved : reading.observed = true) (hfresh : reading.fresh = true) (paused : Bool) :
    Unpaused policy reading paused ↔ verdict policy reading.level paused = .allow := by
  unfold Unpaused verdict
  rw [if_pos ⟨hobserved, hfresh⟩]
  cases paused <;> grind

/-- A verdict allows or pauses. -/
theorem verdict_congr {policy : CongestionPolicy} {level : UInt32} {paused paused' : Bool}
    (h : verdict policy level paused = .allow ↔ verdict policy level paused' = .allow) :
    verdict policy level paused = verdict policy level paused' := by
  unfold verdict at *
  cases paused <;> cases paused' <;> grind

end WaveScheduler

namespace Coordinator

/-! ## The gate of a participant -/

/-- What the pressure gate of a wave says about a participant. -/
def gate (c : Coordinator) (kind : ParticipantKind) (id : UInt64) :
    WaveScheduler.PressureDecision :=
  (WaveScheduler.decide c.request.policy.congestion id (c.pressureIn (c.pressure kind) id)
    (c.paused kind)).1

/-- There is a reading of its own for the participant, and it is fresh. -/
def FreshFor (c : Coordinator) (kind : ParticipantKind) (id : UInt64) : Prop :=
  ∃ reading ∈ (c.pressure kind)[id]?, (c.freshen reading).fresh = true

instance (c : Coordinator) (kind : ParticipantKind) (id : UInt64) : Decidable (c.FreshFor kind id) :=
  inferInstanceAs (Decidable (∃ reading ∈ (c.pressure kind)[id]?, _))

/-- The level of the reading for a participant that a move has accepted. -/
def acceptedLevel (c : Coordinator) (m : Move) (kind : ParticipantKind) (id : UInt64) :
    Option UInt32 :=
  ((c.accepted m).filter fun intent => id ≠ 0 ∧ intent.target kind = id).map (·.level)

/-- A level between the thresholds. -/
def Between (c : Coordinator) (level : UInt32) : Prop :=
  c.request.policy.congestion.resumeThreshold < level ∧
    level < c.request.policy.congestion.pauseThreshold

instance (c : Coordinator) (level : UInt32) : Decidable (c.Between level) :=
  inferInstanceAs (Decidable (_ ∧ _))

/-- The flag of a participant has caught up with the reading that is kept for it. -/
def Seen (c : Coordinator) (kind : ParticipantKind) (id : UInt64) : Prop :=
  ∀ reading ∈ (c.pressure kind)[id]?, ¬c.Between reading.level →
    (c.paused kind).getD id false =
      decide (reading.level ≥ c.request.policy.congestion.pauseThreshold)

instance (c : Coordinator) (kind : ParticipantKind) (id : UInt64) : Decidable (c.Seen kind id) :=
  inferInstanceAs (Decidable (∀ reading ∈ (c.pressure kind)[id]?, _))

/-- A fresh reading between the thresholds that replaces a fresh one finds the flag caught
up with that one. -/
def Settled (c : Coordinator) (kind : ParticipantKind) (id : UInt64) (m : Move) : Prop :=
  ∀ intent ∈ c.accepted m, id ≠ 0 → intent.target kind = id → c.Between intent.level →
    (c.freshen (readingOf intent)).fresh = true → c.FreshFor kind id → c.Seen kind id

instance (c : Coordinator) (kind : ParticipantKind) (id : UInt64) (m : Move) :
    Decidable (c.Settled kind id m) :=
  inferInstanceAs (Decidable (∀ intent ∈ c.accepted m, _))

/-- What is fresh was observed. -/
theorem observed_of_fresh {c : Coordinator} {reading : PressureReading}
    (h : (c.freshen reading).fresh = true) : (c.freshen reading).observed = true := by
  simp only [freshen, Bool.and_eq_true] at h
  exact h.1.1.1

/-- The gate of a participant with a fresh reading is the verdict on its level. -/
theorem gate_of_fresh {c : Coordinator} {kind : ParticipantKind} {id : UInt64}
    {reading : PressureReading} (hreading : (c.pressure kind)[id]? = some reading)
    (hfresh : (c.freshen reading).fresh = true) :
    c.gate kind id = WaveScheduler.verdict c.request.policy.congestion reading.level
      ((c.paused kind).getD id false) := by
  have hpressure : c.pressureIn (c.pressure kind) id = c.freshen reading := by
    rw [pressureIn, hreading]
  rw [gate, hpressure, WaveScheduler.decide_of_fresh (observed_of_fresh hfresh) hfresh]
  rfl

/-- The level an accepted intent carries for a participant: it has to be its target, and known. -/
theorem acceptedLevel_of_some {c : Coordinator} {m : Move} {intent : CongestionIntent}
    (h : c.accepted m = some intent) (kind : ParticipantKind) (id : UInt64) :
    c.acceptedLevel m kind id =
      if id ≠ 0 ∧ intent.target kind = id then some intent.level else none := by
  rw [acceptedLevel, h, Option.filter_some]
  by_cases htarget : id ≠ 0 ∧ intent.target kind = id
  · simp [htarget]
  · simp only [htarget, decide_false, if_false]
    rfl

/-- A reading sets no pause flag by itself: the next wave does. -/
theorem paused_recordPressure (c : Coordinator) (intent : CongestionIntent) :
    (c.recordPressure intent).paused = c.paused := by
  funext kind
  cases kind <;> simp only [paused, (c.recordPressure_gates intent).1]

/-- A level is accepted for a participant by an intent that targets it. -/
theorem acceptedLevel_eq_some {c : Coordinator} {m : Move} {kind : ParticipantKind} {id : UInt64}
    {level : UInt32} : c.acceptedLevel m kind id = some level ↔
      ∃ intent, c.accepted m = some intent ∧ id ≠ 0 ∧ intent.target kind = id ∧
        intent.level = level := by
  unfold acceptedLevel
  simp only [Option.map_eq_some_iff, Option.filter_eq_some_iff, decide_eq_true_eq, and_assoc]

/-! ## One move -/

/-- The scheduler works for the policy of the shuffle, and there is no evidence before the
shuffle is open. -/
structure Guided (c : Coordinator) : Prop where
  policy : c.scheduler.configured = true → c.scheduler.policy = c.request.policy
  closed : c.state = .closed → c.scheduler.configured = false ∧ ∀ kind, c.pressure kind = ∅

/-- A new coordinator has no flags. -/
theorem guided_make (limits : Limits) (sink : Option Sink) : (make limits sink).Guided :=
  ⟨nofun, fun _ => ⟨rfl, fun kind => by cases kind <;> rfl⟩⟩

/-- Every move keeps the flags in step with the policy. -/
theorem GateStep.guided {c c' : Coordinator} {m : Move} {answer : Result Reply}
    (h : GateStep c m answer c') (hc : c.Guided) : c'.Guided := by
  cases h with
  | kept _ _ _ hgates =>
      refine ⟨?_, fun hclosed => ?_⟩
      · rw [hgates.configured, hgates.policy, hgates.request]
        exact hc.policy
      · rw [hgates.configured, hgates.pressure]
        exact hc.closed (hgates.state hclosed)
  | opened _ _ hclosed _ hscheduler hopened =>
      refine ⟨fun hconfigured => ?_, fun h => by simp [hopened] at h⟩
      rw [hscheduler, (hc.closed hclosed).1] at hconfigured
      cases hconfigured
  | waved t scheduler _ _ hopen hconfigured _ hrequest hstate hwave =>
      obtain ⟨-, hpolicy, -⟩ := ensureScheduler_ok hc.policy hconfigured
      refine ⟨fun _ => ?_, fun hclosed => ?_⟩
      · rw [hrequest, ← hpolicy]
        obtain ⟨-, hscheduler⟩ | ⟨plan, -, hplan⟩ := hwave
        · rw [hscheduler]
        · exact (WaveScheduler.nextWave_setup hplan).2.1
      · rw [hstate, (ensureOpen_ok hopen).1] at hclosed
        cases hclosed
  | pressured _ intent hheard =>
      obtain ⟨hscheduler, hrequest, hstate, -⟩ := c.recordPressure_gates intent
      refine ⟨?_, fun hclosed => ?_⟩
      · rw [hscheduler, hrequest]
        exact hc.policy
      · rw [hstate, open_of_accepted hheard] at hclosed
        cases hclosed
  | recovered _ _ _ _ hnone hconfigured =>
      exact ⟨fun h => by simp [hconfigured] at h, fun _ => ⟨hconfigured, hnone⟩⟩

/-- Every state of a run is in order, and its flags are in step. -/
theorem guided_of_run {limits : Limits} {sink : Option Sink}
    {events : List (Event Coordinator Move (Result Reply))} {c : Coordinator}
    (run : Run move (make limits sink) events c) : c.Regular ∧ c.Guided :=
  run.invariant (P := fun c => c.Regular ∧ c.Guided)
    ⟨regular_make limits sink, guided_make limits sink⟩
    fun _ m hd => ⟨hd.1.move m, (gates_of_move hd.1 m).guided hd.2⟩

/-- A move that ends with fresh evidence for a participant, and accepted none for it: the
gate stays where it was. -/
theorem gate_of_unheard {c c' : Coordinator} {m : Move} {answer : Result Reply}
    (h : GateStep c m answer c') (hc : c.Guided) {kind : ParticipantKind} {id : UInt64}
    (hunheard : c.acceptedLevel m kind id = none) (hfresh : c.FreshFor kind id)
    (hfresh' : c'.FreshFor kind id) : c'.gate kind id = c.gate kind id := by
  obtain ⟨reading, hreading, hfresh⟩ := hfresh
  obtain ⟨reading', hreading', hfresh'⟩ := hfresh'
  rw [Option.mem_def] at hreading hreading'
  have hgate := gate_of_fresh hreading hfresh
  have hgate' := gate_of_fresh hreading' hfresh'
  cases h with
  | kept _ _ _ hgates =>
      rw [hgates.pressure, hreading] at hreading'
      cases hreading'
      rw [hgate, hgate', hgates.request, hgates.paused]
  | opened _ _ hclosed => simp [(hc.closed hclosed).2] at hreading
  | waved t scheduler _ _ hopen hconfigured hpressure hrequest hstate hwave =>
      rw [hpressure, hreading] at hreading'
      cases hreading'
      obtain ⟨-, hpolicy, -, -, -, -, -, hproducers, hconsumers⟩ :=
        ensureScheduler_ok hc.policy hconfigured
      rw [hgate, hgate', hrequest]
      obtain ⟨-, hscheduler⟩ | ⟨plan, -, hplan⟩ := hwave
      · have hpaused : c'.paused = c.paused := by
          funext kind
          cases kind
          · exact (congrArg _ hscheduler).trans hproducers
          · exact (congrArg _ hscheduler).trans hconsumers
        rw [hpaused]
      · have hgates := WaveScheduler.nextWave_gates hplan id
        rw [hpolicy, hproducers, hconsumers] at hgates
        have hread : c.pressureIn (c.pressure kind) id = c.freshen reading := by
          rw [pressureIn, hreading]
        refine WaveScheduler.verdict_congr ?_
        have hiff := @WaveScheduler.unpaused_iff_verdict c.request.policy.congestion _
          (observed_of_fresh hfresh) hfresh
        cases kind with
        | producer =>
            have hread : (c.environment t).producerPressure id = c.freshen reading := hread
            rw [hread] at hgates
            exact (hiff _).symm.trans (hgates.1.trans (hiff _))
        | consumer =>
            have hread : (c.environment t).consumerPressure id = c.freshen reading := hread
            rw [hread] at hgates
            exact (hiff _).symm.trans (hgates.2.trans (hiff _))
  | pressured _ intent hheard =>
      rw [acceptedLevel_of_some hheard] at hunheard
      rw [getElem?_pressure_recordPressure] at hreading'
      by_cases htarget : id ≠ 0 ∧ intent.target kind = id
      · simp [htarget] at hunheard
      · rw [if_neg htarget, hreading] at hreading'
        cases hreading'
        rw [hgate, hgate', paused_recordPressure, (c.recordPressure_gates intent).2.1]
  | recovered _ _ _ _ hnone => simp [hnone] at hreading'

/-- A move that accepted evidence for a participant: the gate says what the evidence says,
and what the flag says if the evidence is between the thresholds. -/
theorem gate_of_heard {c c' : Coordinator} {m : Move} {answer : Result Reply}
    (h : GateStep c m answer c') {kind : ParticipantKind} {id : UInt64} {level : UInt32}
    (hheard : c.acceptedLevel m kind id = some level) (hfresh' : c'.FreshFor kind id) :
    c'.gate kind id = WaveScheduler.verdict c.request.policy.congestion level
      ((c.paused kind).getD id false) := by
  obtain ⟨reading', hreading', hfresh'⟩ := hfresh'
  rw [Option.mem_def] at hreading'
  have hgate' := gate_of_fresh hreading' hfresh'
  obtain ⟨intent, haccepted, hid, htarget, rfl⟩ := acceptedLevel_eq_some.mp hheard
  obtain ⟨-, rfl⟩ := h.of_accepted haccepted
  rw [getElem?_pressure_recordPressure, if_pos ⟨hid, htarget⟩] at hreading'
  cases hreading'
  rw [hgate', paused_recordPressure, (c.recordPressure_gates intent).2.1]
  rfl

/-- A level from the pause threshold on closes the gate. -/
theorem gate_of_pausing {c c' : Coordinator} {m : Move} {answer : Result Reply}
    (h : GateStep c m answer c') {kind : ParticipantKind} {id : UInt64} {level : UInt32}
    (hheard : c.acceptedLevel m kind id = some level)
    (hpause : c.request.policy.congestion.pauseThreshold ≤ level)
    (hfresh' : c'.FreshFor kind id) : c'.gate kind id = .paused := by
  rw [gate_of_heard h hheard hfresh', WaveScheduler.verdict, if_pos hpause]

/-- A wave grants nothing past a gate that is not open. -/
theorem gate_of_grant {c c' : Coordinator} {m : Move} {plan : WavePlan} {grant : DispatchGrant}
    (h : GateStep c m (.ok (.wave plan)) c') (hc : c.Guided) (hgrant : grant ∈ plan.grants)
    (kind : ParticipantKind) : c.gate kind (grant.participant kind) = .allow := by
  cases h with
  | kept _ _ _ _ _ hidle =>
      rw [hidle plan rfl] at hgrant
      cases hgrant
  | waved t scheduler _ _ hopen hconfigured _ _ _ hwave =>
      obtain ⟨⟨e, he⟩, -⟩ | ⟨plan', hplan, hwave⟩ := hwave
      · cases he
      · cases hplan
        obtain ⟨-, hpolicy, -, -, -, -, -, hproducers, hconsumers⟩ :=
          ensureScheduler_ok hc.policy hconfigured
        have hcleared := (WaveScheduler.nextWave_cleared hwave).1 grant hgrant
        have hsource := hcleared.sourceFree
        have hdestination := hcleared.destinationFree
        rw [hpolicy, hproducers] at hsource
        rw [hpolicy, hconsumers] at hdestination
        cases kind
        · exact (WaveScheduler.decide_allow_iff _ _ _ _).mpr hsource
        · exact (WaveScheduler.decide_allow_iff _ _ _ _).mpr hdestination

/-- How old a reading may be does not depend on the readings. -/
theorem freshen_recordPressure (c : Coordinator) (intent : CongestionIntent) :
    (c.recordPressure intent).freshen = c.freshen := by
  funext reading
  unfold recordPressure
  simp only
  split <;> rfl

/-- Evidence between the thresholds moves the gate unless the flag has caught up with the
evidence it replaces. -/
theorem gate_eq_iff_seen {c c' : Coordinator} {m : Move} {answer : Result Reply}
    (h : GateStep c m answer c') {kind : ParticipantKind} {id : UInt64} {level : UInt32}
    (hheard : c.acceptedLevel m kind id = some level) (hbetween : c.Between level)
    (hfresh : c.FreshFor kind id) (hfresh' : c'.FreshFor kind id) :
    c'.gate kind id = c.gate kind id ↔ c.Seen kind id := by
  rw [gate_of_heard h hheard hfresh']
  obtain ⟨reading, hreading, hfresh⟩ := hfresh
  rw [Option.mem_def] at hreading
  rw [gate_of_fresh hreading hfresh]
  simp only [Seen, hreading, Option.mem_def, Option.some.injEq, forall_eq']
  unfold WaveScheduler.verdict Between at *
  cases (c.paused kind).getD id false <;> grind

/-- A level between the thresholds leaves the gate as it was. -/
theorem gate_of_between {c c' : Coordinator} {m : Move} {answer : Result Reply}
    (h : GateStep c m answer c') (hc : c.Guided) {kind : ParticipantKind} {id : UInt64}
    (hbetween : ∀ level ∈ c.acceptedLevel m kind id, c.Between level)
    (hsettled : c.Settled kind id m) (hfresh : c.FreshFor kind id)
    (hfresh' : c'.FreshFor kind id) : c'.gate kind id = c.gate kind id := by
  cases hlevel : c.acceptedLevel m kind id with
  | none => exact gate_of_unheard h hc hlevel hfresh hfresh'
  | some level =>
      refine (gate_eq_iff_seen h hlevel (hbetween level hlevel) hfresh hfresh').mpr ?_
      obtain ⟨intent, haccepted, hid, htarget, rfl⟩ := acceptedLevel_eq_some.mp hlevel
      refine hsettled intent haccepted hid htarget (hbetween _ hlevel) ?_ hfresh
      obtain ⟨reading, hreading, hfresh'⟩ := hfresh'
      obtain ⟨-, rfl⟩ := h.of_accepted haccepted
      rw [getElem?_pressure_recordPressure, if_pos ⟨hid, htarget⟩] at hreading
      cases hreading
      rwa [freshen_recordPressure] at hfresh'

/-! ## Along a run -/

/-- Once evidence at or above the pause threshold was accepted for a participant, no wave
grants to it (from it, for a producer) before evidence at or below the resume threshold is
accepted for it, as long as the evidence for it stays fresh. -/
def Held (events : List (Event Coordinator Move (Result Reply))) (kind : ParticipantKind)
    (id : UInt64) : Prop :=
  ∀ earlier e later wave rest level, events = earlier ++ e :: (later ++ wave :: rest) →
    e.before.acceptedLevel e.input kind id = some level →
    e.before.request.policy.congestion.pauseThreshold ≤ level →
    (∀ e' ∈ later ++ [wave], e'.before.FreshFor kind id) →
    (∀ e' ∈ later, ∀ level' ∈ e'.before.acceptedLevel e'.input kind id,
      e'.before.request.policy.congestion.resumeThreshold < level') →
    ∀ plan, wave.output = .ok (.wave plan) → ∀ grant ∈ plan.grants, grant.participant kind ≠ id

/-- As long as the evidence for a participant stays fresh, its gate is where it was unless
evidence at or past a threshold was accepted for it. -/
def Unmoved (events : List (Event Coordinator Move (Result Reply))) (kind : ParticipantKind)
    (id : UInt64) : Prop :=
  ∀ e ∈ events, (∀ level ∈ e.before.acceptedLevel e.input kind id, e.before.Between level) →
    e.before.FreshFor kind id → e.after.FreshFor kind id →
    e.after.gate kind id = e.before.gate kind id

/-- Every event of a run is a move of a coordinator in order. -/
theorem event_of_run {limits : Limits} {sink : Option Sink}
    {events : List (Event Coordinator Move (Result Reply))} {c : Coordinator}
    (run : Run move (make limits sink) events c) {e : Event Coordinator Move (Result Reply)}
    (he : e ∈ events) : e.before.Guided ∧ GateStep e.before e.input e.output e.after := by
  obtain ⟨hstep, earlier, hearlier⟩ := run.of_mem he
  obtain ⟨hregular, hguided⟩ := guided_of_run hearlier
  have hgates := gates_of_move hregular e.input
  rw [show e.output = (e.before.move e.input).1 from congrArg Event.output hstep,
    show e.after = (e.before.move e.input).2 from congrArg Event.after hstep]
  exact ⟨hguided, hgates⟩

/-- Where the moves settle nothing, the flag does not move. -/
theorem unmoved_of_settled {limits : Limits} {sink : Option Sink}
    {events : List (Event Coordinator Move (Result Reply))} {c : Coordinator}
    (run : Run move (make limits sink) events c) {kind : ParticipantKind} {id : UInt64}
    (hsettled : ∀ e ∈ events, e.before.Settled kind id e.input) : Unmoved events kind id := by
  intro e he hbetween hfresh hfresh'
  obtain ⟨hguided, hgates⟩ := event_of_run run he
  exact gate_of_between hgates hguided hbetween (hsettled e he) hfresh hfresh'

/-- Where the flag does not move, the moves settle nothing: the other direction. -/
theorem settled_of_unmoved {limits : Limits} {sink : Option Sink}
    {events : List (Event Coordinator Move (Result Reply))} {c : Coordinator}
    (run : Run move (make limits sink) events c) {kind : ParticipantKind} {id : UInt64}
    (hunmoved : Unmoved events kind id) : ∀ e ∈ events, e.before.Settled kind id e.input := by
  intro e he intent haccepted hid htarget hbetween hfreshIntent hfresh
  obtain ⟨-, hgates⟩ := event_of_run run he
  have hlevel : e.before.acceptedLevel e.input kind id = some intent.level :=
    acceptedLevel_eq_some.mpr ⟨intent, haccepted, hid, htarget, rfl⟩
  have hfresh' : e.after.FreshFor kind id := by
    rw [(hgates.of_accepted haccepted).2]
    refine ⟨readingOf intent, ?_, by rwa [freshen_recordPressure]⟩
    rw [Option.mem_def, getElem?_pressure_recordPressure, if_pos ⟨hid, htarget⟩]
  refine (gate_eq_iff_seen hgates hlevel hbetween hfresh hfresh').mp
    (hunmoved e he ?_ hfresh hfresh')
  rw [hlevel]
  rintro _ ⟨⟩
  exact hbetween

/-- From evidence at or above the pause threshold on, the gate is not open. -/
theorem gate_of_run {limits : Limits} {sink : Option Sink}
    {events later : List (Event Coordinator Move (Result Reply))} {c d : Coordinator}
    (run : Run move (make limits sink) events c) {kind : ParticipantKind} {id : UInt64}
    (hsettled : ∀ e ∈ later, e.before.Settled kind id e.input)
    (hraised : ∀ e ∈ later, ∀ level ∈ e.before.acceptedLevel e.input kind id,
      e.before.request.policy.congestion.resumeThreshold < level)
    (run' : Run move c later d) (hfresh : ∀ e ∈ later, e.before.FreshFor kind id)
    (hfresh' : d.FreshFor kind id) (hgate : c.gate kind id ≠ .allow) :
    d.gate kind id ≠ .allow := by
  induction run' with
  | nil => exact hgate
  | @snoc later d run' m ih =>
      have hlast : happen move d m ∈ later ++ [happen move d m] :=
        List.mem_append_right _ List.mem_cons_self
      obtain ⟨hregular, hguided⟩ := guided_of_run (run.trans run')
      have hgates := gates_of_move hregular m
      have hbefore : d.FreshFor kind id := hfresh _ hlast
      have hkept := ih (fun e he => hsettled e (List.mem_append_left _ he))
        (fun e he => hraised e (List.mem_append_left _ he))
        (fun e he => hfresh e (List.mem_append_left _ he)) hbefore
      by_cases hpause : ∃ level ∈ d.acceptedLevel m kind id,
          d.request.policy.congestion.pauseThreshold ≤ level
      · obtain ⟨level, hlevel, hpause⟩ := hpause
        rw [gate_of_pausing hgates hlevel hpause hfresh']
        simp
      · have hbetween : ∀ level ∈ d.acceptedLevel m kind id, d.Between level :=
          fun level hlevel => ⟨hraised _ hlast level hlevel,
            UInt32.not_le.mp fun hpause' => hpause ⟨level, hlevel, hpause'⟩⟩
        rw [gate_of_between hgates hguided hbetween (hsettled _ hlast) hbefore hfresh']
        exact hkept

/-- The gate is held as long as the readings stay between the thresholds. -/
theorem held_of_settled {limits : Limits} {sink : Option Sink}
    {events : List (Event Coordinator Move (Result Reply))} {c : Coordinator}
    (run : Run move (make limits sink) events c) {kind : ParticipantKind} {id : UInt64}
    (hsettled : ∀ e ∈ events, e.before.Settled kind id e.input) : Held events kind id := by
  rintro earlier e later wave rest level rfl hlevel hpause hfresh hraised plan hplan grant hgrant
    rfl
  rw [List.append_cons] at run hsettled
  obtain ⟨c₁, hrun, hrest⟩ := run.split
  obtain ⟨c₂, hlater, hrest⟩ := hrest.split
  obtain ⟨hwave, -⟩ := hrest.head
  have hbefore : wave.before = c₂ := congrArg Event.before hwave
  have hfresh₁ : c₁.FreshFor kind (grant.participant kind) := by
    cases later with
    | nil =>
        obtain rfl := hlater.eq_start
        exact hbefore ▸ hfresh wave List.mem_cons_self
    | cons e' later =>
        have he' : e'.before = c₁ := congrArg Event.before hlater.head.1
        exact he' ▸ hfresh e' List.mem_cons_self
  have hfresh₂ : c₂.FreshFor kind (grant.participant kind) :=
    hbefore ▸ hfresh wave (List.mem_append_right _ List.mem_cons_self)
  have hgate₁ : c₁.gate kind (grant.participant kind) ≠ .allow := by
    obtain ⟨t, m, ht, rfl, rfl⟩ := hrun.last
    have hgates := gates_of_move (guided_of_run ht).1 m
    rw [gate_of_pausing hgates hlevel hpause hfresh₁]
    simp
  have hgate₂ := gate_of_run hrun
    (fun e' he' => hsettled e' (List.mem_append_right _ (List.mem_append_left _ he'))) hraised
    hlater (fun e' he' => hfresh e' (List.mem_append_left _ he')) hfresh₂ hgate₁
  obtain ⟨hregular, hguided⟩ := guided_of_run (hrun.trans hlater)
  have hgates := gates_of_move hregular wave.input
  have hanswer : (c₂.move wave.input).1 = .ok (.wave plan) :=
    (congrArg Event.output hwave).symm.trans hplan
  rw [hanswer] at hgates
  exact hgate₂ (gate_of_grant hgates hguided hgrant kind)

/-- For every run: evidence that pauses holds, and evidence between the thresholds changes
nothing, if and only if the scheduler had caught up whenever fresh evidence was replaced by
evidence between the thresholds. -/
theorem pressure_hysteresis {limits : Limits} {sink : Option Sink}
    {events : List (Event Coordinator Move (Result Reply))} {c : Coordinator}
    (run : Run move (make limits sink) events c) (kind : ParticipantKind) (id : UInt64) :
    (∀ e ∈ events, e.before.Settled kind id e.input) ↔
      Held events kind id ∧ Unmoved events kind id :=
  ⟨fun h => ⟨held_of_settled run h, unmoved_of_settled run h⟩,
    fun h => settled_of_unmoved run h.2⟩

/-- One edge of consumer 2, with everything in place for it. -/
def smallSetting : List Move :=
  [.call (.openShuffle (smallOpen 1)), .call (.registerProducer 1 1 []),
    .call (.registerConsumer 2 1 [] {}), .call (.publishManifest (smallManifest 0 1 0))]

/-- A participant that is paused, and stays so at a level between the thresholds. -/
theorem pressure_hysteresis_small :
    let events := record move (make {} (some acceptAll)) (smallSetting ++
      [hearsay 2 90, .call .nextWave, hearsay 2 60, .call .nextWave])
    Held events .consumer 2 ∧ Unmoved events .consumer 2 :=
  (pressure_hysteresis (Run.of_inputs move (make {} (some acceptAll)) (smallSetting ++
    [hearsay 2 90, .call .nextWave, hearsay 2 60, .call .nextWave])) .consumer 2).mp
    (by decide +kernel)

/-- Two moves and a wave, behind a list of moves. -/
theorem Held.of_record {start c d d' : Coordinator} {moves : List Move} {m m' : Move}
    {kind : ParticipantKind} {id : UInt64} {level level' : UInt32} {plan : WavePlan}
    {grant : DispatchGrant}
    (h : Held (record move start (moves ++ [m, m', .call .nextWave])) kind id)
    (hc : final move start moves = c) (hd : (c.move m).2 = d) (hd' : (d.move m').2 = d')
    (hlevel : c.acceptedLevel m kind id = some level)
    (hpause : c.request.policy.congestion.pauseThreshold ≤ level) (hfresh : d.FreshFor kind id)
    (hlevel' : d.acceptedLevel m' kind id = some level')
    (hresume : d.request.policy.congestion.resumeThreshold < level')
    (hfresh' : d'.FreshFor kind id) (hplan : (d'.move (.call .nextWave)).1 = .ok (.wave plan))
    (hgrant : grant ∈ plan.grants) : grant.participant kind ≠ id := by
  subst hc hd hd'
  refine h (record move start moves) (happen move _ m) [happen move _ m']
    (happen move _ (.call .nextWave)) [] level (record_append move start moves _) hlevel hpause
    ?_ ?_ plan hplan grant hgrant
  · simp only [List.singleton_append, List.forall_mem_cons, List.not_mem_nil, false_imp_iff,
      implies_true, and_true]
    exact ⟨hfresh, hfresh'⟩
  · simp only [List.forall_mem_singleton, Option.mem_def]
    rintro _ hlevel''
    obtain rfl := Option.some.inj (hlevel'.symm.trans hlevel'')
    exact hresume

/-- The consumer says 90 and then 60 before a wave asks, and is granted its edge. -/
theorem pause_overwritten :
    ¬Held (record move (make {} (some acceptAll)) (smallSetting ++
      [hearsay 2 90, hearsay 2 60, .call .nextWave])) .consumer 2 := by
  intro hheld
  have hfacts : ∃ c d d',
      final move (make {} (some acceptAll)) smallSetting = c ∧
      (c.move (hearsay 2 90)).2 = d ∧ (d.move (hearsay 2 60)).2 = d' ∧
      c.acceptedLevel (hearsay 2 90) .consumer 2 = some 90 ∧
      c.request.policy.congestion.pauseThreshold ≤ 90 ∧ d.FreshFor .consumer 2 ∧
      d.acceptedLevel (hearsay 2 60) .consumer 2 = some 60 ∧
      d.request.policy.congestion.resumeThreshold < 60 ∧ d'.FreshFor .consumer 2 ∧
      Reply.grants (·.consumer == 2) (d'.move (.call .nextWave)).1 = true := by
    refine ⟨_, _, _, rfl, rfl, rfl, ?_⟩
    decide +kernel
  obtain ⟨c, d, d', hc, hd, hd', hlevel, hpause, hfresh, hlevel', hresume, hfresh', hwave⟩ :=
    hfacts
  obtain ⟨plan, hplan, grant, hgrant, hconsumer⟩ := Reply.grants_iff.mp hwave
  exact hheld.of_record hc hd hd' hlevel hpause hfresh hlevel' hresume hfresh' hplan hgrant
    (beq_iff_eq.mp hconsumer)

end Coordinator

end ShuffleFabric
