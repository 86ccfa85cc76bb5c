import ShuffleFabric.Enrolment
import ShuffleFabric.Onward
import ShuffleFabric.InFlight

/-!
# ShuffleFabric.Pressure

The readings a coordinator keeps, and what happens to them.

Readings are kept by one call alone, and nothing but a restart drops them.  That call looks
up who reports; whom the reading is about it takes as it comes.
-/

namespace ShuffleFabric

open Lib Action

/-- The participant of a kind an intent is about; zero is none. -/
def CongestionIntent.target (intent : CongestionIntent) : ParticipantKind → UInt64
  | .producer => intent.producer
  | .consumer => intent.consumer

namespace Coordinator

/-- The readings kept for the participants of a kind. -/
def pressure (c : Coordinator) : ParticipantKind → Std.ExtTreeMap UInt64 PressureReading
  | .producer => c.producerPressure
  | .consumer => c.consumerPressure

/-- The pause flags of the participants of a kind. -/
def paused (c : Coordinator) : ParticipantKind → Std.ExtTreeMap UInt64 Bool
  | .producer => c.scheduler.producerPaused
  | .consumer => c.scheduler.consumerPaused

/-- The reading an accepted intent leaves behind. -/
def readingOf (intent : CongestionIntent) : PressureReading where
  level := intent.level
  observed := true
  fresh := true
  observedAt := intent.observedAt
  reporter := intent.reporterIncarnation
  policyGeneration := intent.policyGeneration

/-- The intent a move has accepted. -/
def accepted (c : Coordinator) : Move → Option CongestionIntent
  | .call (.updateCongestion intent) =>
    match c.checkCongestion intent with
    | .ok _ => some intent
    | .error _ => none
  | _ => none

/-- An intent is accepted by its own call, if it passes the check. -/
theorem accepted_eq_some {c : Coordinator} {m : Move} {intent : CongestionIntent}
    (h : c.accepted m = some intent) :
    m = .call (.updateCongestion intent) ∧ c.checkCongestion intent = .ok () := by
  unfold accepted at h
  split at h
  · split at h
    · next hcheck =>
        cases h
        exact ⟨rfl, hcheck⟩
    · cases h
  · cases h

/-- Evidence is only taken while the shuffle is open. -/
theorem open_of_accepted {c : Coordinator} {m : Move} {intent : CongestionIntent}
    (h : c.accepted m = some intent) : c.state = .open := by
  obtain ⟨-, hcheck⟩ := accepted_eq_some h
  simp only [checkCongestion, bind_eq_ok] at hcheck
  obtain ⟨t, hopen, -⟩ := hcheck
  exact (ensureOpen_ok hopen).1

/-! ## Keeping a reading -/

/-- A reading is stored for the targets of the intent that are named. -/
theorem getElem?_pressure_recordPressure (c : Coordinator) (intent : CongestionIntent)
    (kind : ParticipantKind) (id : UInt64) :
    ((c.recordPressure intent).pressure kind)[id]? =
      if id ≠ 0 ∧ intent.target kind = id then some (readingOf intent)
      else (c.pressure kind)[id]? := by
  unfold recordPressure CongestionIntent.target pressure readingOf
  by_cases hglobal : intent.producer = 0 ∧ intent.consumer = 0
  · simp only [hglobal, and_self, if_true]
    cases kind <;> grind
  · simp only [hglobal, if_false]
    cases kind
    · by_cases hproducer : intent.producer = 0
      · grind
      · simp only [ne_eq, hproducer, not_false_eq_true, if_true, Std.ExtTreeMap.getElem?_insert,
          Std.compare_eq_iff_eq]
        grind
    · by_cases hconsumer : intent.consumer = 0
      · grind
      · simp only [ne_eq, hconsumer, not_false_eq_true, if_true, Std.ExtTreeMap.getElem?_insert,
          Std.compare_eq_iff_eq]
        grind

/-- Storing a reading leaves the rest of what the gates depend on. -/
theorem recordPressure_gates (c : Coordinator) (intent : CongestionIntent) :
    (c.recordPressure intent).scheduler = c.scheduler ∧
      (c.recordPressure intent).request = c.request ∧
      (c.recordPressure intent).state = c.state ∧
      (c.recordPressure intent).topology = c.topology := by
  unfold recordPressure
  simp only
  split <;> exact ⟨rfl, rfl, rfl, rfl⟩

/-! ## What a move does to readings and flags -/

/-- The readings, the flags and the policy they are read under are as they were. -/
structure SameGates (c c' : Coordinator) : Prop where
  pressure : c'.pressure = c.pressure
  paused : c'.paused = c.paused
  configured : c'.scheduler.configured = c.scheduler.configured
  policy : c'.scheduler.policy = c.scheduler.policy
  request : c'.request = c.request
  state : c'.state = .closed → c.state = .closed

/-- Nothing has changed that the gates depend on. -/
theorem SameGates.refl (c : Coordinator) : SameGates c c := ⟨rfl, rfl, rfl, rfl, rfl, id⟩

/-- What the gates depend on, field by field. -/
theorem SameGates.of_eq {c c' : Coordinator} (hproducers : c'.producerPressure = c.producerPressure)
    (hconsumers : c'.consumerPressure = c.consumerPressure) (hscheduler : c'.scheduler = c.scheduler)
    (hrequest : c'.request = c.request) (hstate : c'.state = c.state) : SameGates c c' where
  pressure := by
    funext kind
    cases kind
    · exact hproducers
    · exact hconsumers
  paused := by
    funext kind
    cases kind <;> simp only [Coordinator.paused, hscheduler]
  configured := by rw [hscheduler]
  policy := by rw [hscheduler]
  request := hrequest
  state := fun h => hstate ▸ h

/-- Nothing has changed in two steps. -/
theorem SameGates.trans {c d c' : Coordinator} (h' : SameGates d c') (h : SameGates c d) :
    SameGates c c' :=
  ⟨h'.pressure.trans h.pressure, h'.paused.trans h.paused, h'.configured.trans h.configured,
    h'.policy.trans h.policy, h'.request.trans h.request, fun hclosed => h.state (h'.state hclosed)⟩

/-- What a move does to the gates: nothing, a reading more, a wave, or the end of them all. -/
inductive GateStep (c : Coordinator) : Move → Result Reply → Coordinator → Prop
  | kept (m : Move) (answer : Result Reply) (c' : Coordinator) (gates : SameGates c c')
      (unheard : c.accepted m = none)
      (idle : ∀ plan, answer = .ok (.wave plan) → plan.grants = []) : GateStep c m answer c'
  | opened (m : Move) (c' : Coordinator) (closed : c.state = .closed)
      (pressure : c'.pressure = c.pressure) (scheduler : c'.scheduler = c.scheduler)
      (opened : c'.state = .open) : GateStep c m (.ok .done) c'
  | waved (t : Topology) (scheduler : WaveScheduler) (answer : Result Reply) (c' : Coordinator)
      (open_ : c.ensureOpen = .ok t) (configured : c.ensureScheduler t = .ok scheduler)
      (pressure : c'.pressure = c.pressure) (request : c'.request = c.request)
      (state : c'.state = c.state)
      (wave : ((∃ e, answer = .error e) ∧ c'.scheduler = scheduler) ∨
        ∃ plan, answer = .ok (.wave plan) ∧
          scheduler.nextWave (c.environment t) = .ok (plan, c'.scheduler)) :
      GateStep c (.call .nextWave) answer c'
  | pressured (m : Move) (intent : CongestionIntent) (heard : c.accepted m = some intent) :
      GateStep c m (.ok .done) (c.recordPressure intent)
  | recovered (m : Move) (c' : Coordinator) (closed : c.state = .closed)
      (unheard : c.accepted m = none) (pressure : ∀ kind, c'.pressure kind = ∅)
      (configured : c'.scheduler.configured = false) : GateStep c m (.ok .done) c'

/-- A lifecycle record that does not open the shuffle leaves the gates. -/
theorem sameGates_entered {c : Coordinator} {record : ShuffleStateRecord}
    (hidle : record.state ≠ .open) (hclosed : record.state ≠ .closed) :
    SameGates c (c.entered record) := by
  rw [entered_eq]
  simp only [hidle, if_false]
  have hstays : (c.entered record).state = record.state := by rw [entered_eq]
  by_cases hcancelled : record.state = .cancelled ∨ record.state = .cancelling
  · simp only [hcancelled, if_true]
    refine ⟨?_, ?_, rfl, rfl, rfl, fun h => absurd h hclosed⟩ <;>
    · funext kind
      cases kind <;> rfl
  · simp only [hcancelled, if_false]
    refine ⟨?_, ?_, rfl, rfl, rfl, fun h => absurd h hclosed⟩ <;>
    · funext kind
      cases kind <;> rfl

/-- So does the end of an attempt. -/
theorem sameGates_resolveAttempt (c : Coordinator) (attempt : TransferAttemptId) :
    SameGates c (c.resolveAttempt attempt) := by
  have hresolve : ∀ s, c.scheduler.resolve attempt = .ok s →
      s.producerPaused = c.scheduler.producerPaused ∧
      s.consumerPaused = c.scheduler.consumerPaused ∧
      s.configured = c.scheduler.configured ∧ s.policy = c.scheduler.policy := by
    intro s hs
    unfold WaveScheduler.resolve at hs
    split at hs
    · cases hs
    · cases hs
      exact ⟨rfl, rfl, rfl, rfl⟩
  unfold Coordinator.resolveAttempt
  cases hs : c.scheduler.resolve attempt with
  | error e => exact .of_eq rfl rfl rfl rfl rfl
  | ok s =>
      obtain ⟨hproducers, hconsumers, hconfigured, hpolicy⟩ := hresolve s hs
      refine ⟨?_, ?_, hconfigured, hpolicy, rfl, id⟩
      · funext kind
        cases kind <;> rfl
      · funext kind
        cases kind
        · exact hproducers
        · exact hconsumers

/-- So does the end of a shuffle. -/
theorem Noted.gates {c c' : Coordinator} (h : Noted c c') : SameGates c c' := by
  cases h with
  | incomplete => exact .refl c
  | unstored => exact .of_eq rfl rfl rfl rfl rfl
  | completed =>
      have hpersisted :
          SameGates c (c.persisted (DurableRecord.shuffleState c.completion).encode) :=
        .of_eq rfl rfl rfl rfl rfl
      exact (sameGates_entered (by simp [completion, stateRecord])
        (by simp [completion, stateRecord])).trans hpersisted

/-- So does a participant that joins. -/
theorem sameGates_joinedBy (c : Coordinator) (bytes : Bytes) (t t' : Topology)
    (record : ParticipantRecord) : SameGates c ((c.persisted bytes).joinedBy t t' record) := by
  obtain ⟨producers, consumers, pending, heq⟩ := (c.persisted bytes).joinedBy_eq t t' record
  rw [heq]
  exact .of_eq rfl rfl rfl rfl rfl

/-- A call that reports no pressure. -/
theorem Transition.gates {c c' : Coordinator} {call : Call} {answer : Result Reply}
    (h : Transition c call answer c') (hcall : ∀ intent, call ≠ .updateCongestion intent) :
    GateStep c (.call call) answer c' := by
  have hunheard : c.accepted (.call call) = none := by
    unfold accepted
    split
    · next heq => exact absurd (Move.call.inj heq) (hcall _)
    · rfl
  cases h with
  | refused _ e => exact .kept _ _ _ (.refl c) hunheard (by simp)
  | unstored _ r e => exact .kept _ _ _ (.of_eq rfl rfl rfl rfl rfl) hunheard (by simp)
  | halfOpened request e =>
      rw [opening, epochAdvanced_eq]
      exact .kept _ _ _ (.of_eq rfl rfl rfl rfl rfl) hunheard (by simp)
  | opened request hcheck =>
      have hclosed : c.state = .closed := by
        simp only [checkOpen, bind_eq_ok, refuseIf_eq_ok, not_not, exists_const] at hcheck
        exact hcheck.1
      rw [entered_eq, opening, epochAdvanced_eq]
      refine .opened _ _ hclosed ?_ ?_ rfl
      · funext kind
        cases kind <;> rfl
      · simp [stateRecord]
        rfl
  | cancelledBefore => exact .kept _ _ _ (.refl c) hunheard (by simp)
  | cancelled reason =>
      have hpersisted : SameGates c (c.persisted (DurableRecord.shuffleState
          (stateRecord c.request .cancelled reason c.clock)).encode) :=
        .of_eq rfl rfl rfl rfl rfl
      exact .kept _ _ _ ((sameGates_entered (by simp [stateRecord])
        (by simp [stateRecord])).trans hpersisted) hunheard (by simp)
  | ticked => exact .kept _ _ _ (.of_eq rfl rfl rfl rfl rfl) hunheard (by simp)
  | registered | stateSet =>
      exact .kept _ _ _ (sameGates_joinedBy _ _ _ _ _) hunheard (by simp)
  | published | unretired =>
      exact .kept _ _ _ (.of_eq rfl rfl rfl rfl rfl) hunheard (by simp)
  | nothingLeft =>
      refine .kept _ _ _ (.refl c) hunheard ?_
      rintro _ ⟨⟩
      rfl
  | unplanned t scheduler e hopen hconfigured =>
      refine .waved t scheduler _ _ hopen hconfigured ?_ rfl rfl (.inl ⟨⟨e, rfl⟩, rfl⟩)
      funext kind
      cases kind <;> rfl
  | planned t scheduler scheduler' plan hopen hconfigured hwave =>
      obtain ⟨grants, bytes, heq, -⟩ :=
        exists_foldl_admitGrant plan.grants { c with scheduler := scheduler' }
      rw [heq]
      refine .waved t scheduler _ _ hopen hconfigured ?_ rfl rfl (.inr ⟨plan, rfl, hwave⟩)
      funext kind
      cases kind <;> rfl
  | committed request receipt ledger _ hcheck hsink hcommit hnoted =>
      have hcredited : SameGates c ((c.persisted
          (DurableRecord.commit ⟨request, c.clock⟩).encode).credited ledger) :=
        .of_eq rfl rfl rfl rfl rfl
      exact .kept _ _ _ (hnoted.gates.trans ((sameGates_resolveAttempt _ _).trans hcredited))
        hunheard (by simp)
  | failed attempt code record ledger _ hcheck hsink hfailure hnoted =>
      have hcharged : SameGates c ((c.persisted (DurableRecord.failure record).encode).charged
          ledger record.readyAt) := by
        rw [charged, advanceClock_eq]
        exact .of_eq rfl rfl rfl rfl rfl
      exact .kept _ _ _ (hnoted.gates.trans ((sameGates_resolveAttempt _ _).trans hcharged))
        hunheard (by simp)
  | pressured intent => exact absurd rfl (hcall intent)

/-- Evidence is never made durable. -/
theorem recover_gates {snapshot : Bytes} {journal : List Bytes} {historyIncomplete : Bool}
    {c c' : Coordinator} (hc : c.Regular)
    (h : (recover snapshot journal historyIncomplete).exec c = (.ok (), c')) :
    c.state = .closed ∧ ∀ kind, c'.pressure kind = ∅ := by
  obtain ⟨replayed, scratch, hregular, hnone, hdemote, hclosed, rfl, -, -⟩ :=
    recover_rebuilt (P := fun d => ∀ kind, d.pressure kind = ∅) hc h
      (fun kind => by cases kind <;> rfl)
      (fun d d' _ record _ hd _ happlied => by
        cases happlied with
        | epoch => rw [epochAdvanced_eq]; exact hd
        | state record => rw [entered_eq]; exact hd
        | participant record t t' =>
            obtain ⟨producers, consumers, pending, heq⟩ := d.joinedBy_eq t t' record
            rw [heq]
            exact hd
        | manifest => exact hd
        | commit => rw [advanceClock_eq]; exact hd
        | failure => rw [charged, advanceClock_eq]; exact hd)
      fun d ledger hd => hd
  refine ⟨hclosed, fun kind => ?_⟩
  obtain ⟨topology, producers, consumers, pending, rfl⟩ := demote_frame hregular hdemote
  have hnone := hnone kind
  rw [opening, epochAdvanced_eq]
  cases kind <;> exact hnone

/-- Every move, by what it does to the gates. -/
theorem gates_of_move {c : Coordinator} (hc : c.Regular) (m : Move) :
    GateStep c m (c.move m).1 (c.move m).2 := by
  by_cases hreport : ∃ intent, m = .call (.updateCongestion intent)
  · obtain ⟨intent, rfl⟩ := hreport
    have hmove : c.move (.call (.updateCongestion intent)) = _ :=
      perform_updateCongestion hc.inside intent
    rw [hmove]
    cases hcheck : c.checkCongestion intent with
    | error e => exact .kept _ _ _ (.refl c) (by simp [accepted, hcheck]) nofun
    | ok u => exact .pressured _ intent (by simp [accepted, hcheck])
  · generalize hanswer : (c.move m).1 = answer
    generalize hd' : (c.move m).2 = d'
    have hstep : MoveStep c m answer d' := hanswer ▸ hd' ▸ move_step hc m
    cases hstep with
    | called call _ _ htransition =>
        exact htransition.gates fun intent heq => hreport ⟨intent, by rw [heq]⟩
    | unrecovered => exact .kept _ _ _ (.of_eq rfl rfl rfl rfl rfl) rfl nofun
    | recovered snapshot journal historyIncomplete _ hrun =>
        obtain ⟨hclosed, hnone⟩ := recover_gates hc hrun
        obtain ⟨-, hconfigured, -⟩ := recover_scheduler hc hrun
        exact .recovered _ _ hclosed rfl hnone hconfigured

/-- A move that accepted an intent kept its reading, and did nothing else. -/
theorem GateStep.of_accepted {c c' : Coordinator} {m : Move} {answer : Result Reply}
    (h : GateStep c m answer c') {intent : CongestionIntent} (haccepted : c.accepted m = some intent) :
    answer = .ok .done ∧ c' = c.recordPressure intent := by
  cases h with
  | kept _ _ _ _ hunheard | recovered _ _ _ hunheard =>
      rw [haccepted] at hunheard
      cases hunheard
  | opened _ _ hclosed =>
      rw [open_of_accepted haccepted] at hclosed
      cases hclosed
  | waved => cases haccepted
  | pressured _ intent' hheard =>
      obtain rfl := Option.some.inj (hheard.symm.trans haccepted)
      exact ⟨rfl, rfl⟩

/-! ## Evidence about members -/

/-- Is a participant in the topology? -/
def isRegistered (c : Coordinator) : ParticipantKind → UInt64 → Bool
  | .producer, id => c.topology.any fun t => (t.findProducer id).isSome
  | .consumer, id => c.topology.any fun t => (t.findConsumer id).isSome

/-- Who is registered is on the roster. -/
theorem isRegistered_eq (c : Coordinator) (kind : ParticipantKind) (id : UInt64) :
    c.isRegistered kind id = (c.roster kind id).isSome := by
  cases ht : c.topology with
  | none => cases kind <;> simp [isRegistered, roster, ht]
  | some t => cases kind <;> simp [isRegistered, roster, ht, Topology.roster]

/-- Readings are kept for registered participants only, and there is room for no more. -/
structure EvidenceBounded (c : Coordinator) : Prop where
  members : ∀ kind, ∀ id ∈ c.pressure kind, c.isRegistered kind id = true
  size : ∀ kind, (c.pressure kind).size ≤ c.limits.maxParticipants.toNat

/-- An intent that is accepted is about registered participants, or about none. -/
def Addressed (c : Coordinator) (m : Move) : Prop :=
  ∀ intent ∈ c.accepted m,
    (intent.producer ≠ 0 → c.isRegistered .producer intent.producer = true) ∧
      (intent.consumer ≠ 0 → c.isRegistered .consumer intent.consumer = true)

instance (c : Coordinator) (m : Move) : Decidable (c.Addressed m) :=
  inferInstanceAs (Decidable (∀ intent ∈ c.accepted m, _))

/-- Whose readings are stored behind an intent. -/
theorem mem_pressure_recordPressure {c : Coordinator} {intent : CongestionIntent}
    {kind : ParticipantKind} {id : UInt64} :
    id ∈ (c.recordPressure intent).pressure kind ↔
      (id ≠ 0 ∧ intent.target kind = id) ∨ id ∈ c.pressure kind := by
  rw [← Std.ExtTreeMap.isSome_getElem?_iff_mem, getElem?_pressure_recordPressure,
    ← Std.ExtTreeMap.isSome_getElem?_iff_mem]
  split
  · next htarget => simp [htarget]
  · next hother => simp [hother]

/-- The registered participants bound the readings. -/
theorem size_pressure {c : Coordinator} (hc : c.Regular) (henrolled : c.Enrolled)
    {kind : ParticipantKind} (h : ∀ id ∈ c.pressure kind, c.isRegistered kind id = true) :
    (c.pressure kind).size ≤ c.limits.maxParticipants.toNat := by
  cases ht : c.topology with
  | none =>
      have hnone : ∀ id, id ∈ c.pressure kind → id ∈ ([] : List UInt64) := by
        intro id hid
        have hregistered := h id hid
        cases kind <;> simp [isRegistered, ht] at hregistered
      exact (size_le_length hnone).trans (Nat.zero_le _)
  | some t =>
      have htallied := (henrolled t ht).sound.tallied
      rw [← hc.limits t ht]
      cases kind with
      | producer =>
          have hbound : (t.producers.map (·.id)).length ≤ t.limits.maxParticipants.toNat := by
            simpa using htallied.producers
          refine (size_le_length fun id hid => ?_).trans hbound
          have hregistered := h id hid
          simp only [isRegistered, ht, Option.any_some] at hregistered
          obtain ⟨record, hfind⟩ := Option.isSome_iff_exists.mp hregistered
          exact List.mem_map.mpr
            ⟨record, Topology.mem_of_findProducer hfind, Topology.id_of_findProducer hfind⟩
      | consumer =>
          have hbound : (t.consumers.map (·.id)).length ≤ t.limits.maxParticipants.toNat := by
            simpa using htallied.consumers
          refine (size_le_length fun id hid => ?_).trans hbound
          have hregistered := h id hid
          simp only [isRegistered, ht, Option.any_some] at hregistered
          obtain ⟨record, hfind⟩ := Option.isSome_iff_exists.mp hregistered
          exact List.mem_map.mpr
            ⟨record, Topology.mem_of_findConsumer hfind, Topology.id_of_findConsumer hfind⟩

/-- Whoever is registered stays in the topology, except that a recovery starts from another
topology and from no readings. -/
theorem isRegistered_move {c : Coordinator} (hc : c.Regular) (m : Move) :
    (∀ kind id, c.isRegistered kind id = true → (c.move m).2.isRegistered kind id = true) ∨
      ∀ kind, (c.move m).2.pressure kind = ∅ := by
  simp only [isRegistered_eq]
  generalize hanswer : (c.move m).1 = answer
  generalize hd' : (c.move m).2 = d'
  have hstep : MoveStep c m answer d' := hanswer ▸ hd' ▸ move_step hc m
  cases hstep with
  | called call _ _ htransition =>
      left
      intro kind id hid
      cases (htransition.regular hc).2 with
      | kept hroster => rwa [hroster]
      | entered record _ _ _ _ _ hroster =>
          rw [hroster, Roster.enter]
          by_cases hsame : kind = record.kind ∧ id = record.id
          · rw [hsame.1, hsame.2, Roster.put_same]
            rfl
          · rwa [Roster.put_other _ _ hsame]
  | unrecovered => exact .inl fun _ _ hid => hid
  | recovered snapshot journal historyIncomplete _ hrun =>
      exact .inr (recover_gates hc hrun).2

/-- One move, if what it accepts is about registered participants. -/
theorem members_move {c : Coordinator} (hc : c.Regular) {m : Move} (hm : c.Addressed m)
    (h : ∀ kind, ∀ id ∈ c.pressure kind, c.isRegistered kind id = true) :
    ∀ kind, ∀ id ∈ (c.move m).2.pressure kind, (c.move m).2.isRegistered kind id = true := by
  obtain hstays | hnone := isRegistered_move hc m
  · intro kind id hid
    refine hstays kind id ?_
    revert hid
    generalize (c.move m).2 = d', (c.move m).1 = answer, gates_of_move hc m = hstep
    intro hid
    cases hstep with
    | kept _ _ _ hgates => exact h kind id (hgates.pressure ▸ hid)
    | opened _ _ _ hpressure => exact h kind id (hpressure ▸ hid)
    | waved _ _ _ _ _ _ hpressure => exact h kind id (hpressure ▸ hid)
    | pressured _ intent hheard =>
        obtain ⟨hid, rfl⟩ | hold := mem_pressure_recordPressure.mp hid
        · obtain ⟨hproducer, hconsumer⟩ := hm intent hheard
          cases kind
          · exact hproducer hid
          · exact hconsumer hid
        · exact h kind id hold
    | recovered _ _ _ _ hnone => simp [hnone] at hid
  · intro kind id hid
    simp [hnone] at hid

/-- An accepted intent about a stranger leaves a reading for it. -/
theorem addressed_of_members {c : Coordinator} (hc : c.Regular) {m : Move}
    (h : ∀ kind, ∀ id ∈ (c.move m).2.pressure kind, (c.move m).2.isRegistered kind id = true) :
    c.Addressed m := by
  intro intent hheard
  obtain ⟨rfl, hcheck⟩ := accepted_eq_some hheard
  have hmove : (c.move (.call (.updateCongestion intent))).2 = c.recordPressure intent := by
    show (c.perform (.updateCongestion intent)).2 = _
    rw [perform_updateCongestion hc.inside, hcheck]
  have hroster : (c.recordPressure intent).roster = c.roster :=
    roster_congr (c.recordPressure_gates intent).2.2.2
  simp only [hmove, isRegistered_eq, hroster, mem_pressure_recordPressure] at h
  simp only [isRegistered_eq]
  exact ⟨fun hproducer => h .producer _ (.inl ⟨hproducer, rfl⟩),
    fun hconsumer => h .consumer _ (.inl ⟨hconsumer, rfl⟩)⟩

/-- The readings of a coordinator are bounded by its members, whatever happened to it, if and
only if everything it accepted was about members. -/
theorem evidence_bounded {limits : Limits} {sink : Option Sink}
    {events : List (Event Coordinator Move (Result Reply))} {c : Coordinator}
    (run : Run move (make limits sink) events c) :
    (∀ e ∈ events, e.before.Addressed e.input) ↔ ∀ e ∈ events, e.after.EvidenceBounded := by
  have hregular : ∀ e ∈ events, e.before.Regular ∧ e = happen move e.before e.input := by
    intro e he
    obtain ⟨hstep, earlier, hearlier⟩ := run.of_mem he
    exact ⟨regular_of_run hearlier, hstep⟩
  constructor
  · intro hgood
    suffices hmembers : (∀ kind, ∀ id ∈ c.pressure kind, c.isRegistered kind id = true) ∧
        ∀ e ∈ events, e.after.EvidenceBounded from hmembers.2
    induction run with
    | nil =>
        have hnone : ∀ kind, (make limits sink).pressure kind = ∅ := fun kind => by
          cases kind <;> rfl
        exact ⟨fun kind id hid => by simp [hnone] at hid, fun e he => by cases he⟩
    | @snoc events d run m ih =>
        have hnow := regular_of_run (run.snoc m)
        obtain ⟨hbefore, hevents⟩ := ih (fun e he => hregular e (List.mem_append_left _ he))
          fun e he => hgood e (List.mem_append_left _ he)
        have hlast : d.Addressed m := hgood _ (List.mem_append_right _ List.mem_cons_self)
        have hafter := members_move (regular_of_run run) hlast hbefore
        refine ⟨hafter, fun e he => ?_⟩
        rcases List.mem_append.mp he with he | he
        · exact hevents e he
        · rw [List.mem_singleton.mp he]
          exact ⟨hafter, fun kind =>
            size_pressure hnow (enrolled_of_run (run.snoc m)) (hafter kind)⟩
  · intro hbounded e he
    obtain ⟨hbefore, hstep⟩ := hregular e he
    have hafter : e.after = (e.before.move e.input).2 := congrArg Event.after hstep
    exact addressed_of_members hbefore (hafter ▸ (hbounded e he).members)

/-- What the consumer 2 says about a consumer. -/
def hearsay (consumer : ConsumerId) (level : UInt32) : Move :=
  .call (.updateCongestion {
    reporterKind := .consumer, reporterId := 2, reporterIncarnation := 1
    producer := 0, consumer, level, policyGeneration := 1, observedAt := 0 })

/-- A reading of the one consumer there is. -/
theorem evidence_bounded_small :
    (final move (make {} (some acceptAll)) [.call (.openShuffle (smallOpen 1)),
      .call (.registerConsumer 2 1 [] {}), hearsay 2 90]).EvidenceBounded := by
  have hrun := Run.of_inputs move (make {} (some acceptAll)) [.call (.openShuffle (smallOpen 1)),
      .call (.registerConsumer 2 1 [] {}), hearsay 2 90]
  refine (evidence_bounded hrun).mp (by decide +kernel) (happen move _ _) ?_
  exact List.mem_append_right [_, _] List.mem_cons_self

/-- One participant may register, and there are readings for two that did not. -/
theorem evidence_of_strangers :
    let limits : Limits := { maxParticipants := 1 }
    let c := final move (make limits (some acceptAll)) [.call (.openShuffle (smallOpen 1)),
      .call (.registerConsumer 2 1 [] {}), hearsay 77 90, hearsay 78 90]
    (77 ∈ c.pressure .consumer ∧ c.isRegistered .consumer 77 = false) ∧
      c.limits.maxParticipants.toNat < (c.pressure .consumer).size ∧ ¬c.EvidenceBounded := by
  intro limits c
  have hsize : c.limits.maxParticipants.toNat < (c.pressure .consumer).size := by
    decide +kernel
  exact ⟨by decide +kernel, hsize, fun h => (h.size .consumer).not_gt hsize⟩

end Coordinator

end ShuffleFabric
