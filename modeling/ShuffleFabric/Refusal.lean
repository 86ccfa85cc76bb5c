import ShuffleFabric.Granted
import ShuffleFabric.Inspection
import ShuffleFabric.Twin

/-!
# ShuffleFabric.Refusal

What an operation that was refused leaves behind.

Every operation validates, persists and applies in that order, so a refusal comes before
the first change; what the sink has seen and how many records it accepted is all that may
differ.  No operation looks at that count (`twin_move`), so nothing that follows differs
either.
-/

namespace ShuffleFabric

open Lib Action

namespace Coordinator

/-! ## Waves are never refused after their checks -/

/-- The scheduler works for the shuffle the topology belongs to; before there is one it is
not configured. -/
structure Steered (c : Coordinator) : Prop where
  closed : c.state = .closed → c.scheduler.configured = false
  shuffle : c.scheduler.configured = true → ∀ t, c.topology = some t →
    c.scheduler.shuffle = t.shuffle ∧ c.scheduler.shuffleGeneration = t.shuffleGeneration

theorem Steered.congr {c c' : Coordinator} (h : c.Steered) (hstate : c'.state = c.state)
    (hscheduler : c'.scheduler = c.scheduler) (htopology : c'.topology = c.topology) : c'.Steered :=
  ⟨by rw [hstate, hscheduler]; exact h.closed,
    by rw [hscheduler, htopology]; exact h.shuffle⟩

/-- A scheduler that waves can use is the one of the shuffle. -/
theorem ensureScheduler_steered {c : Coordinator} (h : c.Steered) {t : Topology}
    {scheduler : WaveScheduler} (ht : c.topology = some t)
    (hconfigured : c.ensureScheduler t = .ok scheduler) :
    scheduler.configured = true ∧ scheduler.shuffle = t.shuffle ∧
      scheduler.shuffleGeneration = t.shuffleGeneration ∧
      scheduler.topologyGeneration = t.generation := by
  unfold ensureScheduler at hconfigured
  split at hconfigured
  · simp only [WaveScheduler.configure, bind_eq_ok, refuseIf_eq_ok, exists_const,
      pure_eq_ok] at hconfigured
    obtain ⟨u, -, -, rfl⟩ := hconfigured
    exact ⟨rfl, rfl, rfl, rfl⟩
  · next hsetup =>
      obtain rfl := Except.ok.inj hconfigured
      simp only [not_or, not_not] at hsetup
      obtain ⟨hset, hgeneration, -⟩ := hsetup
      obtain ⟨hshuffle, hshuffleGeneration⟩ := h.shuffle hset t ht
      exact ⟨hset, hshuffle, hshuffleGeneration, hgeneration⟩

/-- A scheduler that was just brought in step with the topology plans a wave. -/
theorem nextWave_of_steered {c : Coordinator} (h : c.Steered) {t : Topology}
    {scheduler : WaveScheduler} (ht : c.topology = some t)
    (hconfigured : c.ensureScheduler t = .ok scheduler) (e : Error) :
    scheduler.nextWave (c.environment t) ≠ .error e := by
  obtain ⟨hset, hshuffle, hshuffleGeneration, hgeneration⟩ :=
    ensureScheduler_steered h ht hconfigured
  have hshuffle' : (c.environment t).topology.shuffle = scheduler.shuffle := hshuffle.symm
  have hshuffleGeneration' : (c.environment t).topology.shuffleGeneration =
    scheduler.shuffleGeneration := hshuffleGeneration.symm
  have hgeneration' : (c.environment t).topology.generation = scheduler.topologyGeneration :=
    hgeneration.symm
  unfold WaveScheduler.nextWave
  simp only [hset, hshuffle', hshuffleGeneration', hgeneration', not_true_eq_false, ne_eq, or_self]
  intro h
  split at h <;> cases h

/-- The look at the end of the shuffle stops the scheduler, or leaves it. -/
theorem Noted.steered {c c' : Coordinator} (h : Noted c c') (hc : c.Steered) : c'.Steered := by
  cases h with
  | incomplete => exact hc
  | unstored => exact hc.congr rfl rfl rfl
  | completed =>
      rw [entered_eq]
      simp only [completion, stateRecord, reduceCtorEq, or_self, if_false]
      exact ⟨fun hstate => (by cases hstate), hc.shuffle⟩

/-- The end of an attempt does not configure the scheduler anew. -/
theorem steered_resolveAttempt {c : Coordinator} (h : c.Steered) (attempt : TransferAttemptId) :
    (c.resolveAttempt attempt).Steered := by
  have hframe : ((c.scheduler.resolve attempt).toOption.getD c.scheduler).configured =
        c.scheduler.configured ∧
      ((c.scheduler.resolve attempt).toOption.getD c.scheduler).shuffle = c.scheduler.shuffle ∧
      ((c.scheduler.resolve attempt).toOption.getD c.scheduler).shuffleGeneration =
        c.scheduler.shuffleGeneration := by
    cases hget : c.scheduler.attempts[attempt]? with
    | none => simp [WaveScheduler.resolve, hget, makeFailure, Except.toOption]
    | some record =>
        rw [WaveScheduler.resolve_of_some hget]
        exact ⟨rfl, rfl, rfl⟩
  obtain ⟨hconfigured, hshuffle, hgeneration⟩ := hframe
  refine ⟨fun hstate => hconfigured.trans (h.closed hstate), fun hset t ht => ?_⟩
  obtain ⟨hs, hg⟩ := h.shuffle (hconfigured.symm.trans hset) t ht
  exact ⟨hshuffle.trans hs, hgeneration.trans hg⟩

/-- A registration continues the topology the scheduler was made for. -/
theorem Steered.joinedBy {c : Coordinator} (h : c.Steered) {t t' : Topology}
    {record : ParticipantRecord} (ht : c.topology = some t) (hcontinues : t.Continues t') :
    (c.joinedBy t t' record).Steered := by
  obtain ⟨producers, consumers, pending, heq⟩ := c.joinedBy_eq t t' record
  rw [heq]
  refine ⟨h.closed, ?_⟩
  rintro hset _ ⟨⟩
  obtain ⟨hshuffle, hgeneration⟩ := h.shuffle hset t ht
  exact ⟨hshuffle.trans hcontinues.shuffle.symm,
    hgeneration.trans hcontinues.shuffleGeneration.symm⟩

/-- No call leaves the scheduler with another shuffle than the coordinator. -/
theorem Transition.steered {c c' : Coordinator} {call : Call} {answer : Result Reply}
    (h : Transition c call answer c') (hregular : c.Regular) (hc : c.Steered) : c'.Steered := by
  cases h with
  | refused => exact hc
  | unstored => exact hc.congr rfl rfl rfl
  | halfOpened request =>
      rw [opening, epochAdvanced_eq]
      exact hc.congr rfl rfl rfl
  | opened request hcheck =>
      have hclosed : c.state = .closed := by
        simp only [checkOpen, bind_eq_ok, refuseIf_eq_ok, not_not, exists_const] at hcheck
        exact hcheck.1
      rw [entered_eq, opening, epochAdvanced_eq]
      simp only [stateRecord, reduceCtorEq, or_self, if_false]
      refine ⟨fun hstate => (by cases hstate), fun hset => ?_⟩
      have hset : c.scheduler.configured = true := hset
      rw [hc.closed hclosed] at hset
      cases hset
  | cancelledBefore => exact hc
  | cancelled reason =>
      rw [entered_eq]
      simp only [stateRecord, reduceCtorEq, true_or, if_true, if_false]
      exact ⟨fun hstate => (by cases hstate), hc.shuffle⟩
  | ticked => exact hc.congr rfl rfl rfl
  | registered _ record t t' _ hopen _ hregister =>
      have hpersisted : (c.persisted (DurableRecord.participant record).encode).Steered :=
        hc.congr rfl rfl rfl
      exact hpersisted.joinedBy (ensureOpen_ok hopen).2 (continues_registerFrom hregister)
  | stateSet kind id incarnation state t t' hopen _ _ hplace =>
      have hpersisted : (c.persisted (DurableRecord.participant
          (c.stateChange t kind id incarnation state)).encode).Steered := hc.congr rfl rfl rfl
      obtain ⟨-, ht⟩ := ensureOpen_ok hopen
      exact hpersisted.joinedBy ht (place_spec (hregular.consistent t ht) hplace).2.1
  | published => exact hc.congr rfl rfl rfl
  | unretired => exact hc.congr rfl rfl rfl
  | nothingLeft => exact hc
  | unplanned t scheduler e hopen hconfigured hwave =>
      exact absurd hwave (nextWave_of_steered hc (ensureOpen_ok hopen).2 hconfigured e)
  | planned t scheduler scheduler' plan hopen hconfigured hwave =>
      obtain ⟨hstate, ht⟩ := ensureOpen_ok hopen
      obtain ⟨-, hshuffle, hgeneration, -⟩ := ensureScheduler_steered hc ht hconfigured
      obtain ⟨-, -, -, -, -, hshuffle', hgeneration'⟩ := WaveScheduler.nextWave_setup hwave
      obtain ⟨grants, bytes, heq, -⟩ :=
        exists_foldl_admitGrant plan.grants { c with scheduler := scheduler' }
      rw [heq]
      refine ⟨fun hclosed => ?_, fun _ t' ht' => ?_⟩
      · have hclosed : c.state = .closed := hclosed
        rw [hstate] at hclosed
        cases hclosed
      · obtain rfl : t = t' := Option.some.inj (ht.symm.trans ht')
        exact ⟨hshuffle'.trans hshuffle, hgeneration'.trans hgeneration⟩
  | committed request receipt ledger _ _ _ _ hnoted =>
      have hcredited : ((c.persisted (DurableRecord.commit ⟨request, c.clock⟩).encode).credited
          ledger).Steered := hc.congr rfl rfl rfl
      exact hnoted.steered (steered_resolveAttempt hcredited _)
  | failed attempt code record ledger _ _ _ _ hnoted =>
      have hcharged : ((c.persisted (DurableRecord.failure record).encode).charged ledger
          record.readyAt).Steered := by
        rw [charged, advanceClock_eq]
        exact hc.congr rfl rfl rfl
      exact hnoted.steered (steered_resolveAttempt hcharged _)
  | pressured intent =>
      unfold recordPressure
      simp only
      split <;> exact hc.congr rfl rfl rfl

/-- In every state the scheduler belongs to the shuffle. -/
theorem steered_of_run {limits : Limits} {sink : Option Sink}
    {events : List (Event Coordinator Move (Result Reply))} {c : Coordinator}
    (run : Run move (make limits sink) events c) : c.Steered := by
  induction run with
  | nil => exact ⟨fun _ => rfl, fun hset => (by cases hset)⟩
  | @snoc events c run m ih =>
      have hregular := regular_of_run run
      have hstep := move_step hregular m
      generalize (c.move m).1 = answer at hstep
      generalize (c.move m).2 = c' at hstep
      cases hstep with
      | called call _ _ htransition => exact htransition.steered hregular ih
      | unrecovered => exact ih.congr rfl rfl rfl
      | recovered snapshot journal historyIncomplete _ hrun =>
          obtain ⟨-, hconfigured, -⟩ := recover_scheduler hregular hrun
          refine ⟨fun _ => hconfigured, fun hset => ?_⟩
          rw [hconfigured] at hset
          cases hset

/-! ## Refusals -/

/-- The operation is not one that can fail half way: where its checks pass, a sink that takes
the epoch record of an opening also takes its lifecycle record, and a ledger covers the
partition of a manifest the sink takes. -/
def Whole (c : Coordinator) : Move → Prop
  | .call (.openShuffle request) =>
    c.checkOpen request = .ok () → c.storeAnswer (.epochAdvanced c.nextEpoch) = .ok () →
      c.opening.storeAnswer
        (.shuffleState (stateRecord request .open .ok c.opening.clock)) = .ok ()
  | .call (.publishManifest manifest) =>
    ∀ accepted, c.checkPublish manifest = .ok accepted →
      c.storeAnswer (.manifest ⟨accepted⟩) = .ok () →
        accepted.partition < c.ledger.partitionCount.toUInt64
  | _ => True

/-- A refused move reaches the sink and the count of its records, if anything. -/
theorem refused_frame {c c' : Coordinator} {m : Move} {e : Error} (h : MoveStep c m (.error e) c')
    (hc : c.Steered) (hwhole : c.Whole m) :
    ∃ sink n, c' = { c with sink, persistedRecords := n } := by
  cases h with
  | unrecovered => exact ⟨_, _, rfl⟩
  | called call _ _ htransition =>
      cases htransition with
      | refused => exact ⟨_, _, rfl⟩
      | unstored => exact ⟨_, _, rfl⟩
      | halfOpened request _ hcheck hepoch hanswer =>
          rw [hwhole hcheck hepoch] at hanswer
          cases hanswer
      | unretired manifest accepted _ hcheck hanswer hretired =>
          exfalso
          have hcovered : ¬accepted.partition ≥ c.ledger.partitionCount.toUInt64 :=
            UInt64.not_le.mpr (hwhole accepted hcheck hanswer)
          unfold CompletionLedger.retireGeneration at hretired
          rw [refuseIf, if_neg hcovered] at hretired
          simp only [bind, Except.bind, pure, Except.pure] at hretired
          split at hretired
          · split at hretired <;> cases hretired
          · cases hretired
      | unplanned t scheduler _ hopen hconfigured hwave =>
          exact absurd hwave (nextWave_of_steered hc (ensureOpen_ok hopen).2 hconfigured e)

/-- What a coordinator shows, apart from the count of persisted records. -/
structure SameView (c c' : Coordinator) : Prop where
  state : c'.state = c.state
  epoch : c'.epoch = c.epoch
  status : c'.status.map (fun s => { s with persistedRecords := 0 }) =
    c.status.map (fun s => { s with persistedRecords := 0 })
  progress : c'.progress = c.progress
  explain : ∀ walk, c'.explain walk = c.explain walk
  manifestOf : ∀ partition, c'.manifestOf partition = c.manifestOf partition
  snapshotPayload : c'.snapshotPayload = c.snapshotPayload

/-- A move that is refused, and could not fail half way, shows nothing and changes nothing
that follows: the coordinator answers every later move as it would have without it. -/
theorem refusal_changes_nothing {limits : Limits} {sink : Option Sink}
    {events : List (Event Coordinator Move (Result Reply))} {c : Coordinator}
    (run : Run move (make limits sink) events c) (m : Move) (hwhole : c.Whole m) {e : Error}
    (herror : (c.move m).1 = .error e) :
    SameView c (c.move m).2 ∧ ∀ later, (record move (c.move m).2 later).map (·.output) =
      (record move { c with sink := (c.move m).2.sink } later).map (·.output) := by
  have hstep := move_step (regular_of_run run) m
  rw [herror] at hstep
  obtain ⟨sink', n, hframe⟩ := refused_frame hstep (steered_of_run run) hwhole
  rw [hframe]
  refine ⟨⟨rfl, rfl, ?_, rfl, fun _ => rfl, fun _ => rfl, rfl⟩, fun later => ?_⟩
  · have hin : c.inside = false := (regular_of_run run).inside
    simp only [status, refuseIf, hin, Bool.false_eq_true, if_false]
    rfl
  · have htwin : Twin { c with sink := sink' } { c with sink := sink', persistedRecords := n } :=
      ⟨n, c.historyIncomplete, rfl⟩
    exact (twin_outputs htwin later).symm

/-- A sink that takes a number of records and then none. -/
def takes (records : Nat) : Sink := {
  answer := fun calls _ =>
    if calls < records then .ok () else .error ⟨.persistenceFailure, "sink is full"⟩ }

/-- A sink that takes the five records up to the first grant: the commit of that grant is
refused and leaves no trace. -/
theorem refusal_changes_nothing_small :
    ((final move (make {} (some (takes 5))) (smallCalls.map .call)).move
        (.call (.commitTransfer (smallCommit (smallManifest 0 1 2) 1 2)))).1 =
        .error ⟨.persistenceFailure, "sink is full"⟩ ∧
      SameView (final move (make {} (some (takes 5))) (smallCalls.map .call))
        ((final move (make {} (some (takes 5))) (smallCalls.map .call)).move
          (.call (.commitTransfer (smallCommit (smallManifest 0 1 2) 1 2)))).2 := by
  have herror : ((final move (make {} (some (takes 5))) (smallCalls.map .call)).move
      (.call (.commitTransfer (smallCommit (smallManifest 0 1 2) 1 2)))).1 =
        .error ⟨.persistenceFailure, "sink is full"⟩ := by
    decide +kernel
  have hwhole : (final move (make {} (some (takes 5))) (smallCalls.map .call)).Whole
      (.call (.commitTransfer (smallCommit (smallManifest 0 1 2) 1 2))) :=
    True.intro
  exact ⟨herror, (refusal_changes_nothing
    (Run.of_inputs move (make {} (some (takes 5))) (smallCalls.map .call)) _ hwhole herror).1⟩

/-- A sink that takes one record: the opening is refused, but its epoch has begun. -/
theorem refusal_keeps_epoch :
    ¬∀ (limits : Limits) (sink : Option Sink)
      (events : List (Event Coordinator Move (Result Reply))) (c : Coordinator),
      Run move (make limits sink) events c → ∀ (m : Move) (e : Error),
      (c.move m).1 = .error e → SameView c (c.move m).2 := by
  intro h
  have hview := h {} (some (takes 1)) [] _ .nil (.call (.openShuffle (smallOpen 1)))
    ⟨.persistenceFailure, "sink is full"⟩ (by decide +kernel)
  have hepoch : ((make {} (some (takes 1))).move (.call (.openShuffle (smallOpen 1)))).2.epoch ≠
      (make {} (some (takes 1))).epoch := by
    decide +kernel
  exact hepoch hview.epoch

end Coordinator

end ShuffleFabric
