import ShuffleFabric.Ledger.History
import ShuffleFabric.Onward
import ShuffleFabric.Replay

/-!
# ShuffleFabric.Elapsed

The wait that is over when it begins.

A failure moves the clock to its ready tick, in a live report and in a replay alike, and the
clock never falls.  So the ready tick of no failure lies ahead of the clock, and the branch
of a wave that passes over an edge until its retry is due is never taken.
-/

namespace ShuffleFabric

open Lib Action

namespace CompletionLedger

/-! ## Ready ticks -/

/-- No failure waits for a tick that lies ahead. -/
def Due (l : CompletionLedger) (clock : TickId) : Prop :=
  ∀ (key : EdgeKey) (failure : FailureRecord), l.failures[key]? = some failure →
    failure.readyAt ≤ clock

/-- What is due stays due when the clock moves on. -/
theorem Due.mono {l : CompletionLedger} {clock clock' : TickId} (h : l.Due clock)
    (hle : clock ≤ clock') : l.Due clock' := fun key failure hfailure =>
  UInt64.le_trans (h key failure hfailure) hle

/-- The clock and the failures decide it. -/
theorem Due.congr {l l' : CompletionLedger} {clock : TickId} (h : l.Due clock)
    (hfailures : l'.failures = l.failures) : l'.Due clock := by
  unfold Due
  rw [hfailures]
  exact h

/-- A completion changes no failure record. -/
theorem failures_commit {l l' : CompletionLedger} {request : CommitRequest} {now : TickId}
    {receipt : CommitReceipt} (h : l.commit request now = .ok (receipt, l')) :
    l'.failures = l.failures := by
  obtain ⟨-, -, h⟩ := bind_eq_ok.mp h
  split at h
  · have hnew : _ = l' := congrArg Prod.snd (pure_eq_ok.mp h)
    rw [commitNew_snd] at hnew
    rw [← hnew]
    exact (purgeRetained_spec _ _ _).1.failures.trans (sameTables_stepped l request.edge).failures
  · have hexisting : _ = l' := congrArg Prod.snd (pure_eq_ok.mp h)
    rw [← hexisting]
    unfold commitExisting
    simp only
    split <;> rfl

/-- Neither does a generation that is retired. -/
theorem failures_retireGeneration {l l' : CompletionLedger} {partition : PartitionId}
    {generation : PartitionGeneration} (h : l.retireGeneration partition generation = .ok l') :
    l'.failures = l.failures := by
  obtain ⟨-, -, h⟩ := bind_eq_ok.mp h
  have hadvanced := (sameTables_advanceGeneration l partition generation).failures
  split at h
  · split at h
    · rw [← pure_eq_ok.mp h]
    · rw [← pure_eq_ok.mp h, hadvanced]
  · rw [← pure_eq_ok.mp h, hadvanced]

/-- A failure takes its own place in the table, and no other. -/
theorem failures_recordFailure {l l' : CompletionLedger} {record : FailureRecord}
    (h : l.recordFailure record = .ok l') {key : EdgeKey} {failure : FailureRecord}
    (hfailure : l'.failures[key]? = some failure) :
    l.failures[key]? = some failure ∨ failure = record := by
  simp only [recordFailure, bind_eq_ok, refuseIf_eq_ok, exists_const] at h
  obtain ⟨-, -, h⟩ := h
  split at h
  · split at h
    · cases h
    · rw [← pure_eq_ok.mp h, failures_recordNewFailure, Std.ExtTreeMap.getElem?_insertIfNew]
        at hfailure
      split at hfailure
      · exact .inr (Option.some.inj hfailure).symm
      · exact .inl hfailure
  · rw [← pure_eq_ok.mp h, failures_recordNextFailure, Std.ExtTreeMap.getElem?_insert] at hfailure
    split at hfailure
    · exact .inr (Option.some.inj hfailure).symm
    · exact .inl hfailure

/-- A failure that is due by the new clock. -/
theorem Due.recordFailure {l l' : CompletionLedger} {clock clock' : TickId} (h : l.Due clock)
    {record : FailureRecord} (hle : clock ≤ clock') (hready : record.readyAt ≤ clock')
    (hfailure : l.recordFailure record = .ok l') : l'.Due clock' := by
  intro key failure hget
  rcases failures_recordFailure hfailure hget with hold | rfl
  · exact UInt64.le_trans (h key failure hold) hle
  · exact hready

/-- What an edge waits for is what its failure waits for. -/
theorem Due.edgeStatus {l : CompletionLedger} {clock : TickId} (h : l.Due clock) (key : EdgeKey) :
    (l.edgeStatus key).readyAt ≤ clock := by
  have hzero : (0 : TickId) ≤ clock := UInt64.zero_le
  have hdue := h key
  unfold CompletionLedger.edgeStatus
  cases hfailure : l.failures[key]? <;> cases l.recordOf key.partition key.partitionGeneration <;>
    grind

end CompletionLedger

namespace WaveScheduler

/-! ## A wave without a wait -/

namespace WaveLoop

variable {env : SchedulingEnvironment}

/-- The counter of edges that wait for a retry: the cursor has no part in it. -/
theorem deferredRetryWait_wrapPartition (w : WaveLoop) :
    w.wrapPartition.plan.deferredRetryWait = w.plan.deferredRetryWait := by
  unfold wrapPartition
  split <;> rfl

/-- Nor has the next partition. -/
theorem deferredRetryWait_nextPartition (w : WaveLoop) :
    w.nextPartition.plan.deferredRetryWait = w.plan.deferredRetryWait := by
  unfold nextPartition
  rw [deferredRetryWait_wrapPartition]

/-- An edge that is granted does not wait. -/
theorem deferredRetryWait_grantEdge (w : WaveLoop) (facts : PartitionFacts)
    (producerRecord : ProducerRecord) (key : EdgeKey) (status : EdgeStatus) :
    (w.grantEdge env facts producerRecord key status).plan.deferredRetryWait =
      w.plan.deferredRetryWait := by
  unfold grantEdge
  split
  · rfl
  · split <;> rfl

/-- An edge that is dispatched has passed the check of its retry time. -/
theorem deferredRetryWait_dispatchEdge (w : WaveLoop) (facts : PartitionFacts)
    (producerRecord : ProducerRecord) (key : EdgeKey) (status : EdgeStatus) :
    (w.dispatchEdge env facts producerRecord key status).plan.deferredRetryWait =
      w.plan.deferredRetryWait := by
  unfold dispatchEdge
  simp only
  split
  · rfl
  · split
    · rfl
    · rfl
    · split
      · rfl
      · rfl
      · exact deferredRetryWait_grantEdge _ facts producerRecord key status

/-- The one branch that counts a wait is not taken. -/
theorem deferredRetryWait_examineEdge (hready : ∀ key, (env.edgeStatus key).readyAt ≤ env.now)
    (w : WaveLoop) (facts : PartitionFacts) (producerRecord : ProducerRecord) (key : EdgeKey) :
    (w.examineEdge env facts producerRecord key).plan.deferredRetryWait =
      w.plan.deferredRetryWait := by
  have hdue : ¬(env.edgeStatus key).readyAt > env.now := UInt64.not_lt.mpr (hready key)
  unfold examineEdge
  simp only [hdue, if_false]
  repeat' split
  · rfl
  · rfl
  · rfl
  · rfl
  · rfl
  · exact deferredRetryWait_dispatchEdge w facts producerRecord key (env.edgeStatus key)

/-- An edge waits only for a time that has not come. -/
theorem deferredRetryWait_examinePartition
    (hready : ∀ key, (env.edgeStatus key).readyAt ≤ env.now) (w : WaveLoop)
    (partition : PartitionId) (consumer : ConsumerId) :
    (w.examinePartition env partition consumer).plan.deferredRetryWait =
      w.plan.deferredRetryWait := by
  unfold examinePartition
  simp only
  split
  · rfl
  · split
    · rfl
    · split
      · rfl
      · split
        · rfl
        · split
          · rfl
          · exact deferredRetryWait_examineEdge hready w _ _ _

/-- One turn of the loop, where every edge is ready. -/
theorem deferredRetryWait_turn (hready : ∀ key, (env.edgeStatus key).readyAt ≤ env.now)
    (w : WaveLoop) : (w.turn env).plan.deferredRetryWait = w.plan.deferredRetryWait := by
  have hwrap :
      (({ w with examined := w.examined + 1 } : WaveLoop).wrapPartition).plan.deferredRetryWait =
        w.plan.deferredRetryWait := deferredRetryWait_wrapPartition _
  unfold turn
  simp only
  split
  · rw [deferredRetryWait_nextPartition, hwrap]
  · split
    · exact hwrap
    · split
      · exact hwrap
      · exact (deferredRetryWait_examinePartition hready _ _ _).trans hwrap

end WaveLoop

/-- Where every edge is ready no edge is deferred for its retry. -/
theorem nextWave_deferredRetryWait {s s' : WaveScheduler} {env : SchedulingEnvironment}
    (hready : ∀ key, (env.edgeStatus key).readyAt ≤ env.now) {plan : WavePlan}
    (h : s.nextWave env = .ok (plan, s')) : plan.deferredRetryWait = 0 := by
  simp only [nextWave, bind_eq_ok, refuseIf_eq_ok, exists_const] at h
  obtain ⟨-, -, -, h⟩ := h
  split at h
  · obtain ⟨rfl, -⟩ := Prod.mk.inj (pure_eq_ok.mp h)
    rfl
  · obtain ⟨rfl, -⟩ := Prod.mk.inj (pure_eq_ok.mp h)
    exact WaveLoop.run_induction (P := fun w => w.plan.deferredRetryWait = 0)
      (fun w _ hw => (WaveLoop.deferredRetryWait_turn hready w).trans hw) _ rfl

end WaveScheduler

namespace Coordinator

/-! ## The clock never falls -/

/-- The clock never goes back, and reaches the tick it is advanced to. -/
theorem le_clockAfter (c : Coordinator) (tick : TickId) :
    c.clock ≤ c.clockAfter tick ∧ tick ≤ c.clockAfter tick := by
  unfold clockAfter
  split
  · next hahead => exact ⟨UInt64.le_of_lt hahead, UInt64.le_refl _⟩
  · next hbehind => exact ⟨UInt64.le_refl _, UInt64.not_lt.mp hbehind⟩

/-- No failure waits for a tick that lies ahead. -/
def Prompt (c : Coordinator) : Prop := c.ledger.Due c.clock

/-- Neither the failures nor the clock changed, or the clock was shown a tick. -/
theorem Prompt.of_failures {c c' : Coordinator} (h : c.Prompt)
    (hfailures : c'.ledger.failures = c.ledger.failures) (hclock : c.clock ≤ c'.clock) :
    c'.Prompt :=
  (h.congr hfailures).mono hclock

/-- A lifecycle record leaves clock and failures. -/
theorem Prompt.entered {c : Coordinator} (h : c.Prompt) (record : ShuffleStateRecord) :
    (c.entered record).Prompt := by
  rw [entered_eq]
  refine h.of_failures ?_ (c.le_clockAfter record.atTick).1
  simp only
  split <;> rfl

/-- So does a participant that joins. -/
theorem Prompt.joinedBy {c : Coordinator} (h : c.Prompt) (t t' : Topology)
    (record : ParticipantRecord) : (c.joinedBy t t' record).Prompt := by
  obtain ⟨producers, consumers, pending, heq⟩ := c.joinedBy_eq t t' record
  rw [heq]
  exact h.of_failures rfl (c.le_clockAfter record.atTick).1

/-- A new epoch moves the clock forward at most. -/
theorem Prompt.epochAdvanced {c : Coordinator} (h : c.Prompt) (record : EpochRecord) :
    (c.epochAdvanced record).Prompt := by
  rw [epochAdvanced_eq]
  exact h.of_failures rfl (c.le_clockAfter record.openedAt).1

/-- The report of a failure ends the wait it asks for. -/
theorem Prompt.charged {c : Coordinator} (h : c.Prompt) {record : FailureRecordDurable}
    {ledger : CompletionLedger} (hfailure : c.ledger.recordFailure (ledgerFailure record) =
      .ok ledger) : (c.charged ledger record.readyAt).Prompt := by
  obtain ⟨hclock, hready⟩ := c.le_clockAfter record.readyAt
  rw [Coordinator.charged, advanceClock_eq]
  exact CompletionLedger.Due.recordFailure h hclock hready hfailure

/-- So does the end of a shuffle. -/
theorem Noted.prompt {c c' : Coordinator} (h : Noted c c') (hc : c.Prompt) : c'.Prompt :=
  hc.of_failures (congrArg (·.failures) h.ledger.1) (UInt64.le_of_eq h.clock.symm)

/-- Every call: a failure moves the clock to the retry time it sets. -/
theorem Transition.prompt {c c' : Coordinator} {call : Call} {answer : Result Reply}
    (h : Transition c call answer c') (hc : c.Prompt)
    (hclock : call = .advanceTick → c.clock ≠ 18446744073709551615) : c'.Prompt := by
  cases h with
  | refused => exact hc
  | unstored => exact hc
  | halfOpened request =>
      have hpersisted : (c.persisted (DurableRecord.epochAdvanced c.nextEpoch).encode).Prompt := hc
      exact hpersisted.epochAdvanced c.nextEpoch
  | opened request =>
      have hpersisted : (c.persisted (DurableRecord.epochAdvanced c.nextEpoch).encode).Prompt := hc
      have hopening : (c.opening.persisted (DurableRecord.shuffleState
          (stateRecord request .open .ok c.opening.clock)).encode).Prompt :=
        hpersisted.epochAdvanced c.nextEpoch
      exact hopening.entered _
  | cancelledBefore => exact hc
  | cancelled reason =>
      have hpersisted : (c.persisted (DurableRecord.shuffleState
          (stateRecord c.request .cancelled reason c.clock)).encode).Prompt := hc
      exact hpersisted.entered _
  | ticked =>
      refine hc.of_failures rfl ?_
      have hlast := hclock rfl
      have hlt := c.clock.toNat_lt
      rw [UInt64.le_iff_toNat_le, UInt64.toNat_add]
      have hne : c.clock.toNat ≠ 18446744073709551615 := fun heq =>
        hlast (UInt64.toNat_inj.mp heq)
      simp only [UInt64.toNat_one]
      omega
  | registered _ record t t' =>
      have hpersisted : (c.persisted (DurableRecord.participant record).encode).Prompt := hc
      exact hpersisted.joinedBy t t' record
  | stateSet kind id incarnation state t t' =>
      have hpersisted : (c.persisted (DurableRecord.participant
        (c.stateChange t kind id incarnation state)).encode).Prompt := hc
      exact hpersisted.joinedBy t t' _
  | published manifest accepted ledger _ _ hretired =>
      exact hc.of_failures (CompletionLedger.failures_retireGeneration hretired) (UInt64.le_refl _)
  | unretired => exact hc
  | nothingLeft => exact hc
  | unplanned => exact hc
  | planned t scheduler scheduler' plan =>
      obtain ⟨grants, bytes, heq, -⟩ :=
        exists_foldl_admitGrant plan.grants { c with scheduler := scheduler' }
      rw [heq]
      exact hc
  | committed request receipt ledger _ _ _ hcommit hnoted =>
      refine hnoted.prompt ?_
      exact hc.of_failures (CompletionLedger.failures_commit hcommit) (UInt64.le_refl _)
  | failed attempt code record ledger _ _ _ hfailure hnoted =>
      refine hnoted.prompt ?_
      have hpersisted : (c.persisted (DurableRecord.failure record).encode).Prompt := hc
      exact hpersisted.charged hfailure
  | pressured intent =>
      unfold recordPressure
      simp only
      split <;> exact hc

/-! ## Replays -/

/-- Every record of the journal. -/
theorem Applied.prompt {c c' : Coordinator} {record : DurableRecord} (h : Applied c record c')
    (hc : c.Prompt) : c'.Prompt := by
  cases h with
  | epoch record => exact hc.epochAdvanced record
  | state record => exact hc.entered record
  | participant record t t' => exact hc.joinedBy t t' record
  | manifest record t ledger _ _ hretired =>
      exact hc.of_failures (CompletionLedger.failures_retireGeneration hretired) (UInt64.le_refl _)
  | commit record receipt ledger hcommit =>
      rw [advanceClock_eq]
      exact hc.of_failures (CompletionLedger.failures_commit hcommit)
        ((c.credited ledger).le_clockAfter record.atTick).1
  | failure record ledger hfailure => exact hc.charged hfailure

/-- The whole journal, record by record. -/
theorem applyAll_prompt {records : List Bytes} {c c' : Coordinator} (hc : c.Prompt)
    (h : (applyAll records).exec c = (.ok (), c')) : c'.Prompt := by
  induction records generalizing c with
  | nil =>
      obtain rfl : c = c' := congrArg Prod.snd h
      exact hc
  | cons record records ih =>
      obtain ⟨u, d, hfirst, hrest⟩ := exec_bind_ok h
      rw [exec_applyRecord] at hfirst
      cases hd : decodeRecord c.limits record with
      | error e => simp [hd] at hfirst
      | ok decoded =>
          rw [hd] at hfirst
          exact ih ((applied_of_exec hfirst).prompt hc) hrest

/-- A new coordinator has no failures. -/
theorem prompt_make (limits : Limits) (sink : Option Sink) : (make limits sink).Prompt := by
  intro key failure hfailure
  simp [make] at hfailure

/-- A coordinator that recovered from records alone. -/
theorem recover_prompt {journal : List Bytes} {historyIncomplete : Bool} {c c' : Coordinator}
    (hc : c.Regular) (h : (recover [] journal historyIncomplete).exec c = (.ok (), c')) :
    c'.Prompt := by
  obtain ⟨scratch, -, hrebuild, -, rfl⟩ := recover_ok hc.inside h
  obtain ⟨replayed, hreplay, hdemote⟩ := rebuild_eq_ok.mp hrebuild
  have hregular := (replay_regular hreplay).1
  obtain ⟨restored, hrestore, hrun⟩ := replay_eq_ok.mp hreplay
  obtain rfl : ({ make c.limits none with historyIncomplete } : Coordinator) = restored :=
    Except.ok.inj hrestore
  have hfresh : ({ make c.limits none with historyIncomplete } : Coordinator).Prompt :=
    prompt_make c.limits none
  have hreplayed : replayed.Prompt := applyAll_prompt hfresh hrun
  obtain ⟨topology, producers, consumers, pending, rfl⟩ := demote_frame hregular hdemote
  have hequipped : ((c.equipped { replayed with
      topology, unrevalidatedProducers := producers, unrevalidatedConsumers := consumers
      pendingRevalidation := pending }).persisted (DurableRecord.epochAdvanced
        { epoch := replayed.epoch + 1, openedAt := replayed.clock }).encode).Prompt := hreplayed
  exact hequipped.epochAdvanced _

/-! ## Runs -/

/-- The clock is not advanced from its last tick, and a recovery starts from records alone. -/
def Punctual (c : Coordinator) : Move → Prop
  | .call call => call = .advanceTick → c.clock ≠ 18446744073709551615
  | .recover snapshot _ _ => snapshot = []

instance (c : Coordinator) : (m : Move) → Decidable (c.Punctual m)
  | .call call => inferInstanceAs (Decidable (call = .advanceTick → _))
  | .recover snapshot _ _ => inferInstanceAs (Decidable (snapshot = []))

/-- Every move that keeps to the conditions. -/
theorem MoveStep.prompt {c c' : Coordinator} {m : Move} {answer : Result Reply}
    (h : MoveStep c m answer c') (hregular : c.Regular) (hpunctual : c.Punctual m)
    (hc : c.Prompt) : c'.Prompt := by
  cases h with
  | called call _ _ htransition => exact htransition.prompt hc hpunctual
  | unrecovered => exact hc
  | recovered snapshot journal historyIncomplete _ hrun =>
      obtain rfl : snapshot = [] := hpunctual
      exact recover_prompt hregular hrun

/-- Every run of such moves. -/
theorem prompt_of_run {limits : Limits} {sink : Option Sink}
    {events : List (Event Coordinator Move (Result Reply))} {c : Coordinator}
    (run : Run move (make limits sink) events c)
    (hpunctual : ∀ e ∈ events, e.before.Punctual e.input) : c.Regular ∧ c.Prompt :=
  run.invariant_of (P := fun c => c.Regular ∧ c.Prompt)
    ⟨regular_make limits sink, prompt_make limits sink⟩
    (fun (c : Coordinator) m (hm : c.Punctual m) hc =>
      ⟨hc.1.move m, (move_step hc.1 m).prompt hc.1 hm hc.2⟩) hpunctual

end Coordinator

end ShuffleFabric
