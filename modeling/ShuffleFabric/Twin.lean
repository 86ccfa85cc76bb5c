import ShuffleFabric.Regular

/-!
# ShuffleFabric.Twin

What no operation looks at.

The number of persisted records and the mark of an incomplete history are reported and
carried along, but nothing depends on them: coordinators that differ in these alone answer
every move alike (`twin_move`).
-/

namespace ShuffleFabric

open Lib Action

namespace Coordinator

/-! ## Records -/

/-- Two coordinators that differ, if at all, in the number of records they count as persisted
and in whether they hold their history for complete. -/
def Twin (c c' : Coordinator) : Prop :=
  ∃ n incomplete, c' = { c with persistedRecords := n, historyIncomplete := incomplete }

/-- A coordinator is its own twin. -/
theorem Twin.refl (c : Coordinator) : Twin c c := ⟨c.persistedRecords, c.historyIncomplete, rfl⟩

/-- The sink is the same for both, and what is counted of it is not looked at. -/
theorem respects_persist (record : Bytes) : (persist record).Respects Twin := by
  rintro c _ ⟨n, incomplete, rfl⟩
  rw [exec_persist, exec_persist]
  exact ⟨rfl, _, incomplete, rfl⟩

/-- The clocks of twins move alike. -/
theorem twin_advanceClock (tick : TickId) (c c' : Coordinator) (h : Twin c c') :
    Twin (c.advanceClock tick) (c'.advanceClock tick) := by
  obtain ⟨n, incomplete, rfl⟩ := h
  rw [advanceClock_eq, advanceClock_eq]
  exact ⟨n, incomplete, rfl⟩

/-- An epoch record is compared with the epoch, which both have. -/
theorem respects_applyEpoch (record : EpochRecord) : (applyEpoch record).Respects Twin := by
  refine .bind (.modify ?_) fun _ => .modify (twin_advanceClock _)
  rintro c _ ⟨n, incomplete, rfl⟩
  by_cases hlater : record.epoch > c.epoch
  · rw [if_pos hlater, if_pos (by exact hlater)]
    exact ⟨n, incomplete, rfl⟩
  · rw [if_neg hlater, if_neg (by exact hlater)]
    exact ⟨n, incomplete, rfl⟩

/-- A lifecycle record is checked against the request and the state, which both have. -/
theorem respects_applyShuffleState (record : ShuffleStateRecord) :
    (applyShuffleState record).Respects Twin := by
  refine .get_bind ?_ fun c => .bind (.throwIf _ _) fun _ => .bind (.throwIf _ _) fun _ =>
    .bind (.modify ?_) fun _ => .bind (.modify ?_) fun _ => .bind (.modify ?_) fun _ =>
    .modify (twin_advanceClock _)
  · rintro c _ ⟨n, incomplete, rfl⟩
    rfl
  · rintro c _ ⟨n, incomplete, rfl⟩
    split <;> exact ⟨n, incomplete, rfl⟩
  · rintro c _ ⟨n, incomplete, rfl⟩
    exact ⟨n, incomplete, rfl⟩
  · rintro c _ ⟨n, incomplete, rfl⟩
    by_cases hcancelled : c.state = .cancelled ∨ c.state = .cancelling
    · rw [if_pos hcancelled, if_pos (by exact hcancelled)]
      exact ⟨n, incomplete, rfl⟩
    · rw [if_neg hcancelled, if_neg (by exact hcancelled)]
      exact ⟨n, incomplete, rfl⟩

/-- A participant that is active again leaves the pending set of both. -/
theorem twin_revalidate (kind : ParticipantKind) (id : UInt64) (c c' : Coordinator) (h : Twin c c') :
    Twin (c.revalidate kind id) (c'.revalidate kind id) := by
  obtain ⟨n, incomplete, rfl⟩ := h
  unfold revalidate
  cases kind with
  | producer =>
      by_cases hpending : id ∈ c.unrevalidatedProducers
      · simp only [if_pos hpending]
        exact ⟨n, incomplete, rfl⟩
      · simp only [if_neg hpending]
        exact ⟨n, incomplete, rfl⟩
  | consumer =>
      by_cases hpending : id ∈ c.unrevalidatedConsumers
      · simp only [if_pos hpending]
        exact ⟨n, incomplete, rfl⟩
      · simp only [if_neg hpending]
        exact ⟨n, incomplete, rfl⟩

/-- A participant record is placed in the one topology. -/
theorem respects_applyParticipant (record : ParticipantRecord) :
    (applyParticipant record).Respects Twin := by
  refine .get_bind ?_ fun c => ?_
  · rintro c _ ⟨n, incomplete, rfl⟩
    rfl
  · cases c.topology with
    | none => exact .throw _
    | some topology =>
        refine .bind (.liftM _) fun registered => .bind (.modify ?_) fun _ => .bind ?_ fun _ =>
          .bind (.modify ?_) fun _ => .modify (twin_advanceClock _)
        · rintro c _ ⟨n, incomplete, rfl⟩
          exact ⟨n, incomplete, rfl⟩
        · refine .ite (.pure _) (.bind (.liftM _) fun applied => .modify ?_)
          rintro c _ ⟨n, incomplete, rfl⟩
          exact ⟨n, incomplete, rfl⟩
        · intro c c' h
          split
          · split
            · exact twin_revalidate _ _ c c' h
            · exact h
          · exact h

/-- A manifest is stored, and its generation retires what the ledger holds of the one before. -/
theorem respects_applyManifest (record : ManifestRecord) :
    (applyManifest record).Respects Twin := by
  refine .get_bind ?_ fun c => .bind (.throwIf _ _) fun _ => .bind (.liftM _) fun _ =>
    .bind (.modify ?_) fun _ => .bind (.liftM _) fun ledger => .modify ?_
  · rintro c _ ⟨n, incomplete, rfl⟩
    rfl
  · rintro c _ ⟨n, incomplete, rfl⟩
    exact ⟨n, incomplete, rfl⟩
  · rintro c _ ⟨n, incomplete, rfl⟩
    exact ⟨n, incomplete, rfl⟩

/-- A completion is judged by the ledger. -/
theorem respects_applyCommit (record : CommitRecord) : (applyCommit record).Respects Twin := by
  refine .get_bind ?_ fun c => .bind (.liftM _) fun out => .bind (.modify ?_) fun _ =>
    .modify (twin_advanceClock _)
  · rintro c _ ⟨n, incomplete, rfl⟩
    rfl
  · rintro c _ ⟨n, incomplete, rfl⟩
    exact ⟨n, incomplete, rfl⟩

/-- A failure is judged by the ledger, and moves the clock. -/
theorem respects_applyFailure (record : FailureRecordDurable) :
    (applyFailure record).Respects Twin := by
  refine .get_bind ?_ fun c => .bind (.liftM _) fun ledger => .bind (.modify ?_) fun _ =>
    .modify (twin_advanceClock _)
  · rintro c _ ⟨n, incomplete, rfl⟩
    rfl
  · rintro c _ ⟨n, incomplete, rfl⟩
    exact ⟨n, incomplete, rfl⟩

/-- Every kind of record, by cases. -/
theorem respects_applyDecoded (record : DurableRecord) :
    (applyDecoded record).Respects Twin := by
  cases record with
  | epochAdvanced record => exact respects_applyEpoch record
  | shuffleState record => exact respects_applyShuffleState record
  | participant record => exact respects_applyParticipant record
  | manifest record => exact respects_applyManifest record
  | commit record => exact respects_applyCommit record
  | failure record => exact respects_applyFailure record

/-- A record is decoded under the limits, which both have. -/
theorem respects_applyRecord (record : Bytes) : (applyRecord record).Respects Twin := by
  refine .get_bind ?_ fun c => .bind (.liftM _) fun decoded => respects_applyDecoded decoded
  rintro c _ ⟨n, incomplete, rfl⟩
  rfl

/-- A record is handed to the sink before it is applied. -/
theorem respects_commitRecord (record : Bytes) : (commitRecord record).Respects Twin :=
  .bind (respects_persist record) fun _ => respects_applyRecord record

/-- The guard of the single thread is set for both or for none. -/
theorem respects_guarded {α : Type} {body : Op α} (h : body.Respects Twin) :
    (guarded body).Respects Twin := by
  intro c c' htwin
  have hsame : c'.inside = c.inside := by
    obtain ⟨n, incomplete, rfl⟩ := htwin
    rfl
  by_cases hin : c.inside = true
  · rw [exec_guarded_inside _ hin, exec_guarded_inside _ (hsame.trans hin)]
    exact ⟨rfl, htwin⟩
  · have hout : c.inside = false := Bool.eq_false_of_not_eq_true hin
    have hflagged : Twin (c.flagged true) (c'.flagged true) := by
      obtain ⟨n, incomplete, rfl⟩ := htwin
      exact ⟨n, incomplete, rfl⟩
    rw [exec_guarded _ hout, exec_guarded _ (hsame.trans hout)]
    obtain ⟨hanswer, n, incomplete, hn⟩ := h _ _ hflagged
    refine ⟨hanswer, n, incomplete, ?_⟩
    rw [hn]
    rfl

/-! ## Operations -/

/-- A new epoch is one more than the one both are in. -/
theorem respects_persistEpoch : persistEpoch.Respects Twin := by
  refine .get_bind ?_ fun c => respects_commitRecord _
  rintro c _ ⟨n, incomplete, rfl⟩
  rfl

/-- An opening is checked, and made durable in two records. -/
theorem respects_openShuffle (request : ShuffleOpenRequest) :
    (openShuffle request).Respects Twin := by
  refine respects_guarded (.get_bind ?_ fun c => .bind (.liftM _) fun _ =>
    .bind respects_persistEpoch fun _ => .get_bind ?_ fun c => respects_commitRecord _)
  · rintro c _ ⟨n, incomplete, rfl⟩
    rfl
  · rintro c _ ⟨n, incomplete, rfl⟩
    rfl

/-- A cancellation depends on the state and the reason. -/
theorem respects_cancelShuffle (reason : ErrorCode) : (cancelShuffle reason).Respects Twin := by
  refine respects_guarded (.get_bind ?_ fun c => .ite (.pure _) (.bind (.throwIf _ _) fun _ =>
    .bind (.throwIf _ _) fun _ => respects_commitRecord _))
  rintro c _ ⟨n, incomplete, rfl⟩
  rfl

/-- A tick is not durable. -/
theorem respects_advanceTick : advanceTick.Respects Twin := by
  refine respects_guarded (.bind (.modify ?_) fun _ => .get_bind ?_ fun c => .pure _)
  · rintro c _ ⟨n, incomplete, rfl⟩
    exact ⟨n, incomplete, rfl⟩
  · rintro c _ ⟨n, incomplete, rfl⟩
    rfl

/-- The look at the end of the shuffle compares the ledger with the topology. -/
theorem respects_noteCompletion : noteCompletion.Respects Twin := by
  refine .get_bind ?_ fun c => ?_
  · rintro c _ ⟨n, incomplete, rfl⟩
    rfl
  · split
    · split
      · exact .pure _
      · exact .ite (.pure _) (.ignore (respects_commitRecord _))
    · exact .pure _

/-- A registration is checked against the topology before it is made durable. -/
theorem respects_registerProducer (id : ProducerId) (incarnation : IncarnationId)
    (endpoint : Bytes) : (registerProducer id incarnation endpoint).Respects Twin := by
  refine respects_guarded (.get_bind ?_ fun c => .bind (.liftM _) fun topology =>
    .bind (.liftM _) fun _ => .bind (respects_commitRecord _) fun _ => .get_bind ?_ fun _ => .pure _)
  · rintro c _ ⟨n, incomplete, rfl⟩
    rfl
  · rintro c _ ⟨n, incomplete, rfl⟩
    rfl

/-- A consumer is registered in the same way, with its selection. -/
theorem respects_registerConsumer (id : ConsumerId) (incarnation : IncarnationId)
    (endpoint : Bytes) (selection : PartitionSelection) :
    (registerConsumer id incarnation endpoint selection).Respects Twin := by
  refine respects_guarded (.get_bind ?_ fun c => .bind (.liftM _) fun topology =>
    .bind (.liftM _) fun _ => .bind (respects_commitRecord _) fun _ => .get_bind ?_ fun _ => .pure _)
  · rintro c _ ⟨n, incomplete, rfl⟩
    rfl
  · rintro c _ ⟨n, incomplete, rfl⟩
    rfl

/-- A change of state is recorded with what the topology says of the participant. -/
theorem respects_setParticipantState (kind : ParticipantKind) (id : UInt64)
    (incarnation : IncarnationId) (state : ParticipantState) :
    (setParticipantState kind id incarnation state).Respects Twin := by
  refine respects_guarded (.get_bind ?_ fun c => .bind (.liftM _) fun topology =>
    .bind (.liftM _) fun _ => respects_commitRecord _)
  rintro c _ ⟨n, incomplete, rfl⟩
  rfl

/-- A manifest is completed from the registered producer. -/
theorem respects_publishManifest (manifest : PartitionManifest) :
    (publishManifest manifest).Respects Twin := by
  refine respects_guarded (.get_bind ?_ fun c => .bind (.liftM _) fun normalized =>
    .bind (.liftM _) fun encoded => .bind (respects_commitRecord _) fun _ => .pure _)
  rintro c _ ⟨n, incomplete, rfl⟩
  rfl

/-- The grants of a wave are admitted one by one. -/
theorem twin_foldl_admitGrant (plan : List DispatchGrant) (c c' : Coordinator) (h : Twin c c') :
    Twin (plan.foldl admitGrant c) (plan.foldl admitGrant c') := by
  induction plan generalizing c c' with
  | nil => exact h
  | cons grant plan ih =>
      obtain ⟨n, incomplete, rfl⟩ := h
      exact ih _ _ ⟨n, incomplete, rfl⟩

/-- A wave is planned from the scheduler and what the coordinator knows, which both have. -/
theorem respects_nextWave : Coordinator.nextWave.Respects Twin := by
  refine respects_guarded (.get_bind ?_ fun c => .ite (.pure _) (.bind (.liftM _) fun topology =>
    .bind (.liftM _) fun scheduler => .bind (.modify ?_) fun _ => .bind (.liftM _) fun out =>
    .bind (.modify ?_) fun _ => .pure _))
  · rintro c _ ⟨n, incomplete, rfl⟩
    rfl
  · rintro c _ ⟨n, incomplete, rfl⟩
    exact ⟨n, incomplete, rfl⟩
  · rintro c _ ⟨n, incomplete, rfl⟩
    exact twin_foldl_admitGrant _ _ _ ⟨n, incomplete, rfl⟩

/-- A completion ends its attempt and may end the shuffle. -/
theorem respects_commitTransfer (request : CommitRequest) :
    (commitTransfer request).Respects Twin := by
  refine respects_guarded (.get_bind ?_ fun c => .bind (.liftM _) fun _ =>
    .bind (respects_persist _) fun _ => .bind (.liftM _) fun out => .bind (.modify ?_) fun _ =>
    .bind (.modify ?_) fun _ => .bind respects_noteCompletion fun _ => .get_bind ?_ fun _ => .pure _)
  · rintro c _ ⟨n, incomplete, rfl⟩
    rfl
  · rintro c _ ⟨n, incomplete, rfl⟩
    exact ⟨n, incomplete, rfl⟩
  · rintro c _ ⟨n, incomplete, rfl⟩
    exact ⟨n, incomplete, rfl⟩
  · rintro c _ ⟨n, incomplete, rfl⟩
    rfl

/-- A failure moves the clock to the time the edge may be tried again. -/
theorem respects_reportFailure (attempt : TransferAttemptId) (code : ErrorCode) :
    (reportFailure attempt code).Respects Twin := by
  refine respects_guarded (.get_bind ?_ fun c => .bind (.liftM _) fun record =>
    .bind (respects_persist _) fun _ => .bind (respects_applyFailure _) fun _ =>
    .bind (.modify ?_) fun _ => .bind respects_noteCompletion fun _ => .pure _)
  · rintro c _ ⟨n, incomplete, rfl⟩
    rfl
  · rintro c _ ⟨n, incomplete, rfl⟩
    exact ⟨n, incomplete, rfl⟩

/-- A reading is stored, or replaces an older one. -/
theorem respects_updateCongestion (intent : CongestionIntent) :
    (updateCongestion intent).Respects Twin := by
  refine respects_guarded (.get_bind ?_ fun c => .bind (.liftM _) fun _ => .modify ?_)
  · rintro c _ ⟨n, incomplete, rfl⟩
    rfl
  · rintro c _ ⟨n, incomplete, rfl⟩
    unfold recordPressure
    simp only
    split <;> exact ⟨n, incomplete, rfl⟩

/-- A recovery rebuilds from its arguments, and what it adopts is the same. -/
theorem respects_recover (snapshot : Bytes) (journal : List Bytes) (historyIncomplete : Bool) :
    (recover snapshot journal historyIncomplete).Respects Twin := by
  refine respects_guarded (.get_bind ?_ fun c => .bind (.throwIf _ _) fun _ =>
    .bind (.liftM _) fun scratch => .bind (.modify ?_) fun _ => .bind (.liftM _) fun _ =>
    .modify ?_)
  · rintro c _ ⟨n, incomplete, rfl⟩
    rfl
  · rintro c _ ⟨n, incomplete, rfl⟩
    exact ⟨n, incomplete, rfl⟩
  · rintro c _ ⟨n, incomplete, rfl⟩
    exact .refl _

/-- No move tells twins apart. -/
theorem twin_move {c c' : Coordinator} (h : Twin c c') (m : Move) :
    (c.move m).1 = (c'.move m).1 ∧ Twin (c.move m).2 (c'.move m).2 := by
  have hrespects : ∀ {α : Type} {x : Op α} (f : α → Reply), x.Respects Twin →
      ((f <$> x).exec c).1 = ((f <$> x).exec c').1 ∧
        Twin ((f <$> x).exec c).2 ((f <$> x).exec c').2 :=
    fun f hx => (Respects.map f hx) c c' h
  cases m with
  | recover snapshot journal historyIncomplete =>
      exact hrespects _ (respects_recover snapshot journal historyIncomplete)
  | call call =>
      cases call with
      | openShuffle request => exact hrespects _ (respects_openShuffle request)
      | cancelShuffle reason => exact hrespects _ (respects_cancelShuffle reason)
      | advanceTick => exact hrespects _ respects_advanceTick
      | registerProducer id incarnation endpoint =>
          exact hrespects _ (respects_registerProducer id incarnation endpoint)
      | registerConsumer id incarnation endpoint selection =>
          exact hrespects _ (respects_registerConsumer id incarnation endpoint selection)
      | setParticipantState kind id incarnation state =>
          exact hrespects _ (respects_setParticipantState kind id incarnation state)
      | publishManifest manifest => exact hrespects _ (respects_publishManifest manifest)
      | nextWave => exact hrespects _ respects_nextWave
      | commitTransfer request => exact hrespects _ (respects_commitTransfer request)
      | reportFailure attempt code => exact hrespects _ (respects_reportFailure attempt code)
      | updateCongestion intent => exact hrespects _ (respects_updateCongestion intent)

/-- So the answers to whatever follows are the same. -/
theorem twin_outputs {c c' : Coordinator} (h : Twin c c') (later : List Move) :
    (record move c later).map (·.output) = (record move c' later).map (·.output) := by
  induction later generalizing c c' with
  | nil => rfl
  | cons m later ih =>
      obtain ⟨hanswer, htwin⟩ := twin_move h m
      simp only [record, List.map_cons, happen, hanswer]
      rw [ih htwin]

end Coordinator

end ShuffleFabric
