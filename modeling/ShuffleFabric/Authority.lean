import ShuffleFabric.Perform
import ShuffleFabric.Records.Sound

/-!
# ShuffleFabric.Authority

Where the right to complete a transfer comes from.

A grant enters the registry in `next_wave` and nowhere else; every other statement of
every operation only narrows the registry (`Narrows`).  So whatever grant a commit
finds there was issued by an earlier wave, in the same epoch, and nothing that ends an
attempt happened to it since.
-/

namespace ShuffleFabric

open Lib Action

namespace Coordinator

/-! ## Statements that narrow authority -/

/-- No grant may be outstanding in these states. -/
def Idle (c : Coordinator) : Prop :=
  c.state = .closed ∨ c.state = .cancelled ∨ c.state = .cancelling

/-- Within an epoch no grant is added, and a coordinator that becomes idle has none. -/
structure Narrows (c c' : Coordinator) : Prop where
  epoch : c'.epoch = c.epoch
  grants : ∀ (attempt : TransferAttemptId) (grant : DispatchGrant),
    c'.grants[attempt]? = some grant → c.grants[attempt]? = some grant
  idle : c'.Idle → c.Idle ∨ c'.grants = {}

instance : Std.Refl Narrows := ⟨fun _ => ⟨rfl, fun _ _ h => h, .inl⟩⟩

/-- A registry narrower than an empty one is empty. -/
theorem grants_eq_empty {c c' : Coordinator} (h : c.grants = {})
    (hnarrow : ∀ (attempt : TransferAttemptId) (grant : DispatchGrant),
      c'.grants[attempt]? = some grant → c.grants[attempt]? = some grant) : c'.grants = {} := by
  apply Std.ExtTreeMap.ext_getElem?
  intro attempt
  cases hget : c'.grants[attempt]? with
  | none => simp
  | some grant => simpa [h] using hnarrow attempt grant hget

instance : IsTrans Coordinator Narrows where
  trans c₁ c₂ c₃ h h' := by
    refine ⟨h'.epoch.trans h.epoch, fun a g hg => h.grants a g (h'.grants a g hg), fun hidle => ?_⟩
    rcases h'.idle hidle with hidle | hempty
    · rcases h.idle hidle with hidle | hempty
      · exact .inl hidle
      · exact .inr (grants_eq_empty hempty h'.grants)
    · exact .inr hempty

/-- A change that touches neither the epoch, the registry nor the lifecycle. -/
theorem Narrows.of_eq {c c' : Coordinator} (hepoch : c'.epoch = c.epoch)
    (hgrants : c'.grants = c.grants) (hstate : c'.state = c.state) : Narrows c c' :=
  ⟨hepoch, fun _ _ h => hgrants ▸ h, fun h => .inl (by simpa [Idle, hstate] using h)⟩

/-- The clock has no part in authority. -/
theorem narrows_advanceClock (c : Coordinator) (tick : TickId) : Narrows c (c.advanceClock tick) := by
  unfold advanceClock
  split
  · exact .of_eq rfl rfl rfl
  · exact Std.Refl.refl c

/-- Nor has the guard of the single thread. -/
theorem narrows_flagged (c : Coordinator) (inside : Bool) : Narrows c (c.flagged inside) :=
  .of_eq rfl rfl rfl

/-- Nor has the sink. -/
theorem narrows_persisted (c : Coordinator) (record : Bytes) : Narrows c (c.persisted record) :=
  .of_eq rfl rfl rfl

/-- Handing a record to the sink grants nothing. -/
theorem moves_persist (record : Bytes) : (persist record).Moves Narrows := by
  intro c
  rw [exec_persist]
  exact narrows_persisted c record

/-! ## Durable records -/

/-- A shuffle that opens starts without grants. -/
theorem narrows_openFrom (c : Coordinator) (record : ShuffleStateRecord) :
    Narrows c (c.openFrom record) := .of_eq rfl rfl rfl

/-- A lifecycle record closes nothing, and one that cancels ends every grant. -/
theorem moves_applyShuffleState {record : ShuffleStateRecord} (h : record.state ≠ .closed) :
    (applyShuffleState record).Moves Narrows := by
  refine .bind .get fun _ => .bind (.throwIf _ _) fun _ => .bind (.throwIf _ _) fun _ =>
    .bind (.modify fun c => ?_) fun _ => ?_
  · split
    · exact narrows_openFrom c record
    · exact Std.Refl.refl c
  -- the lifecycle changes before the registry is cleared
  intro c
  simp only [exec_bind, exec_modify]
  refine IsTrans.trans _ _ _ ?_ (narrows_advanceClock _ _)
  split
  · exact ⟨rfl, fun _ _ hg => by simp at hg, fun _ => .inr rfl⟩
  · next hkept => exact ⟨rfl, fun _ _ hg => hg, fun hidle => absurd (hidle.resolve_left h) hkept⟩

/-- A participant that is active again gets no grant by it. -/
theorem narrows_revalidate (c : Coordinator) (kind : ParticipantKind) (id : UInt64) :
    Narrows c (c.revalidate kind id) := by
  unfold revalidate
  cases kind with
  | producer =>
      simp only
      split
      · exact .of_eq rfl rfl rfl
      · exact Std.Refl.refl c
  | consumer =>
      simp only
      split
      · exact .of_eq rfl rfl rfl
      · exact Std.Refl.refl c

/-- A change of state ends no attempt. -/
theorem moves_applyState (registered : Topology) (record : ParticipantRecord) :
    (applyState registered record).Moves Narrows :=
  .ite (.pure _) <| .bind (.liftM _) fun _ => .modify fun _ => .of_eq rfl rfl rfl

/-- A registration ends none either. -/
theorem moves_applyParticipant (record : ParticipantRecord) :
    (applyParticipant record).Moves Narrows := by
  refine .bind .get fun c => ?_
  cases c.topology with
  | none => exact .throw _
  | some topology =>
      refine .bind (.liftM _) fun registered => .bind (.modify fun _ => .of_eq rfl rfl rfl) fun _ =>
        .bind (moves_applyState registered record) fun _ => .bind (.modify fun c => ?_) fun _ =>
        .modify fun c => narrows_advanceClock c _
      split
      · split
        · exact narrows_revalidate c _ _
        · exact Std.Refl.refl c
      · exact Std.Refl.refl c

/-- A manifest leaves the grants that were issued for the one before. -/
theorem moves_applyManifest (record : ManifestRecord) : (applyManifest record).Moves Narrows :=
  .bind .get fun _ => .bind (.throwIf _ _) fun _ => .bind (.liftM _) fun _ =>
    .bind (.modify fun _ => .of_eq rfl rfl rfl) fun _ => .bind (.liftM _) fun _ =>
    .modify fun _ => .of_eq rfl rfl rfl

/-- A record that becomes durable and is applied moves as the sink and everything the
record may decode to do. -/
theorem moves_commitRecord {R : Coordinator → Coordinator → Prop} [Std.Refl R]
    [IsTrans Coordinator R] {record : Bytes} (hpersist : (persist record).Moves R)
    (h : ∀ limits decoded, decodeRecord limits record = .ok decoded →
      (applyDecoded decoded).Moves R) : (commitRecord record).Moves R := by
  refine .bind hpersist fun _ => fun c => ?_
  rw [exec_applyRecord]
  cases hd : decodeRecord c.limits record with
  | error e => exact Std.Refl.refl c
  | ok decoded => exact h _ _ hd c

/-- A lifecycle record that is made durable and applied. -/
theorem moves_commitState {record : ShuffleStateRecord} (h : record.state ≠ .closed) :
    (commitRecord record.encode).Moves Narrows := by
  refine moves_commitRecord (moves_persist _) fun limits decoded hd => ?_
  obtain ⟨-, rfl⟩ := eq_of_decodeRecord (r := .shuffleState record) trivial hd
  exact moves_applyShuffleState h

/-- A participant record that is made durable and applied. -/
theorem moves_commitParticipant (record : ParticipantRecord) :
    (commitRecord record.encode).Moves Narrows := by
  refine moves_commitRecord (moves_persist _) fun limits decoded hd => ?_
  have htag : decoded.tag = 3 := by
    simp only [ParticipantRecord.encode, List.append_assoc] at hd
    exact tag_of_decodeRecord hd
  cases decoded with
  | participant record' => exact moves_applyParticipant record'
  | _ => simp [DurableRecord.tag] at htag

/-- A manifest that is made durable and applied. -/
theorem moves_commitManifest {record : ManifestRecord} {limits : Limits} {encoded : Bytes}
    (h : record.encode limits = .ok encoded) : (commitRecord encoded).Moves Narrows := by
  refine moves_commitRecord (moves_persist _) fun limits decoded hd => ?_
  obtain ⟨bytes, -, hencoded⟩ := bind_eq_ok.mp h
  obtain rfl := pure_eq_ok.mp hencoded
  have htag : decoded.tag = 4 := tag_of_decodeRecord hd
  cases decoded with
  | manifest record' => exact moves_applyManifest record'
  | _ => simp [DurableRecord.tag] at htag

/-- The end of a shuffle is a lifecycle record. -/
theorem moves_noteCompletion : noteCompletion.Moves Narrows := by
  refine .bind .get fun c => ?_
  split
  · split
    · exact .pure _
    · exact .ite (.pure _) (Moves.ignore (moves_commitState (by simp [stateRecord])))
  · exact .pure _

/-- A failure record on its own ends no attempt: `report_failure` does. -/
theorem moves_applyFailure (record : FailureRecordDurable) :
    (applyFailure record).Moves Narrows :=
  .bind .get fun _ => .bind (.liftM _) fun _ => .bind (.modify fun _ => .of_eq rfl rfl rfl) fun _ =>
    .modify fun c => narrows_advanceClock c _

/-! ## Operations -/

/-- What holds of the body of a call holds of the call. -/
theorem moves_guarded {α : Type} {body : Op α} (h : body.Moves Narrows) :
    (guarded body).Moves Narrows := by
  intro c
  cases hin : c.inside with
  | true =>
      rw [exec_guarded_inside body hin]
      exact Std.Refl.refl c
  | false =>
      rw [exec_guarded body hin]
      exact IsTrans.trans _ _ _ (IsTrans.trans _ _ _ (narrows_flagged c true) (h _))
        (narrows_flagged _ false)

/-- A cancellation ends every grant and issues none. -/
theorem moves_cancelShuffle (reason : ErrorCode) : (cancelShuffle reason).Moves Narrows :=
  moves_guarded <| .bind .get fun _ => .ite (.pure _) <| .bind (.throwIf _ _) fun _ =>
    .bind (.throwIf _ _) fun _ => moves_commitState (by simp [stateRecord])

/-! An epoch advances only before there is a grant, and recovery drops them all. -/

/-- The registry only loses grants, whatever happens to the epoch. -/
def Shrinks (c c' : Coordinator) : Prop :=
  ∀ (attempt : TransferAttemptId) (grant : DispatchGrant),
    c'.grants[attempt]? = some grant → c.grants[attempt]? = some grant

instance : Std.Refl Shrinks := ⟨fun _ _ _ h => h⟩

instance : IsTrans Coordinator Shrinks := ⟨fun _ _ _ h h' a g hg => h a g (h' a g hg)⟩

/-- A new epoch issues nothing. -/
theorem moves_persistEpoch : persistEpoch.Moves Shrinks := by
  refine .bind .get fun c => moves_commitRecord ((moves_persist _).mono fun _ _ h => h.grants)
    fun limits decoded hd => ?_
  obtain ⟨-, rfl⟩ := eq_of_decodeRecord (r := .epochAdvanced _) trivial hd
  refine .bind (.modify fun c => ?_) fun _ => .modify fun c => (narrows_advanceClock c _).grants
  split
  · exact fun _ _ h => h
  · exact Std.Refl.refl c

/-- An opening issues nothing, also where it stops half way. -/
theorem moves_openShuffle (request : ShuffleOpenRequest) :
    (openShuffle request).Moves Shrinks := by
  intro c
  cases hin : c.inside with
  | true =>
      rw [openShuffle, exec_guarded_inside _ hin]
      exact Std.Refl.refl c
  | false =>
      rw [openShuffle, exec_guarded _ hin]
      have hbody : (do
          liftM ((← get).checkOpen request)
          persistEpoch
          commitRecord (stateRecord request .open .ok (← get).clock).encode : Op Unit).Moves
            Shrinks :=
        .bind .get fun _ => .bind (.liftM _) fun _ => .bind moves_persistEpoch fun _ =>
          .bind .get fun _ =>
          (moves_commitState (by simp [stateRecord])).mono fun _ _ h => h.grants
      exact hbody (c.flagged true)

/-- A coordinator that is not closed refuses to open another shuffle. -/
theorem openShuffle_of_ne_closed {c : Coordinator} (request : ShuffleOpenRequest)
    (h : c.state ≠ .closed) : ((openShuffle request).exec c).2 = c := by
  cases hin : c.inside with
  | true =>
      rw [openShuffle, exec_guarded_inside _ hin]
  | false =>
      have hcheck : (c.flagged true).checkOpen request =
          makeFailure .invalidState "a shuffle is already open in this coordinator" := by
        have h' : (c.flagged true).state ≠ .closed := h
        simp [checkOpen, refuseIf, h', bind, Except.bind, makeFailure]
      rw [openShuffle, exec_guarded _ hin, exec_bind_of_ok (exec_get _), hcheck]
      exact flagged_true_false hin

/-- The registry only loses grants within the epoch, or is emptied. -/
def Drops (c c' : Coordinator) : Prop := Narrows c c' ∨ c'.grants = {}

instance : Std.Refl Drops := ⟨fun c => .inl (Std.Refl.refl c)⟩

instance : IsTrans Coordinator Drops where
  trans c₁ c₂ c₃ h h' := by
    rcases h' with h' | h'
    · rcases h with h | h
      · exact .inl (IsTrans.trans _ _ _ h h')
      · exact .inr (grants_eq_empty h h'.grants)
    · exact .inr h'

/-- A recovery ends every grant, or changes nothing that matters here. -/
theorem moves_recover (snapshot : Bytes) (journal : List Bytes) (historyIncomplete : Bool) :
    (recover snapshot journal historyIncomplete).Moves Drops := by
  intro c
  cases hin : c.inside with
  | true =>
      rw [recover, exec_guarded_inside _ hin]
      exact Std.Refl.refl c
  | false =>
      rw [recover, exec_guarded _ hin]
      refine IsTrans.trans _ _ _ (.inl (narrows_flagged c true))
        (IsTrans.trans _ _ _ ?_ (.inl (narrows_flagged _ false)))
      refine Moves.bind .get (fun _ => .bind (.throwIf _ _) fun _ => .bind (.liftM _) fun _ =>
        .bind (.modify fun _ => .inl (.of_eq rfl rfl rfl)) fun _ => .bind (.liftM _) fun _ =>
        .modify fun _ => .inr rfl) _

/-- The calls that neither issue a grant nor end one: a tick. -/
theorem moves_advanceTick : advanceTick.Moves Narrows :=
  moves_guarded <| .bind (.modify fun _ => .of_eq rfl rfl rfl) fun _ => .bind .get fun _ => .pure _

/-- A registration neither issues a grant nor ends one. -/
theorem moves_registerProducer (id : ProducerId) (incarnation : IncarnationId)
    (endpoint : Bytes) : (registerProducer id incarnation endpoint).Moves Narrows :=
  moves_guarded <| .bind .get fun _ => .bind (.liftM _) fun _ => .bind (.liftM _) fun _ =>
    .bind (moves_commitParticipant _) fun _ => .bind .get fun _ => .pure _

/-- Nor does that of a consumer. -/
theorem moves_registerConsumer (id : ConsumerId) (incarnation : IncarnationId)
    (endpoint : Bytes) (selection : PartitionSelection) :
    (registerConsumer id incarnation endpoint selection).Moves Narrows :=
  moves_guarded <| .bind .get fun _ => .bind (.liftM _) fun _ => .bind (.liftM _) fun _ =>
    .bind (moves_commitParticipant _) fun _ => .bind .get fun _ => .pure _

/-- Nor does a change of state, whatever the state. -/
theorem moves_setParticipantState (kind : ParticipantKind) (id : UInt64)
    (incarnation : IncarnationId) (state : ParticipantState) :
    (setParticipantState kind id incarnation state).Moves Narrows :=
  moves_guarded <| .bind .get fun _ => .bind (.liftM _) fun _ => .bind (.liftM _) fun _ =>
    moves_commitParticipant _

/-- Nor does a manifest. -/
theorem moves_publishManifest (manifest : PartitionManifest) :
    (publishManifest manifest).Moves Narrows :=
  moves_guarded <| .bind .get fun _ => .bind (.liftM _) fun _ => .bind_liftM fun _ h =>
    .bind (moves_commitManifest h) fun _ => .pure _

/-- The end of an attempt takes one grant away. -/
theorem narrows_resolveAttempt (c : Coordinator) (attempt : TransferAttemptId) :
    Narrows c (c.resolveAttempt attempt) := by
  refine ⟨rfl, fun a grant h => ?_, .inl⟩
  simp only [resolveAttempt, Std.ExtTreeMap.getElem?_erase] at h
  split at h
  · cases h
  · exact h

/-- A reading of pressure neither issues a grant nor ends one. -/
theorem moves_updateCongestion (intent : CongestionIntent) :
    (updateCongestion intent).Moves Narrows := by
  refine moves_guarded <| .bind .get fun _ => .bind (.liftM _) fun _ => .modify fun c => ?_
  unfold recordPressure
  simp only
  split
  · exact .of_eq rfl rfl rfl
  · exact .of_eq rfl rfl rfl

/-- A completion may end its own attempt. -/
theorem moves_commitTransfer (request : CommitRequest) :
    (commitTransfer request).Moves Narrows :=
  moves_guarded <| .bind .get fun _ => .bind (.liftM _) fun _ => .bind (moves_persist _) fun _ =>
    .bind (.liftM _) fun _ => .bind (.modify fun _ => .of_eq rfl rfl rfl) fun _ =>
    .bind (.modify fun c => narrows_resolveAttempt c _) fun _ =>
    .bind moves_noteCompletion fun _ => .bind .get fun _ => .pure _

/-- A failure may end its own attempt. -/
theorem moves_reportFailure (attempt : TransferAttemptId) (code : ErrorCode) :
    (reportFailure attempt code).Moves Narrows :=
  moves_guarded <| .bind .get fun _ => .bind (.liftM _) fun _ => .bind (moves_persist _) fun _ =>
    .bind (moves_applyFailure _) fun _ => .bind (.modify fun c => narrows_resolveAttempt c _) fun _ =>
    .bind moves_noteCompletion fun _ => .pure _

/-! ## What ends an attempt -/

/-- Every statement of a successful guarded sequence. -/
theorem exec_guarded_ok {α : Type} {body : Op α} {c c' : Coordinator} {a : α}
    (h : (guarded body).exec c = (.ok a, c')) :
    ∃ d, body.exec (c.flagged true) = (.ok a, d) ∧ c' = d.flagged false := by
  cases hin : c.inside with
  | true =>
      rw [exec_guarded_inside body hin] at h
      cases h
  | false =>
      rw [exec_guarded body hin] at h
      obtain ⟨h₁, h₂⟩ := Prod.mk.inj h
      exact ⟨_, Prod.ext h₁ rfl, h₂.symm⟩

/-- A successful commit passed every check, and its attempt is gone. -/
theorem commitTransfer_ok {request : CommitRequest} {outcome : CommitOutcome}
    {c c' : Coordinator} (h : (commitTransfer request).exec c = (.ok outcome, c')) :
    c.checkCommit request = .ok () ∧ c'.grants[request.attempt]? = none := by
  obtain ⟨d, hrun, rfl⟩ := exec_guarded_ok h
  rw [exec_bind_of_ok (exec_get _)] at hrun
  obtain ⟨u, s₁, hcheck, hrun⟩ := exec_bind_ok hrun
  obtain ⟨u', s₂, hpersist, hrun⟩ := exec_bind_ok hrun
  obtain ⟨out, s₃, hcommit, hrun⟩ := exec_bind_ok hrun
  rw [exec_bind_of_ok (exec_modify _ _), exec_bind_of_ok (exec_modify _ _)] at hrun
  obtain ⟨u'', s₄, hnote, hrun⟩ := exec_bind_ok hrun
  rw [exec_bind_of_ok (exec_get _), exec_pure] at hrun
  obtain rfl : s₄ = d := congrArg Prod.snd hrun
  refine ⟨congrArg Prod.fst hcheck, ?_⟩
  have hnarrow := moves_noteCompletion (resolveAttempt
    { s₃ with ledger := out.2, commitsApplied := s₃.commitsApplied + 1 } request.attempt)
  rw [hnote] at hnarrow
  show s₄.grants[request.attempt]? = none
  cases hget : s₄.grants[request.attempt]? with
  | none => rfl
  | some grant => simpa [resolveAttempt] using hnarrow.grants _ _ hget

/-- So is the attempt of a successful failure report. -/
theorem reportFailure_ok {attempt : TransferAttemptId} {code : ErrorCode}
    {outcome : FailureOutcome} {c c' : Coordinator}
    (h : (reportFailure attempt code).exec c = (.ok outcome, c')) :
    c'.grants[attempt]? = none := by
  obtain ⟨d, hrun, rfl⟩ := exec_guarded_ok h
  rw [exec_bind_of_ok (exec_get _)] at hrun
  obtain ⟨record, s₁, hcheck, hrun⟩ := exec_bind_ok hrun
  obtain ⟨u, s₂, hpersist, hrun⟩ := exec_bind_ok hrun
  obtain ⟨u', s₃, happly, hrun⟩ := exec_bind_ok hrun
  rw [exec_bind_of_ok (exec_modify _ _)] at hrun
  obtain ⟨u'', s₄, hnote, hrun⟩ := exec_bind_ok hrun
  obtain rfl : s₄ = d := congrArg Prod.snd hrun
  have hnarrow := moves_noteCompletion (s₃.resolveAttempt attempt)
  rw [hnote] at hnarrow
  show s₄.grants[attempt]? = none
  cases hget : s₄.grants[attempt]? with
  | none => rfl
  | some grant => simpa [resolveAttempt] using hnarrow.grants _ _ hget

@[simp] theorem grants_advanceClock (c : Coordinator) (tick : TickId) :
    (c.advanceClock tick).grants = c.grants := by
  unfold advanceClock
  split <;> rfl

/-- Nothing is left of the grants of a shuffle that was cancelled. -/
theorem grants_entered_cancelled {c : Coordinator} {record : ShuffleStateRecord}
    (h : record.state = .cancelled) : (c.entered record).grants = {} := by
  simp [entered, h]

/-- A successful cancellation leaves no grant. -/
theorem cancelShuffle_ok {reason : ErrorCode} {c c' : Coordinator} (hidle : c.Idle → c.grants = {})
    (h : (cancelShuffle reason).exec c = (.ok (), c')) : c'.grants = {} := by
  obtain ⟨d, hrun, rfl⟩ := exec_guarded_ok h
  rw [exec_bind_of_ok (exec_get _)] at hrun
  split at hrun
  · next hcancelled =>
      obtain rfl : c.flagged true = d := congrArg Prod.snd hrun
      exact hidle (.inr (.inl hcancelled))
  · obtain ⟨u, s₁, -, hrun⟩ := exec_bind_ok hrun
    obtain ⟨u', s₂, -, hrun⟩ := exec_bind_ok hrun
    obtain ⟨u'', s₃, -, hrun⟩ := exec_bind_ok hrun
    rw [exec_applyRecord] at hrun
    cases hd : decodeRecord s₃.limits
        (stateRecord (c.flagged true).request .cancelled reason (c.flagged true).clock).encode with
    | error e =>
        rw [hd] at hrun
        cases hrun
    | ok decoded =>
        rw [hd] at hrun
        obtain ⟨-, rfl⟩ := eq_of_decodeRecord
          (r := .shuffleState (stateRecord _ .cancelled reason _)) trivial hd
        obtain ⟨-, rfl⟩ := applyShuffleState_ok hrun
        exact grants_entered_cancelled rfl

/-! ## The history of a grant -/

/-- Did this ask for, and get, the end of the attempt? -/
def Ends (attempt : TransferAttemptId) (e : Event Coordinator Move (Result Reply)) : Prop :=
  (∃ reply, e.output = .ok reply) ∧
    ((∃ request, e.input = .call (.commitTransfer request) ∧ request.attempt = attempt) ∨
      (∃ code, e.input = .call (.reportFailure attempt code)) ∨
      ∃ reason, e.input = .call (.cancelShuffle reason))

/-- The grant was issued under its attempt by a wave of this epoch, and nothing that
happened since ended the attempt or the epoch. -/
def Issued (events : List (Event Coordinator Move (Result Reply))) (epoch : UInt64)
    (attempt : TransferAttemptId) (grant : DispatchGrant) : Prop :=
  ∃ earlier wave later plan, events = earlier ++ wave :: later ∧
    wave.input = .call .nextWave ∧ wave.output = .ok (.wave plan) ∧ grant ∈ plan.grants ∧
    grant.attempt = attempt ∧ wave.after.epoch = epoch ∧
    ∀ e ∈ later, e.after.epoch = epoch ∧ ¬Ends attempt e

/-- A grant that survives a move survives in the history. -/
theorem Issued.snoc {events : List (Event Coordinator Move (Result Reply))} {epoch : UInt64}
    {attempt : TransferAttemptId} {grant : DispatchGrant} (h : Issued events epoch attempt grant)
    {e : Event Coordinator Move (Result Reply)} (hepoch : e.after.epoch = epoch)
    (hends : ¬Ends attempt e) : Issued (events ++ [e]) epoch attempt grant := by
  obtain ⟨earlier, wave, later, plan, rfl, hwave, hplan, hmem, hattempt, hwaveEpoch, hlater⟩ := h
  refine ⟨earlier, wave, later ++ [e], plan, by simp, hwave, hplan, hmem, hattempt, hwaveEpoch, ?_⟩
  intro e' he'
  rcases List.mem_append.mp he' with he' | he'
  · exact hlater e' he'
  · obtain rfl := List.mem_singleton.mp he'
    exact ⟨hepoch, hends⟩

/-- Where the grants of a registry come from, after a move. -/
def Traced (c : Coordinator) (m : Move) : Prop :=
  ((c.move m).2.Idle → (c.move m).2.grants = {}) ∧
    ∀ (attempt : TransferAttemptId) (grant : DispatchGrant),
      (c.move m).2.grants[attempt]? = some grant →
      (c.grants[attempt]? = some grant ∧ (c.move m).2.epoch = c.epoch ∧
        ¬Ends attempt (happen move c m)) ∨
      ∃ plan, m = .call .nextWave ∧ (c.move m).1 = .ok (.wave plan) ∧ grant ∈ plan.grants ∧
        grant.attempt = attempt

/-- Where no grant is left there is nothing to trace. -/
theorem traced_of_empty {c : Coordinator} {m : Move} (h : (c.move m).2.grants = {}) :
    c.Traced m :=
  ⟨fun _ => h, fun attempt grant hget => by simp [h] at hget⟩

/-- A move that issues nothing: a grant behind it was there before, and has not been ended by it. -/
theorem traced_of_narrows {c : Coordinator} (hidle : c.Idle → c.grants = {}) {m : Move}
    (h : Narrows c (c.move m).2)
    (hends : ∀ attempt, Ends attempt (happen move c m) → (c.move m).2.grants[attempt]? = none) :
    c.Traced m := by
  refine ⟨fun hquiet => ?_, fun attempt grant hget => .inl ⟨h.grants _ _ hget, h.epoch, ?_⟩⟩
  · rcases h.idle hquiet with hbefore | hempty
    · exact grants_eq_empty (hidle hbefore) h.grants
    · exact hempty
  · intro hended
    rw [hends attempt hended] at hget
    cases hget

/-- An opening finds no grants, because the coordinator was idle. -/
theorem traced_openShuffle {c : Coordinator} (hidle : c.Idle → c.grants = {})
    (request : ShuffleOpenRequest) : c.Traced (.call (.openShuffle request)) := by
  have hmove : (c.move (.call (.openShuffle request))).2 = ((openShuffle request).exec c).2 :=
    congrArg Prod.snd (exec_map _ _ c)
  by_cases hclosed : c.state = .closed
  · apply traced_of_empty
    rw [hmove]
    exact grants_eq_empty (hidle (.inl hclosed)) (moves_openShuffle request c)
  · apply traced_of_narrows hidle
    · rw [hmove, openShuffle_of_ne_closed request hclosed]
      exact Std.Refl.refl c
    · intro attempt h
      simp [Ends, happen] at h

/-- A wave: a grant behind it was there before, or is one of those that are answered. -/
theorem traced_nextWave {c : Coordinator} (hidle : c.Idle → c.grants = {}) :
    c.Traced (.call .nextWave) := by
  have hmove : c.move (.call .nextWave) =
      ((nextWave.exec c).1.map Reply.wave, (nextWave.exec c).2) := exec_map _ _ c
  have hends : ∀ attempt, Ends attempt (happen move c (.call .nextWave)) →
      (c.move (.call .nextWave)).2.grants[attempt]? = none := by
    intro attempt h
    simp [Ends, happen] at h
  cases hin : c.inside with
  | true =>
      apply traced_of_narrows hidle _ hends
      rw [hmove, nextWave, exec_guarded_inside _ hin]
      exact Std.Refl.refl c
  | false =>
      rcases nextWave_cases hin with ⟨-, h⟩ | ⟨e, h⟩ | ⟨topology, scheduler, e, -, -, -, h⟩ |
        ⟨topology, scheduler, plan, scheduler', hopen, -, -, h⟩
      · apply traced_of_narrows hidle _ hends
        rw [hmove, h]
        exact Std.Refl.refl c
      · apply traced_of_narrows hidle _ hends
        rw [hmove, h]
        exact Std.Refl.refl c
      · apply traced_of_narrows hidle _ hends
        rw [hmove, h]
        exact .of_eq rfl rfl rfl
      · obtain ⟨grants, bytes, hfold, hgrants⟩ := exists_foldl_admitGrant plan.grants
          { c.flagged true with scheduler := scheduler' }
        rw [Traced, hmove, h, hfold]
        have hstate := (ensureOpen_ok hopen).1
        refine ⟨fun hquiet => ?_, fun attempt grant hget => ?_⟩
        · rcases hquiet with hq | hq | hq
          all_goals
            have hq : c.state = _ := hq
            rw [hstate] at hq
            cases hq
        · rcases hgrants attempt grant hget with hold | ⟨hmem, hattempt⟩
          · exact .inl ⟨hold, rfl, fun hended => by simp [Ends, happen] at hended⟩
          · exact .inr ⟨plan, rfl, rfl, hmem, hattempt⟩

/-- Every move leaves a registry whose grants are old ones it did not end, or come from
the plan it returned. -/
theorem traced {c : Coordinator} (hidle : c.Idle → c.grants = {}) (m : Move) : c.Traced m := by
  cases m with
  | recover snapshot journal historyIncomplete =>
      have hmove : (c.move (.recover snapshot journal historyIncomplete)).2 =
          ((recover snapshot journal historyIncomplete).exec c).2 :=
        congrArg Prod.snd (exec_map _ _ c)
      rcases moves_recover snapshot journal historyIncomplete c with h | h
      · exact traced_of_narrows hidle (hmove ▸ h) fun attempt h => by simp [Ends, happen] at h
      · exact traced_of_empty (hmove ▸ h)
  | call call =>
      have hnarrow : ∀ {α : Type} (f : α → Reply) (op : Op α), op.Moves Narrows →
          Narrows c ((f <$> op).exec c).2 := by
        intro α f op h
        rw [exec_map]
        exact h c
      cases call with
      | openShuffle request => exact traced_openShuffle hidle request
      | nextWave => exact traced_nextWave hidle
      | cancelShuffle reason =>
          refine traced_of_narrows hidle (hnarrow _ _ (moves_cancelShuffle reason)) ?_
          rintro attempt ⟨⟨reply, hreply⟩, -⟩
          obtain ⟨u, hexec, -⟩ := exec_of_map_ok hreply
          have hempty := cancelShuffle_ok hidle hexec
          have hmove : (c.move (.call (.cancelShuffle reason))).2 =
              ((cancelShuffle reason).exec c).2 := congrArg Prod.snd (exec_map _ _ c)
          rw [hmove, hempty]
          rfl
      | commitTransfer request =>
          refine traced_of_narrows hidle (hnarrow _ _ (moves_commitTransfer request)) ?_
          rintro attempt ⟨⟨reply, hreply⟩, hcause⟩
          obtain ⟨outcome, hexec, -⟩ := exec_of_map_ok hreply
          obtain rfl : request.attempt = attempt := by simpa [happen] using hcause
          have hmove : (c.move (.call (.commitTransfer request))).2 =
              ((commitTransfer request).exec c).2 := congrArg Prod.snd (exec_map _ _ c)
          rw [hmove]
          exact (commitTransfer_ok hexec).2
      | reportFailure attempt code =>
          refine traced_of_narrows hidle (hnarrow _ _ (moves_reportFailure attempt code)) ?_
          rintro attempt' ⟨⟨reply, hreply⟩, hcause⟩
          obtain ⟨outcome, hexec, -⟩ := exec_of_map_ok hreply
          obtain rfl : attempt = attempt' := by simpa [happen] using hcause
          have hmove : (c.move (.call (.reportFailure attempt code))).2 =
              ((reportFailure attempt code).exec c).2 := congrArg Prod.snd (exec_map _ _ c)
          rw [hmove]
          exact reportFailure_ok hexec
      | advanceTick =>
          exact traced_of_narrows hidle (hnarrow _ _ moves_advanceTick)
            fun attempt h => by simp [Ends, happen] at h
      | registerProducer id incarnation endpoint =>
          exact traced_of_narrows hidle
            (hnarrow _ _ (moves_registerProducer id incarnation endpoint))
            fun attempt h => by simp [Ends, happen] at h
      | registerConsumer id incarnation endpoint selection =>
          exact traced_of_narrows hidle
            (hnarrow _ _ (moves_registerConsumer id incarnation endpoint selection))
            fun attempt h => by simp [Ends, happen] at h
      | setParticipantState kind id incarnation state =>
          exact traced_of_narrows hidle
            (hnarrow _ _ (moves_setParticipantState kind id incarnation state))
            fun attempt h => by simp [Ends, happen] at h
      | publishManifest manifest =>
          exact traced_of_narrows hidle (hnarrow _ _ (moves_publishManifest manifest))
            fun attempt h => by simp [Ends, happen] at h
      | updateCongestion intent =>
          exact traced_of_narrows hidle (hnarrow _ _ (moves_updateCongestion intent))
            fun attempt h => by simp [Ends, happen] at h

/-- Every grant of the registry has its history. -/
theorem issued_of_run {limits : Limits} {sink : Option Sink}
    {events : List (Event Coordinator Move (Result Reply))} {c : Coordinator}
    (run : Run move (make limits sink) events c) :
    (c.Idle → c.grants = {}) ∧
      ∀ (attempt : TransferAttemptId) (grant : DispatchGrant),
        c.grants[attempt]? = some grant → Issued events c.epoch attempt grant := by
  induction run with
  | nil => exact ⟨fun _ => rfl, fun attempt grant h => by simp [make] at h⟩
  | @snoc events c run m ih =>
      obtain ⟨hidle, hissued⟩ := ih
      obtain ⟨hidle', htraced⟩ := traced hidle m
      refine ⟨hidle', fun attempt grant h => ?_⟩
      rcases htraced attempt grant h with ⟨hold, hepoch, hends⟩ | ⟨plan, rfl, hplan, hmem, hattempt⟩
      · rw [hepoch]
        exact (hissued attempt grant hold).snoc hepoch hends
      · exact ⟨events, _, [], plan, rfl, rfl, hplan, hmem, hattempt, rfl, by simp⟩

/-- No completion without authority: a commit that succeeds names a grant that a wave of
this epoch issued and that nothing ended since, and both participants, the ownership and
the accepted manifest still stand behind it. -/
theorem commitTransfer_authorized {limits : Limits} {sink : Option Sink}
    {events : List (Event Coordinator Move (Result Reply))} {c : Coordinator}
    (run : Run move (make limits sink) events c) (request : CommitRequest) {reply : Reply}
    (hcommit : (c.move (.call (.commitTransfer request))).1 = .ok reply) :
    ∃ grant topology manifest consumer producer,
      Issued events c.epoch request.attempt grant ∧
      request.edge.partition = grant.partition ∧
      request.edge.partitionGeneration = grant.partitionGeneration ∧
      request.producer = grant.producer ∧ request.consumer = grant.consumer ∧
      request.edge.consumer = grant.consumer ∧
      request.producerIncarnation = grant.producerIncarnation ∧
      request.consumerIncarnation = grant.consumerIncarnation ∧
      request.manifestDigest = grant.manifestDigest ∧
      c.state = .open ∧ c.topology = some topology ∧
      topology.findConsumer request.consumer = some consumer ∧
      consumer.incarnation = request.consumerIncarnation ∧ consumer.state = .active ∧
      topology.findProducer request.producer = some producer ∧
      producer.incarnation = request.producerIncarnation ∧ producer.state = .active ∧
      topology.ownerOf request.edge.partition = .ok request.producer ∧
      c.manifests[request.edge.partition]? = some manifest ∧
      manifest.partitionGeneration = request.edge.partitionGeneration ∧
      computeManifestDigest manifest = request.manifestDigest ∧
      request.bytes = manifest.totalBytes ∧
      request.observedChunkDigests = manifest.chunks.map (·.digest) ∧
      (request.observedPartitionDigest = computeManifestDigest manifest ∨
        request.observedPartitionDigest = computePartitionDigest manifest) := by
  obtain ⟨outcome, hexec, -⟩ := exec_of_map_ok hcommit
  obtain ⟨grant, topology, manifest, hgrant, hopen, hcheck, hconsumer, hproducer, hmanifest,
    hgeneration, hevidence, -⟩ := checkCommit_ok (commitTransfer_ok hexec).1
  obtain ⟨hstate, htopology⟩ := ensureOpen_ok hopen
  obtain ⟨-, hpartition, hgen, hcons, hedge, hprod, hprodInc, hconsInc, hdigest⟩ :=
    checkGrant_ok hcheck
  obtain ⟨consumer, hfindConsumer, hconsumerInc, hconsumerState⟩ := checkConsumer_ok hconsumer
  obtain ⟨howner, producer, hfindProducer, hproducerInc, hproducerState⟩ :=
    checkProducer_ok hproducer
  obtain ⟨hmanifestDigest, hobserved, hbytes, hchunks⟩ := checkEvidence_ok hevidence
  exact ⟨grant, topology, manifest, consumer, producer, (issued_of_run run).2 _ _ hgrant,
    hpartition, hgen, hprod, hcons, hedge, hprodInc, hconsInc, hdigest, hstate, htopology,
    hfindConsumer, hconsumerInc, hconsumerState, hfindProducer, hproducerInc, hproducerState,
    howner, hmanifest, hgeneration, hmanifestDigest.symm, hbytes, hchunks, hobserved⟩

/-- The transfer of the small shuffle is committed under the grant of its first wave. -/
theorem commitTransfer_authorized_small :
    ∃ grant, Issued (record move (make {} (some acceptAll)) (smallCalls.map .call))
      (final move (make {} (some acceptAll)) (smallCalls.map .call)).epoch 1 grant := by
  obtain ⟨outcome, hcommit⟩ : ∃ outcome, ((final move (make {} (some acceptAll))
      (smallCalls.map .call)).move
        (.call (.commitTransfer (smallCommit (smallManifest 0 1 2) 1 2)))).1 =
        .ok (.committed outcome) :=
    Reply.isCommitted_iff.mp (by decide +kernel)
  obtain ⟨grant, -, -, -, -, h, -⟩ :=
    commitTransfer_authorized (Run.of_inputs move _ (smallCalls.map .call)) _ hcommit
  exact ⟨grant, h⟩

end Coordinator

end ShuffleFabric
