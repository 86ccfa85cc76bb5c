import ShuffleFabric.Authority
import ShuffleFabric.Membership

/-!
# ShuffleFabric.Transition

What one call can do.

`Transition` lists, constructor by constructor, every way a public operation ends: the
answer it gives and the state it leaves.  `perform_transition` is the only place where
the operations are unfolded for this; every invariant of the coordinator is then a case
analysis over the constructors.
-/

namespace ShuffleFabric

open Lib Action

namespace Coordinator

/-! ## Records on their way -/

/-- Does a record become durable, and can it be read back? -/
def storeAnswer (c : Coordinator) (r : DurableRecord) : Status := do
  c.sinkAnswer r.encode
  let _ ← decodeRecord c.limits r.encode
  pure ()

/-- A record that is stored was taken by the sink, and reads back. -/
theorem storeAnswer_ok {c : Coordinator} {r : DurableRecord} (hr : Measured r)
    (h : c.storeAnswer r = .ok ()) : c.sinkAnswer r.encode = .ok () ∧ Decodable c.limits r := by
  simp only [storeAnswer, bind_eq_ok] at h
  obtain ⟨u, hsink, d, hdecode, -⟩ := h
  exact ⟨hsink, (eq_of_decodeRecord hr hdecode).1⟩

/-- A record is handed to the sink, read back and applied. -/
theorem exec_commitRecord_encode (c : Coordinator) {r : DurableRecord} (hr : Measured r) :
    (commitRecord r.encode).exec c =
      match c.storeAnswer r with
      | .error e => (.error e, c.persisted r.encode)
      | .ok () => (applyDecoded r).exec (c.persisted r.encode) := by
  rw [exec_commitRecord]
  unfold storeAnswer
  cases hsink : c.sinkAnswer r.encode with
  | error e => rfl
  | ok u =>
      simp only [bind, Except.bind, exec_applyRecord]
      have hlimits : (c.persisted r.encode).limits = c.limits := rfl
      rw [hlimits]
      cases hdecode : decodeRecord c.limits r.encode with
      | error e => rfl
      | ok d =>
          obtain ⟨-, rfl⟩ := eq_of_decodeRecord hr hdecode
          rfl

/-! ## Effects -/

/-- What an epoch record does. -/
def epochAdvanced (c : Coordinator) (record : EpochRecord) : Coordinator :=
  (if record.epoch > c.epoch then { c with epoch := record.epoch } else c).advanceClock
    record.openedAt

/-- The topology once a participant record was applied to it. -/
def place (t : Topology) (record : ParticipantRecord) : Result Topology := do
  let registered ← registerFrom t record
  if record.state = .active then pure registered else setStateFrom registered record

/-- A record of an active participant is placed by registering it. -/
theorem place_of_active {t t' : Topology} {record : ParticipantRecord}
    (hactive : record.state = .active) (h : registerFrom t record = .ok t') :
    place t record = .ok t' := by
  simp only [place, h, bind, Except.bind, if_pos hactive]
  rfl

/-- What a participant record does that turns one topology into another. -/
def joinedBy (c : Coordinator) (t t' : Topology) (record : ParticipantRecord) : Coordinator :=
  let c := { c with topology := some t' }
  let c :=
    match previousIncarnation t record with
    | some previous =>
      if previous ≠ record.incarnation then c.revalidate record.kind record.id else c
    | none => c
  c.advanceClock record.atTick

/-- What is left of a participant record once its participant is registered. -/
theorem exec_applyState {c : Coordinator} {registered t' : Topology} {record : ParticipantRecord}
    (h : (if record.state = .active then pure registered else setStateFrom registered record :
      Result Topology) = .ok t') :
    (applyState registered record).exec { c with topology := some registered } =
      (.ok (), { c with topology := some t' }) := by
  unfold applyState
  by_cases hactive : record.state = .active
  · rw [if_pos hactive] at h ⊢
    cases h
    rfl
  · rw [if_neg hactive] at h ⊢
    rw [h]
    rfl

/-- A participant record that can be placed is applied. -/
theorem exec_applyParticipant {c : Coordinator} {t t' : Topology} {record : ParticipantRecord}
    (ht : c.topology = some t) (hplace : place t record = .ok t') :
    (applyParticipant record).exec c = (.ok (), c.joinedBy t t' record) := by
  obtain ⟨registered, hregister, hplace⟩ := bind_eq_ok.mp hplace
  rw [applyParticipant, exec_bind_of_ok (exec_get c), ht]
  simp only
  rw [exec_bind_of_ok ((exec_liftM _ c).trans (by rw [hregister])),
    exec_bind_of_ok (exec_modify _ _), exec_bind_of_ok (exec_applyState hplace)]
  rfl

/-- A participant record that is applied was placed. -/
theorem applyParticipant_ok {c c' : Coordinator} {record : ParticipantRecord}
    (h : (applyParticipant record).exec c = (.ok (), c')) :
    ∃ t t', c.topology = some t ∧ place t record = .ok t' ∧ c' = c.joinedBy t t' record := by
  cases ht : c.topology with
  | none =>
      rw [applyParticipant, exec_bind_of_ok (exec_get c), ht] at h
      cases h
  | some t =>
      have hrun := h
      rw [applyParticipant, exec_bind_of_ok (exec_get c), ht] at hrun
      obtain ⟨registered, s, hlift, hrun⟩ := exec_bind_ok hrun
      have hregister : registerFrom t record = .ok registered := congrArg Prod.fst hlift
      rw [exec_bind_of_ok (exec_modify _ _)] at hrun
      obtain ⟨u, s', happly, -⟩ := exec_bind_ok hrun
      obtain ⟨t', hplace⟩ : ∃ t', place t record = .ok t' := by
        simp only [place, hregister, bind, Except.bind]
        unfold applyState at happly
        by_cases hactive : record.state = .active
        · rw [if_pos hactive]
          exact ⟨registered, rfl⟩
        · rw [if_neg hactive] at happly ⊢
          obtain ⟨t', s'', hset, -⟩ := exec_bind_ok happly
          exact ⟨t', congrArg Prod.fst hset⟩
      rw [exec_applyParticipant ht hplace] at h
      exact ⟨t, t', rfl, hplace, (congrArg Prod.snd h).symm⟩

/-- What an accepted manifest does besides retiring the previous generation. -/
def manifested (c : Coordinator) (manifest : PartitionManifest) (ledger : CompletionLedger) :
    Coordinator :=
  { c with
    manifests := c.manifests.insert manifest.partition manifest
    facts := c.facts.insert manifest.partition (factsOf manifest)
    ledger }

/-- What a completion does to the ledger and its counter. -/
def credited (c : Coordinator) (ledger : CompletionLedger) : Coordinator :=
  { c with ledger, commitsApplied := c.commitsApplied + 1 }

/-- What a failure does to the ledger and its counter. -/
def charged (c : Coordinator) (ledger : CompletionLedger) (readyAt : TickId) : Coordinator :=
  ({ c with ledger, failuresApplied := c.failuresApplied + 1 } : Coordinator).advanceClock readyAt

/-! ## Effects, field by field -/

/-- The clock after it was shown a tick. -/
def clockAfter (c : Coordinator) (tick : TickId) : TickId := if tick > c.clock then tick else c.clock

/-- The clock only goes forward, and nothing else moves with it. -/
theorem advanceClock_eq (c : Coordinator) (tick : TickId) :
    c.advanceClock tick = { c with clock := c.clockAfter tick } := by
  unfold advanceClock clockAfter
  split <;> rfl

/-- So does the epoch, and the clock with it. -/
theorem epochAdvanced_eq (c : Coordinator) (record : EpochRecord) :
    c.epochAdvanced record = { c with
      epoch := if record.epoch > c.epoch then record.epoch else c.epoch
      clock := c.clockAfter record.openedAt } := by
  unfold epochAdvanced
  rw [advanceClock_eq]
  split <;> rfl

/-- The fields a lifecycle record sets. -/
theorem entered_eq (c : Coordinator) (record : ShuffleStateRecord) :
    c.entered record = { c with
      state := record.state
      reason := record.reason
      request := if record.state = .open then (c.openFrom record).request else c.request
      topology := if record.state = .open then (c.openFrom record).topology else c.topology
      ledger := if record.state = .open then (c.openFrom record).ledger else c.ledger
      scheduler := if record.state = .cancelled ∨ record.state = .cancelling then
        c.scheduler.abandonAll else c.scheduler
      grants := if record.state = .cancelled ∨ record.state = .cancelling then {} else c.grants
      clock := c.clockAfter record.atTick } := by
  unfold entered
  simp only [advanceClock_eq]
  by_cases hopen : record.state = .open
  · simp only [hopen, if_true, reduceCtorEq, or_self, if_false]
    rfl
  · simp only [hopen, if_false]
    split <;> rfl

/-- A participant record touches the topology, what is left to revalidate, and the clock. -/
theorem joinedBy_eq (c : Coordinator) (t t' : Topology) (record : ParticipantRecord) :
    ∃ producers consumers pending, c.joinedBy t t' record = { c with
      topology := some t', unrevalidatedProducers := producers, unrevalidatedConsumers := consumers
      pendingRevalidation := pending, clock := c.clockAfter record.atTick } := by
  unfold joinedBy
  simp only [advanceClock_eq]
  split
  · split
    · unfold revalidate
      simp only
      split <;> split <;> exact ⟨_, _, _, rfl⟩
    · exact ⟨_, _, _, rfl⟩
  · exact ⟨_, _, _, rfl⟩

/-- The topology behind a participant record is the one it was placed in. -/
theorem topology_joinedBy (c : Coordinator) (t t' : Topology) (record : ParticipantRecord) :
    (c.joinedBy t t' record).topology = some t' := by
  obtain ⟨producers, consumers, pending, heq⟩ := c.joinedBy_eq t t' record
  rw [heq]

/-! ## Effects and the guard -/

/-- The guard is set, whatever it was. -/
theorem flagged_flagged (c : Coordinator) (inside inside' : Bool) :
    (c.flagged inside).flagged inside' = c.flagged inside' := rfl

/-- Outside of a call the guard is not set. -/
theorem flagged_eq_self {c : Coordinator} (h : c.inside = false) : c.flagged false = c := by
  cases c
  simp only at h
  subst h
  rfl

/-- The effects of the calls do not look at the guard: this and the next lemmas pass it along. -/
theorem flagged_persisted (c : Coordinator) (inside : Bool) (record : Bytes) :
    (c.flagged inside).persisted record = (c.persisted record).flagged inside := rfl

/-- The clock moves with the guard set as without it. -/
theorem flagged_advanceClock (c : Coordinator) (inside : Bool) (tick : TickId) :
    (c.flagged inside).advanceClock tick = (c.advanceClock tick).flagged inside := by
  unfold advanceClock
  show (if tick > c.clock then _ else _) = _
  split <;> rfl

/-- The epoch moves with the guard set as without it. -/
theorem flagged_epochAdvanced (c : Coordinator) (inside : Bool) (record : EpochRecord) :
    (c.flagged inside).epochAdvanced record = (c.epochAdvanced record).flagged inside := by
  unfold epochAdvanced
  rw [← flagged_advanceClock]
  congr 1
  show (if record.epoch > c.epoch then _ else _) = _
  split <;> rfl

/-- A lifecycle record is entered with the guard set as without it. -/
theorem flagged_entered (c : Coordinator) (inside : Bool) (record : ShuffleStateRecord) :
    (c.flagged inside).entered record = (c.entered record).flagged inside := by
  unfold entered
  simp only
  rw [← flagged_advanceClock]
  congr 1
  by_cases hopen : record.state = .open
  · simp only [hopen, if_true]
    rfl
  · simp only [hopen, if_false]
    split <;> rfl

/-- A participant joins with the guard set as without it. -/
theorem flagged_joinedBy (c : Coordinator) (inside : Bool) (t t' : Topology)
    (record : ParticipantRecord) :
    (c.flagged inside).joinedBy t t' record = (c.joinedBy t t' record).flagged inside := by
  unfold joinedBy
  simp only
  rw [← flagged_advanceClock]
  congr 1
  cases previousIncarnation t record with
  | none => rfl
  | some previous =>
      simp only
      split
      · unfold revalidate
        simp only
        cases record.kind with
        | producer =>
            simp only
            show (if record.id ∈ c.unrevalidatedProducers then _ else _) = _
            split <;> rfl
        | consumer =>
            simp only
            show (if record.id ∈ c.unrevalidatedConsumers then _ else _) = _
            split <;> rfl
      · rfl

/-- A failure is charged with the guard set as without it. -/
theorem flagged_charged (c : Coordinator) (inside : Bool) (ledger : CompletionLedger)
    (readyAt : TickId) :
    (c.flagged inside).charged ledger readyAt = (c.charged ledger readyAt).flagged inside :=
  flagged_advanceClock { c with ledger, failuresApplied := c.failuresApplied + 1 } inside readyAt

/-! ## Every way a call ends -/

/-- The record a registration makes durable. -/
def registration (c : Coordinator) : Call → Option ParticipantRecord
  | .registerProducer id incarnation endpoint => some {
      kind := .producer, id, incarnation, state := .active, endpoint, atTick := c.clock }
  | .registerConsumer id incarnation endpoint selection => some {
      kind := .consumer, id, incarnation, state := .active, endpoint, selection
      atTick := c.clock }
  | _ => none

/-- A registration is for a participant that is active. -/
theorem active_of_registration {c : Coordinator} {call : Call} {record : ParticipantRecord}
    (h : c.registration call = some record) : record.state = .active := by
  unfold registration at h
  split at h <;> cases h <;> rfl

/-- The record a state change makes durable. -/
def stateChange (c : Coordinator) (t : Topology) (kind : ParticipantKind) (id : UInt64)
    (incarnation : IncarnationId) (state : ParticipantState) : ParticipantRecord where
  kind := kind
  id := id
  incarnation := incarnation
  state := state
  endpoint := (registeredAs t kind id).1
  selection := (registeredAs t kind id).2
  atTick := c.clock

/-- The record of the next epoch. -/
def nextEpoch (c : Coordinator) : EpochRecord := { epoch := c.epoch + 1, openedAt := c.clock }

/-- The first record a call makes durable. -/
def writes (c : Coordinator) : Call → Option DurableRecord
  | .openShuffle _ => some (.epochAdvanced c.nextEpoch)
  | .cancelShuffle reason =>
    some (.shuffleState (stateRecord c.request .cancelled reason c.clock))
  | .registerProducer id incarnation endpoint =>
    (c.registration (.registerProducer id incarnation endpoint)).map .participant
  | .registerConsumer id incarnation endpoint selection =>
    (c.registration (.registerConsumer id incarnation endpoint selection)).map .participant
  | .setParticipantState kind id incarnation state =>
    c.topology.map fun t => .participant (c.stateChange t kind id incarnation state)
  | .publishManifest manifest =>
    c.topology.map fun t => .manifest ⟨{ manifest with topologyGeneration := t.generation }⟩
  | .commitTransfer request => some (.commit { request, atTick := c.clock })
  | .reportFailure attempt code =>
    (c.grants[attempt]?).map fun grant => .failure (c.failureRecordFor grant code)
  | .advanceTick | .nextWave | .updateCongestion _ => none

/-- The epoch record of `open_shuffle` has been applied. -/
def opening (c : Coordinator) : Coordinator :=
  (c.persisted (DurableRecord.epochAdvanced c.nextEpoch).encode).epochAdvanced c.nextEpoch

/-- The record that declares the shuffle complete. -/
def completion (c : Coordinator) : ShuffleStateRecord :=
  stateRecord c.request .completed .ok c.clock

/-- The ways `note_completion` ends. -/
inductive Noted (c : Coordinator) : Coordinator → Prop
  | incomplete : Noted c c
  | unstored (e : Error) (t : Topology) (required : UInt64) (topology : c.topology = some t)
      (planned : t.plannedEdgeCount = .ok required)
      (resolved : required ≤ c.ledger.completedEdges + c.ledger.permanentFailures)
      (answer : c.storeAnswer (.shuffleState c.completion) = .error e) :
      Noted c (c.persisted (DurableRecord.shuffleState c.completion).encode)
  | completed (t : Topology) (required : UInt64) (topology : c.topology = some t)
      (planned : t.plannedEdgeCount = .ok required)
      (resolved : required ≤ c.ledger.completedEdges + c.ledger.permanentFailures)
      (answer : c.storeAnswer (.shuffleState c.completion) = .ok ()) :
      Noted c ((c.persisted (DurableRecord.shuffleState c.completion).encode).entered c.completion)

/-- Every way a call ends: its answer, and the state behind it. -/
inductive Transition (c : Coordinator) : Call → Result Reply → Coordinator → Prop
  /-- A check refused, and nothing changed. -/
  | refused (call : Call) (e : Error) : Transition c call (.error e) c
  /-- The sink refused the record, or accepted one that cannot be read back. -/
  | unstored (call : Call) (r : DurableRecord) (e : Error) (writes : c.writes call = some r)
      (answer : c.storeAnswer r = .error e) :
      Transition c call (.error e) (c.persisted r.encode)
  | halfOpened (request : ShuffleOpenRequest) (e : Error) (check : c.checkOpen request = .ok ())
      (epoch : c.storeAnswer (.epochAdvanced c.nextEpoch) = .ok ())
      (answer : c.opening.storeAnswer
        (.shuffleState (stateRecord request .open .ok c.opening.clock)) = .error e) :
      Transition c (.openShuffle request) (.error e) (c.opening.persisted
        (DurableRecord.shuffleState (stateRecord request .open .ok c.opening.clock)).encode)
  | opened (request : ShuffleOpenRequest) (check : c.checkOpen request = .ok ())
      (epoch : c.storeAnswer (.epochAdvanced c.nextEpoch) = .ok ())
      (answer : c.opening.storeAnswer
        (.shuffleState (stateRecord request .open .ok c.opening.clock)) = .ok ()) :
      Transition c (.openShuffle request) (.ok .done) ((c.opening.persisted
        (DurableRecord.shuffleState (stateRecord request .open .ok c.opening.clock)).encode).entered
        (stateRecord request .open .ok c.opening.clock))
  | cancelledBefore (reason : ErrorCode) (state : c.state = .cancelled) :
      Transition c (.cancelShuffle reason) (.ok .done) c
  | cancelled (reason : ErrorCode) (state : c.state = .open) (given : reason ≠ .ok)
      (answer : c.storeAnswer (.shuffleState (stateRecord c.request .cancelled reason c.clock)) =
        .ok ()) :
      Transition c (.cancelShuffle reason) (.ok .done)
        ((c.persisted (DurableRecord.shuffleState
          (stateRecord c.request .cancelled reason c.clock)).encode).entered
          (stateRecord c.request .cancelled reason c.clock))
  | ticked : Transition c .advanceTick (.ok (.ticked (c.clock + 1))) { c with clock := c.clock + 1 }
  | registered (call : Call) (record : ParticipantRecord) (t t' : Topology)
      (registration : c.registration call = some record) (open_ : c.ensureOpen = .ok t)
      (answer : c.storeAnswer (.participant record) = .ok ())
      (register : registerFrom t record = .ok t') :
      Transition c call (.ok (.registered ⟨t'.generation, record.incarnation,
          (previousIncarnation t record).any (· ≠ record.incarnation)⟩))
        ((c.persisted (DurableRecord.participant record).encode).joinedBy t t' record)
  | stateSet (kind : ParticipantKind) (id : UInt64) (incarnation : IncarnationId)
      (state : ParticipantState) (t t' : Topology) (open_ : c.ensureOpen = .ok t)
      (check : t.checkParticipantState kind id incarnation = .ok ())
      (answer : c.storeAnswer (.participant (c.stateChange t kind id incarnation state)) = .ok ())
      (placed : place t (c.stateChange t kind id incarnation state) = .ok t') :
      Transition c (.setParticipantState kind id incarnation state) (.ok .done)
        ((c.persisted (DurableRecord.participant
          (c.stateChange t kind id incarnation state)).encode).joinedBy t t'
          (c.stateChange t kind id incarnation state))
  | published (manifest accepted : PartitionManifest) (ledger : CompletionLedger)
      (check : c.checkPublish manifest = .ok accepted)
      (answer : c.storeAnswer (.manifest ⟨accepted⟩) = .ok ())
      (retired : c.ledger.retireGeneration accepted.partition accepted.partitionGeneration =
        .ok ledger) :
      Transition c (.publishManifest manifest)
        (.ok (.accepted ⟨computeManifestDigest accepted, accepted.partitionGeneration⟩))
        ((c.persisted (DurableRecord.manifest ⟨accepted⟩).encode).manifested accepted ledger)
  /-- Only in a coordinator whose ledger is bound to fewer partitions than its shuffle. -/
  | unretired (manifest accepted : PartitionManifest) (e : Error)
      (check : c.checkPublish manifest = .ok accepted)
      (answer : c.storeAnswer (.manifest ⟨accepted⟩) = .ok ())
      (retired : c.ledger.retireGeneration accepted.partition accepted.partitionGeneration =
        .error e) :
      Transition c (.publishManifest manifest) (.error e)
        ((c.persisted (DurableRecord.manifest ⟨accepted⟩).encode).manifested accepted c.ledger)
  | nothingLeft (state : c.state = .completed) :
      Transition c .nextWave (.ok (.wave { allResolved := true })) c
  | unplanned (t : Topology) (scheduler : WaveScheduler) (e : Error) (open_ : c.ensureOpen = .ok t)
      (configured : c.ensureScheduler t = .ok scheduler)
      (wave : scheduler.nextWave (c.environment t) = .error e) :
      Transition c .nextWave (.error e) { c with scheduler }
  | planned (t : Topology) (scheduler scheduler' : WaveScheduler) (plan : WavePlan)
      (open_ : c.ensureOpen = .ok t) (configured : c.ensureScheduler t = .ok scheduler)
      (wave : scheduler.nextWave (c.environment t) = .ok (plan, scheduler')) :
      Transition c .nextWave (.ok (.wave plan))
        (plan.grants.foldl admitGrant { c with scheduler := scheduler' })
  | committed (request : CommitRequest) (receipt : CommitReceipt) (ledger : CompletionLedger)
      (c' : Coordinator) (check : c.checkCommit request = .ok ())
      (sink : c.sinkAnswer (DurableRecord.commit ⟨request, c.clock⟩).encode = .ok ())
      (commit : c.ledger.commit request c.clock = .ok (receipt, ledger))
      (noted : Noted (((c.persisted (DurableRecord.commit ⟨request, c.clock⟩).encode).credited
        ledger).resolveAttempt request.attempt) c') :
      Transition c (.commitTransfer request)
        (.ok (.committed ⟨receipt, c'.state = .completed⟩)) c'
  | failed (attempt : TransferAttemptId) (code : ErrorCode) (record : FailureRecordDurable)
      (ledger : CompletionLedger) (c' : Coordinator)
      (check : c.checkFailure attempt code = .ok record)
      (sink : c.sinkAnswer (DurableRecord.failure record).encode = .ok ())
      (failure : c.ledger.recordFailure (ledgerFailure record) = .ok ledger)
      (noted : Noted (((c.persisted (DurableRecord.failure record).encode).charged
        ledger record.readyAt).resolveAttempt attempt) c') :
      Transition c (.reportFailure attempt code)
        (.ok (.failed ⟨record.permanent, record.attempts, record.readyAt⟩)) c'
  | pressured (intent : CongestionIntent) (check : c.checkCongestion intent = .ok ()) :
      Transition c (.updateCongestion intent) (.ok .done) (c.recordPressure intent)

/-! ## There is no other way -/

/-- A guarded call whose body has an effect that does not look at the guard. -/
theorem exec_guarded_effect {α : Type} {body : Op α} {c : Coordinator} {r : Result α}
    {g : Coordinator → Coordinator} (hin : c.inside = false)
    (hg : ∀ inside, g (c.flagged inside) = (g c).flagged inside)
    (hbody : body.exec (c.flagged true) = (r, g (c.flagged true))) :
    (guarded body).exec c = (r, g c) := by
  have hclear : (g c).flagged false = g c := by
    rw [← hg false, flagged_eq_self hin]
  rw [exec_guarded _ hin, hbody, hg true, flagged_flagged, hclear]

/-- A call whose body succeeds and has such an effect. -/
theorem perform_of_ok {α : Type} {f : α → Reply} {body : Op α} {c : Coordinator} {a : α}
    {g : Coordinator → Coordinator} (hin : c.inside = false)
    (hg : ∀ inside, g (c.flagged inside) = (g c).flagged inside)
    (hbody : body.exec (c.flagged true) = (.ok a, g (c.flagged true))) :
    (f <$> guarded body).exec c = (.ok (f a), g c) := by
  rw [exec_map, exec_guarded_effect hin hg hbody]
  rfl

/-- A call whose body fails, with the effect it had until then. -/
theorem perform_of_error {α : Type} {f : α → Reply} {body : Op α} {c : Coordinator} {e : Error}
    {g : Coordinator → Coordinator} (hin : c.inside = false)
    (hg : ∀ inside, g (c.flagged inside) = (g c).flagged inside)
    (hbody : body.exec (c.flagged true) = (.error e, g (c.flagged true))) :
    (f <$> guarded body).exec c = (.error e, g c) := by
  rw [exec_map, exec_guarded_effect hin hg hbody]
  rfl

/-- A call that is refused before it has any effect. -/
theorem perform_of_refusal {α : Type} {f : α → Reply} {body : Op α} {c : Coordinator} {e : Error}
    (hin : c.inside = false) (hbody : body.exec (c.flagged true) = (.error e, c.flagged true)) :
    (f <$> guarded body).exec c = (.error e, c) :=
  perform_of_error (g := id) hin (fun _ => rfl) hbody

/-- A record that the sink refuses is not stored. -/
theorem storeAnswer_of_sink {c : Coordinator} {r : DurableRecord} {e : Error}
    (h : c.sinkAnswer r.encode = .error e) : c.storeAnswer r = .error e := by
  simp only [storeAnswer, h]
  rfl

/-- An epoch is opened with the guard set as without it. -/
theorem flagged_opening (c : Coordinator) (inside : Bool) :
    (c.flagged inside).opening = c.opening.flagged inside :=
  flagged_epochAdvanced (c.persisted (DurableRecord.epochAdvanced c.nextEpoch).encode) inside _

/-- A new epoch is entered once its record is durable. -/
theorem exec_persistEpoch (c : Coordinator) :
    persistEpoch.exec c =
      match c.storeAnswer (.epochAdvanced c.nextEpoch) with
      | .error e => (.error e, c.persisted (DurableRecord.epochAdvanced c.nextEpoch).encode)
      | .ok () => (.ok (), c.opening) := by
  rw [persistEpoch, exec_bind_of_ok (exec_get _)]
  exact exec_commitRecord_encode c (r := .epochAdvanced c.nextEpoch) trivial

/-- A lifecycle record that fits is entered once it is durable. -/
theorem exec_commitState {c : Coordinator} {record : ShuffleStateRecord} (h : ¬c.Misfits record) :
    (commitRecord record.encode).exec c =
      match c.storeAnswer (.shuffleState record) with
      | .error e => (.error e, c.persisted (DurableRecord.shuffleState record).encode)
      | .ok () =>
        (.ok (), (c.persisted (DurableRecord.shuffleState record).encode).entered record) := by
  refine (exec_commitRecord_encode c (r := .shuffleState record) trivial).trans ?_
  cases c.storeAnswer (.shuffleState record) with
  | error e => rfl
  | ok u => exact exec_applyShuffleState h

/-- Every lifecycle record fits the coordinator that `open_shuffle` lets through. -/
theorem opening_fits {c : Coordinator} {request : ShuffleOpenRequest}
    (hcheck : c.checkOpen request = .ok ()) {record : ShuffleStateRecord} (inside : Bool) :
    ¬(c.opening.flagged inside).Misfits record := by
  have hclosed : c.state = .closed := by
    simp only [checkOpen, bind_eq_ok, refuseIf_eq_ok, not_not, exists_const] at hcheck
    exact hcheck.1
  have hstate : (c.opening.flagged inside).state = .closed := by
    show c.opening.state = .closed
    rw [opening, epochAdvanced_eq]
    exact hclosed
  simp [Misfits, hstate]

/-- `open_shuffle` behind its check: the epoch record, and then the lifecycle record. -/
theorem exec_openShuffle {c : Coordinator} {request : ShuffleOpenRequest}
    (hcheck : c.checkOpen request = .ok ()) :
    (do
      liftM ((← get).checkOpen request)
      persistEpoch
      commitRecord (stateRecord request .open .ok (← get).clock).encode : Op Unit).exec
        (c.flagged true) =
      match c.storeAnswer (.epochAdvanced c.nextEpoch) with
      | .error e => (.error e,
          (c.persisted (DurableRecord.epochAdvanced c.nextEpoch).encode).flagged true)
      | .ok () => (commitRecord (stateRecord request .open .ok c.opening.clock).encode).exec
          (c.opening.flagged true) := by
  have hsame : (c.flagged true).checkOpen request = .ok () := hcheck
  have hepoch := exec_persistEpoch (c.flagged true)
  rw [exec_bind_of_ok (exec_get _), hsame, exec_bind_of_ok (exec_liftM _ _)]
  rw [show (c.flagged true).storeAnswer (.epochAdvanced (c.flagged true).nextEpoch) =
    c.storeAnswer (.epochAdvanced c.nextEpoch) from rfl] at hepoch
  cases hanswer : c.storeAnswer (.epochAdvanced c.nextEpoch) with
  | error e =>
      rw [hanswer] at hepoch
      exact exec_bind_of_error hepoch
  | ok u =>
      rw [hanswer, flagged_opening] at hepoch
      exact (exec_bind_of_ok hepoch).trans
        (exec_bind_of_ok (a := c.opening.flagged true) (exec_get _))

/-- `open_shuffle`: refused by its check, by the sink at the first record or at the second, or
done. -/
theorem transition_openShuffle {c : Coordinator} (hin : c.inside = false)
    (request : ShuffleOpenRequest) :
    Transition c (.openShuffle request) (c.perform (.openShuffle request)).1
      (c.perform (.openShuffle request)).2 := by
  cases hcheck : c.checkOpen request with
  | error e =>
      have hrun : c.perform (.openShuffle request) = (.error e, c) := by
        have hsame : (c.flagged true).checkOpen request = .error e := hcheck
        refine perform_of_refusal hin ?_
        rw [exec_bind_of_ok (exec_get _), hsame]
        rfl
      rw [hrun]
      exact .refused _ e
  | ok u =>
      have hbody := exec_openShuffle hcheck
      cases hanswer : c.storeAnswer (.epochAdvanced c.nextEpoch) with
      | error e =>
          rw [hanswer] at hbody
          have hrun : c.perform (.openShuffle request) =
              (.error e, c.persisted (DurableRecord.epochAdvanced c.nextEpoch).encode) :=
            perform_of_error (g := fun d => d.persisted
              (DurableRecord.epochAdvanced c.nextEpoch).encode) hin (fun _ => rfl) hbody
          rw [hrun]
          exact .unstored _ _ e rfl hanswer
      | ok u' =>
          let record := stateRecord request .open .ok c.opening.clock
          have hfits : ¬(c.opening.flagged true).Misfits record := opening_fits hcheck true
          have hcommit := exec_commitState hfits
          rw [show (c.opening.flagged true).storeAnswer (.shuffleState record) =
            c.opening.storeAnswer (.shuffleState record) from rfl] at hcommit
          rw [hanswer] at hbody
          cases hstored : c.opening.storeAnswer (.shuffleState record) with
          | error e =>
              rw [hstored] at hcommit
              have hrun : c.perform (.openShuffle request) =
                  (.error e, c.opening.persisted (DurableRecord.shuffleState record).encode) := by
                refine perform_of_error (g := fun d => d.opening.persisted
                  (DurableRecord.shuffleState record).encode) hin
                  (fun inside => congrArg (persisted · _) (flagged_opening c inside)) ?_
                rw [flagged_opening]
                exact hbody.trans hcommit
              rw [hrun]
              exact .halfOpened request e hcheck hanswer hstored
          | ok u'' =>
              rw [hstored] at hcommit
              have hrun : c.perform (.openShuffle request) = (.ok .done, (c.opening.persisted
                  (DurableRecord.shuffleState record).encode).entered record) := by
                refine perform_of_ok (a := ()) (g := fun d => (d.opening.persisted
                  (DurableRecord.shuffleState record).encode).entered record) hin (fun inside => ?_) ?_
                · rw [flagged_opening, flagged_persisted, flagged_entered]
                · rw [flagged_opening]
                  exact hbody.trans hcommit
              rw [hrun]
              exact .opened request hcheck hanswer hstored

/-- `cancel_shuffle`: a shuffle that is cancelled already is left alone. -/
theorem transition_cancelShuffle {c : Coordinator} (hin : c.inside = false) (reason : ErrorCode) :
    Transition c (.cancelShuffle reason) (c.perform (.cancelShuffle reason)).1
      (c.perform (.cancelShuffle reason)).2 := by
  let record := stateRecord c.request .cancelled reason c.clock
  by_cases hcancelled : c.state = .cancelled
  · have hrun : c.perform (.cancelShuffle reason) = (.ok .done, c) := by
      refine perform_of_ok (a := ()) (g := id) hin (fun _ => rfl) ?_
      rw [exec_bind_of_ok (exec_get _), if_pos (show (c.flagged true).state = _ from hcancelled)]
      rfl
    rw [hrun]
    exact .cancelledBefore reason hcancelled
  by_cases hopen : c.state = .open
  · have hopen' : ¬(c.flagged true).state ≠ .open := not_not.mpr hopen
    by_cases hreason : reason = .ok
    · have hrun : c.perform (.cancelShuffle reason) =
          (.error ⟨.invalidArgument, "cancellation requires a reason code"⟩, c) := by
        refine perform_of_refusal hin ?_
        rw [exec_bind_of_ok (exec_get _),
          if_neg (show ¬(c.flagged true).state = _ from hcancelled),
          exec_bind_of_ok (exec_throwIf_neg hopen' _ _),
          exec_bind_of_error (exec_throwIf_pos hreason _ _)]
      rw [hrun]
      exact .refused _ _
    · have hfits : ¬(c.flagged true).Misfits record := by
        simp [Misfits, record, stateRecord, flagged]
      have hbody : (do
          let c ← get
          if c.state = .cancelled then
            pure ()
          else do
            throwIf (c.state ≠ .open) ⟨.invalidState, "no shuffle is open to cancel"⟩
            throwIf (reason = .ok) ⟨.invalidArgument, "cancellation requires a reason code"⟩
            commitRecord (stateRecord c.request .cancelled reason c.clock).encode : Op Unit).exec
              (c.flagged true) = (commitRecord record.encode).exec (c.flagged true) := by
        rw [exec_bind_of_ok (exec_get _),
          if_neg (show ¬(c.flagged true).state = _ from hcancelled),
          exec_bind_of_ok (exec_throwIf_neg hopen' _ _),
          exec_bind_of_ok (exec_throwIf_neg hreason _ _)]
        rfl
      have hcommit := exec_commitState hfits
      have hstore : (c.flagged true).storeAnswer (.shuffleState record) =
          c.storeAnswer (.shuffleState record) := rfl
      rw [hstore] at hcommit
      cases hanswer : c.storeAnswer (.shuffleState record) with
      | error e =>
          rw [hanswer] at hcommit
          have hrun : c.perform (.cancelShuffle reason) =
              (.error e, c.persisted (DurableRecord.shuffleState record).encode) :=
            perform_of_error (g := fun d => d.persisted (DurableRecord.shuffleState record).encode)
              hin (fun _ => rfl) (hbody.trans hcommit)
          rw [hrun]
          exact .unstored _ _ e rfl hanswer
      | ok u =>
          rw [hanswer] at hcommit
          have hrun : c.perform (.cancelShuffle reason) = (.ok .done,
              (c.persisted (DurableRecord.shuffleState record).encode).entered record) :=
            perform_of_ok (a := ())
              (g := fun d => (d.persisted (DurableRecord.shuffleState record).encode).entered record)
              hin (fun inside => flagged_entered (c.persisted _) inside record) (hbody.trans hcommit)
          rw [hrun]
          exact .cancelled reason hopen hreason hanswer
  · have hrun : c.perform (.cancelShuffle reason) =
        (.error ⟨.invalidState, "no shuffle is open to cancel"⟩, c) := by
      refine perform_of_refusal hin ?_
      rw [exec_bind_of_ok (exec_get _),
        if_neg (show ¬(c.flagged true).state = _ from hcancelled),
        exec_bind_of_error (exec_throwIf_pos (show (c.flagged true).state ≠ _ from hopen) _ _)]
    rw [hrun]
    exact .refused _ _

/-- A participant record on its way: stored, and placed in the topology. -/
theorem exec_commitParticipant {c : Coordinator} {t t' : Topology} {record : ParticipantRecord}
    (hmeasured : record.endpoint.length < 2 ^ 32) (ht : c.topology = some t)
    (hplace : place t record = .ok t') :
    (commitRecord record.encode).exec c =
      match c.storeAnswer (.participant record) with
      | .error e => (.error e, c.persisted (DurableRecord.participant record).encode)
      | .ok () =>
        (.ok (), (c.persisted (DurableRecord.participant record).encode).joinedBy t t' record) := by
  refine (exec_commitRecord_encode c (r := .participant record) hmeasured).trans ?_
  cases c.storeAnswer (.participant record) with
  | error e => rfl
  | ok u => exact exec_applyParticipant ht hplace


/-- `advance_tick`, which is not durable. -/
theorem transition_advanceTick {c : Coordinator} (hin : c.inside = false) :
    Transition c .advanceTick (c.perform .advanceTick).1 (c.perform .advanceTick).2 := by
  have hrun : c.perform .advanceTick = (.ok (.ticked (c.clock + 1)), { c with clock := c.clock + 1 }) :=
    perform_of_ok (g := fun d => { d with clock := c.clock + 1 }) hin (fun _ => rfl) rfl
  rw [hrun]
  exact .ticked

/-- Whether a shuffle is open does not depend on the guard. -/
theorem ensureOpen_flagged (c : Coordinator) (inside : Bool) :
    (c.flagged inside).ensureOpen = c.ensureOpen := rfl

/-- A registration whose checks passed. -/
theorem exec_commitRegistration {c : Coordinator} {t t' : Topology} {record : ParticipantRecord}
    (hstate : record.state = .active) (hmeasured : record.endpoint.length < 2 ^ 32)
    (ht : c.topology = some t) (hregister : registerFrom t record = .ok t') :
    (commitRecord record.encode).exec c =
      match c.storeAnswer (.participant record) with
      | .error e => (.error e, c.persisted (DurableRecord.participant record).encode)
      | .ok () =>
        (.ok (), (c.persisted (DurableRecord.participant record).encode).joinedBy t t' record) := by
  refine exec_commitParticipant hmeasured ht ?_
  simp only [place, hregister, bind, Except.bind, if_pos hstate]
  rfl

/-- The end of a registration, once its record is known. -/
theorem transition_of_registration {c : Coordinator} (hin : c.inside = false) {call : Call}
    {record : ParticipantRecord} {t : Topology} {body : Op RegistrationOutcome}
    (hcall : call.op = Reply.registered <$> guarded body)
    (hregistration : c.registration call = some record)
    (hwrites : c.writes call = some (.participant record)) (hopen : c.ensureOpen = .ok t)
    (hmeasured : record.endpoint.length < 2 ^ 32)
    (hregister : ∃ t', registerFrom t record = .ok t')
    (hbody : body.exec (c.flagged true) = (do
      commitRecord record.encode
      let topologyGeneration := ((← get).topology.map (·.generation)).getD 0
      return { topologyGeneration, incarnation := record.incarnation
               supersededPrevious := (previousIncarnation t record).any (· ≠ record.incarnation) } :
      Op RegistrationOutcome).exec (c.flagged true)) :
    Transition c call (c.perform call).1 (c.perform call).2 := by
  obtain ⟨t', hregister⟩ := hregister
  have hstate := active_of_registration hregistration
  have hcommit := exec_commitRegistration (c := c.flagged true) hstate hmeasured
    (ensureOpen_ok hopen).2 hregister
  have hstore : (c.flagged true).storeAnswer (.participant record) =
      c.storeAnswer (.participant record) := rfl
  rw [hstore] at hcommit
  unfold perform
  rw [hcall]
  cases hanswer : c.storeAnswer (.participant record) with
  | error e =>
      rw [hanswer] at hcommit
      rw [perform_of_error (g := fun d => d.persisted (DurableRecord.participant record).encode)
        hin (fun _ => rfl) (hbody.trans (exec_bind_of_error hcommit))]
      exact .unstored _ _ e hwrites hanswer
  | ok u =>
      rw [hanswer] at hcommit
      have hjoined := topology_joinedBy
        ((c.flagged true).persisted (DurableRecord.participant record).encode) t t' record
      have hrest : body.exec (c.flagged true) = (.ok ⟨t'.generation, record.incarnation,
          (previousIncarnation t record).any (· ≠ record.incarnation)⟩,
          ((c.flagged true).persisted (DurableRecord.participant record).encode).joinedBy t t'
            record) := by
        rw [hbody, exec_bind_of_ok hcommit, exec_bind_of_ok (exec_get _), hjoined]
        rfl
      rw [perform_of_ok
        (g := fun d => (d.persisted (DurableRecord.participant record).encode).joinedBy t t' record)
        hin (fun inside => flagged_joinedBy (c.persisted _) inside t t' record) hrest]
      exact .registered call record t t' hregistration hopen hanswer hregister

/-- A call that is not admitted. -/
theorem transition_of_refusal {α : Type} {c : Coordinator} (hin : c.inside = false) {call : Call}
    {f : α → Reply} {body : Op α} (e : Error) (hcall : call.op = f <$> guarded body)
    (hbody : body.exec (c.flagged true) = (.error e, c.flagged true)) :
    Transition c call (c.perform call).1 (c.perform call).2 := by
  unfold perform
  rw [hcall, perform_of_refusal hin hbody]
  exact .refused call e

/-- `register_producer`: what its checks let through can be placed. -/
theorem transition_registerProducer {c : Coordinator} (hin : c.inside = false) (id : ProducerId)
    (incarnation : IncarnationId) (endpoint : Bytes) :
    Transition c (.registerProducer id incarnation endpoint)
      (c.perform (.registerProducer id incarnation endpoint)).1
      (c.perform (.registerProducer id incarnation endpoint)).2 := by
  cases hopen : c.ensureOpen with
  | error e =>
      refine transition_of_refusal hin e rfl ?_
      rw [exec_bind_of_ok (exec_get _), ensureOpen_flagged, hopen]
      exact exec_bind_of_error (exec_liftM _ _)
  | ok t =>
      cases hcheck : t.checkProducerRegistration id incarnation endpoint with
      | error e =>
          refine transition_of_refusal hin e rfl ?_
          rw [exec_bind_of_ok (exec_get _), ensureOpen_flagged, hopen,
            exec_bind_of_ok (exec_liftM _ _), hcheck]
          exact exec_bind_of_error (exec_liftM _ _)
      | ok u =>
          obtain ⟨-, -, hendpoint, -⟩ := Topology.checkProducerRegistration_ok hcheck
          refine transition_of_registration hin rfl rfl rfl hopen
            (lt_of_le_of_lt hendpoint t.limits.maxEndpointBytes.toNat_lt)
            (Topology.registerProducer_of_check hcheck) ?_
          rw [exec_bind_of_ok (exec_get _), ensureOpen_flagged, hopen,
            exec_bind_of_ok (exec_liftM _ _), hcheck, exec_bind_of_ok (exec_liftM _ _)]
          simp only [previousIncarnation, Option.any_map]
          rfl

/-- `register_consumer`: likewise, with a selection that is interned first. -/
theorem transition_registerConsumer {c : Coordinator} (hin : c.inside = false) (id : ConsumerId)
    (incarnation : IncarnationId) (endpoint : Bytes) (selection : PartitionSelection) :
    Transition c (.registerConsumer id incarnation endpoint selection)
      (c.perform (.registerConsumer id incarnation endpoint selection)).1
      (c.perform (.registerConsumer id incarnation endpoint selection)).2 := by
  cases hopen : c.ensureOpen with
  | error e =>
      refine transition_of_refusal hin e rfl ?_
      rw [exec_bind_of_ok (exec_get _), ensureOpen_flagged, hopen]
      exact exec_bind_of_error (exec_liftM _ _)
  | ok t =>
      cases hcheck : t.checkConsumerRegistration id incarnation endpoint selection with
      | error e =>
          refine transition_of_refusal hin e rfl ?_
          rw [exec_bind_of_ok (exec_get _), ensureOpen_flagged, hopen,
            exec_bind_of_ok (exec_liftM _ _), hcheck]
          exact exec_bind_of_error (exec_liftM _ _)
      | ok u =>
          obtain ⟨-, -, hendpoint, -⟩ := Topology.checkConsumerRegistration_ok hcheck
          refine transition_of_registration hin rfl rfl rfl hopen
            (lt_of_le_of_lt hendpoint t.limits.maxEndpointBytes.toNat_lt)
            (Topology.registerConsumer_of_check hcheck) ?_
          rw [exec_bind_of_ok (exec_get _), ensureOpen_flagged, hopen,
            exec_bind_of_ok (exec_liftM _ _), hcheck, exec_bind_of_ok (exec_liftM _ _)]
          simp only [previousIncarnation, Option.any_map]
          rfl

/-- The state record of a participant repeats its registration, which changes nothing. -/
theorem registerFrom_stateChange {c : Coordinator} {t : Topology} (ht : t.Consistent)
    {kind : ParticipantKind} {id : UInt64} {incarnation : IncarnationId} (state : ParticipantState)
    (hcheck : t.checkParticipantState kind id incarnation = .ok ()) :
    registerFrom t (c.stateChange t kind id incarnation state) = .ok t ∧
      (c.stateChange t kind id incarnation state).endpoint.length ≤
        t.limits.maxEndpointBytes.toNat := by
  simp only [Topology.checkParticipantState, bind_eq_ok, refuseIf_eq_ok, exists_const] at hcheck
  obtain ⟨hid, hcheck⟩ := hcheck
  cases kind with
  | producer =>
      cases hfind : t.findProducer id with
      | none => simp [hfind, makeFailure] at hcheck
      | some p =>
          simp only [hfind, refuseIf_eq_ok, not_not] at hcheck
          obtain ⟨-, hne, hendpoint⟩ := ht.producers p (Topology.mem_of_findProducer hfind)
          have hregistered : registeredAs t .producer id = (p.endpoint, {}) := by
            simp [registeredAs, hfind]
          refine ⟨?_, by simpa [stateChange, hregistered] using hendpoint⟩
          simp [registerFrom, stateChange, hregistered, Topology.registerProducer,
            Topology.checkProducerRegistration, refuseIf, hid, hfind, ← hcheck, hne,
            Nat.not_lt.mpr hendpoint, bind, Except.bind, pure, Except.pure]
  | consumer =>
      cases hfind : t.findConsumer id with
      | none => simp [hfind, makeFailure] at hcheck
      | some p =>
          simp only [hfind, refuseIf_eq_ok, not_not] at hcheck
          have hmem := Topology.mem_of_findConsumer hfind
          obtain ⟨-, hne, hendpoint, hpattern⟩ := ht.consumers p hmem
          have hcount := ht.partitioned (List.ne_nil_of_mem hmem)
          obtain ⟨entry, hentry⟩ : ∃ entry, t.selections[p.pattern]? = some entry :=
            ⟨_, List.getElem?_eq_getElem hpattern⟩
          obtain ⟨hkey, hindex⟩ := ht.keys _ _ hentry
          have hselection : t.pattern p.pattern = entry.1 := by
            rw [Topology.pattern_eq, hentry]
            rfl
          have hvalid := ht.valid entry (List.mem_of_getElem? hentry)
          rw [hkey] at hindex
          have hregistered : registeredAs t .consumer id = (p.endpoint, entry.1) := by
            simp [registeredAs, hfind, hselection]
          refine ⟨?_, by simpa [stateChange, hregistered] using hendpoint⟩
          simp [registerFrom, stateChange, hregistered, Topology.registerConsumer,
            Topology.checkConsumerRegistration, Topology.internPattern, refuseIf, hid, hfind,
            ← hcheck, hne, Nat.not_lt.mpr hendpoint, hcount, hvalid, hindex, bind, Except.bind,
            pure, Except.pure]

/-- A change of state that passes its check can be made. -/
theorem setStateFrom_of_check {t : Topology} {record : ParticipantRecord}
    (hcheck : t.checkParticipantState record.kind record.id record.incarnation = .ok ()) :
    ∃ t', setStateFrom t record = .ok t' := by
  unfold setStateFrom
  split
  · next hkind =>
      rw [hkind] at hcheck
      simp only [Topology.setProducerState, hcheck, bind, Except.bind]
      cases t.findProducer record.id with
      | none => exact ⟨_, rfl⟩
      | some p =>
          simp only
          split <;> exact ⟨_, rfl⟩
  · next hkind =>
      rw [hkind] at hcheck
      simp only [Topology.setConsumerState, hcheck, bind, Except.bind]
      cases t.findConsumer record.id with
      | none => exact ⟨_, rfl⟩
      | some p =>
          simp only
          split <;> exact ⟨_, rfl⟩

/-- `set_participant_state`: the record is the registered one, in the new state. -/
theorem transition_setParticipantState {c : Coordinator} (hin : c.inside = false)
    (htopology : ∀ t, c.topology = some t → t.Consistent) (kind : ParticipantKind) (id : UInt64)
    (incarnation : IncarnationId) (state : ParticipantState) :
    Transition c (.setParticipantState kind id incarnation state)
      (c.perform (.setParticipantState kind id incarnation state)).1
      (c.perform (.setParticipantState kind id incarnation state)).2 := by
  cases hopen : c.ensureOpen with
  | error e =>
      refine transition_of_refusal hin e rfl ?_
      rw [exec_bind_of_ok (exec_get _), ensureOpen_flagged, hopen]
      exact exec_bind_of_error (exec_liftM _ _)
  | ok t =>
      cases hcheck : t.checkParticipantState kind id incarnation with
      | error e =>
          refine transition_of_refusal hin e rfl ?_
          rw [exec_bind_of_ok (exec_get _), ensureOpen_flagged, hopen,
            exec_bind_of_ok (exec_liftM _ _), hcheck]
          exact exec_bind_of_error (exec_liftM _ _)
      | ok u =>
          have ht := htopology t (ensureOpen_ok hopen).2
          let record := c.stateChange t kind id incarnation state
          obtain ⟨hregister, hendpoint⟩ := registerFrom_stateChange (c := c) ht state hcheck
          have hcurrent : t.checkParticipantState record.kind record.id record.incarnation = .ok () :=
            hcheck
          obtain ⟨t', hset⟩ := setStateFrom_of_check hcurrent
          obtain ⟨t'', hplace⟩ : ∃ t', place t record = .ok t' := by
            simp only [place, record, hregister, bind, Except.bind]
            split
            · exact ⟨t, rfl⟩
            · exact ⟨t', hset⟩
          have hcommit := exec_commitParticipant (c := c.flagged true)
            (lt_of_le_of_lt hendpoint t.limits.maxEndpointBytes.toNat_lt) (ensureOpen_ok hopen).2 hplace
          have hstore : (c.flagged true).storeAnswer (.participant record) =
              c.storeAnswer (.participant record) := rfl
          rw [hstore] at hcommit
          have hbody : (do
              let c ← get
              let topology ← liftM c.ensureOpen
              liftM (topology.checkParticipantState kind id incarnation)
              let registered := registeredAs topology kind id
              let record : ParticipantRecord := {
                kind, id, incarnation, state, endpoint := registered.1
                selection := registered.2, atTick := c.clock }
              commitRecord record.encode : Op Unit).exec (c.flagged true) =
              (commitRecord record.encode).exec (c.flagged true) := by
            rw [exec_bind_of_ok (exec_get _), ensureOpen_flagged, hopen,
              exec_bind_of_ok (exec_liftM _ _), hcheck, exec_bind_of_ok (exec_liftM _ _)]
            rfl
          have hwrites : c.writes (.setParticipantState kind id incarnation state) =
              some (.participant record) := by
            simp [writes, (ensureOpen_ok hopen).2, record]
          cases hanswer : c.storeAnswer (.participant record) with
          | error e =>
              rw [hanswer] at hcommit
              have hrun : c.perform (.setParticipantState kind id incarnation state) =
                  (.error e, c.persisted (DurableRecord.participant record).encode) :=
                perform_of_error
                  (g := fun d => d.persisted (DurableRecord.participant record).encode) hin
                  (fun _ => rfl) (hbody.trans hcommit)
              rw [hrun]
              exact .unstored _ _ e hwrites hanswer
          | ok u =>
              rw [hanswer] at hcommit
              have hrun : c.perform (.setParticipantState kind id incarnation state) = (.ok .done,
                  (c.persisted (DurableRecord.participant record).encode).joinedBy t t'' record) :=
                perform_of_ok (a := ())
                  (g := fun d => (d.persisted (DurableRecord.participant record).encode).joinedBy t
                    t'' record) hin
                  (fun inside => flagged_joinedBy (c.persisted _) inside t t'' record)
                  (hbody.trans hcommit)
              rw [hrun]
              exact .stateSet kind id incarnation state t t'' hopen hcheck hanswer hplace

/-- What the checks of `publish_manifest` ask for. -/
theorem checkPublish_ok {c : Coordinator} {manifest accepted : PartitionManifest}
    (h : c.checkPublish manifest = .ok accepted) :
    ∃ t, c.ensureOpen = .ok t ∧ accepted = { manifest with topologyGeneration := t.generation } ∧
      validateManifest manifest c.limits = .ok () ∧
      manifest.shuffle = c.request.shuffle ∧ manifest.shuffleGeneration = c.request.generation ∧
      manifest.partition < c.request.partitionCount.toUInt64 ∧
      t.ownerOf manifest.partition = .ok manifest.producer ∧
      (∃ p, t.findProducer manifest.producer = some p ∧
        p.incarnation = manifest.producerIncarnation ∧ p.state = .active) ∧
      checkExisting c.manifests[manifest.partition]? accepted = .ok () := by
  simp only [checkPublish, bind_eq_ok, refuseIf_eq_ok, exists_const, not_or, not_not, not_le] at h
  obtain ⟨t, hopen, u, hvalid, hshuffle, hpartition, howner, h⟩ := h
  refine ⟨t, hopen, ?_⟩
  cases hfind : t.findProducer manifest.producer with
  | none => simp [hfind, makeFailure] at h
  | some p =>
      simp only [hfind, bind_eq_ok, refuseIf_eq_ok, exists_const, not_not, holdsAuthority,
        beq_iff_eq] at h
      obtain ⟨hincarnation, hactive, h⟩ := h
      have hmember : ∃ p', some p = some p' ∧ p'.incarnation = manifest.producerIncarnation ∧
          p'.state = .active := ⟨p, rfl, hincarnation, hactive⟩
      cases hexisting : c.manifests[manifest.partition]? with
      | none =>
          simp only [hexisting, pure_eq_ok] at h
          exact ⟨h.symm, hvalid, hshuffle.1, hshuffle.2, hpartition, howner, hmember, rfl⟩
      | some existing =>
          simp only [hexisting, bind_eq_ok, refuseIf_eq_ok, exists_const, pure_eq_ok] at h
          obtain ⟨hnewer, hdivergent, rfl⟩ := h
          refine ⟨rfl, hvalid, hshuffle.1, hshuffle.2, hpartition, howner, hmember, ?_⟩
          simp only [checkExisting, bind_eq_ok, refuseIf_eq_ok, exists_const]
          exact ⟨hnewer, hdivergent⟩

/-- What a manifest has to meet to be published. -/
theorem checkPublish_of {c : Coordinator} {manifest : PartitionManifest} {t : Topology}
    {p : ProducerRecord} (hopen : c.ensureOpen = .ok t)
    (hvalid : validateManifest manifest c.limits = .ok ())
    (hshuffle : manifest.shuffle = c.request.shuffle)
    (hgeneration : manifest.shuffleGeneration = c.request.generation)
    (hpartition : manifest.partition < c.request.partitionCount.toUInt64)
    (howner : t.ownerOf manifest.partition = .ok manifest.producer)
    (hfind : t.findProducer manifest.producer = some p)
    (hincarnation : p.incarnation = manifest.producerIncarnation) (hactive : p.state = .active)
    (hexisting : checkExisting c.manifests[manifest.partition]?
      { manifest with topologyGeneration := t.generation } = .ok ()) :
    c.checkPublish manifest = .ok { manifest with topologyGeneration := t.generation } := by
  simp only [checkPublish, bind_eq_ok, refuseIf_eq_ok, exists_const, not_or, not_not, not_le]
  refine ⟨t, hopen, (), hvalid, ⟨hshuffle, hgeneration⟩, hpartition, howner, ?_⟩
  simp only [hfind, bind_eq_ok, refuseIf_eq_ok, exists_const, not_not, holdsAuthority, beq_iff_eq]
  refine ⟨hincarnation, hactive, ?_⟩
  cases hfound : c.manifests[manifest.partition]? with
  | none => rfl
  | some existing =>
      rw [hfound] at hexisting
      simp only [checkExisting, bind_eq_ok, refuseIf_eq_ok, exists_const] at hexisting
      simp only [bind_eq_ok, refuseIf_eq_ok, exists_const, pure_eq_ok, and_true]
      exact hexisting

/-- A manifest record on its way. -/
theorem exec_applyManifest {c : Coordinator} (manifest : PartitionManifest) {t : Topology}
    (ht : c.topology = some t)
    (hexisting : checkExisting c.manifests[manifest.partition]? manifest = .ok ()) :
    (applyManifest ⟨manifest⟩).exec c =
      match c.ledger.retireGeneration manifest.partition manifest.partitionGeneration with
      | .error e => (.error e, c.manifested manifest c.ledger)
      | .ok ledger => (.ok (), c.manifested manifest ledger) := by
  rw [applyManifest, exec_bind_of_ok (exec_get c)]
  simp only
  rw [exec_bind_of_ok (exec_throwIf_neg (by simp [ht]) _ _), hexisting,
    exec_bind_of_ok (exec_liftM _ _), exec_bind_of_ok (exec_modify _ _), exec_bind, exec_liftM]
  cases c.ledger.retireGeneration manifest.partition manifest.partitionGeneration <;> rfl

/-- `publish_manifest` up to the record it commits. -/
theorem exec_publishManifest {c : Coordinator} {manifest accepted : PartitionManifest}
    (hcheck : c.checkPublish manifest = .ok accepted)
    (hencode : ManifestRecord.encode { manifest := accepted } c.limits =
      .ok (DurableRecord.manifest ⟨accepted⟩).encode) {r : Status} {d : Coordinator}
    (hrun : (commitRecord (DurableRecord.manifest ⟨accepted⟩).encode).exec (c.flagged true) = (r, d)) :
    (do
      let c ← get
      let normalized ← liftM (c.checkPublish manifest)
      let encoded ← liftM (ManifestRecord.encode { manifest := normalized } c.limits)
      commitRecord encoded
      return {
        manifestDigest := computeManifestDigest normalized
        partitionGeneration := normalized.partitionGeneration } :
      Op ManifestAcceptance).exec (c.flagged true) =
    (r.map fun _ => ⟨computeManifestDigest accepted, accepted.partitionGeneration⟩, d) := by
  have hsame : (c.flagged true).checkPublish manifest = c.checkPublish manifest := rfl
  have hlimits : ManifestRecord.encode { manifest := accepted } (c.flagged true).limits =
    .ok (DurableRecord.manifest ⟨accepted⟩).encode := hencode
  rw [exec_bind_of_ok (exec_get _), hsame, hcheck, exec_bind_of_ok (exec_liftM _ _),
    hlimits, exec_bind_of_ok (exec_liftM _ _), exec_bind, hrun]
  cases r <;> rfl

/-- The record of a manifest that is stored and read back is applied. -/
theorem exec_commitManifest {c : Coordinator} {manifest accepted : PartitionManifest}
    (hcheck : c.checkPublish manifest = .ok accepted)
    (hanswer : c.storeAnswer (.manifest ⟨accepted⟩) = .ok ()) :
    (commitRecord (DurableRecord.manifest ⟨accepted⟩).encode).exec (c.flagged true) =
      match c.ledger.retireGeneration accepted.partition accepted.partitionGeneration with
      | .error e => (.error e, ((c.flagged true).persisted
          (DurableRecord.manifest ⟨accepted⟩).encode).manifested accepted c.ledger)
      | .ok ledger => (.ok (), ((c.flagged true).persisted
          (DurableRecord.manifest ⟨accepted⟩).encode).manifested accepted ledger) := by
  obtain ⟨t, hopen, haccepted, -, -, -, -, -, -, hexisting⟩ := checkPublish_ok hcheck
  have hpartition : accepted.partition = manifest.partition := by rw [haccepted]
  have hcommit := exec_commitRecord_encode (c.flagged true) (r := .manifest ⟨accepted⟩) trivial
  have hstore : (c.flagged true).storeAnswer (.manifest ⟨accepted⟩) = .ok () := hanswer
  rw [hstore] at hcommit
  exact hcommit.trans (exec_applyManifest (c := (c.flagged true).persisted
    (DurableRecord.manifest ⟨accepted⟩).encode) accepted (ensureOpen_ok hopen).2
    (by rw [hpartition]; exact hexisting))

/-- A manifest that passes every check is accepted. -/
theorem perform_publishManifest {c : Coordinator} (hin : c.inside = false)
    {manifest accepted : PartitionManifest} {ledger : CompletionLedger}
    (hcheck : c.checkPublish manifest = .ok accepted)
    (hencode : ManifestRecord.encode { manifest := accepted } c.limits =
      .ok (DurableRecord.manifest ⟨accepted⟩).encode)
    (hanswer : c.storeAnswer (.manifest ⟨accepted⟩) = .ok ())
    (hretire : c.ledger.retireGeneration accepted.partition accepted.partitionGeneration =
      .ok ledger) :
    c.perform (.publishManifest manifest) =
      (.ok (.accepted ⟨computeManifestDigest accepted, accepted.partitionGeneration⟩), (c.persisted
        (DurableRecord.manifest ⟨accepted⟩).encode).manifested accepted ledger) := by
  have hcommit := exec_commitManifest hcheck hanswer
  rw [hretire] at hcommit
  exact perform_of_ok (g := fun d => (d.persisted
    (DurableRecord.manifest ⟨accepted⟩).encode).manifested accepted ledger) hin
    (fun _ => rfl) (exec_publishManifest hcheck hencode hcommit)

/-- `publish_manifest`: the ledger may refuse to retire the generation before, behind the record. -/
theorem transition_publishManifest {c : Coordinator} (hin : c.inside = false)
    (manifest : PartitionManifest) :
    Transition c (.publishManifest manifest) (c.perform (.publishManifest manifest)).1
      (c.perform (.publishManifest manifest)).2 := by
  have hsame : (c.flagged true).checkPublish manifest = c.checkPublish manifest := rfl
  cases hcheck : c.checkPublish manifest with
  | error e =>
      refine transition_of_refusal hin e rfl ?_
      rw [exec_bind_of_ok (exec_get _), hsame, hcheck]
      exact exec_bind_of_error (exec_liftM _ _)
  | ok accepted =>
      obtain ⟨t, hopen, haccepted, -⟩ := checkPublish_ok hcheck
      cases hencode : ManifestRecord.encode { manifest := accepted } c.limits with
      | error e =>
          refine transition_of_refusal hin e rfl ?_
          rw [exec_bind_of_ok (exec_get _), hsame, hcheck, exec_bind_of_ok (exec_liftM _ _)]
          have hlimits : ManifestRecord.encode { manifest := accepted } (c.flagged true).limits =
            .error e := hencode
          rw [hlimits]
          exact exec_bind_of_error (exec_liftM _ _)
      | ok encoded =>
          obtain rfl : encoded = (DurableRecord.manifest ⟨accepted⟩).encode := by
            simp only [ManifestRecord.encode, encodeManifest, bind_eq_ok, pure_eq_ok] at hencode
            obtain ⟨bytes, ⟨u, -, rfl⟩, rfl⟩ := hencode
            rfl
          cases hanswer : c.storeAnswer (.manifest ⟨accepted⟩) with
          | error e =>
              have hcommit := exec_commitRecord_encode (c.flagged true)
                (r := .manifest ⟨accepted⟩) trivial
              have hstore : (c.flagged true).storeAnswer (.manifest ⟨accepted⟩) = .error e := hanswer
              rw [hstore] at hcommit
              have hrun : c.perform (.publishManifest manifest) =
                  (.error e, c.persisted (DurableRecord.manifest ⟨accepted⟩).encode) :=
                perform_of_error
                  (g := fun d => d.persisted (DurableRecord.manifest ⟨accepted⟩).encode) hin
                  (fun _ => rfl) (exec_publishManifest hcheck hencode hcommit)
              rw [hrun]
              refine .unstored _ _ e ?_ hanswer
              simp [writes, (ensureOpen_ok hopen).2, haccepted]
          | ok u =>
              cases hretire : c.ledger.retireGeneration accepted.partition
                  accepted.partitionGeneration with
              | error e =>
                  have hcommit := exec_commitManifest hcheck hanswer
                  rw [hretire] at hcommit
                  have hrun : c.perform (.publishManifest manifest) = (.error e, (c.persisted
                      (DurableRecord.manifest ⟨accepted⟩).encode).manifested accepted c.ledger) :=
                    perform_of_error (g := fun d => (d.persisted
                      (DurableRecord.manifest ⟨accepted⟩).encode).manifested accepted c.ledger) hin
                      (fun _ => rfl) (exec_publishManifest hcheck hencode hcommit)
                  rw [hrun]
                  exact .unretired manifest accepted e hcheck hanswer hretire
              | ok ledger =>
                  rw [perform_publishManifest hin hcheck hencode hanswer hretire]
                  exact .published manifest accepted ledger hcheck hanswer hretire

/-- Grants are admitted with the guard set as without it. -/
theorem flagged_foldl_admitGrant (plan : List DispatchGrant) (c : Coordinator) (inside : Bool) :
    plan.foldl admitGrant (c.flagged inside) = (plan.foldl admitGrant c).flagged inside := by
  induction plan generalizing c with
  | nil => rfl
  | cons grant plan ih => exact ih (c.admitGrant grant)

/-- `next_wave`: nothing is durable, and the scheduler is configured even if the plan fails. -/
theorem transition_nextWave {c : Coordinator} (hin : c.inside = false) :
    Transition c .nextWave (c.perform .nextWave).1 (c.perform .nextWave).2 := by
  have hperform : c.perform .nextWave =
      ((nextWave.exec c).1.map Reply.wave, (nextWave.exec c).2) := exec_map _ _ c
  rw [hperform]
  rcases nextWave_cases hin with ⟨hstate, hrun⟩ | ⟨e, hrun⟩ |
    ⟨t, scheduler, e, hopen, hconfigured, hwave, hrun⟩ |
    ⟨t, scheduler, plan, scheduler', hopen, hconfigured, hwave, hrun⟩
  · rw [hrun]
    exact .nothingLeft hstate
  · rw [hrun]
    exact .refused _ e
  · rw [hrun]
    exact .unplanned t scheduler e hopen hconfigured hwave
  · have hclear : (plan.grants.foldl admitGrant
        { c.flagged true with scheduler := scheduler' }).flagged false =
        plan.grants.foldl admitGrant { c with scheduler := scheduler' } := by
      have hflag : ({ c.flagged true with scheduler := scheduler' } : Coordinator) =
        ({ c with scheduler := scheduler' } : Coordinator).flagged true := rfl
      rw [hflag, flagged_foldl_admitGrant, flagged_flagged, ← flagged_foldl_admitGrant,
        flagged_eq_self (c := { c with scheduler := scheduler' }) hin]
    rw [hrun, hclear]
    exact .planned t scheduler scheduler' plan hopen hconfigured hwave

/-- `note_completion` never refuses. -/
theorem exec_noteCompletion (c : Coordinator) :
    ∃ d, Noted c d ∧ ∀ inside, noteCompletion.exec (c.flagged inside) = (.ok (), d.flagged inside) := by
  have hstart (inside : Bool) : noteCompletion.exec (c.flagged inside) = _ :=
    exec_bind_of_ok (exec_get _)
  have hstate (inside : Bool) : (c.flagged inside).state = c.state := rfl
  have htopology (inside : Bool) : (c.flagged inside).topology = c.topology := rfl
  by_cases hopen : c.state = .open
  · cases ht : c.topology with
    | none =>
        refine ⟨c, .incomplete, fun inside => ?_⟩
        rw [hstart, hstate, htopology, hopen, ht]
        rfl
    | some t =>
        cases hplanned : t.plannedEdgeCount with
        | error e =>
            refine ⟨c, .incomplete, fun inside => ?_⟩
            rw [hstart, hstate, htopology, hopen, ht]
            simp only [hplanned]
            rfl
        | ok required =>
            by_cases hless : c.ledger.completedEdges + c.ledger.permanentFailures < required
            · refine ⟨c, .incomplete, fun inside => ?_⟩
              rw [hstart, hstate, htopology, hopen, ht]
              simp only [hplanned]
              rw [if_pos (by exact hless)]
              rfl
            · have hfits (inside : Bool) : ¬(c.flagged inside).Misfits c.completion := by
                simp [Misfits, completion, stateRecord, flagged]
              have hrest (inside : Bool) : noteCompletion.exec (c.flagged inside) =
                  ((commitRecord c.completion.encode).ignore).exec (c.flagged inside) := by
                rw [hstart, hstate, htopology, hopen, ht]
                simp only [hplanned]
                rw [if_neg (by exact hless)]
                rfl
              have hstore (inside : Bool) : (c.flagged inside).storeAnswer
                (.shuffleState c.completion) = c.storeAnswer (.shuffleState c.completion) := rfl
              have hresolved := UInt64.not_lt.mp hless
              cases hanswer : c.storeAnswer (.shuffleState c.completion) with
              | error e =>
                  refine ⟨_, .unstored e t required ht hplanned hresolved hanswer, fun inside => ?_⟩
                  rw [hrest, exec_ignore, exec_commitState (hfits inside), hstore, hanswer]
                  rfl
              | ok u =>
                  refine ⟨_, .completed t required ht hplanned hresolved hanswer, fun inside => ?_⟩
                  rw [hrest, exec_ignore, exec_commitState (hfits inside), hstore, hanswer]
                  exact congrArg (Prod.mk _) (flagged_entered (c.persisted _) inside _)
  · refine ⟨c, .incomplete, fun inside => ?_⟩
    rw [hstart, hstate, htopology]
    split
    · next hstate' _ => exact absurd hstate' hopen
    · rfl

/-- A guarded call that ends at a state known only with its flag. -/
theorem perform_of_flagged {α : Type} {f : α → Reply} {body : Op α} {c d : Coordinator} {a : α}
    (hin : c.inside = false) (hd : d.inside = false)
    (hbody : body.exec (c.flagged true) = (.ok a, d.flagged true)) :
    (f <$> guarded body).exec c = (.ok (f a), d) := by
  rw [exec_map, exec_guarded _ hin, hbody, flagged_flagged, flagged_eq_self hd]
  rfl

/-- The look at the end of a shuffle leaves the guard. -/
theorem Noted.inside {c c' : Coordinator} (h : Noted c c') : c'.inside = c.inside := by
  cases h with
  | incomplete => rfl
  | unstored => rfl
  | completed => rw [entered_eq]; rfl

/-- A completion that passes every check and is made durable is answered with its receipt. -/
theorem perform_commitTransfer {c : Coordinator} (hin : c.inside = false) {request : CommitRequest}
    (hcheck : c.checkCommit request = .ok ())
    (hanswer : c.sinkAnswer (DurableRecord.commit ⟨request, c.clock⟩).encode = .ok ()) :
    ∃ receipt ledger d, c.ledger.commit request c.clock = .ok (receipt, ledger) ∧
      Noted (((c.persisted (DurableRecord.commit ⟨request, c.clock⟩).encode).credited
        ledger).resolveAttempt request.attempt) d ∧
      c.perform (.commitTransfer request) =
        (.ok (.committed ⟨receipt, d.state = .completed⟩), d) := by
  let bytes := (DurableRecord.commit ⟨request, c.clock⟩).encode
  have hpersist := exec_persist (c.flagged true) bytes
  have hsink : (c.flagged true).sinkAnswer bytes = .ok () := hanswer
  rw [hsink] at hpersist
  obtain ⟨receipt, ledger, hcommit⟩ :
      ∃ receipt ledger, c.ledger.commit request c.clock = .ok (receipt, ledger) := by
    obtain ⟨-, -, -, -, -, -, -, -, -, -, -, hvalid⟩ := checkCommit_ok hcheck
    simp only [CompletionLedger.commit, hvalid, bind, Except.bind]
    cases c.ledger.recordOf request.edge.partition request.edge.partitionGeneration <;>
      exact ⟨_, _, rfl⟩
  obtain ⟨d, hnoted, hnote⟩ := exec_noteCompletion
    (((c.persisted bytes).credited ledger).resolveAttempt request.attempt)
  have hd : d.inside = false := hnoted.inside.trans hin
  refine ⟨receipt, ledger, d, hcommit, hnoted, ?_⟩
  refine perform_of_flagged hin hd ?_
  have hsame : (c.flagged true).checkCommit request = .ok () := hcheck
  rw [exec_bind_of_ok (exec_get _), hsame, exec_bind_of_ok (exec_liftM _ _)]
  refine (exec_bind_of_ok hpersist).trans ?_
  have hcommit' : (c.flagged true).ledger.commit request (c.flagged true).clock =
    .ok (receipt, ledger) := hcommit
  rw [hcommit', exec_bind_of_ok (exec_liftM _ _), exec_bind_of_ok (exec_modify _ _),
    exec_bind_of_ok (exec_modify _ _)]
  refine (exec_bind_of_ok (hnote true)).trans ?_
  rw [exec_bind_of_ok (exec_get _)]
  rfl

/-- `commit_transfer`: the ledger accepts what its checks let through. -/
theorem transition_commitTransfer {c : Coordinator} (hin : c.inside = false)
    (request : CommitRequest) :
    Transition c (.commitTransfer request) (c.perform (.commitTransfer request)).1
      (c.perform (.commitTransfer request)).2 := by
  have hsame : (c.flagged true).checkCommit request = c.checkCommit request := rfl
  cases hcheck : c.checkCommit request with
  | error e =>
      refine transition_of_refusal hin e rfl ?_
      rw [exec_bind_of_ok (exec_get _), hsame, hcheck]
      exact exec_bind_of_error (exec_liftM _ _)
  | ok u =>
      let bytes := (DurableRecord.commit ⟨request, c.clock⟩).encode
      cases hanswer : c.sinkAnswer bytes with
      | error e =>
          have hpersist := exec_persist (c.flagged true) bytes
          have hsink : (c.flagged true).sinkAnswer bytes = .error e := hanswer
          rw [hsink] at hpersist
          have hrun : c.perform (.commitTransfer request) = (.error e, c.persisted bytes) := by
            refine perform_of_error (g := fun d => d.persisted bytes) hin (fun _ => rfl) ?_
            rw [exec_bind_of_ok (exec_get _), hsame, hcheck, exec_bind_of_ok (exec_liftM _ _)]
            exact exec_bind_of_error hpersist
          rw [hrun]
          exact .unstored _ _ e rfl (storeAnswer_of_sink hanswer)
      | ok u =>
          obtain ⟨receipt, ledger, d, hcommit, hnoted, hrun⟩ :=
            perform_commitTransfer hin hcheck hanswer
          rw [hrun]
          exact .committed request receipt ledger d hcheck hanswer hcommit hnoted

/-- What the checks of `report_failure` ask for, and the record they come to. -/
theorem checkFailure_ok {c : Coordinator} {attempt : TransferAttemptId} {code : ErrorCode}
    {record : FailureRecordDurable} (h : c.checkFailure attempt code = .ok record) :
    ∃ grant t, c.grants[attempt]? = some grant ∧ c.ensureOpen = .ok t ∧
      classify code ≠ .deferred ∧ c.ledger.validateFailure grant.key code = .ok () ∧
      record = c.failureRecordFor grant code := by
  simp only [checkFailure, bind_eq_ok, refuseIf_eq_ok, exists_const] at h
  obtain ⟨hdeferred, -, h⟩ := h
  cases hgrant : c.grants[attempt]? with
  | none => simp [hgrant, makeFailure] at h
  | some grant =>
      simp only [hgrant, bind_eq_ok, pure_eq_ok] at h
      obtain ⟨t, hopen, u, hvalid, hrecord⟩ := h
      exact ⟨grant, t, rfl, hopen, hdeferred, hvalid, hrecord.symm⟩

/-- The ledger accepts the failure it was asked about. -/
theorem recordFailure_of_validate {l : CompletionLedger} {record : FailureRecord}
    (h : l.validateFailure record.key record.code = .ok ()) :
    ∃ l', l.recordFailure record = .ok l' := by
  simp only [CompletionLedger.validateFailure, bind_eq_ok, refuseIf_eq_ok, exists_const] at h
  obtain ⟨hpartition, hcode, hroom⟩ := h
  simp only [CompletionLedger.recordFailure, refuseIf, if_neg hpartition, if_neg hcode, bind,
    Except.bind, pure, Except.pure]
  cases hfailure : l.failures[record.key]? with
  | none =>
      have hroom : ¬l.trackedEdgesFull := fun hfull => hroom ⟨by simp [hfailure], hfull⟩
      simp only [if_neg hroom]
      exact ⟨_, rfl⟩
  | some existing => exact ⟨_, rfl⟩

/-- `report_failure`: the ledger accepts what its checks let through. -/
theorem transition_reportFailure {c : Coordinator} (hin : c.inside = false)
    (attempt : TransferAttemptId) (code : ErrorCode) :
    Transition c (.reportFailure attempt code) (c.perform (.reportFailure attempt code)).1
      (c.perform (.reportFailure attempt code)).2 := by
  have hsame : (c.flagged true).checkFailure attempt code = c.checkFailure attempt code := rfl
  cases hcheck : c.checkFailure attempt code with
  | error e =>
      refine transition_of_refusal hin e rfl ?_
      rw [exec_bind_of_ok (exec_get _), hsame, hcheck]
      exact exec_bind_of_error (exec_liftM _ _)
  | ok record =>
      obtain ⟨grant, t, hgrant, hopen, -, hvalid, hrecord⟩ := checkFailure_ok hcheck
      let bytes := (DurableRecord.failure record).encode
      have hpersist := exec_persist (c.flagged true) bytes
      have hsink : (c.flagged true).sinkAnswer bytes = c.sinkAnswer bytes := rfl
      cases hanswer : c.sinkAnswer bytes with
      | error e =>
          rw [hsink, hanswer] at hpersist
          have hrun : c.perform (.reportFailure attempt code) = (.error e, c.persisted bytes) := by
            refine perform_of_error (g := fun d => d.persisted bytes) hin (fun _ => rfl) ?_
            rw [exec_bind_of_ok (exec_get _), hsame, hcheck, exec_bind_of_ok (exec_liftM _ _)]
            exact exec_bind_of_error hpersist
          rw [hrun]
          refine .unstored _ _ e ?_ (storeAnswer_of_sink hanswer)
          simp [writes, hgrant, hrecord]
      | ok u =>
          rw [hsink, hanswer] at hpersist
          obtain ⟨ledger, hfailure⟩ :
              ∃ ledger, c.ledger.recordFailure (ledgerFailure record) = .ok ledger := by
            refine recordFailure_of_validate ?_
            rw [hrecord]
            exact hvalid
          obtain ⟨d, hnoted, hnote⟩ := exec_noteCompletion
            (((c.persisted bytes).charged ledger record.readyAt).resolveAttempt attempt)
          have hd : d.inside = false := by
            rw [hnoted.inside]
            show (advanceClock _ _).inside = false
            rw [advanceClock_eq]
            exact hin
          have happly : (applyFailure record).exec ((c.flagged true).persisted bytes) =
              (.ok (), ((c.persisted bytes).charged ledger record.readyAt).flagged true) := by
            have hledger : ((c.flagged true).persisted bytes).ledger.recordFailure
              (ledgerFailure record) = .ok ledger := hfailure
            rw [applyFailure, exec_bind_of_ok (exec_get _), hledger, exec_bind_of_ok (exec_liftM _ _)]
            exact congrArg (Prod.mk _) (flagged_charged (c.persisted bytes) true ledger _)
          have hrun : c.perform (.reportFailure attempt code) =
              (.ok (.failed ⟨record.permanent, record.attempts, record.readyAt⟩), d) := by
            refine perform_of_flagged hin hd ?_
            rw [exec_bind_of_ok (exec_get _), hsame, hcheck, exec_bind_of_ok (exec_liftM _ _)]
            refine (exec_bind_of_ok hpersist).trans ?_
            rw [exec_bind_of_ok happly, exec_bind_of_ok (exec_modify _ _)]
            refine (exec_bind_of_ok (hnote true)).trans ?_
            rfl
          rw [hrun]
          exact .failed attempt code record ledger d hcheck hanswer hfailure hnoted

/-- A reading is kept if its intent passes the checks, and nothing changes otherwise. -/
theorem perform_updateCongestion {c : Coordinator} (hin : c.inside = false)
    (intent : CongestionIntent) :
    c.perform (.updateCongestion intent) =
      match c.checkCongestion intent with
      | .ok _ => (.ok .done, c.recordPressure intent)
      | .error e => (.error e, c) := by
  have hsame : (c.flagged true).checkCongestion intent = c.checkCongestion intent := rfl
  cases hcheck : c.checkCongestion intent with
  | error e =>
      refine perform_of_refusal hin ?_
      rw [exec_bind_of_ok (exec_get _), hsame, hcheck]
      exact exec_bind_of_error (exec_liftM _ _)
  | ok u =>
      refine perform_of_ok (a := ()) (g := fun d => d.recordPressure intent) hin (fun inside => ?_) ?_
      · unfold recordPressure
        simp only
        split <;> rfl
      · rw [exec_bind_of_ok (exec_get _), hsame, hcheck, exec_bind_of_ok (exec_liftM _ _)]
        rfl

/-- `update_congestion`, which is not durable. -/
theorem transition_updateCongestion {c : Coordinator} (hin : c.inside = false)
    (intent : CongestionIntent) :
    Transition c (.updateCongestion intent) (c.perform (.updateCongestion intent)).1
      (c.perform (.updateCongestion intent)).2 := by
  rw [perform_updateCongestion hin]
  cases hcheck : c.checkCongestion intent with
  | error e => exact .refused _ e
  | ok u => exact .pressured intent hcheck

/-- Every call ends in one of the ways of `Transition`. -/
theorem perform_transition {c : Coordinator} (hin : c.inside = false)
    (htopology : ∀ t, c.topology = some t → t.Consistent) (call : Call) :
    Transition c call (c.perform call).1 (c.perform call).2 := by
  cases call with
  | openShuffle request => exact transition_openShuffle hin request
  | cancelShuffle reason => exact transition_cancelShuffle hin reason
  | advanceTick => exact transition_advanceTick hin
  | registerProducer id incarnation endpoint =>
      exact transition_registerProducer hin id incarnation endpoint
  | registerConsumer id incarnation endpoint selection =>
      exact transition_registerConsumer hin id incarnation endpoint selection
  | setParticipantState kind id incarnation state =>
      exact transition_setParticipantState hin htopology kind id incarnation state
  | publishManifest manifest => exact transition_publishManifest hin manifest
  | nextWave => exact transition_nextWave hin
  | commitTransfer request => exact transition_commitTransfer hin request
  | reportFailure attempt code => exact transition_reportFailure hin attempt code
  | updateCongestion intent => exact transition_updateCongestion hin intent

end Coordinator

end ShuffleFabric
