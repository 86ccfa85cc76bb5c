import ShuffleFabric.Lib.Run
import ShuffleFabric.Recovery

/-!
# ShuffleFabric.Perform

The coordinator as a machine: the public operations as calls, the answers to them,
and what one statement of an operation does to the state.

Every operation is guarded against re-entrance, checks, and then makes records
durable; `exec_guarded`, `exec_persist` and `exec_commitRecord` are the equations the
proofs about operations start from.
-/

namespace ShuffleFabric

open Lib Action

/-! ## Calls -/

/-- The public operations with their arguments. -/
inductive Call where
  | openShuffle (request : ShuffleOpenRequest)
  | cancelShuffle (reason : ErrorCode)
  | advanceTick
  | registerProducer (id : ProducerId) (incarnation : IncarnationId) (endpoint : Bytes)
  | registerConsumer (id : ConsumerId) (incarnation : IncarnationId) (endpoint : Bytes)
      (selection : PartitionSelection)
  | setParticipantState (kind : ParticipantKind) (id : UInt64) (incarnation : IncarnationId)
      (state : ParticipantState)
  | publishManifest (manifest : PartitionManifest)
  | nextWave
  | commitTransfer (request : CommitRequest)
  | reportFailure (attempt : TransferAttemptId) (code : ErrorCode)
  | updateCongestion (intent : CongestionIntent)
  deriving DecidableEq

/-- What a successful call returns. -/
inductive Reply where
  | done
  | ticked (tick : TickId)
  | registered (outcome : RegistrationOutcome)
  | accepted (acceptance : ManifestAcceptance)
  | wave (plan : WavePlan)
  | committed (outcome : CommitOutcome)
  | failed (outcome : FailureOutcome)
  deriving DecidableEq

/-- The operation behind a call. -/
def Call.op : Call → Op Reply
  | .openShuffle request => (fun _ => .done) <$> Coordinator.openShuffle request
  | .cancelShuffle reason => (fun _ => .done) <$> Coordinator.cancelShuffle reason
  | .advanceTick => .ticked <$> Coordinator.advanceTick
  | .registerProducer id incarnation endpoint =>
    .registered <$> Coordinator.registerProducer id incarnation endpoint
  | .registerConsumer id incarnation endpoint selection =>
    .registered <$> Coordinator.registerConsumer id incarnation endpoint selection
  | .setParticipantState kind id incarnation state =>
    (fun _ => .done) <$> Coordinator.setParticipantState kind id incarnation state
  | .publishManifest manifest => .accepted <$> Coordinator.publishManifest manifest
  | .nextWave => .wave <$> Coordinator.nextWave
  | .commitTransfer request => .committed <$> Coordinator.commitTransfer request
  | .reportFailure attempt code => .failed <$> Coordinator.reportFailure attempt code
  | .updateCongestion intent => (fun _ => .done) <$> Coordinator.updateCongestion intent

/-- Did a call end in a completion? -/
def Reply.isCommitted : Result Reply → Bool
  | .ok (.committed _) => true
  | _ => false

/-- Did a call end in an accepted manifest? -/
def Reply.isAccepted : Result Reply → Bool
  | .ok (.accepted _) => true
  | _ => false

/-- Did a call hand out a grant with a property? -/
def Reply.grants (p : DispatchGrant → Bool) : Result Reply → Bool
  | .ok (.wave plan) => plan.grants.any p
  | _ => false

theorem Reply.grants_iff {p : DispatchGrant → Bool} {answer : Result Reply} :
    Reply.grants p answer = true ↔
      ∃ plan, answer = .ok (.wave plan) ∧ ∃ grant ∈ plan.grants, p grant = true := by
  unfold Reply.grants
  split <;> simp_all

theorem Reply.isCommitted_iff {answer : Result Reply} :
    Reply.isCommitted answer = true ↔ ∃ outcome, answer = .ok (.committed outcome) := by
  unfold Reply.isCommitted
  split <;> simp_all

theorem Reply.isAccepted_iff {answer : Result Reply} :
    Reply.isAccepted answer = true ↔ ∃ acceptance, answer = .ok (.accepted acceptance) := by
  unfold Reply.isAccepted
  split <;> simp_all

namespace Coordinator

/-- One call on a coordinator. -/
def perform (c : Coordinator) (call : Call) : Result Reply × Coordinator := call.op.exec c

/-- A call, or a recovery from whatever bytes a caller hands in. -/
inductive Move where
  | call (call : Call)
  | recover (snapshot : Bytes) (journal : List Bytes) (historyIncomplete : Bool)
  deriving DecidableEq

/-- One move of a coordinator. -/
def move (c : Coordinator) : Move → Result Reply × Coordinator
  | .call call => c.perform call
  | .recover snapshot journal historyIncomplete =>
    ((fun _ => Reply.done) <$> recover snapshot journal historyIncomplete).exec c

/-- Operations, and the end of a life: the process is gone, and a fresh coordinator
with the same bounds and the same sink recovers. -/
inductive Turn where
  | call (call : Call)
  | restart (snapshot : Bytes) (journal : List Bytes) (historyIncomplete : Bool)
  deriving DecidableEq

/-- One turn.  A recovery that is refused is tried again, or never; either way the only
trace of it is in the sink. -/
def turn (c : Coordinator) : Turn → Result Reply × Coordinator
  | .call call => c.perform call
  | .restart snapshot journal historyIncomplete =>
    match (recover snapshot journal historyIncomplete).exec (make c.limits c.sink) with
    | (.ok (), recovered) => (.ok .done, recovered)
    | (.error e, recovered) => (.error e, { c with sink := recovered.sink })

/-! ## The guard -/

/-- The coordinator with its re-entrance flag set or cleared. -/
def flagged (c : Coordinator) (inside : Bool) : Coordinator := { c with inside }

theorem exec_guarded {α : Type} (body : Op α) {c : Coordinator} (h : c.inside = false) :
    (guarded body).exec c =
      ((body.exec (c.flagged true)).1, (body.exec (c.flagged true)).2.flagged false) := by
  show (if c.inside then _ else _) = _
  rw [if_neg (by simp [h])]
  rfl

/-- A re-entrant call changes nothing. -/
theorem exec_guarded_inside {α : Type} (body : Op α) {c : Coordinator} (h : c.inside = true) :
    (guarded body).exec c =
      (.error ⟨.invalidState, "re-entrant coordinator entry refused"⟩, c) := by
  show (if c.inside then _ else _) = _
  rw [if_pos h]

/-- No operation leaves the flag set. -/
theorem perform_inside {c : Coordinator} (h : c.inside = false) (call : Call) :
    (c.perform call).2.inside = false := by
  have hguard : ∀ {α : Type} (f : α → Reply) (body : Op α),
      ((f <$> guarded body).exec c).2.inside = false := by
    intro α f body
    rw [exec_map, exec_guarded body h]
    rfl
  cases call <;> exact hguard _ _

/-! ## The sink -/

/-- What the sink answers to a record; a coordinator without a sink answers itself. -/
def sinkAnswer (c : Coordinator) (record : Bytes) : Status :=
  match c.sink with
  | none => .ok ()
  | some sink => sink.answer sink.calls record

/-- The coordinator after it handed a record to its sink. -/
def persisted (c : Coordinator) (record : Bytes) : Coordinator :=
  { c with
    sink := c.sink.map fun sink => (sink.persist record).2
    persistedRecords :=
      if c.sink.isSome ∧ c.sinkAnswer record = .ok () then c.persistedRecords + 1
      else c.persistedRecords }

/-- The records the sink accepted. -/
def journal (c : Coordinator) : List Bytes := (c.sink.map (·.accepted)).getD []

theorem exec_persist (c : Coordinator) (record : Bytes) :
    (persist record).exec c = (c.sinkAnswer record, c.persisted record) := by
  unfold persist sinkAnswer persisted
  rw [exec_bind_of_ok (exec_get c)]
  cases hsink : c.sink with
  | none =>
      cases c
      simp only at hsink
      subst hsink
      rfl
  | some sink =>
      cases hanswer : sink.answer sink.calls record with
      | error e => simp [exec_bind, Sink.persist, sinkAnswer, hsink, hanswer]
      | ok u => simp [exec_bind, Sink.persist, sinkAnswer, hsink, hanswer]

theorem journal_persisted (c : Coordinator) (record : Bytes) :
    (c.persisted record).journal =
      if c.sink.isSome ∧ c.sinkAnswer record = .ok () then c.journal ++ [record]
      else c.journal := by
  unfold journal persisted sinkAnswer
  cases hsink : c.sink with
  | none => simp
  | some sink =>
      cases hanswer : sink.answer sink.calls record with
      | error e => simp [Sink.persist, hanswer, Except.isOk, Except.toBool]
      | ok u => simp [Sink.persist, hanswer, Except.isOk, Except.toBool]

/-! ## Records -/

theorem exec_applyRecord (c : Coordinator) (record : Bytes) :
    (applyRecord record).exec c =
      match decodeRecord c.limits record with
      | .error e => (.error e, c)
      | .ok decoded => (applyDecoded decoded).exec c := by
  rw [applyRecord, exec_bind_of_ok (exec_get c), exec_bind, exec_liftM]
  cases decodeRecord c.limits record <;> rfl

theorem exec_commitRecord (c : Coordinator) (record : Bytes) :
    (commitRecord record).exec c =
      match c.sinkAnswer record with
      | .error e => (.error e, c.persisted record)
      | .ok () => (applyRecord record).exec (c.persisted record) := by
  rw [commitRecord, exec_bind, exec_persist]
  cases c.sinkAnswer record <;> rfl

/-- A lifecycle record that does not fit the shuffle it finds. -/
def Misfits (c : Coordinator) (record : ShuffleStateRecord) : Prop :=
  c.state ≠ .closed ∧ (record.shuffle ≠ c.request.shuffle ∨
      record.generation ≠ c.request.generation) ∨
    record.state = .open ∧ (c.state = .cancelled ∨ c.state = .completed ∨ c.state = .failed)

/-- What a lifecycle record that fits makes of the coordinator. -/
def entered (c : Coordinator) (record : ShuffleStateRecord) : Coordinator :=
  let c := if record.state = .open then c.openFrom record else c
  let c := { c with state := record.state, reason := record.reason }
  let c :=
    if c.state = .cancelled ∨ c.state = .cancelling then
      { c with scheduler := c.scheduler.abandonAll, grants := {} }
    else c
  c.advanceClock record.atTick

theorem exec_applyShuffleState {c : Coordinator} {record : ShuffleStateRecord}
    (h : ¬c.Misfits record) : (applyShuffleState record).exec c = (.ok (), c.entered record) := by
  obtain ⟨hsame, hreopen⟩ := not_or.mp h
  simp only [applyShuffleState, exec_bind, exec_get, exec_throwIf, if_neg hsame, if_neg hreopen,
    exec_modify]
  rfl

theorem applyShuffleState_ok {c c' : Coordinator} {record : ShuffleStateRecord}
    (h : (applyShuffleState record).exec c = (.ok (), c')) :
    ¬c.Misfits record ∧ c' = c.entered record := by
  have hfits : ¬c.Misfits record := by
    rintro (hother | hreopen)
    · rw [applyShuffleState, exec_bind_of_ok (exec_get c), exec_bind, exec_throwIf,
        if_pos hother] at h
      cases h
    · rw [applyShuffleState, exec_bind_of_ok (exec_get c)] at h
      obtain ⟨u, s, hfirst, h⟩ := exec_bind_ok h
      obtain rfl : c = s := by simpa using congrArg Prod.snd hfirst
      rw [exec_bind, exec_throwIf, if_pos hreopen] at h
      cases h
  rw [exec_applyShuffleState hfits] at h
  exact ⟨hfits, (congrArg Prod.snd h).symm⟩

/-! ## Checks -/

theorem ensureOpen_ok {c : Coordinator} {topology : Topology} (h : c.ensureOpen = .ok topology) :
    c.state = .open ∧ c.topology = some topology := by
  unfold ensureOpen at h
  split at h
  · cases h
  split at h
  · cases h
  · next hopen =>
      cases htopology : c.topology with
      | none => simp [htopology, makeFailure] at h
      | some t => exact ⟨not_not.mp hopen, by simpa [htopology] using h⟩

/-- Everything a completion was compared with. -/
theorem checkCommit_ok {c : Coordinator} {request : CommitRequest}
    (h : c.checkCommit request = .ok ()) :
    ∃ grant topology manifest, c.grants[request.attempt]? = some grant ∧
      c.ensureOpen = .ok topology ∧ c.checkGrant request grant = .ok () ∧
      checkConsumer topology request = .ok () ∧ checkProducer topology request = .ok () ∧
      c.manifests[request.edge.partition]? = some manifest ∧
      manifest.partitionGeneration = request.edge.partitionGeneration ∧
      checkEvidence request manifest = .ok () ∧ c.ledger.validateCommit request = .ok () := by
  simp only [checkCommit, bind_eq_ok, refuseIf_eq_ok, exists_const] at h
  obtain ⟨-, h⟩ := h
  cases hgrant : c.grants[request.attempt]? with
  | none => simp [hgrant, makeFailure] at h
  | some grant =>
      simp only [hgrant, bind_eq_ok] at h
      obtain ⟨topology, hopen, u₁, hcheck, u₂, hconsumer, u₃, hproducer, h⟩ := h
      cases hmanifest : c.manifests[request.edge.partition]? with
      | none => simp [hmanifest, makeFailure] at h
      | some manifest =>
          simp only [hmanifest, bind_eq_ok, refuseIf_eq_ok, exists_const] at h
          obtain ⟨hgeneration, u₄, hevidence, hvalid⟩ := h
          exact ⟨grant, topology, manifest, rfl, hopen, hcheck, hconsumer, hproducer, rfl,
            not_not.mp hgeneration, hevidence, hvalid⟩

/-- The request names the grant. -/
theorem checkGrant_ok {c : Coordinator} {request : CommitRequest} {grant : DispatchGrant}
    (h : c.checkGrant request grant = .ok ()) :
    request.shuffleGeneration = c.request.generation ∧
      request.edge.partition = grant.partition ∧
      request.edge.partitionGeneration = grant.partitionGeneration ∧
      request.consumer = grant.consumer ∧ request.edge.consumer = grant.consumer ∧
      request.producer = grant.producer ∧
      request.producerIncarnation = grant.producerIncarnation ∧
      request.consumerIncarnation = grant.consumerIncarnation ∧
      request.manifestDigest = grant.manifestDigest := by
  simp only [checkGrant, bind_eq_ok, refuseIf_eq_ok, exists_const, not_or, not_not] at h
  tauto

theorem checkConsumer_ok {topology : Topology} {request : CommitRequest}
    (h : checkConsumer topology request = .ok ()) :
    ∃ record, topology.findConsumer request.consumer = some record ∧
      record.incarnation = request.consumerIncarnation ∧ record.state = .active := by
  unfold checkConsumer at h
  split at h
  · simp [makeFailure] at h
  · next record hrecord =>
      simp only [bind_eq_ok, refuseIf_eq_ok, exists_const, not_not, holdsAuthority,
        beq_iff_eq] at h
      exact ⟨record, hrecord, h⟩

theorem checkProducer_ok {topology : Topology} {request : CommitRequest}
    (h : checkProducer topology request = .ok ()) :
    topology.ownerOf request.edge.partition = .ok request.producer ∧
      ∃ record, topology.findProducer request.producer = some record ∧
        record.incarnation = request.producerIncarnation ∧ record.state = .active := by
  simp only [checkProducer, bind_eq_ok, refuseIf_eq_ok, exists_const, not_not] at h
  obtain ⟨howner, h⟩ := h
  split at h
  · simp [makeFailure] at h
  · next record hrecord =>
      simp only [bind_eq_ok, refuseIf_eq_ok, exists_const, not_not, holdsAuthority,
        beq_iff_eq] at h
      exact ⟨howner, record, hrecord, h⟩

/-- Equal chunk by chunk is equal. -/
theorem eq_map_of_find?_zip {digests : List Digest} {chunks : List ChunkDescriptor}
    (hlen : digests.length = chunks.length)
    (h : (digests.zip chunks).find? (fun e => e.1 ≠ e.2.digest) = none) :
    digests = chunks.map (·.digest) := by
  induction digests generalizing chunks with
  | nil => simp [List.eq_nil_of_length_eq_zero hlen.symm]
  | cons digest digests ih =>
      cases chunks with
      | nil => simp at hlen
      | cons chunk chunks =>
          simp only [List.zip_cons_cons, List.find?_cons] at h
          split at h
          · cases h
          · next heq =>
              have heq : digest = chunk.digest := by simpa using heq
              rw [List.map_cons, ← ih (by simpa using hlen) h, heq]

/-- The evidence is the manifest's. -/
theorem checkEvidence_ok {request : CommitRequest} {manifest : PartitionManifest}
    (h : checkEvidence request manifest = .ok ()) :
    request.manifestDigest = computeManifestDigest manifest ∧
      (request.observedPartitionDigest = computeManifestDigest manifest ∨
        request.observedPartitionDigest = computePartitionDigest manifest) ∧
      request.bytes = manifest.totalBytes ∧
      request.observedChunkDigests = manifest.chunks.map (·.digest) := by
  simp only [checkEvidence, bind_eq_ok, refuseIf_eq_ok, exists_const, not_not, not_and_or] at h
  obtain ⟨hdigest, -, hobserved, hbytes, hlen, h⟩ := h
  split at h
  · simp [makeFailure] at h
  · next hfind => exact ⟨hdigest.symm, hobserved, hbytes, eq_map_of_find?_zip hlen hfind⟩

/-! ## Waves -/

@[simp] theorem flagged_true_false {c : Coordinator} (h : c.inside = false) :
    (c.flagged true).flagged false = c := by
  cases c
  simp only at h
  subst h
  rfl

/-- The registry after a plan was admitted: what was there, and grants of the plan. -/
theorem exists_foldl_admitGrant (plan : List DispatchGrant) (c : Coordinator) :
    ∃ (grants : Std.ExtTreeMap UInt64 DispatchGrant) (bytes : UInt64),
      plan.foldl admitGrant c =
        { c with grants, ledger := { c.ledger with attemptedBytes := bytes } } ∧
      ∀ (attempt : TransferAttemptId) (grant : DispatchGrant), grants[attempt]? = some grant →
        c.grants[attempt]? = some grant ∨ grant ∈ plan ∧ grant.attempt = attempt := by
  induction plan generalizing c with
  | nil => exact ⟨c.grants, c.ledger.attemptedBytes, rfl, fun _ _ h => .inl h⟩
  | cons first plan ih =>
      obtain ⟨grants, bytes, heq, hgrants⟩ := ih (c.admitGrant first)
      refine ⟨grants, bytes, heq, fun attempt grant h => ?_⟩
      rcases hgrants attempt grant h with h | ⟨h, hattempt⟩
      · simp only [admitGrant, Std.ExtTreeMap.getElem?_insertIfNew, Std.compare_eq_iff_eq] at h
        split at h
        · next hnew =>
            obtain rfl := Option.some.inj h
            exact .inr ⟨List.mem_cons_self, hnew.1⟩
        · exact .inl h
      · exact .inr ⟨List.mem_cons_of_mem _ h, hattempt⟩

/-- The ways `next_wave` ends. -/
theorem nextWave_cases {c : Coordinator} (hin : c.inside = false) :
    (c.state = .completed ∧ nextWave.exec c = (.ok { allResolved := true }, c)) ∨
    (∃ e, nextWave.exec c = (.error e, c)) ∨
    (∃ topology scheduler e, c.ensureOpen = .ok topology ∧
      c.ensureScheduler topology = .ok scheduler ∧
      scheduler.nextWave (c.environment topology) = .error e ∧
      nextWave.exec c = (.error e, { c with scheduler })) ∨
    (∃ topology scheduler plan scheduler', c.ensureOpen = .ok topology ∧
      c.ensureScheduler topology = .ok scheduler ∧
      scheduler.nextWave (c.environment topology) = .ok (plan, scheduler') ∧
      nextWave.exec c =
        (.ok plan, (plan.grants.foldl admitGrant
          { c.flagged true with scheduler := scheduler' }).flagged false)) := by
  rw [nextWave, exec_guarded _ hin, exec_bind_of_ok (exec_get _)]
  by_cases hcompleted : c.state = .completed
  · left
    have hflag : (c.flagged true).state = .completed := hcompleted
    simp [hflag, hcompleted, flagged_true_false hin]
  right
  have hflag : ¬(c.flagged true).state = .completed := hcompleted
  have hopen : (c.flagged true).ensureOpen = c.ensureOpen := rfl
  rw [if_neg hflag, hopen]
  cases htopology : c.ensureOpen with
  | error e =>
      left
      exact ⟨e, by simp [exec_bind, flagged_true_false hin]⟩
  | ok topology =>
      have hsched : (c.flagged true).ensureScheduler topology = c.ensureScheduler topology := rfl
      cases hscheduler : c.ensureScheduler topology with
      | error e =>
          left
          exact ⟨e, by simp [exec_bind, hsched, hscheduler, flagged_true_false hin]⟩
      | ok scheduler =>
          right
          have henv : (c.flagged true).environment topology = c.environment topology := rfl
          cases hwave : scheduler.nextWave (c.environment topology) with
          | error e =>
              left
              refine ⟨topology, scheduler, e, rfl, hscheduler, hwave, ?_⟩
              simp only [exec_bind, exec_liftM, hsched, hscheduler, exec_modify, henv, hwave]
              simp only [flagged, ← hin]
          | ok out =>
              right
              refine ⟨topology, scheduler, out.1, out.2, rfl, hscheduler, hwave, ?_⟩
              simp only [exec_bind, exec_liftM, hsched, hscheduler, exec_modify, henv, hwave,
                exec_pure]

end Coordinator

/-! ## A small shuffle

Concrete arguments for the runs that witness or refute a general statement: one
producer, one-byte partitions, a sink that accepts everything.
-/

/-- A sink that accepts every record. -/
def acceptAll : Sink := { answer := fun _ _ => .ok () }

/-- A shuffle of some partitions, with waves of one grant. -/
def smallOpen (partitions : UInt32) : ShuffleOpenRequest where
  shuffle := 7
  generation := 1
  partitionCount := partitions
  policy := {
    shuffle := 7, shuffleGeneration := 1, generation := 1
    waves := { maxGrantsPerWave := 1, maxEdgesExaminedPerWave := 4 } }

/-- A manifest of one chunk of one byte, published by the first incarnation of
producer 1. -/
def smallManifest (partition : PartitionId) (generation : PartitionGeneration)
    (topologyGeneration : TopologyGeneration) : PartitionManifest where
  shuffle := 7
  shuffleGeneration := 1
  partition := partition
  partitionGeneration := generation
  producer := 1
  producerIncarnation := 1
  topologyGeneration := topologyGeneration
  totalBytes := 1
  chunks := [{ id := 0, offset := 0, length := 1, digest := sha256 [] }]

/-- The completion of an attempt to transfer a manifest to the first incarnation of a
consumer. -/
def smallCommit (manifest : PartitionManifest) (attempt : TransferAttemptId)
    (consumer : ConsumerId) : CommitRequest where
  edge := ⟨manifest.partition, manifest.partitionGeneration, consumer⟩
  attempt := attempt
  wave := 1
  shuffleGeneration := 1
  topologyGeneration := manifest.topologyGeneration
  policyGeneration := 1
  producer := 1
  producerIncarnation := 1
  consumer := consumer
  consumerIncarnation := 1
  manifestDigest := computeManifestDigest manifest
  observedPartitionDigest := computeManifestDigest manifest
  observedChunkDigests := manifest.chunks.map (·.digest)
  bytes := manifest.totalBytes
  integrityVerified := true

/-- One partition, one producer, consumer 2, up to the first grant. -/
def smallCalls : List Call :=
  [.openShuffle (smallOpen 1), .registerProducer 1 1 [], .registerConsumer 2 1 [] {},
    .publishManifest (smallManifest 0 1 0), .nextWave]

end ShuffleFabric
