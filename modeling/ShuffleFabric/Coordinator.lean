import ShuffleFabric.Records
import ShuffleFabric.Schedule

/-!
# ShuffleFabric.Coordinator

The coordinator: the single authority over one shuffle.  It validates an
operation, makes it durable, and only then applies and answers it
(`coordinator.hpp`, `coordinator.cpp`).

A member function is an `Op`: it mutates the coordinator and answers or refuses;
what it changed before a refusal stays changed.  The durable sink is code outside
the coordinator.  It is modelled by the answers it gives, one for each call, and
by the records it accepted; nothing is assumed about the answers.
-/

namespace ShuffleFabric

open Lib Action

/-! ## The sink -/

/-- A `DurableSink` object: what it answers to its n-th call, how often it was
called, and the records it accepted so far. -/
structure Sink where
  claimsDurability : Bool := true
  answer : Nat → Bytes → Status
  calls : Nat := 0
  accepted : List Bytes := []

/-- `DurableSink::persist`. -/
def Sink.persist (sink : Sink) (record : Bytes) : Status × Sink :=
  let status := sink.answer sink.calls record
  (status,
    { sink with
      calls := sink.calls + 1
      accepted := if status.isOk then sink.accepted ++ [record] else sink.accepted })

/-! ## State and answers -/

structure ShuffleOpenRequest where
  shuffle : ShuffleId := 0
  generation : ShuffleGeneration := 0
  partitionCount : UInt32 := 0
  policy : PolicyEnvelope := {}
  deriving DecidableEq

structure RegistrationOutcome where
  topologyGeneration : TopologyGeneration
  incarnation : IncarnationId
  supersededPrevious : Bool
  deriving DecidableEq

structure ManifestAcceptance where
  manifestDigest : Digest
  partitionGeneration : PartitionGeneration
  deriving DecidableEq

structure CommitOutcome where
  receipt : CommitReceipt
  shuffleCompleted : Bool
  deriving DecidableEq

structure FailureOutcome where
  permanent : Bool
  attempts : UInt32
  readyAt : TickId
  deriving DecidableEq

/-- Congestion evidence is advisory and must come from a current participant. -/
structure CongestionIntent where
  reporterKind : ParticipantKind
  reporterId : UInt64
  reporterIncarnation : IncarnationId
  producer : ProducerId
  consumer : ConsumerId
  level : UInt32
  policyGeneration : PolicyGeneration
  observedAt : TickId
  deriving DecidableEq

/-- `class Coordinator`. -/
structure Coordinator where
  limits : Limits
  sink : Option Sink
  durable : Bool
  /-- Set while a member function runs. -/
  inside : Bool := false
  state : ShuffleState := .closed
  reason : ErrorCode := .ok
  request : ShuffleOpenRequest := {}
  epoch : UInt64 := 0
  clock : TickId := 0
  topology : Option Topology := none
  ledger : CompletionLedger
  scheduler : WaveScheduler
  manifests : Std.ExtTreeMap UInt64 PartitionManifest := {}
  facts : Std.ExtTreeMap UInt64 PartitionFacts := {}
  grants : Std.ExtTreeMap UInt64 DispatchGrant := {}
  producerPressure : Std.ExtTreeMap UInt64 PressureReading := {}
  consumerPressure : Std.ExtTreeMap UInt64 PressureReading := {}
  globalPressure : Option PressureReading := none
  unrevalidatedProducers : Finset UInt64 := ∅
  unrevalidatedConsumers : Finset UInt64 := ∅
  pendingRevalidation : UInt32 := 0
  historyIncomplete : Bool := false
  persistedRecords : UInt64 := 0
  commitsApplied : UInt64 := 0
  failuresApplied : UInt64 := 0

/-- A member function of the coordinator. -/
abbrev Op (α : Type) := Action Coordinator Error α

namespace Coordinator

/-- The constructor. -/
def make (limits : Limits) (sink : Option Sink) : Coordinator where
  limits := limits
  sink := sink
  durable := sink.any (·.claimsDurability)
  ledger := { limits }
  scheduler := { limits }

/-- The `Guard` at the head of every public member function: a re-entrant call is
refused, and the flag is cleared on every way out. -/
def guarded {α : Type} (body : Op α) : Op α :=
  ExceptT.mk fun c =>
    if c.inside then (.error ⟨.invalidState, "re-entrant coordinator entry refused"⟩, c)
    else
      let (answer, c) := body.exec { c with inside := true }
      (answer, { c with inside := false })

/-- `clock_.reset(tick)` when the tick lies ahead. -/
def advanceClock (c : Coordinator) (tick : TickId) : Coordinator :=
  if tick > c.clock then { c with clock := tick } else c

/-! ## Durability plumbing -/

/-- `Coordinator::persist`. -/
def persist (record : Bytes) : Op Unit := do
  match (← get).sink with
  | none => pure ()
  | some sink => do
    let (status, sink) := sink.persist record
    modify fun c => { c with sink := some sink }
    liftM status
    modify fun c => { c with persistedRecords := c.persistedRecords + 1 }

/-- The `EpochAdvanced` case of `apply_record`. -/
def applyEpoch (record : EpochRecord) : Op Unit := do
  modify fun c => if record.epoch > c.epoch then { c with epoch := record.epoch } else c
  modify (·.advanceClock record.openedAt)

/-- What an `Open` record establishes. -/
def openFrom (c : Coordinator) (record : ShuffleStateRecord) : Coordinator :=
  { c with
    request := {
      shuffle := record.shuffle, generation := record.generation
      partitionCount := record.partitionCount, policy := record.policy }
    topology := some (c.topology.getD {
      shuffle := record.shuffle, shuffleGeneration := record.generation
      partitionCount := record.partitionCount, limits := c.limits })
    ledger := c.ledger.bind record.shuffle record.generation record.partitionCount }

/-- `Coordinator::apply_shuffle_state`. -/
def applyShuffleState (record : ShuffleStateRecord) : Op Unit := do
  let c ← get
  throwIf (c.state ≠ .closed ∧ (record.shuffle ≠ c.request.shuffle ∨ record.generation ≠
      c.request.generation)) ⟨.stateImpossible,
    "durable state describes another shuffle generation"⟩
  throwIf (record.state = .open ∧ (c.state = .cancelled ∨ c.state = .completed ∨ c.state =
      .failed)) ⟨.stateImpossible,
    "durable state reopens a finished shuffle"⟩
  modify fun c => if record.state = .open then c.openFrom record else c
  modify fun c => { c with state := record.state, reason := record.reason }
  -- Nothing dispatched before a cancellation can commit after it.
  modify fun c =>
    if c.state = .cancelled ∨ c.state = .cancelling then
      { c with scheduler := c.scheduler.abandonAll, grants := {} }
    else c
  modify (·.advanceClock record.atTick)

/-- A participant that re-registers with a fresh incarnation has re-established the
liveness a restart invalidated. -/
def revalidate (c : Coordinator) (kind : ParticipantKind) (id : UInt64) : Coordinator :=
  let pending := if c.pendingRevalidation > 0 then c.pendingRevalidation - 1
    else c.pendingRevalidation
  match kind with
  | .producer =>
    if id ∈ c.unrevalidatedProducers then
      { c with
        unrevalidatedProducers := c.unrevalidatedProducers.erase id
        pendingRevalidation := pending }
    else c
  | .consumer =>
    if id ∈ c.unrevalidatedConsumers then
      { c with
        unrevalidatedConsumers := c.unrevalidatedConsumers.erase id
        pendingRevalidation := pending }
    else c

/-- The incarnation registered under the record's identifier so far. -/
def previousIncarnation (topology : Topology) (record : ParticipantRecord) :
    Option IncarnationId :=
  match record.kind with
  | .producer => (topology.findProducer record.id).map (·.incarnation)
  | .consumer => (topology.findConsumer record.id).map (·.incarnation)

/-- The registration a participant record carries. -/
def registerFrom (topology : Topology) (record : ParticipantRecord) : Result Topology :=
  match record.kind with
  | .producer => topology.registerProducer record.id record.incarnation record.endpoint
  | .consumer =>
    topology.registerConsumer record.id record.incarnation record.endpoint record.selection

/-- The state change a participant record carries. -/
def setStateFrom (topology : Topology) (record : ParticipantRecord) : Result Topology :=
  match record.kind with
  | .producer => topology.setProducerState record.id record.incarnation record.state
  | .consumer => topology.setConsumerState record.id record.incarnation record.state

/-- Put the record's state in place of `Active`, which registration leaves. -/
def applyState (registered : Topology) (record : ParticipantRecord) : Op Unit :=
  if record.state = .active then pure ()
  else do
    let applied ← liftM (setStateFrom registered record)
    modify fun c => { c with topology := some applied }

/-- `Coordinator::apply_participant`. -/
def applyParticipant (record : ParticipantRecord) : Op Unit := do
  match (← get).topology with
  | none =>
    throw ⟨.invalidState, "participant record arrived before the shuffle was opened"⟩
  | some topology => do
    let registered ← liftM (registerFrom topology record)
    modify fun c => { c with topology := some registered }
    applyState registered record
    modify fun c =>
      match previousIncarnation topology record with
      | some previous =>
        if previous ≠ record.incarnation then c.revalidate record.kind record.id else c
      | none => c
    modify (·.advanceClock record.atTick)

/-- What is known about a partition once its manifest is accepted. -/
def factsOf (manifest : PartitionManifest) : PartitionFacts where
  produced := true
  partitionGeneration := manifest.partitionGeneration
  manifestDigest := computeManifestDigest manifest
  totalBytes := manifest.totalBytes
  producerIncarnation := manifest.producerIncarnation
  producer := manifest.producer

/-- A manifest must not be older than the accepted one, nor differ from it under the
same generation. -/
def checkExisting (existing : Option PartitionManifest) (manifest : PartitionManifest) :
    Status :=
  match existing with
  | none => pure ()
  | some existing => do
    refuseIf (existing.partitionGeneration > manifest.partitionGeneration) .staleGeneration
      "manifest record is older than the accepted generation"
    refuseIf (existing.partitionGeneration = manifest.partitionGeneration ∧
        existing ≠ manifest) .divergentCommit
      "a different manifest already describes this partition generation"

/-- `Coordinator::apply_manifest`. -/
def applyManifest (record : ManifestRecord) : Op Unit := do
  let c ← get
  let manifest := record.manifest
  throwIf c.topology.isNone
    ⟨.invalidState, "manifest record arrived before the shuffle was opened"⟩
  liftM (checkExisting c.manifests[manifest.partition]? manifest)
  modify fun c => { c with
    manifests := c.manifests.insert manifest.partition manifest
    facts := c.facts.insert manifest.partition (factsOf manifest) }
  -- A re-produced partition invalidates the completions of its previous generation.
  let ledger ← liftM (c.ledger.retireGeneration manifest.partition manifest.partitionGeneration)
  modify fun c => { c with ledger }

/-- `Coordinator::apply_commit`. -/
def applyCommit (record : CommitRecord) : Op Unit := do
  let (_, ledger) ← liftM ((← get).ledger.commit record.request record.atTick)
  modify fun c => { c with ledger, commitsApplied := c.commitsApplied + 1 }
  modify (·.advanceClock record.atTick)

/-- The failure the ledger stores for a durable failure record. -/
def ledgerFailure (record : FailureRecordDurable) : FailureRecord where
  key := record.key
  code := record.code
  attempts := record.attempts
  recordedAt := record.recordedAt
  readyAt := record.readyAt
  permanent := record.permanent

/-- `Coordinator::apply_failure`; the clock resumes at or beyond the retry tick. -/
def applyFailure (record : FailureRecordDurable) : Op Unit := do
  let ledger ← liftM ((← get).ledger.recordFailure (ledgerFailure record))
  modify fun c => { c with ledger, failuresApplied := c.failuresApplied + 1 }
  modify (·.advanceClock record.readyAt)

/-- The `switch` of `apply_record` over the decoded record. -/
def applyDecoded : DurableRecord → Op Unit
  | .epochAdvanced record => applyEpoch record
  | .shuffleState record => applyShuffleState record
  | .participant record => applyParticipant record
  | .manifest record => applyManifest record
  | .commit record => applyCommit record
  | .failure record => applyFailure record

/-- `Coordinator::apply_record`. -/
def applyRecord (record : Bytes) : Op Unit := do
  let decoded ← liftM (decodeRecord (← get).limits record)
  applyDecoded decoded

/-- `Coordinator::commit_record`: durable first, applied second. -/
def commitRecord (record : Bytes) : Op Unit := do
  persist record
  applyRecord record

/-- `Coordinator::persist_epoch`. -/
def persistEpoch : Op Unit := do
  let c ← get
  commitRecord (EpochRecord.encode { epoch := c.epoch + 1, openedAt := c.clock })

/-! ## Views -/

/-- `Coordinator::partition_facts`. -/
def partitionFacts (c : Coordinator) (id : PartitionId) : PartitionFacts := c.facts.getD id {}

/-- `Coordinator::freshen`. -/
def freshen (c : Coordinator) (reading : PressureReading) : PressureReading :=
  { reading with
    fresh := reading.observed && reading.policyGeneration == c.request.policy.generation &&
      reading.observedAt ≤ c.clock &&
      c.clock - reading.observedAt ≤ c.request.policy.congestion.evidenceValidityTicks.toUInt64 }

/-- `producer_pressure` and `consumer_pressure`: the participant's own reading, else
the global one, else none. -/
def pressureIn (c : Coordinator) (readings : Std.ExtTreeMap UInt64 PressureReading)
    (id : UInt64) : PressureReading :=
  match readings[id]? with
  | some reading => c.freshen reading
  | none =>
    match c.globalPressure with
    | some reading => c.freshen reading
    | none => {}

/-- The environment `next_wave` hands to the scheduler. -/
def environment (c : Coordinator) (topology : Topology) : SchedulingEnvironment where
  topology := topology
  edgeStatus := c.ledger.edgeStatus
  partitionFacts := c.partitionFacts
  producerPressure := c.pressureIn c.producerPressure
  consumerPressure := c.pressureIn c.consumerPressure
  now := c.clock

/-- `Coordinator::ensure_open`, with the topology it makes sure of. -/
def ensureOpen (c : Coordinator) : Result Topology :=
  if c.state = .cancelled ∨ c.state = .cancelling then
    makeFailure .cancelled "shuffle is cancelled; no further authority is granted"
  else if c.state ≠ .open then
    makeFailure .invalidState "no shuffle is open"
  else
    match c.topology with
    | some topology => .ok topology
    | none => makeFailure .invalidState "no shuffle is open"

/-! ## Lifecycle -/

/-- The checks of `open_shuffle`. -/
def checkOpen (c : Coordinator) (request : ShuffleOpenRequest) : Status := do
  refuseIf (c.state ≠ .closed) .invalidState "a shuffle is already open in this coordinator"
  refuseIf (request.shuffle = 0 ∨ request.generation = 0) .invalidArgument
    "shuffle identity and generation must be non-zero"
  refuseIf (request.partitionCount = 0) .invalidArgument
    "shuffle must declare at least one partition"
  refuseIf (request.partitionCount > c.limits.maxPartitions) .tooManyPartitions
    "partition count exceeds max_partitions"
  validatePolicy request.policy
  refuseIf (request.policy.shuffle ≠ request.shuffle ∨ request.policy.shuffleGeneration ≠
      request.generation) .policyMismatch
    "policy envelope does not belong to this shuffle generation"

/-- The lifecycle record of a request. -/
def stateRecord (request : ShuffleOpenRequest) (state : ShuffleState) (reason : ErrorCode)
    (tick : TickId) : ShuffleStateRecord where
  shuffle := request.shuffle
  generation := request.generation
  partitionCount := request.partitionCount
  policy := request.policy
  state := state
  reason := reason
  atTick := tick

/-- `Coordinator::open_shuffle`. -/
def openShuffle (request : ShuffleOpenRequest) : Op Unit := guarded do
  liftM ((← get).checkOpen request)
  persistEpoch
  commitRecord (stateRecord request .open .ok (← get).clock).encode

/-- `Coordinator::cancel_shuffle`. -/
def cancelShuffle (reason : ErrorCode) : Op Unit := guarded do
  let c ← get
  if c.state = .cancelled then
    pure ()
  else do
    throwIf (c.state ≠ .open) ⟨.invalidState, "no shuffle is open to cancel"⟩
    throwIf (reason = .ok) ⟨.invalidArgument, "cancellation requires a reason code"⟩
    commitRecord (stateRecord c.request .cancelled reason c.clock).encode

/-- `Coordinator::advance_tick`. -/
def advanceTick : Op TickId := guarded do
  modify fun c => { c with clock := c.clock + 1 }
  return (← get).clock

/-- `Coordinator::note_completion`: the shuffle is complete once as many edges are
resolved as are required.  A refusal of the record is dropped. -/
def noteCompletion : Op Unit := do
  let c ← get
  match c.state, c.topology with
  | .open, some topology =>
    match topology.plannedEdgeCount with
    | .error _ => pure ()
    | .ok required =>
      let snapshot := c.ledger.progress required c.clock
      if snapshot.edgesCompleted + snapshot.edgesFailed < required then
        pure ()
      else
        (commitRecord (stateRecord c.request .completed .ok c.clock).encode).ignore
  | _, _ => pure ()

/-! ## Participants -/

/-- `Coordinator::register_producer`. -/
def registerProducer (id : ProducerId) (incarnation : IncarnationId) (endpoint : Bytes) :
    Op RegistrationOutcome := guarded do
  let c ← get
  let topology ← liftM c.ensureOpen
  liftM (topology.checkProducerRegistration id incarnation endpoint)
  let supersededPrevious := (topology.findProducer id).any (·.incarnation ≠ incarnation)
  let record : ParticipantRecord := {
    kind := .producer, id, incarnation, state := .active, endpoint, atTick := c.clock }
  commitRecord record.encode
  let topologyGeneration := ((← get).topology.map (·.generation)).getD 0
  return { topologyGeneration, incarnation, supersededPrevious }

/-- `Coordinator::register_consumer`. -/
def registerConsumer (id : ConsumerId) (incarnation : IncarnationId) (endpoint : Bytes)
    (selection : PartitionSelection) : Op RegistrationOutcome := guarded do
  let c ← get
  let topology ← liftM c.ensureOpen
  liftM (topology.checkConsumerRegistration id incarnation endpoint selection)
  let supersededPrevious := (topology.findConsumer id).any (·.incarnation ≠ incarnation)
  let record : ParticipantRecord := {
    kind := .consumer, id, incarnation, state := .active, endpoint, selection
    atTick := c.clock }
  commitRecord record.encode
  let topologyGeneration := ((← get).topology.map (·.generation)).getD 0
  return { topologyGeneration, incarnation, supersededPrevious }

/-- The endpoint and the selection a state record repeats. -/
def registeredAs (topology : Topology) (kind : ParticipantKind) (id : UInt64) :
    Bytes × PartitionSelection :=
  match kind with
  | .producer => (((topology.findProducer id).map (·.endpoint)).getD [], {})
  | .consumer =>
    match topology.findConsumer id with
    | some record => (record.endpoint, topology.pattern record.pattern)
    | none => ([], {})

/-- `Coordinator::set_participant_state`. -/
def setParticipantState (kind : ParticipantKind) (id : UInt64) (incarnation : IncarnationId)
    (state : ParticipantState) : Op Unit := guarded do
  let c ← get
  let topology ← liftM c.ensureOpen
  liftM (topology.checkParticipantState kind id incarnation)
  let (endpoint, selection) := registeredAs topology kind id
  let record : ParticipantRecord := {
    kind, id, incarnation, state, endpoint, selection, atTick := c.clock }
  commitRecord record.encode

/-! ## Manifests -/

/-- The checks of `publish_manifest`; the answer is the manifest as it is accepted,
bound to the current topology generation. -/
def checkPublish (c : Coordinator) (manifest : PartitionManifest) :
    Result PartitionManifest := do
  let topology ← c.ensureOpen
  validateManifest manifest c.limits
  refuseIf (manifest.shuffle ≠ c.request.shuffle ∨ manifest.shuffleGeneration ≠
      c.request.generation) .staleGeneration
    "manifest belongs to another shuffle generation"
  refuseIf (manifest.partition ≥ c.request.partitionCount.toUInt64) .unknownPartition
    "manifest references a partition outside the shuffle"
  refuseIf (topology.ownerOf manifest.partition ≠ .ok manifest.producer) .partitionNotOwned
    "manifest was published by a producer that does not own the partition"
  match topology.findProducer manifest.producer with
  | none => makeFailure .unknownParticipant "manifest producer is not registered"
  | some record => do
    refuseIf (record.incarnation ≠ manifest.producerIncarnation) .staleIncarnation
      "manifest carries a superseded producer incarnation"
    refuseIf (¬holdsAuthority record.state) .participantNotActive
      "manifest producer holds no authority"
    let normalized := { manifest with topologyGeneration := topology.generation }
    match c.manifests[normalized.partition]? with
    | some existing => do
      refuseIf (existing.partitionGeneration > normalized.partitionGeneration) .staleGeneration
        "a newer partition generation is already accepted"
      refuseIf (existing.partitionGeneration = normalized.partitionGeneration ∧ existing ≠
          normalized) .divergentCommit
        "a different manifest already describes this partition generation"
      pure normalized
    | none => pure normalized

/-- `Coordinator::publish_manifest`. -/
def publishManifest (manifest : PartitionManifest) : Op ManifestAcceptance := guarded do
  let c ← get
  let normalized ← liftM (c.checkPublish manifest)
  let encoded ← liftM (ManifestRecord.encode { manifest := normalized } c.limits)
  commitRecord encoded
  return {
    manifestDigest := computeManifestDigest normalized
    partitionGeneration := normalized.partitionGeneration }

/-! ## Waves -/

/-- `Coordinator::ensure_scheduler`. -/
def ensureScheduler (c : Coordinator) (topology : Topology) : Result WaveScheduler :=
  if ¬c.scheduler.configured ∨ c.scheduler.topologyGeneration ≠ topology.generation ∨
      c.scheduler.policyGeneration ≠ c.request.policy.generation then
    c.scheduler.configure c.request.policy topology
  else .ok c.scheduler

/-- Register the authority of one grant of the plan. -/
def admitGrant (c : Coordinator) (grant : DispatchGrant) : Coordinator :=
  { c with
    grants := c.grants.insertIfNew grant.attempt grant
    ledger := c.ledger.noteAttemptBytes grant.totalBytes }

/-- `Coordinator::next_wave`. -/
def nextWave : Op WavePlan := guarded do
  let c ← get
  if c.state = .completed then
    -- An empty plan grants no authority, and no wave identity is consumed.
    return { allResolved := true }
  else do
    let topology ← liftM c.ensureOpen
    let scheduler ← liftM (c.ensureScheduler topology)
    modify fun c => { c with scheduler }
    let (plan, scheduler) ← liftM (scheduler.nextWave (c.environment topology))
    modify fun c => plan.grants.foldl admitGrant { c with scheduler }
    return plan

/-! ## Outcomes of transfers -/

/-- The evidence `commit_transfer` compares with the accepted manifest. -/
def checkEvidence (request : CommitRequest) (manifest : PartitionManifest) : Status := do
  refuseIf (computeManifestDigest manifest ≠ request.manifestDigest) .digestMismatch
    "accepted manifest digest does not match the attempt"
  refuseIf (¬request.integrityVerified) .integrityFailure
    "completion requires verified integrity evidence"
  refuseIf (request.observedPartitionDigest ≠ computeManifestDigest manifest ∧
      request.observedPartitionDigest ≠ computePartitionDigest manifest) .digestMismatch
    "consumer observed different partition content"
  refuseIf (request.bytes ≠ manifest.totalBytes) .accountingMismatch
    "completion byte count contradicts the manifest"
  refuseIf (request.observedChunkDigests.length ≠ manifest.chunks.length) .integrityFailure
    "chunk evidence does not cover the manifest chunk set"
  match (request.observedChunkDigests.zip manifest.chunks).find? (fun e => e.1 ≠ e.2.digest) with
  | some (_, chunk) =>
    makeFailure .digestMismatch s!"chunk {chunk.id} evidence does not match the manifest"
  | none => pure ()

/-- What `commit_transfer` demands of the completing consumer. -/
def checkConsumer (topology : Topology) (request : CommitRequest) : Status :=
  match topology.findConsumer request.consumer with
  | none => makeFailure .unknownParticipant "completing consumer is not registered"
  | some record => do
    refuseIf (record.incarnation ≠ request.consumerIncarnation) .staleIncarnation
      "completing consumer incarnation is superseded"
    refuseIf (¬holdsAuthority record.state) .participantNotActive
      "completing consumer holds no authority"

/-- What `commit_transfer` demands of the producing participant. -/
def checkProducer (topology : Topology) (request : CommitRequest) : Status := do
  refuseIf (topology.ownerOf request.edge.partition ≠ .ok request.producer) .partitionNotOwned
    "partition is no longer owned by that producer"
  match topology.findProducer request.producer with
  | none => makeFailure .staleIncarnation "producing incarnation is superseded"
  | some record => do
    refuseIf (record.incarnation ≠ request.producerIncarnation) .staleIncarnation
      "producing incarnation is superseded"
    refuseIf (¬holdsAuthority record.state) .participantNotActive
      "producing participant holds no authority"

/-- What `commit_transfer` demands of the grant the request claims. -/
def checkGrant (c : Coordinator) (request : CommitRequest) (grant : DispatchGrant) :
    Status := do
  refuseIf (request.shuffleGeneration ≠ c.request.generation) .staleGeneration
    "completion belongs to another shuffle generation"
  refuseIf (request.edge.partition ≠ grant.partition ∨ request.edge.partitionGeneration ≠
      grant.partitionGeneration ∨ request.consumer ≠ grant.consumer ∨ request.edge.consumer ≠
      grant.consumer) .attemptSuperseded
    "completion does not match the attempt it claims"
  refuseIf (request.producer ≠ grant.producer ∨ request.producerIncarnation ≠
      grant.producerIncarnation ∨ request.consumerIncarnation ≠ grant.consumerIncarnation)
    .staleIncarnation "completion carries a superseded incarnation"
  refuseIf (request.manifestDigest ≠ grant.manifestDigest) .manifestInconsistent
    "completion disagrees with the grant about the manifest"

/-- Every check of `commit_transfer`, in its order. -/
def checkCommit (c : Coordinator) (request : CommitRequest) : Status := do
  refuseIf (c.state = .cancelled ∨ c.state = .cancelling) .cancelled
    "shuffle is cancelled: late authority is refused"
  match c.grants[request.attempt]? with
  | none => makeFailure .staleAttempt "attempt was not issued in this coordinator epoch"
  | some grant => do
    let topology ← c.ensureOpen
    c.checkGrant request grant
    checkConsumer topology request
    checkProducer topology request
    match c.manifests[request.edge.partition]? with
    | none => makeFailure .staleGeneration "no accepted manifest for this partition generation"
    | some manifest => do
      refuseIf (manifest.partitionGeneration ≠ request.edge.partitionGeneration) .staleGeneration
        "no accepted manifest for this partition generation"
      checkEvidence request manifest
      -- A record that became durable and was then refused would be replayed forever.
      c.ledger.validateCommit request

/-- `scheduler_.resolve(..)` with its answer dropped, and the grant erased. -/
def resolveAttempt (c : Coordinator) (attempt : TransferAttemptId) : Coordinator :=
  { c with
    grants := c.grants.erase attempt
    scheduler := (c.scheduler.resolve attempt).toOption.getD c.scheduler }

/-- `Coordinator::commit_transfer`. -/
def commitTransfer (request : CommitRequest) : Op CommitOutcome := guarded do
  let c ← get
  liftM (c.checkCommit request)
  persist (CommitRecord.encode { request, atTick := c.clock })
  let (receipt, ledger) ← liftM (c.ledger.commit request c.clock)
  modify fun c => { c with ledger, commitsApplied := c.commitsApplied + 1 }
  modify (·.resolveAttempt request.attempt)
  noteCompletion
  return { receipt, shuffleCompleted := (← get).state = .completed }

/-- The durable record of a failed attempt: whether the failure is permanent, and
when the edge may be retried. -/
def failureRecordFor (c : Coordinator) (grant : DispatchGrant) (code : ErrorCode) :
    FailureRecordDurable :=
  let permanent := classify code = .authority ∨ classify code = .permanent ∨
    grant.attemptOrdinal ≥ c.request.policy.retry.maxAttempts
  { key := grant.key
    code
    permanent
    attempts := grant.attemptOrdinal
    recordedAt := c.clock
    readyAt :=
      if permanent then c.clock
      else c.clock + c.request.policy.retry.minTicksBetweenAttempts.toUInt64 }

/-- The checks of `report_failure`; the answer is the record to make durable. -/
def checkFailure (c : Coordinator) (attempt : TransferAttemptId) (code : ErrorCode) :
    Result FailureRecordDurable := do
  refuseIf (classify code = .deferred) .invalidArgument
    "a deferred condition is scheduling pressure, not a transfer failure"
  refuseIf (c.state = .cancelled ∨ c.state = .cancelling) .cancelled
    "shuffle is cancelled; the attempt has no authority"
  match c.grants[attempt]? with
  | none => makeFailure .staleAttempt "attempt was not issued in this coordinator epoch"
  | some grant => do
    let _ ← c.ensureOpen
    c.ledger.validateFailure grant.key code
    pure (c.failureRecordFor grant code)

/-- `Coordinator::report_failure`. -/
def reportFailure (attempt : TransferAttemptId) (code : ErrorCode) : Op FailureOutcome :=
  guarded do
    let record ← liftM ((← get).checkFailure attempt code)
    persist record.encode
    applyFailure record
    modify (·.resolveAttempt attempt)
    noteCompletion
    return {
      permanent := record.permanent, attempts := record.attempts, readyAt := record.readyAt }

/-! ## Congestion -/

/-- A congestion reporter must be registered, current and active. -/
def checkReporter (registered : Option (IncarnationId × ParticipantState))
    (incarnation : IncarnationId) : Status :=
  match registered with
  | none => makeFailure .unknownParticipant "congestion reporter is not registered"
  | some (current, state) => do
    refuseIf (current ≠ incarnation) .staleIncarnation
      "congestion reporter incarnation is superseded"
    refuseIf (¬holdsAuthority state) .participantNotActive "congestion reporter holds no authority"

/-- The checks of `update_congestion`. -/
def checkCongestion (c : Coordinator) (intent : CongestionIntent) : Status := do
  let topology ← c.ensureOpen
  refuseIf (intent.level > 100) .invalidArgument "congestion level is outside [0, 100]"
  refuseIf (intent.policyGeneration ≠ c.request.policy.generation) .stalePolicy
    "congestion evidence was produced under another policy generation"
  refuseIf (intent.observedAt > c.clock) .invalidArgument
    "congestion evidence is observed in the future"
  match intent.reporterKind with
  | .producer =>
    checkReporter ((topology.findProducer intent.reporterId).map fun r => (r.incarnation, r.state))
      intent.reporterIncarnation
  | .consumer =>
    checkReporter ((topology.findConsumer intent.reporterId).map fun r => (r.incarnation, r.state))
      intent.reporterIncarnation

/-- The reading an accepted intent leaves behind. -/
def recordPressure (c : Coordinator) (intent : CongestionIntent) : Coordinator :=
  let reading : PressureReading := {
    level := intent.level, observed := true, fresh := true, observedAt := intent.observedAt
    reporter := intent.reporterIncarnation, policyGeneration := intent.policyGeneration }
  if intent.producer = 0 ∧ intent.consumer = 0 then { c with globalPressure := some reading }
  else
    { c with
      producerPressure :=
        if intent.producer ≠ 0 then c.producerPressure.insert intent.producer reading
        else c.producerPressure
      consumerPressure :=
        if intent.consumer ≠ 0 then c.consumerPressure.insert intent.consumer reading
        else c.consumerPressure }

/-- `Coordinator::update_congestion`. -/
def updateCongestion (intent : CongestionIntent) : Op Unit := guarded do
  liftM ((← get).checkCongestion intent)
  modify (·.recordPressure intent)

/-! ## Inspection -/

/-- `Coordinator::compute_progress`. -/
def computeProgress (c : Coordinator) : ProgressSnapshot :=
  match c.topology with
  | none => {}
  | some topology =>
    match topology.plannedEdgeCount with
    | .ok required => c.ledger.progress required c.clock
    | .error _ => c.ledger.progress 0 c.clock

/-- `Coordinator::progress`. -/
def progress (c : Coordinator) : Result ProgressSnapshot := do
  refuseIf c.inside .invalidState "re-entrant coordinator entry refused"
  refuseIf c.topology.isNone .invalidState "no shuffle is open"
  pure c.computeProgress

end Coordinator

end ShuffleFabric
