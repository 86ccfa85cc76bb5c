import ShuffleFabric.Codec
import ShuffleFabric.Edge
import ShuffleFabric.Lib.Distinct
import ShuffleFabric.Lib.Sorted

/-!
# ShuffleFabric.Ledger

The completion ledger: exactly-once accounting per partition generation, and the
explicit record of everything that did not complete (`ledger.hpp`, `ledger.cpp`).

A mutating member function returns the new ledger; each of them validates before
it changes anything, so a refusal leaves the ledger as it was.  The counters are
the source's unsigned ones: `-` wraps below zero exactly where the source's does.
An `unordered_map` is an `ExtTreeMap`, whose iteration order is ascending by key.  The one
answer that shows the order of the source's map is that of `explain`, which is therefore given
the order as an argument.
-/

namespace ShuffleFabric

open Lib Action ByteReader

/-! ## Records -/

structure PartitionCommitRecord where
  /-- Partition and generation; the consumer is not part of the key. -/
  anchor : EdgeKey
  shuffle : ShuffleId
  shuffleGeneration : ShuffleGeneration
  producer : ProducerId
  producerIncarnation : IncarnationId
  manifestDigest : Digest
  totalBytes : UInt64
  topologyGeneration : TopologyGeneration
  sequence : CommitSequence
  committedAt : TickId
  /-- Ascending, unique. -/
  completedConsumers : List ConsumerId
  duplicateCommits : UInt32 := 0
  deriving DecidableEq

/-- Is the consumer in the completed set? -/
def PartitionCommitRecord.hasCompleted (record : PartitionCommitRecord)
    (consumer : ConsumerId) : Bool :=
  (search (fun c => c) record.completedConsumers consumer).isSome

structure CommitRequest where
  edge : EdgeKey
  attempt : TransferAttemptId
  wave : WaveId
  shuffleGeneration : ShuffleGeneration
  topologyGeneration : TopologyGeneration
  policyGeneration : PolicyGeneration
  producer : ProducerId
  producerIncarnation : IncarnationId
  consumer : ConsumerId
  consumerIncarnation : IncarnationId
  manifestDigest : Digest
  observedPartitionDigest : Digest
  /-- Per-chunk digests the consumer observed, in manifest order. -/
  observedChunkDigests : List Digest
  bytes : UInt64
  integrityVerified : Bool
  deriving DecidableEq

structure CommitReceipt where
  /-- The partition generation was committed by this call. -/
  newlyCommitted : Bool := false
  /-- This consumer was added to the completed set. -/
  edgeNewlyCompleted : Bool := false
  /-- Nothing changed: a full duplicate was suppressed. -/
  duplicate : Bool := false
  sequence : CommitSequence := 0
  manifestDigest : Digest
  accountedBytes : UInt64 := 0
  deriving DecidableEq

structure FailureRecord where
  key : EdgeKey
  code : ErrorCode
  attempts : UInt32
  recordedAt : TickId
  readyAt : TickId
  permanent : Bool
  deriving DecidableEq

structure ProgressSnapshot where
  shuffle : ShuffleId := 0
  shuffleGeneration : ShuffleGeneration := 0
  partitionsTotal : UInt64 := 0
  partitionsCommitted : UInt64 := 0
  partitionsFailed : UInt64 := 0
  partitionsIncomplete : UInt64 := 0
  edgesRequired : UInt64 := 0
  edgesCompleted : UInt64 := 0
  edgesFailed : UInt64 := 0
  edgesIncomplete : UInt64 := 0
  edgesOverCounted : UInt64 := 0
  bytesCommitted : UInt64 := 0
  bytesAttempted : UInt64 := 0
  duplicateCommitsSuppressed : UInt64 := 0
  retriableFailures : UInt64 := 0
  permanentFailures : UInt64 := 0
  authorityRefusals : UInt64 := 0
  trackedPartitions : UInt64 := 0
  trackedEdges : UInt64 := 0
  tick : TickId := 0
  deriving DecidableEq

/-- `class CompletionLedger`. -/
structure CompletionLedger where
  limits : Limits
  shuffle : ShuffleId := 0
  shuffleGeneration : ShuffleGeneration := 0
  partitionCount : UInt32 := 0
  nextSequence : CommitSequence := 1
  partitions : Std.ExtTreeMap UInt64 PartitionCommitRecord := {}
  failures : Std.ExtTreeMap EdgeKey FailureRecord := {}
  latestGeneration : Std.ExtTreeMap UInt64 PartitionGeneration := {}
  retainedKeys : Std.ExtTreeMap UInt64 (List UInt64) := {}
  /-- Permanent failures at the current generation of each partition. -/
  currentPermanentFailures : Std.ExtTreeMap UInt64 UInt32 := {}
  failedPartitions : Finset UInt64 := ∅
  completedEdges : UInt64 := 0
  committedPartitions : UInt64 := 0
  failureRecords : UInt64 := 0
  bytesCommitted : UInt64 := 0
  duplicateCommits : UInt64 := 0
  attemptedBytes : UInt64 := 0
  retriableFailures : UInt64 := 0
  permanentFailures : UInt64 := 0
  authorityRefusals : UInt64 := 0
  deriving DecidableEq

namespace CompletionLedger

/-- `CompletionLedger::bind`. -/
def bind (l : CompletionLedger) (shuffle : ShuffleId) (generation : ShuffleGeneration)
    (partitionCount : UInt32) : CompletionLedger :=
  { l with shuffle, shuffleGeneration := generation, partitionCount }

/-- `CompletionLedger::partition_key`: the two identities packed into one index. -/
def partitionKey (partition : PartitionId) (generation : PartitionGeneration) : UInt64 :=
  (partition <<< 16) ^^^ generation

/-- `CompletionLedger::note_attempt_bytes`. -/
def noteAttemptBytes (l : CompletionLedger) (bytes : UInt64) : CompletionLedger :=
  { l with attemptedBytes := l.attemptedBytes + bytes }

/-- The record a commit of this edge would look at. -/
def recordOf (l : CompletionLedger) (partition : PartitionId)
    (generation : PartitionGeneration) : Option PartitionCommitRecord :=
  l.partitions[partitionKey partition generation]?

/-- One more tracked edge would exceed the bound. -/
def trackedEdgesFull (l : CompletionLedger) : Prop :=
  l.completedEdges + l.failureRecords + 1 > l.limits.maxTrackedEdges

instance (l : CompletionLedger) : Decidable l.trackedEdgesFull :=
  inferInstanceAs (Decidable (_ > _))

/-! ## Commit -/

/-- What `validate_commit` demands of the record already committed for the
partition generation. -/
def validateAgainst (l : CompletionLedger) (record : PartitionCommitRecord)
    (request : CommitRequest) : Status := do
  refuseIf (record.manifestDigest ≠ request.manifestDigest ∨ record.producer ≠ request.producer ∨
      record.producerIncarnation ≠ request.producerIncarnation) .divergentCommit
    "a different manifest or incarnation already committed this partition generation"
  refuseIf (record.totalBytes ≠ request.bytes) .accountingMismatch
    "completion declares a byte count that contradicts the committed record"
  refuseIf (¬record.hasCompleted request.consumer ∧ l.trackedEdgesFull) .tooManyTrackedEdges
    "tracked edges exceed max_tracked_edges"

/-- The bounds a partition generation without a record has to meet. -/
def validateNew (l : CompletionLedger) : Status := do
  refuseIf (l.partitions.size ≥ l.limits.maxTrackedPartitions.toNat) .tooManyTrackedEdges
    "tracked partition records exceed max_tracked_partitions"
  refuseIf l.trackedEdgesFull .tooManyTrackedEdges "tracked edges exceed max_tracked_edges"

/-- Has the partition moved on to a later generation? -/
def superseded (l : CompletionLedger) (partition : PartitionId)
    (generation : PartitionGeneration) : Bool :=
  match l.latestGeneration[partition]? with
  | some latest => generation < latest
  | none => false

/-- `CompletionLedger::validate_commit`.  The source asks twice, in two wordings,
for a generation other than zero; the second refusal cannot be reached. -/
def validateCommit (l : CompletionLedger) (request : CommitRequest) : Status := do
  refuseIf (request.edge.partition ≥ l.partitionCount.toUInt64) .unknownPartition
    "completion references a partition outside the shuffle"
  refuseIf (request.edge.partitionGeneration = 0) .invalidArgument
    "completion carries no partition generation"
  refuseIf (¬request.edge.partitionGeneration > 0) .invalidArgument
    "completion carries an impossible partition generation"
  refuseIf (¬request.integrityVerified) .integrityFailure
    "completion requires verified integrity evidence"
  refuseIf request.manifestDigest.isZero .manifestInconsistent
    "completion carries no manifest digest"
  refuseIf (request.bytes = 0) .invalidArgument "completion declares zero bytes"
  refuseIf (l.shuffleGeneration ≠ 0 ∧ request.shuffleGeneration ≠ l.shuffleGeneration)
    .staleGeneration "completion belongs to another shuffle generation"
  refuseIf (l.superseded request.edge.partition request.edge.partitionGeneration) .staleGeneration
    "partition generation has been superseded; late authority is refused"
  match l.recordOf request.edge.partition request.edge.partitionGeneration with
  | none => l.validateNew
  | some record => l.validateAgainst record request

/-- Take the completions and permanent failures of the partition's previous
generation out of the current edge set. -/
def retirePrevious (l : CompletionLedger) (partition : PartitionId)
    (latest : PartitionGeneration) : CompletionLedger :=
  let l :=
    match l.recordOf partition latest with
    | some previous =>
      { l with
        completedEdges := l.completedEdges - UInt64.ofNat previous.completedConsumers.length
        committedPartitions :=
          if l.committedPartitions > 0 then l.committedPartitions - 1
          else l.committedPartitions }
    | none => l
  match l.currentPermanentFailures[partition]? with
  | some retired =>
    { l with
      permanentFailures :=
        if l.permanentFailures ≥ retired.toUInt64 then l.permanentFailures - retired.toUInt64
        else 0
      currentPermanentFailures := l.currentPermanentFailures.insert partition 0 }
  | none => l

/-- Make `generation` the partition's current one; the block `commit` and
`retire_generation` share. -/
def advanceGeneration (l : CompletionLedger) (partition : PartitionId)
    (generation : PartitionGeneration) : CompletionLedger :=
  let l :=
    match l.latestGeneration[partition]? with
    | some latest => l.retirePrevious partition latest
    | none => l
  { l with
    failedPartitions := l.failedPartitions.erase partition
    latestGeneration := l.latestGeneration.insert partition generation }

/-- Drop the record under one key that fell out of the retained history. -/
def purge (l : CompletionLedger) (oldest : UInt64) : CompletionLedger :=
  match l.partitions[oldest]? with
  | some purged =>
    { l with
      completedEdges := l.completedEdges - UInt64.ofNat purged.completedConsumers.length
      partitions := l.partitions.erase oldest }
  | none => l

/-- `while (retained.size() > max_retained_generations)`. -/
def purgeRetained (bound : Nat) : List UInt64 → CompletionLedger → List UInt64 × CompletionLedger
  | [], l => ([], l)
  | oldest :: retained, l =>
    if retained.length + 1 > bound then purgeRetained bound retained (l.purge oldest)
    else (oldest :: retained, l)

/-- Remember a key of the partition and purge what exceeds the retention bound. -/
def retain (l : CompletionLedger) (partition : PartitionId) (key : UInt64) : CompletionLedger :=
  let retained := l.retainedKeys.getD partition [] ++ [key]
  let (retained, l) := purgeRetained l.limits.maxRetainedGenerations.toNat retained l
  { l with retainedKeys := l.retainedKeys.insert partition retained }

/-- The record the first commit of a partition generation creates. -/
def newRecord (l : CompletionLedger) (request : CommitRequest) (now : TickId) :
    PartitionCommitRecord where
  anchor := ⟨request.edge.partition, request.edge.partitionGeneration, 0⟩
  shuffle := l.shuffle
  shuffleGeneration := request.shuffleGeneration
  producer := request.producer
  producerIncarnation := request.producerIncarnation
  manifestDigest := request.manifestDigest
  totalBytes := request.bytes
  topologyGeneration := request.topologyGeneration
  sequence := l.nextSequence
  committedAt := now
  completedConsumers := [request.consumer]

/-- The first commit of a partition generation. -/
def commitNew (l : CompletionLedger) (request : CommitRequest) (now : TickId) :
    CommitReceipt × CompletionLedger :=
  let partition := request.edge.partition
  let generation := request.edge.partitionGeneration
  let key := partitionKey partition generation
  let record := l.newRecord request now
  let receipt : CommitReceipt := {
    newlyCommitted := true, edgeNewlyCompleted := true, sequence := record.sequence
    manifestDigest := request.manifestDigest, accountedBytes := request.bytes }
  let advances : Bool :=
    match l.latestGeneration[partition]? with
    | some latest => generation > latest
    | none => true
  let l := { l with nextSequence := l.nextSequence + 1 }
  let l := if advances then l.advanceGeneration partition generation else l
  let l := { l with
    bytesCommitted := l.bytesCommitted + request.bytes
    completedEdges := l.completedEdges + 1
    committedPartitions := l.committedPartitions + 1
    failedPartitions := l.failedPartitions.erase partition
    partitions := l.partitions.insertIfNew key record }
  (receipt, l.retain partition key)

/-- A commit of a partition generation that already has a record. -/
def commitExisting (l : CompletionLedger) (record : PartitionCommitRecord)
    (request : CommitRequest) : CommitReceipt × CompletionLedger :=
  let key := partitionKey request.edge.partition request.edge.partitionGeneration
  let receipt : CommitReceipt := {
    sequence := record.sequence, manifestDigest := request.manifestDigest }
  if record.hasCompleted request.consumer then
    let record := { record with duplicateCommits := record.duplicateCommits + 1 }
    ({ receipt with duplicate := true },
      { l with
        partitions := l.partitions.insert key record
        duplicateCommits := l.duplicateCommits + 1 })
  else
    let record := { record with
      completedConsumers := store (fun c => c) record.completedConsumers request.consumer }
    ({ receipt with edgeNewlyCompleted := true },
      { l with
        partitions := l.partitions.insert key record
        completedEdges := l.completedEdges + 1 })

/-- `CompletionLedger::commit`. -/
def commit (l : CompletionLedger) (request : CommitRequest) (now : TickId) :
    Result (CommitReceipt × CompletionLedger) := do
  l.validateCommit request
  match l.recordOf request.edge.partition request.edge.partitionGeneration with
  | none => pure (l.commitNew request now)
  | some record => pure (l.commitExisting record request)

/-! ## Retirement and failures -/

/-- `CompletionLedger::retire_generation`. -/
def retireGeneration (l : CompletionLedger) (partition : PartitionId)
    (generation : PartitionGeneration) : Result CompletionLedger := do
  refuseIf (partition ≥ l.partitionCount.toUInt64) .unknownPartition
    "retirement references a partition outside the shuffle"
  match l.latestGeneration[partition]? with
  | some latest =>
    if ¬latest < generation then pure l else pure (l.advanceGeneration partition generation)
  | none => pure (l.advanceGeneration partition generation)

/-- `CompletionLedger::validate_failure`. -/
def validateFailure (l : CompletionLedger) (key : EdgeKey) (code : ErrorCode) : Status := do
  refuseIf (key.partition ≥ l.partitionCount.toUInt64) .unknownPartition
    "failure references a partition outside the shuffle"
  refuseIf (code = .ok) .invalidArgument "a failure record requires a failure code"
  refuseIf (l.failures[key]?.isNone ∧ l.trackedEdgesFull) .tooManyTrackedEdges
    "tracked edges exceed max_tracked_edges"

/-- `is_authority_code`. -/
def isAuthorityCode (code : ErrorCode) : Bool := classify code == .authority

/-- `++permanent_failures_` together with the partition's own count. -/
def countPermanent (l : CompletionLedger) (partition : PartitionId) : CompletionLedger :=
  { l with
    permanentFailures := l.permanentFailures + 1
    currentPermanentFailures := l.currentPermanentFailures.insert partition
      (l.currentPermanentFailures.getD partition 0 + 1) }

/-- A permanently failed edge fails its partition unless the generation committed. -/
def failPartition (l : CompletionLedger) (key : EdgeKey) : CompletionLedger :=
  if (l.recordOf key.partition key.partitionGeneration).isNone then
    { l with failedPartitions := insert key.partition l.failedPartitions }
  else l

/-- The branch of `record_failure` for an edge without a failure record. -/
def recordNewFailure (l : CompletionLedger) (record : FailureRecord) (current : Bool) :
    CompletionLedger :=
  let l := { l with
    failures := l.failures.insertIfNew record.key record
    failureRecords := l.failureRecords + 1 }
  let l :=
    if record.permanent ∧ current then
      (l.countPermanent record.key.partition).failPartition record.key
    else if record.permanent then l
    else { l with retriableFailures := l.retriableFailures + 1 }
  if isAuthorityCode record.code then { l with authorityRefusals := l.authorityRefusals + 1 } else l

/-- The counters of an edge whose failure changes between retriable and permanent. -/
def recountChange (l : CompletionLedger) (partition : PartitionId)
    (current permanent wasPermanent : Bool) : CompletionLedger :=
  if current ∧ permanent ∧ ¬wasPermanent then
    let l := l.countPermanent partition
    { l with
      retriableFailures :=
        if l.retriableFailures > 0 then l.retriableFailures - 1 else l.retriableFailures }
  else if current ∧ ¬permanent ∧ wasPermanent then
    let counted := l.currentPermanentFailures.getD partition 0
    { l with
      retriableFailures := l.retriableFailures + 1
      currentPermanentFailures := l.currentPermanentFailures.insert partition
        (if counted > 0 then counted - 1 else counted)
      permanentFailures :=
        if l.permanentFailures > 0 then l.permanentFailures - 1 else l.permanentFailures }
  else l

/-- The branch of `record_failure` that overwrites an edge's failure record. -/
def recordNextFailure (l : CompletionLedger) (existing record : FailureRecord) (current : Bool) :
    CompletionLedger :=
  let l := { l with failures := l.failures.insert record.key record }
  let l := l.recountChange record.key.partition current record.permanent existing.permanent
  let l := if current ∧ record.permanent then l.failPartition record.key else l
  let wasAuthority := isAuthorityCode existing.code
  let nowAuthority := isAuthorityCode record.code
  if nowAuthority ∧ ¬wasAuthority then
    { l with authorityRefusals := l.authorityRefusals + 1 }
  else if ¬nowAuthority ∧ wasAuthority ∧ l.authorityRefusals > 0 then
    { l with authorityRefusals := l.authorityRefusals - 1 }
  else l

/-- `CompletionLedger::record_failure`.  A failure of a superseded generation is
history: it is stored and readable, but not part of the current edge set. -/
def recordFailure (l : CompletionLedger) (record : FailureRecord) : Result CompletionLedger := do
  refuseIf (record.key.partition ≥ l.partitionCount.toUInt64) .unknownPartition
    "failure references a partition outside the shuffle"
  refuseIf (record.code = .ok) .invalidArgument "a failure record requires a failure code"
  let current := !l.superseded record.key.partition record.key.partitionGeneration
  match l.failures[record.key]? with
  | none =>
    if l.trackedEdgesFull then
      makeFailure .tooManyTrackedEdges "tracked edges exceed max_tracked_edges"
    else
      pure (l.recordNewFailure record current)
  | some existing => pure (l.recordNextFailure existing record current)

/-! ## Answers -/

/-- `CompletionLedger::edge_status`.  Recorded evidence is consulted before the
generation comparison: a generation that is older than the latest but still
retained is answered from its own record. -/
def edgeStatus (l : CompletionLedger) (key : EdgeKey) : EdgeStatus :=
  if key.partition ≥ l.partitionCount.toUInt64 then
    { phase := .unknown, reason := .unknownPartition }
  else
    let status : EdgeStatus := { reason := .notCommitted }
    let failure := l.failures[key]?
    let record := l.recordOf key.partition key.partitionGeneration
    let status :=
      match record with
      | some record => { status with
          producerIncarnation := record.producerIncarnation
          manifestDigest := record.manifestDigest
          bytes := record.totalBytes }
      | none => status
    if record.any (·.hasCompleted key.consumer) then
      let status := { status with phase := .completed, reason := .ok, authoritative := true }
      match failure with
      | some failure => { status with attempts := failure.attempts, readyAt := failure.readyAt }
      | none => status
    else if failure.any (·.permanent) then
      match failure with
      | some failure => { status with
          attempts := failure.attempts, readyAt := failure.readyAt, reason := failure.code
          phase := .failed }
      | none => status
    else if l.superseded key.partition key.partitionGeneration then
      { status with phase := .purged, reason := .purgedHistory }
    else
      match failure with
      | some failure => { status with
          attempts := failure.attempts, readyAt := failure.readyAt, reason := failure.code
          phase := .pending }
      | none => { status with phase := .pending }

/-- `CompletionLedger::commit_record`. -/
def commitRecord (l : CompletionLedger) (partition : PartitionId)
    (generation : PartitionGeneration) : Result PartitionCommitRecord :=
  match l.recordOf partition generation with
  | some record => .ok record
  | none => makeFailure .notCommitted "partition generation is not committed"

/-- `CompletionLedger::progress`. -/
def progress (l : CompletionLedger) (requiredEdges : UInt64) (now : TickId) : ProgressSnapshot :=
  let partitionsTotal := l.partitionCount.toUInt64
  let partitionsFailed := UInt64.ofNat l.failedPartitions.card
  let resolved := l.completedEdges + l.permanentFailures
  { shuffle := l.shuffle
    shuffleGeneration := l.shuffleGeneration
    partitionsTotal
    edgesRequired := requiredEdges
    edgesCompleted := l.completedEdges
    edgesFailed := l.permanentFailures
    bytesCommitted := l.bytesCommitted
    bytesAttempted := l.attemptedBytes
    duplicateCommitsSuppressed := l.duplicateCommits
    retriableFailures := l.retriableFailures
    permanentFailures := l.permanentFailures
    authorityRefusals := l.authorityRefusals
    trackedPartitions := UInt64.ofNat l.partitions.size
    trackedEdges := l.completedEdges + l.failureRecords
    tick := now
    partitionsCommitted := l.committedPartitions
    partitionsFailed
    partitionsIncomplete :=
      if partitionsTotal > l.committedPartitions + partitionsFailed then
        partitionsTotal - l.committedPartitions - partitionsFailed
      else 0
    edgesIncomplete := if requiredEdges > resolved then requiredEdges - resolved else 0
    edgesOverCounted := if resolved > requiredEdges then resolved - requiredEdges else 0 }

/-! ## Durable form -/

def writeCommitRecord (record : PartitionCommitRecord) : Bytes :=
  putU64 record.anchor.partition ++ putU64 record.anchor.partitionGeneration ++
  putU64 record.shuffle ++ putU64 record.shuffleGeneration ++ putU64 record.producer ++
  putU64 record.producerIncarnation ++ putDigest record.manifestDigest ++
  putU64 record.totalBytes ++ putU64 record.topologyGeneration ++ putU64 record.sequence ++
  putU64 record.committedAt ++ putU32 record.duplicateCommits ++
  putCount record.completedConsumers.length ++ putMany putU64 record.completedConsumers

def writeFailureRecord (record : FailureRecord) : Bytes :=
  putU64 record.key.partition ++ putU64 record.key.partitionGeneration ++
  putU64 record.key.consumer ++ putU16 record.code.value ++ putU32 record.attempts ++
  putU64 record.recordedAt ++ putU64 record.readyAt ++ putBool record.permanent

/-- `CompletionLedger::encode`: every map in ascending key order. -/
def encode (l : CompletionLedger) : Bytes :=
  putU64 l.shuffle ++ putU64 l.shuffleGeneration ++ putU32 l.partitionCount ++
  putU64 l.nextSequence ++ putU64 l.bytesCommitted ++ putU64 l.duplicateCommits ++
  putU64 l.attemptedBytes ++ putU64 l.retriableFailures ++ putU64 l.permanentFailures ++
  putU64 l.authorityRefusals ++
  putCount l.partitions.size ++
  putMany (fun entry => writeCommitRecord entry.2) l.partitions.toList ++
  putCount l.failures.size ++
  putMany (fun entry => writeFailureRecord entry.2) l.failures.toList ++
  putCount l.latestGeneration.size ++
  putMany (fun entry => putU64 entry.1 ++ putU64 entry.2) l.latestGeneration.toList

def readCommitRecord (limits : Limits) : Read PartitionCommitRecord := do
  let partition ← u64
  let partitionGeneration ← u64
  let shuffle ← u64
  let shuffleGeneration ← u64
  let producer ← u64
  let producerIncarnation ← u64
  let manifestDigest ← digest
  let totalBytes ← u64
  let topologyGeneration ← u64
  let sequence ← u64
  let committedAt ← u64
  let duplicateCommits ← u32
  let consumerCount ← collectionCount limits.maxCollectionItems.toNat
  let completedConsumers ← readMany u64 consumerCount
  checkOk
  pure {
    anchor := ⟨partition, partitionGeneration, 0⟩, shuffle, shuffleGeneration, producer
    producerIncarnation, manifestDigest, totalBytes, topologyGeneration, sequence, committedAt
    completedConsumers, duplicateCommits }

/-- The commit records of `decode`, added to those read so far. -/
def readCommitRecords (limits : Limits) (partitionCount : UInt32) :
    Nat → Std.ExtTreeMap UInt64 PartitionCommitRecord →
    Read (Std.ExtTreeMap UInt64 PartitionCommitRecord)
  | 0, records => pure records
  | count + 1, records => do
    let record ← readCommitRecord limits
    throwIf (record.anchor.partition ≥ partitionCount.toUInt64)
      ⟨.stateImpossible, "durable ledger references a partition outside the shuffle"⟩
    throwIf (¬Sorted (fun c => c) record.completedConsumers)
      ⟨.stateCorrupt, "durable ledger holds a non-canonical consumer set"⟩
    let key := partitionKey record.anchor.partition record.anchor.partitionGeneration
    throwIf records[key]?.isSome
      ⟨.stateCorrupt, "durable ledger holds a duplicate partition record"⟩
    readCommitRecords limits partitionCount count (records.insert key record)

def readFailureRecord : Read FailureRecord := do
  let partition ← u64
  let partitionGeneration ← u64
  let consumer ← u64
  let code ← u16
  let attempts ← u32
  let recordedAt ← u64
  let readyAt ← u64
  let permanent ← boolean
  checkOk
  throwIf (code = 0 ∨ code > ErrorCode.tooManyTrackedEdges.value)
    ⟨.stateImpossible, "durable ledger holds an unknown error code"⟩
  pure {
    key := ⟨partition, partitionGeneration, consumer⟩, code := ⟨code⟩, attempts, recordedAt
    readyAt, permanent }

/-- The failure records of `decode`, added to those read so far. -/
def readFailureRecords :
    Nat → Std.ExtTreeMap EdgeKey FailureRecord → Read (Std.ExtTreeMap EdgeKey FailureRecord)
  | 0, records => pure records
  | count + 1, records => do
    let record ← readFailureRecord
    throwIf records[record.key]?.isSome
      ⟨.stateCorrupt, "durable ledger holds a duplicate failure record"⟩
    readFailureRecords count (records.insert record.key record)

/-- The latest generations of `decode`, added to those read so far. -/
def readGenerations :
    Nat → Std.ExtTreeMap UInt64 PartitionGeneration →
    Read (Std.ExtTreeMap UInt64 PartitionGeneration)
  | 0, generations => pure generations
  | count + 1, generations => do
    let key ← u64
    let generation ← u64
    checkOk
    readGenerations count (generations.insert key generation)

/-- Does the record describe the partition's current generation? -/
def isCurrentCommit (l : CompletionLedger) (record : PartitionCommitRecord) : Bool :=
  l.latestGeneration[record.anchor.partition]? == some record.anchor.partitionGeneration

/-- One turn of the recount over the commit records. -/
def recountCommit (l : CompletionLedger) (record : PartitionCommitRecord) : CompletionLedger :=
  if l.isCurrentCommit record then
    { l with
      completedEdges := l.completedEdges + UInt64.ofNat record.completedConsumers.length
      committedPartitions := l.committedPartitions + 1 }
  else l

/-- One turn of the recount over the failure records. -/
def recountFailure (l : CompletionLedger) (record : FailureRecord) : CompletionLedger :=
  if record.permanent ∧ ¬l.superseded record.key.partition record.key.partitionGeneration then
    (l.countPermanent record.key.partition).failPartition record.key
  else l

/-- The last part of `decode`: derived counters are recomputed from the records
rather than trusted from the bytes. -/
def recount (l : CompletionLedger) : CompletionLedger :=
  let l := { l with
    completedEdges := 0, committedPartitions := 0, permanentFailures := 0
    currentPermanentFailures := {}, failedPartitions := ∅ }
  let l := l.partitions.foldl (fun l _ record => l.recountCommit record) l
  let l := l.failures.foldl (fun l _ record => l.recountFailure record) l
  { l with failureRecords := UInt64.ofNat l.failures.size }

/-- `CompletionLedger::decode`; the ledger that is swapped in on success. -/
def decode (limits : Limits) : Read CompletionLedger := do
  let shuffle ← u64
  let shuffleGeneration ← u64
  let partitionCount ← u32
  let nextSequence ← u64
  let bytesCommitted ← u64
  let duplicateCommits ← u64
  let attemptedBytes ← u64
  let retriableFailures ← u64
  let permanentFailures ← u64
  let authorityRefusals ← u64
  checkOk
  let partitionRecords ← collectionCount limits.maxTrackedPartitions.toNat
  let partitions ← readCommitRecords limits partitionCount partitionRecords {}
  let failureCount ← collectionCount limits.maxTrackedEdges.toNat
  let failures ← readFailureRecords failureCount {}
  let generationRecords ← collectionCount limits.maxPartitions.toNat
  let latestGeneration ← readGenerations generationRecords {}
  checkOk
  let decoded : CompletionLedger := {
    limits, shuffle, shuffleGeneration, partitionCount, nextSequence, bytesCommitted
    duplicateCommits, attemptedBytes, retriableFailures, permanentFailures, authorityRefusals
    partitions, failures, latestGeneration }
  pure decoded.recount

end CompletionLedger

end ShuffleFabric
