import ShuffleFabric.Ledger
import ShuffleFabric.Manifest
import ShuffleFabric.Policy
import ShuffleFabric.Topology

/-!
# ShuffleFabric.Records

The durable record vocabulary of the coordinator and its codec (`records.hpp`,
`records.cpp`).  Every record is a 16-bit kind tag followed by the record's own
fields; a record is decoded completely, and its end required, before any of it is
applied.
-/

namespace ShuffleFabric

open Lib Action ByteReader

/-! ## The vocabulary -/

/-- `enum class ShuffleState`. -/
inductive ShuffleState where
  | closed
  | open
  | cancelling
  | cancelled
  | completed
  | failed
  deriving DecidableEq, Repr

/-- `struct EpochRecord`. -/
structure EpochRecord where
  epoch : UInt64
  openedAt : TickId
  deriving DecidableEq

/-- The shuffle's identity and its current lifecycle state. -/
structure ShuffleStateRecord where
  shuffle : ShuffleId
  generation : ShuffleGeneration
  partitionCount : UInt32
  policy : PolicyEnvelope
  state : ShuffleState
  reason : ErrorCode
  atTick : TickId
  deriving DecidableEq

/-- `struct ParticipantRecord`: a registration or a state change, of either kind of participant. -/
structure ParticipantRecord where
  kind : ParticipantKind
  id : UInt64
  incarnation : IncarnationId
  state : ParticipantState
  endpoint : Bytes
  selection : PartitionSelection := {}
  atTick : TickId
  deriving DecidableEq

/-- `struct ManifestRecord`. -/
structure ManifestRecord where
  manifest : PartitionManifest
  deriving DecidableEq

/-- `struct CommitRecord`: the completion as it was asked for, and when it was accepted. -/
structure CommitRecord where
  request : CommitRequest
  atTick : TickId
  deriving DecidableEq

/-- `struct FailureRecordDurable`: the failure record of an edge as it is after the report. -/
structure FailureRecordDurable where
  key : EdgeKey
  code : ErrorCode
  permanent : Bool
  attempts : UInt32
  recordedAt : TickId
  readyAt : TickId
  deriving DecidableEq

/-- `enum class RecordKind` together with the record it announces. -/
inductive DurableRecord where
  | epochAdvanced (record : EpochRecord)
  | shuffleState (record : ShuffleStateRecord)
  | participant (record : ParticipantRecord)
  | manifest (record : ManifestRecord)
  | commit (record : CommitRecord)
  | failure (record : FailureRecordDurable)
  deriving DecidableEq

/-! ## Enumerations on the wire -/

/-- The value of a lifecycle state on the wire. -/
def ShuffleState.toUInt16 : ShuffleState → UInt16
  | .closed => 0
  | .open => 1
  | .cancelling => 2
  | .cancelled => 3
  | .completed => 4
  | .failed => 5

/-- The lifecycle state of a value; other values are refused. -/
def ShuffleState.ofUInt16 : UInt16 → Option ShuffleState
  | 0 => some .closed
  | 1 => some .open
  | 2 => some .cancelling
  | 3 => some .cancelled
  | 4 => some .completed
  | 5 => some .failed
  | _ => none

/-- The value of a kind of participant on the wire. -/
def ParticipantKind.toUInt8 : ParticipantKind → UInt8
  | .producer => 1
  | .consumer => 2

/-- The kind of participant of a value; other values are refused. -/
def ParticipantKind.ofUInt8 : UInt8 → Option ParticipantKind
  | 1 => some .producer
  | 2 => some .consumer
  | _ => none

/-- The value of a participant's state on the wire. -/
def ParticipantState.toUInt8 : ParticipantState → UInt8
  | .pending => 0
  | .active => 1
  | .suspect => 2
  | .failed => 3
  | .withdrawn => 4

/-- The participant's state of a value; other values are refused. -/
def ParticipantState.ofUInt8 : UInt8 → Option ParticipantState
  | 0 => some .pending
  | 1 => some .active
  | 2 => some .suspect
  | 3 => some .failed
  | 4 => some .withdrawn
  | _ => none

/-- The value of a kind of selection on the wire. -/
def SelectionKind.toUInt8 : SelectionKind → UInt8
  | .all => 0
  | .range => 1
  | .list => 2

/-- The kind of selection of a value; other values are refused. -/
def SelectionKind.ofUInt8 : UInt8 → Option SelectionKind
  | 0 => some .all
  | 1 => some .range
  | 2 => some .list
  | _ => none

/-! ## Encoding -/

/-- `write_selection`. -/
def writeSelection (selection : PartitionSelection) : Bytes :=
  putU8 selection.kind.toUInt8 ++ putU64 selection.first ++ putU64 selection.last ++
  putCount selection.list.length ++ putMany putU64 selection.list

/-- `write_commit_request`. -/
def writeCommitRequest (request : CommitRequest) : Bytes :=
  putU64 request.edge.partition ++ putU64 request.edge.partitionGeneration ++
  putU64 request.edge.consumer ++ putU64 request.attempt ++ putU64 request.wave ++
  putU64 request.shuffleGeneration ++ putU64 request.topologyGeneration ++
  putU64 request.policyGeneration ++ putU64 request.producer ++
  putU64 request.producerIncarnation ++ putU64 request.consumer ++
  putU64 request.consumerIncarnation ++ putDigest request.manifestDigest ++
  putDigest request.observedPartitionDigest ++ putBool request.integrityVerified ++
  putU64 request.bytes ++ putCount request.observedChunkDigests.length ++
  putMany putDigest request.observedChunkDigests

/-- `EpochRecord::encode`. -/
def EpochRecord.encode (record : EpochRecord) : Bytes :=
  putU16 1 ++ putU64 record.epoch ++ putU64 record.openedAt

/-- `ShuffleStateRecord::encode`. -/
def ShuffleStateRecord.encode (record : ShuffleStateRecord) : Bytes :=
  putU16 2 ++ putU64 record.shuffle ++ putU64 record.generation ++
  putU32 record.partitionCount ++ putU16 record.state.toUInt16 ++ putU16 record.reason.value ++
  putU64 record.atTick ++ encodePolicy record.policy

/-- `ParticipantRecord::encode`. -/
def ParticipantRecord.encode (record : ParticipantRecord) : Bytes :=
  putU16 3 ++ putU8 record.kind.toUInt8 ++ putU64 record.id ++ putU64 record.incarnation ++
  putU8 record.state.toUInt8 ++ putByteString record.endpoint ++
  writeSelection record.selection ++ putU64 record.atTick

/-- `ManifestRecord::encode`; it refuses a manifest that is not valid. -/
def ManifestRecord.encode (record : ManifestRecord) (limits : Limits) : Result Bytes := do
  let encoded ← encodeManifest record.manifest limits
  pure (putU16 4 ++ putByteString encoded)

/-- `CommitRecord::encode`. -/
def CommitRecord.encode (record : CommitRecord) : Bytes :=
  putU16 5 ++ writeCommitRequest record.request ++ putU64 record.atTick

/-- `FailureRecordDurable::encode`. -/
def FailureRecordDurable.encode (record : FailureRecordDurable) : Bytes :=
  putU16 6 ++ putU64 record.key.partition ++ putU64 record.key.partitionGeneration ++
  putU64 record.key.consumer ++ putU16 record.code.value ++ putBool record.permanent ++
  putU32 record.attempts ++ putU64 record.recordedAt ++ putU64 record.readyAt

/-- The bytes of a record.  `ManifestRecord.encode` validates before it writes the
same bytes. -/
def DurableRecord.encode : DurableRecord → Bytes
  | .epochAdvanced record => record.encode
  | .shuffleState record => record.encode
  | .participant record => record.encode
  | .manifest record => putU16 4 ++ putByteString (manifestBytes record.manifest)
  | .commit record => record.encode
  | .failure record => record.encode

/-! ## Decoding -/

/-- The list of a selection is re-validated: a list selection has to be in canonical
form, and the other kinds carry none. -/
def checkSelectionList (kind : SelectionKind) (list : List PartitionId) : Read Unit :=
  if kind = .list then
    throwIf (list = [] ∨ ¬Sorted (fun p => p) list)
      ⟨.stateCorrupt, "durable selection list is not canonical"⟩
  else
    throwIf (list ≠ []) ⟨.stateCorrupt, "durable selection carries a list it cannot use"⟩

/-- `read_selection`. -/
def readSelection (limits : Limits) : Read PartitionSelection := do
  let kind ← u8
  let kind ← orThrow (SelectionKind.ofUInt8 kind)
    ⟨.stateImpossible, "durable record holds an unknown selection kind"⟩
  let first ← u64
  let last ← u64
  let count ← collectionCount limits.maxSelectionItems.toNat
  checkOk
  let list ← readMany u64 count
  checkOk
  checkSelectionList kind list
  pure { kind, first, last, list }

/-- `read_commit_request`. -/
def readCommitRequest (limits : Limits) : Read CommitRequest := do
  let partition ← u64
  let partitionGeneration ← u64
  let edgeConsumer ← u64
  let attempt ← u64
  let wave ← u64
  let shuffleGeneration ← u64
  let topologyGeneration ← u64
  let policyGeneration ← u64
  let producer ← u64
  let producerIncarnation ← u64
  let consumer ← u64
  let consumerIncarnation ← u64
  let manifestDigest ← digest
  let observedPartitionDigest ← digest
  let integrityVerified ← boolean
  let bytes ← u64
  let chunks ← collectionCount limits.maxChunksPerPartition.toNat
  checkOk
  let observedChunkDigests ← readMany digest chunks
  checkOk
  throwIf (edgeConsumer ≠ consumer)
    ⟨.stateCorrupt, "durable commit disagrees about its consumer identity"⟩
  pure {
    edge := ⟨partition, partitionGeneration, edgeConsumer⟩, attempt, wave, shuffleGeneration
    topologyGeneration, policyGeneration, producer, producerIncarnation, consumer
    consumerIncarnation, manifestDigest, observedPartitionDigest, observedChunkDigests, bytes
    integrityVerified }

/-- `EpochRecord::decode`. -/
def EpochRecord.decode : Read EpochRecord := do
  let epoch ← u64
  let openedAt ← u64
  checkOk
  pure { epoch, openedAt }

/-- `ShuffleStateRecord::decode`. -/
def ShuffleStateRecord.decode : Read ShuffleStateRecord := do
  let shuffle ← u64
  let generation ← u64
  let partitionCount ← u32
  let state ← u16
  let reason ← u16
  let atTick ← u64
  checkOk
  let state ← orThrow (ShuffleState.ofUInt16 state)
    ⟨.stateImpossible, "durable shuffle state is unknown"⟩
  let policy ← decodePolicy
  throwIf (state = .open ∧ reason ≠ ErrorCode.ok.value)
    ⟨.stateImpossible, "open shuffle carries a failure reason"⟩
  pure { shuffle, generation, partitionCount, policy, state, reason := ⟨reason⟩, atTick }

/-- `ParticipantRecord::decode`. -/
def ParticipantRecord.decode (limits : Limits) : Read ParticipantRecord := do
  let kind ← u8
  let id ← u64
  let incarnation ← u64
  let state ← u8
  let endpoint ← string limits.maxEndpointBytes.toNat
  checkOk
  let kind ← orThrow (ParticipantKind.ofUInt8 kind)
    ⟨.stateImpossible, "durable participant kind is unknown"⟩
  let state ← orThrow (ParticipantState.ofUInt8 state)
    ⟨.stateImpossible, "durable participant state is unknown"⟩
  let selection ← readSelection limits
  let atTick ← u64
  checkOk
  pure { kind, id, incarnation, state, endpoint, selection, atTick }

/-- `ManifestRecord::decode`. -/
def ManifestRecord.decode (limits : Limits) : Read ManifestRecord := do
  let bytes ← bytes limits.maxMessagePayloadBytes.toNat
  checkOk
  let manifest ← decodeManifest bytes limits
  pure { manifest }

/-- `CommitRecord::decode`. -/
def CommitRecord.decode (limits : Limits) : Read CommitRecord := do
  let request ← readCommitRequest limits
  let atTick ← u64
  checkOk
  pure { request, atTick }

/-- `FailureRecordDurable::decode`. -/
def FailureRecordDurable.decode : Read FailureRecordDurable := do
  let partition ← u64
  let partitionGeneration ← u64
  let consumer ← u64
  let code ← u16
  let permanent ← boolean
  let attempts ← u32
  let recordedAt ← u64
  let readyAt ← u64
  checkOk
  throwIf (code = 0 ∨ code > ErrorCode.tooManyTrackedEdges.value)
    ⟨.stateImpossible, "durable failure carries an unknown error code"⟩
  pure {
    key := ⟨partition, partitionGeneration, consumer⟩, code := ⟨code⟩, permanent, attempts
    recordedAt, readyAt }

/-- The `switch` of `apply_record` over the kind tag. -/
def readKind (limits : Limits) (kind : UInt16) : Read DurableRecord :=
  if kind = 1 then DurableRecord.epochAdvanced <$> EpochRecord.decode
  else if kind = 2 then DurableRecord.shuffleState <$> ShuffleStateRecord.decode
  else if kind = 3 then DurableRecord.participant <$> ParticipantRecord.decode limits
  else if kind = 4 then DurableRecord.manifest <$> ManifestRecord.decode limits
  else if kind = 5 then DurableRecord.commit <$> CommitRecord.decode limits
  else if kind = 6 then DurableRecord.failure <$> FailureRecordDurable.decode
  else throw ⟨.stateCorrupt, "durable record holds an unknown kind tag"⟩

/-- `peek_record_kind`, and the record of that kind. -/
def readTagged (limits : Limits) : Read DurableRecord := do
  let kind ← u16
  checkOk
  readKind limits kind

/-- The decoding half of `apply_record`: one record, and nothing behind it. -/
def decodeRecord (limits : Limits) (record : Bytes) : Result DurableRecord :=
  decodeWith (toEnd (readTagged limits)) record limits

end ShuffleFabric
