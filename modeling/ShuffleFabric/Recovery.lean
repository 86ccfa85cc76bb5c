import ShuffleFabric.Coordinator

/-!
# ShuffleFabric.Recovery

Checkpoints and restarts: `snapshot_payload`, which writes the coordinator's state
as a list of records followed by the ledger, and `recover`, which rebuilds a
coordinator from such a payload and the journal behind it (`coordinator.cpp`).

Recovery works on a scratch coordinator without a sink; the coordinator itself
changes only when every step succeeded.  The sink object is the one thing the two
share, so what the scratch coordinator's last record does to it is visible in
either case.
-/

namespace ShuffleFabric

open Lib Action ByteReader

namespace Coordinator

/-- `kSnapshotPayloadVersion`. -/
def kSnapshotPayloadVersion : UInt32 := 1

/-! ## Checkpoint -/

/-- The participant record of a registered producer. -/
def producerEntry (c : Coordinator) (entry : ProducerRecord) : ParticipantRecord where
  kind := .producer
  id := entry.id
  incarnation := entry.incarnation
  state := entry.state
  endpoint := entry.endpoint
  atTick := c.clock

/-- The participant record of a registered consumer. -/
def consumerEntry (c : Coordinator) (topology : Topology) (entry : ConsumerRecord) :
    ParticipantRecord where
  kind := .consumer
  id := entry.id
  incarnation := entry.incarnation
  state := entry.state
  endpoint := entry.endpoint
  selection := topology.pattern entry.pattern
  atTick := c.clock

/-- The records of the participants, producers first, each in ascending order. -/
def participantEntries (c : Coordinator) : List Bytes :=
  match c.topology with
  | none => []
  | some topology =>
    topology.producers.map (fun entry => (c.producerEntry entry).encode) ++
      topology.consumers.map (fun entry => (c.consumerEntry topology entry).encode)

/-- The record list of `snapshot_payload`. -/
def snapshotRecords (c : Coordinator) : Result (List Bytes) := do
  let epoch := EpochRecord.encode { epoch := c.epoch, openedAt := c.clock }
  let lifecycle :=
    if c.state ≠ .closed then [(stateRecord c.request c.state c.reason c.clock).encode] else []
  let manifests ← c.manifests.toList.mapM fun entry =>
    ManifestRecord.encode { manifest := entry.2 } c.limits
  pure ([epoch] ++ lifecycle ++ c.participantEntries ++ manifests)

/-- `Coordinator::snapshot_payload`. -/
def snapshotPayload (c : Coordinator) : Result Bytes := do
  refuseIf c.inside .invalidState "re-entrant coordinator entry refused"
  let records ← c.snapshotRecords
  pure (putU32 kSnapshotPayloadVersion ++ putCount records.length ++
    putMany putByteString records ++ putByteString c.ledger.encode)

/-! ## Replay -/

/-- The journal loop of `recover`: apply every record, stop at the first refusal. -/
def applyAll : List Bytes → Op Unit
  | [] => pure ()
  | record :: journal => do
    applyRecord record
    applyAll journal

/-- The record loop over a snapshot payload: each record is read and applied before
the next one is read. -/
def replayRecords (limits : Limits) : Nat → ByteReader → Coordinator →
    Result (ByteReader × Coordinator)
  | 0, reader, c => .ok (reader, c)
  | count + 1, reader, c => do
    let read : Read Bytes := do
      let record ← bytes limits.maxJournalRecordBytes.toNat
      checkOk
      pure record
    let (record, reader) ← read.result reader
    let ((), c) ← (applyRecord record).result c
    replayRecords limits count reader c

/-- The version and the record count a snapshot payload starts with. -/
def readSnapshotHeader (limits : Limits) : Read Nat := do
  let version ← u32
  checkOk
  throwIf (version ≠ kSnapshotPayloadVersion)
    ⟨.unsupportedVersion, "snapshot payload version is not supported"⟩
  collectionCount limits.maxCollectionItems.toNat

/-- The ledger bytes behind the records. -/
def readLedgerBytes (limits : Limits) : Read Bytes := do
  let ledgerBytes ← bytes limits.maxStateBytes.toNat
  checkOk
  pure ledgerBytes

/-- The snapshot part of `recover`. -/
def restoreSnapshot (snapshot : Bytes) (c : Coordinator) : Result Coordinator := do
  if snapshot = [] then
    pure c
  else do
    let (count, reader) ← (readSnapshotHeader c.limits).result ⟨snapshot, c.limits, none⟩
    let (reader, c) ← replayRecords c.limits count reader c
    let (ledgerBytes, reader) ← (readLedgerBytes c.limits).result reader
    let ledger ← decodeWith (toEnd (CompletionLedger.decode c.limits)) ledgerBytes c.limits
    let _ ← requireEnd.result reader
    pure { c with ledger }

/-! ## Conservative restart -/

/-- Demote the active producers of a list; `suspect` counts them. -/
def demoteProducers : List ProducerRecord → Coordinator → UInt32 → Result (Coordinator × UInt32)
  | [], c, suspect => .ok (c, suspect)
  | record :: records, c, suspect =>
    if ¬holdsAuthority record.state then demoteProducers records c suspect
    else
      match c.topology with
      | none => .ok (c, suspect)
      | some topology => do
        let demoted ← topology.setProducerState record.id record.incarnation .suspect
        demoteProducers records { c with
          topology := some demoted
          unrevalidatedProducers := insert record.id c.unrevalidatedProducers } (suspect + 1)

/-- Demote the active consumers of a list; `suspect` counts them. -/
def demoteConsumers : List ConsumerRecord → Coordinator → UInt32 → Result (Coordinator × UInt32)
  | [], c, suspect => .ok (c, suspect)
  | record :: records, c, suspect =>
    if ¬holdsAuthority record.state then demoteConsumers records c suspect
    else
      match c.topology with
      | none => .ok (c, suspect)
      | some topology => do
        let demoted ← topology.setConsumerState record.id record.incarnation .suspect
        demoteConsumers records { c with
          topology := some demoted
          unrevalidatedConsumers := insert record.id c.unrevalidatedConsumers } (suspect + 1)

/-- A participant that was active before the restart is not assumed to be alive. -/
def demote (c : Coordinator) : Result Coordinator := do
  let producers := (c.topology.map (·.producers)).getD []
  let (c, suspect) ← demoteProducers producers c 0
  let consumers := (c.topology.map (·.consumers)).getD []
  let (c, suspect) ← demoteConsumers consumers c suspect
  pure { c with pendingRevalidation := suspect }

/-- The scratch coordinator of `recover`, before its epoch is made durable. -/
def rebuild (limits : Limits) (snapshot : Bytes) (journal : List Bytes)
    (historyIncomplete : Bool) : Result Coordinator := do
  let scratch := { make limits none with historyIncomplete }
  let scratch ← restoreSnapshot snapshot scratch
  let ((), scratch) ← (applyAll journal).result scratch
  scratch.demote

/-- `Coordinator::adopt`: every authority-bearing member is transferred together. -/
def adopt (c other : Coordinator) : Coordinator :=
  { other with
    limits := c.limits, sink := c.sink, durable := c.durable, inside := c.inside
    grants := {} }

/-- `Coordinator::recover`. -/
def recover (snapshot : Bytes) (journal : List Bytes) (historyIncomplete : Bool) : Op Unit :=
  guarded do
    let c ← get
    throwIf (c.state ≠ .closed) ⟨.invalidState, "recovery requires a fresh coordinator"⟩
    let scratch ← liftM (rebuild c.limits snapshot journal historyIncomplete)
    -- A restart is a new epoch, durable before the recovered authority is exposed.
    let (status, scratch) := persistEpoch.exec { scratch with
      sink := c.sink, durable := c.durable }
    modify fun c => { c with sink := scratch.sink }
    liftM status
    modify (·.adopt scratch)

end Coordinator

end ShuffleFabric
