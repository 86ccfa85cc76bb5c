import ShuffleFabric.Bytes
import ShuffleFabric.Hash
import ShuffleFabric.Lib.Volume

/-!
# ShuffleFabric.DurableStore

The snapshot and journal files of a state directory (`durable_store.hpp`,
`durable_store.cpp`, the POSIX path).

Every file operation that changes something is one of `Lib.Volume`, so it may fail or
be the last one of the process.  Reading is not modelled as failing: a file is its
bytes.  Lengths and offsets of files are numbers without a width.
-/

namespace ShuffleFabric

open Lib Action

/-! ## Geometry -/

def snapshotHeaderBytes : Nat := 72
def journalHeaderBytes : Nat := 24
def snapshotVersion : UInt32 := 1
def journalRecordMagic : UInt32 := 0x4E524A31
def snapshotMagic : Bytes := [0x53, 0x46, 0x53, 0x4E, 0x41, 0x50, 0x30, 0x31]

/-! ## Byte access

Irreducible, so that a proof about a header never evaluates its bytes.
-/

@[irreducible] def loadU32 (bytes : Bytes) (offset : Nat) : UInt32 :=
  (List.range 4).foldl
    (fun value index =>
      value ||| ((bytes.getD (offset + index) 0).toUInt32 <<< (8 * UInt32.ofNat index))) 0

@[irreducible] def loadU64 (bytes : Bytes) (offset : Nat) : UInt64 :=
  (List.range 8).foldl
    (fun value index =>
      value ||| ((bytes.getD (offset + index) 0).toUInt64 <<< (8 * UInt64.ofNat index))) 0

/-- The four bytes `store_u32` puts in place. -/
@[irreducible] def storeU32 (value : UInt32) : Bytes :=
  (List.range 4).map fun index => ((value >>> (8 * UInt32.ofNat index)) &&& 0xff).toUInt8

/-- The eight bytes `store_u64` puts in place. -/
@[irreducible] def storeU64 (value : UInt64) : Bytes :=
  (List.range 8).map fun index => ((value >>> (8 * UInt64.ofNat index)) &&& 0xff).toUInt8

/-! ## Snapshots -/

/-- `struct SnapshotImage`. -/
structure SnapshotImage where
  sequence : UInt64
  payload : Bytes
  deriving DecidableEq, Repr

namespace SnapshotImage

/-- The part of the header its checksum covers. -/
def fields (image : SnapshotImage) : Bytes :=
  snapshotMagic ++ storeU32 snapshotVersion ++ storeU32 0 ++ storeU64 image.sequence ++
    storeU64 (UInt64.ofNat image.payload.length)

/-- The header `compact` writes. -/
def header (image : SnapshotImage) : Bytes :=
  image.fields ++ storeU32 (crc32c image.fields) ++ storeU32 (crc32c image.payload) ++
    (sha256 image.payload).bytes

/-- The file `compact` writes. -/
def encode (image : SnapshotImage) : Bytes := image.header ++ image.payload

end SnapshotImage

/-- The bytes of a file that `open_for_read` opens. -/
def openForRead (file : Option Bytes) (what : String) : Result Bytes :=
  match file with
  | none => makeFailure .invalidArgument (what ++ " could not be opened for reading")
  | some content => .ok content

/-- `decode_snapshot_file`. -/
def decodeSnapshotFile (limits : Limits) (file : Option Bytes) : Result SnapshotImage := do
  let content ← openForRead file "snapshot"
  refuseIf (content.length < snapshotHeaderBytes) .truncatedInput
    "snapshot is shorter than its header"
  let header := content.take snapshotHeaderBytes
  refuseIf (header.take 8 ≠ snapshotMagic) .malformedInput "snapshot magic does not match"
  refuseIf (loadU32 header 8 ≠ snapshotVersion) .unsupportedVersion
    "snapshot version is not supported"
  refuseIf (loadU32 header 12 ≠ 0) .malformedInput "snapshot flags must be zero"
  let payloadLength := loadU64 header 24
  refuseIf (payloadLength > limits.maxStateBytes) .stateTooLarge
    "snapshot payload exceeds max_state_bytes"
  refuseIf (crc32c (header.take 32) ≠ loadU32 header 32) .checksumMismatch
    "snapshot header checksum does not match"
  let expected ← checkedAdd (UInt64.ofNat snapshotHeaderBytes) payloadLength
  refuseIf (content.length < expected.toNat) .truncatedInput
    "snapshot payload is shorter than declared"
  refuseIf (content.length > expected.toNat) .trailingGarbage
    "snapshot has bytes after its payload"
  let payload := (content.drop snapshotHeaderBytes).take payloadLength.toNat
  refuseIf (crc32c payload ≠ loadU32 header 36) .checksumMismatch
    "snapshot payload checksum does not match"
  refuseIf ((header.drop 40).take 32 ≠ (sha256 payload).bytes) .checksumMismatch
    "snapshot payload digest does not match"
  pure ⟨loadU64 header 16, payload⟩

/-- `DurableStore::read_snapshot`. -/
def readSnapshot (limits : Limits) (file : Option Bytes) : Result Bytes :=
  SnapshotImage.payload <$> decodeSnapshotFile limits file

/-! ## The journal -/

/-- One record of the journal. -/
structure JournalEntry where
  sequence : UInt64
  payload : Bytes
  deriving DecidableEq, Repr

namespace JournalEntry

/-- The part of the header its checksum covers. -/
def fields (entry : JournalEntry) : Bytes :=
  storeU32 journalRecordMagic ++ storeU32 (UInt32.ofNat entry.payload.length) ++
    storeU64 entry.sequence

/-- The header `append` writes. -/
def header (entry : JournalEntry) : Bytes :=
  entry.fields ++ storeU32 (crc32c entry.fields) ++ storeU32 (crc32c entry.payload)

/-- The bytes `append` writes. -/
def encode (entry : JournalEntry) : Bytes := entry.header ++ entry.payload

end JournalEntry

/-- `enum class JournalTailStatus`. -/
inductive JournalTailStatus where
  | clean
  | tornTail
  | corrupt
  | missing
  deriving DecidableEq, Repr

/-- `struct JournalScan`; `lastSequence` is `last_seen` while the scan goes on. -/
structure JournalScan where
  records : List Bytes := []
  lastSequence : UInt64 := 0
  replayableBytes : Nat := 0
  recordsReplayed : Nat := 0
  recordsSkipped : Nat := 0
  bytesDiscarded : Nat := 0
  tail : JournalTailStatus := .clean
  deriving DecidableEq, Repr

/-- What the scan finds at the front of the bytes that are left. -/
inductive JournalFrame where
  | done
  | torn
  | corrupt
  | record (entry : JournalEntry) (rest : Bytes)
  deriving DecidableEq, Repr

/-- One turn of the loop of `scan_journal`, up to the ordering of the sequences. -/
def readFrame (limits : Limits) (bytes : Bytes) : JournalFrame :=
  if bytes = [] then .done
  else if bytes.length < journalHeaderBytes then .torn
  else
    let header := bytes.take journalHeaderBytes
    let payloadLength := loadU32 header 4
    if loadU32 header 0 ≠ journalRecordMagic then .corrupt
    else if payloadLength.toUInt64 > limits.maxJournalRecordBytes then .corrupt
    else if crc32c (header.take 16) ≠ loadU32 header 16 then .corrupt
    else
      let payload := (bytes.drop journalHeaderBytes).take payloadLength.toNat
      if payload.length < payloadLength.toNat then .torn
      else if crc32c payload ≠ loadU32 header 20 then .corrupt
      else
        .record ⟨loadU64 header 8, payload⟩ (bytes.drop (journalHeaderBytes + payloadLength.toNat))

namespace JournalScan

/-- Stop the scan; what is left is refused. -/
def stop (scan : JournalScan) (tail : JournalTailStatus) (bytes : Bytes) : JournalScan :=
  { scan with tail := tail, bytesDiscarded := bytes.length }

/-- Take in a record; one that was applied before is counted and not kept. -/
def adopt (scan : JournalScan) (snapshotSequence : UInt64) (entry : JournalEntry) : JournalScan :=
  let seen := { scan with
    lastSequence := entry.sequence
    replayableBytes := scan.replayableBytes + journalHeaderBytes + entry.payload.length }
  if entry.sequence = scan.lastSequence ∨ entry.sequence ≤ snapshotSequence then
    { seen with recordsSkipped := scan.recordsSkipped + 1 }
  else
    { seen with
      records := scan.records ++ [entry.payload]
      recordsReplayed := scan.recordsReplayed + 1 }

end JournalScan

/-- The loop of `scan_journal`; every turn but the last consumes a header. -/
def scanFrames (limits : Limits) (snapshotSequence : UInt64) :
    Nat → Bytes → JournalScan → JournalScan
  | 0, _, scan => scan
  | fuel + 1, bytes, scan =>
    match readFrame limits bytes with
    | .done => scan
    | .torn => scan.stop .tornTail bytes
    | .corrupt => scan.stop .corrupt bytes
    | .record entry rest =>
      if entry.sequence < scan.lastSequence then scan.stop .corrupt bytes
      else scanFrames limits snapshotSequence fuel rest (scan.adopt snapshotSequence entry)

/-- Whether `scan_journal` takes a journal of this size for one the store wrote. -/
def journalSizeOk (limits : Limits) (size : Nat) : Bool :=
  match checkedMul limits.maxStateBytes 4 with
  | .ok bound => size ≤ bound.toNat
  | .error _ => true

/-- `scan_journal`. -/
def scanJournal (limits : Limits) (file : Option Bytes) (snapshotSequence : UInt64) :
    Result JournalScan :=
  match file with
  | none => .ok { tail := .missing }
  | some content => do
    refuseIf (¬journalSizeOk limits content.length) .stateTooLarge
      "journal exceeds four times max_state_bytes"
    pure (scanFrames limits snapshotSequence (content.length + 1) content {})

/-! ## The store -/

/-- The files of a state directory. -/
inductive StoreFile where
  | primary
  | previous
  | temporary
  | journal
  deriving DecidableEq, Repr

/-- `struct RecoveryReport`. -/
structure RecoveryReport where
  snapshotLoaded : Bool := false
  snapshotFromPrevious : Bool := false
  journalMissing : Bool := false
  snapshotSequence : UInt64 := 0
  recordsReplayed : Nat := 0
  recordsSkipped : Nat := 0
  bytesDiscarded : Nat := 0
  tail : JournalTailStatus := .missing
  lastSequence : UInt64 := 0
  revalidationRequired : Bool := false
  deriving DecidableEq, Repr

/-- `struct DurableStore::Impl`; `journal` is whether the journal writer is open. -/
structure DurableStore where
  limits : Limits
  report : RecoveryReport := {}
  records : List Bytes := []
  journal : Bool := false
  opened : Bool := false
  journalDegraded : Bool := false
  snapshotSequence : UInt64 := 0
  lastSequence : UInt64 := 0
  journalBytes : Nat := 0
  appendedRecords : UInt64 := 0
  deriving DecidableEq, Repr

/-- A store object and the directory it works on. -/
structure Host where
  store : DurableStore
  volume : Volume StoreFile

/-- A member function of the store. -/
abbrev Operation (α : Type) := Action Host (Halt Error) α

namespace Host

/-- The files of the directory. -/
abbrev files (h : Host) : StoreFile → Option Bytes := h.volume.files

def onDisk {α : Type} (x : Action (Volume StoreFile) (Halt Error) α) : Operation α :=
  zoom Host.volume (fun v h => { h with volume := v }) x

def modifyStore (f : DurableStore → DurableStore) : Operation Unit :=
  modify fun h => { h with store := f h.store }

def persistenceFailure (detail : String) : Error := ⟨.persistenceFailure, detail⟩

/-- Go on only with a successful result. -/
def check {α : Type} (r : Result α) : Operation α :=
  match r with
  | .ok a => pure a
  | .error e => throw (.refused e)

/-- `write_all`. -/
def writeAll (file : StoreFile) (data : Bytes) (what : String) : Operation Unit :=
  onDisk (Volume.write file data (persistenceFailure (what ++ " could not be written")))

/-- `flush_file`. -/
def flushFile (what : String) : Operation Unit :=
  onDisk (Volume.flush (persistenceFailure (what ++ " could not be flushed")))

/-- `truncate_file`. -/
def truncateFile (file : StoreFile) (length : Nat) : Operation Unit := do
  onDisk (Volume.truncate file length
    (persistenceFailure "durable file could not be truncated"))
  onDisk (Volume.seek file length (persistenceFailure "durable file could not be positioned"))
  flushFile "truncated file"

/-- `create_for_write`. -/
def createForWrite (file : StoreFile) (what : String) : Operation Unit :=
  onDisk (Volume.create file (persistenceFailure (what ++ " could not be created for writing")))

/-- `open_for_append`. -/
def openForAppend (file : StoreFile) (offset : Nat) (what : String) : Operation Unit := do
  onDisk (Volume.openFile file (persistenceFailure (what ++ " could not be opened for appending")))
  onDisk (Volume.truncate file offset (persistenceFailure (what ++ " could not be positioned")))
  onDisk (Volume.seek file offset (persistenceFailure (what ++ " could not be positioned")))

/-- `remove_quietly`. -/
def removeQuietly (file : StoreFile) : Operation Unit :=
  (onDisk (Volume.remove file (persistenceFailure "remove"))).onRefusal fun _ => pure ()

/-- `replace_file`. -/
def replaceFile (source destination backup : StoreFile) : Operation Unit := do
  let h ← get
  runIf ((h.files destination).isSome = true)
    (onDisk (Volume.rename destination backup
      ⟨.atomicReplaceFailed, "the previous snapshot could not be preserved"⟩))
  onDisk (Volume.rename source destination
    ⟨.atomicReplaceFailed, "the new snapshot could not be installed"⟩)

/-- `Impl::ensure_journal`. -/
def ensureJournal : Operation Unit := do
  let h ← get
  runIf (h.store.journal = false) do
    openForAppend .journal h.store.journalBytes "journal"
    modifyStore fun store => { store with journal := true }

/-- The snapshot `open` adopts, and whether it is the previous one. -/
def adoptSnapshot (limits : Limits) (files : StoreFile → Option Bytes) :
    Result (Option (SnapshotImage × Bool)) :=
  match decodeSnapshotFile limits (files .primary) with
  | .ok image => .ok (some (image, false))
  | .error primary =>
    match decodeSnapshotFile limits (files .previous) with
    | .ok image => .ok (some (image, true))
    | .error previous =>
      if primary.code ≠ .invalidArgument ∨ previous.code ≠ .invalidArgument then .error primary
      else .ok none

/-- What `open` learns from the files. -/
def recovered (limits : Limits) (adopted : Option (SnapshotImage × Bool)) (journalExists : Bool)
    (scan : JournalScan) : DurableStore :=
  let snapshotSequence := (adopted.map (·.1.sequence)).getD 0
  let fromPrevious := (adopted.map (·.2)).getD false
  let lastSequence := max snapshotSequence scan.lastSequence
  { limits := limits
    report :=
      { snapshotLoaded := adopted.isSome
        snapshotFromPrevious := fromPrevious
        journalMissing := !journalExists
        snapshotSequence := snapshotSequence
        recordsReplayed := scan.recordsReplayed
        recordsSkipped := scan.recordsSkipped
        bytesDiscarded := scan.bytesDiscarded
        tail := scan.tail
        lastSequence := lastSequence
        revalidationRequired :=
          !adopted.isSome || fromPrevious || scan.tail == .tornTail || scan.tail == .corrupt }
    records := scan.records
    snapshotSequence := snapshotSequence
    lastSequence := lastSequence
    journalBytes := scan.replayableBytes }

/-- `DurableStore::open`. -/
def openStore : Operation Unit := do
  modifyStore fun store => { limits := store.limits }
  let h ← get
  let limits := h.store.limits
  let adopted ← check (adoptSnapshot limits h.files)
  let scan ← check (scanJournal limits (h.files .journal) ((adopted.map (·.1.sequence)).getD 0))
  modifyStore fun _ => recovered limits adopted (h.files .journal).isSome scan
  runIf ((h.files .journal).isSome = true) do
    openForAppend .journal scan.replayableBytes "journal"
    modifyStore fun store => { store with journal := true }
  modifyStore fun store => { store with opened := true }

/-- The checks of `append`, and the sequence the record gets. -/
def checkAppend (store : DurableStore) (payload : Bytes) : Result UInt64 := do
  refuseIf (store.opened = false) .invalidState "store is not open"
  refuseIf (store.journalDegraded = true) .persistenceFailure
    "journal writer is unusable after an earlier failure"
  refuseIf (payload.length > store.limits.maxJournalRecordBytes.toNat) .oversizedInput
    "record exceeds max_journal_record_bytes"
  refuseIf (payload.length > 0xFFFFFFFF) .oversizedInput
    "record does not fit the 32-bit length field"
  checkedAdd store.lastSequence 1

/-- The writing part of `append`: the record is written and flushed at the end of the
journal, or the journal is cut back to where it ended. -/
def writeRecord (entry : JournalEntry) (offset : Nat) : Operation Unit :=
  let write : Operation Unit := do
    writeAll .journal entry.header "journal record header"
    writeAll .journal entry.payload "journal record payload"
    flushFile "journal record"
  write.onRefusal fun e => do
    (truncateFile .journal offset).onRefusal fun _ =>
      modifyStore fun store => { store with journalDegraded := true }
    throw (.refused (persistenceFailure e.detail))

/-- `DurableStore::append`. -/
def append (payload : Bytes) : Operation UInt64 := do
  let h ← get
  let sequence ← check (checkAppend h.store payload)
  ensureJournal
  writeRecord ⟨sequence, payload⟩ h.store.journalBytes
  modifyStore fun store => { store with
    lastSequence := sequence
    journalBytes := h.store.journalBytes + journalHeaderBytes + payload.length
    appendedRecords := store.appendedRecords + 1 }
  pure sequence

/-- The checks of `compact`. -/
def checkCompact (store : DurableStore) (image : SnapshotImage) : Status := do
  refuseIf (store.opened = false) .invalidState "store is not open"
  refuseIf (image.payload.length > store.limits.maxStateBytes.toNat) .stateTooLarge
    "state exceeds max_state_bytes"
  refuseIf (image.sequence < store.snapshotSequence ∨ image.sequence > store.lastSequence)
    .invalidArgument "compaction sequence must lie between the snapshot and the last sequence"

/-- The first half of `compact`: the new snapshot is written aside. -/
def writeTemporary (image : SnapshotImage) : Operation Unit := do
  createForWrite .temporary "snapshot temporary file"
  let write : Operation Unit := do
    writeAll .temporary image.header "snapshot header"
    writeAll .temporary image.payload "snapshot payload"
    flushFile "snapshot"
  write.onRefusal fun e => do
    removeQuietly .temporary
    throw (.refused (persistenceFailure e.detail))

/-- The installation of the new snapshot. -/
def installTemporary : Operation Unit :=
  (replaceFile .temporary .primary .previous).onRefusal fun e => do
    removeQuietly .temporary
    throw (.refused e)

/-- The last part of `compact`: the journal is emptied. -/
def emptyJournal : Operation Unit := do
  ensureJournal.onRefusal fun e => throw (.refused (persistenceFailure e.detail))
  (truncateFile .journal 0).onRefusal fun _ =>
    throw (.refused (persistenceFailure
      "journal could not be emptied after the snapshot was installed"))

/-- `DurableStore::compact(state, upto_sequence)`, the two as one image. -/
def compact (image : SnapshotImage) : Operation Unit := do
  let h ← get
  check (checkCompact h.store image)
  writeTemporary image
  installTemporary
  emptyJournal
  modifyStore fun store => { store with snapshotSequence := image.sequence, journalBytes := 0 }

end Host

end ShuffleFabric
