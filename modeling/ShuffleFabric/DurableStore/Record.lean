import ShuffleFabric.Codec.Canonical
import ShuffleFabric.DurableStore.Crash
import ShuffleFabric.Hash.Detect

/-!
# ShuffleFabric.DurableStore.Record

The records of any journal, damaged ones included.

`readFrame_eq_record` leaves the scan no choice: what it takes for a record is one.  A record
with one byte changed is none, wherever the byte lies: the length is believed only when the
checksum of the header agrees.
-/

namespace ShuffleFabric

open Lib ByteReader

/-! ## Fields -/

/-- A field of four bytes is read and written back. -/
theorem storeU32_u32Of {bytes : Bytes} (h : bytes.length = 4) : storeU32 (u32Of bytes) = bytes := by
  rw [storeU32_eq_putU32, putU32_u32Of h]

/-- A field of eight bytes likewise. -/
theorem storeU64_u64Of {bytes : Bytes} (h : bytes.length = 8) : storeU64 (u64Of bytes) = bytes := by
  rw [storeU64_eq_putU64, putU64_u64Of h]

/-- The pieces of a journal header. -/
structure HeaderPieces (header magic length sequence headerCrc payloadCrc : Bytes) : Prop where
  header_eq : header = magic ++ length ++ sequence ++ headerCrc ++ payloadCrc
  magic : magic.length = 4
  length : length.length = 4
  sequence : sequence.length = 8
  headerCrc : headerCrc.length = 4
  payloadCrc : payloadCrc.length = 4

/-- Any 24 bytes come in these pieces. -/
theorem exists_headerPieces {header : Bytes} (h : header.length = journalHeaderBytes) :
    ∃ magic length sequence headerCrc payloadCrc,
      HeaderPieces header magic length sequence headerCrc payloadCrc := by
  have h : header.length = 24 := h
  refine ⟨header.take 4, (header.drop 4).take 4, (header.drop 8).take 8, (header.drop 16).take 4,
    header.drop 20, ?_, ?_, ?_, ?_, ?_, ?_⟩
  · simp only [← List.take_add, Nat.reduceAdd, List.take_append_drop]
  all_goals
    simp only [List.length_take, List.length_drop]
    omega

/-- The fields of a header are those of its pieces. -/
theorem HeaderPieces.load {header magic length sequence headerCrc payloadCrc : Bytes}
    (h : HeaderPieces header magic length sequence headerCrc payloadCrc) :
    loadU32 header 0 = u32Of magic ∧ loadU32 header 4 = u32Of length ∧
      loadU64 header 8 = u64Of sequence ∧ loadU32 header 16 = u32Of headerCrc ∧
      loadU32 header 20 = u32Of payloadCrc ∧ header.take 16 = magic ++ length ++ sequence := by
  obtain ⟨rfl, hmagic, hlength, hsequence, hheaderCrc, hpayloadCrc⟩ := h
  rw [← loadU32_of_length hmagic, ← loadU32_of_length hlength, ← loadU64_of_length hsequence,
    ← loadU32_of_length hheaderCrc, ← loadU32_of_length hpayloadCrc]
  refine ⟨?_, ?_, ?_, ?_, ?_, ?_⟩
  · simp (disch := simp [hmagic, hlength, hsequence, hheaderCrc]) only [loadU32_append_left]
  · simp (disch := simp [hmagic, hlength, hsequence, hheaderCrc]) only [loadU32_append_left,
      loadU32_append_right, hmagic, Nat.reduceSub]
  · simp (disch := simp [hmagic, hlength, hsequence, hheaderCrc]) only [loadU64_append_left,
      loadU64_append_right, List.length_append, hmagic, hlength, Nat.reduceAdd, Nat.reduceSub]
  · simp (disch := simp [hmagic, hlength, hsequence, hheaderCrc]) only [loadU32_append_left,
      loadU32_append_right, List.length_append, hmagic, hlength, hsequence, Nat.reduceAdd,
      Nat.reduceSub]
  · simp (disch := simp [hmagic, hlength, hsequence, hheaderCrc]) only [loadU32_append_right,
      List.length_append, hmagic, hlength, hsequence, hheaderCrc, Nat.reduceAdd, Nat.reduceSub]
  · rw [List.append_assoc (magic ++ length ++ sequence)]
    exact List.take_left' (by simp [hmagic, hlength, hsequence])

theorem u32Of_storeU32 (value : UInt32) : u32Of (storeU32 value) = value := by
  rw [storeU32_eq_putU32, u32Of_putU32]

/-- A field with one byte changed has another value. -/
theorem u32Of_set_storeU32 {value : UInt32} {i : Nat} (hi : i < (storeU32 value).length)
    {byte : UInt8} (hne : byte ≠ (storeU32 value)[i]) :
    u32Of ((storeU32 value).set i byte) ≠ value := by
  intro hvalue
  have hbytes := congrArg storeU32 hvalue
  rw [storeU32_u32Of (by simp)] at hbytes
  exact set_ne_self hi hne hbytes

/-- A turn of the scan on a header in three parts. -/
theorem readFrame_parts (limits : Limits) {fields headerCrc payloadCrc : Bytes}
    (hfields : fields.length = 16) (hheaderCrc : headerCrc.length = 4)
    (hpayloadCrc : payloadCrc.length = 4) (tail : Bytes) :
    readFrame limits (fields ++ headerCrc ++ payloadCrc ++ tail) =
      if loadU32 fields 0 ≠ journalRecordMagic then .corrupt
      else if (loadU32 fields 4).toUInt64 > limits.maxJournalRecordBytes then .corrupt
      else if crc32c fields ≠ u32Of headerCrc then .corrupt
      else if (tail.take (loadU32 fields 4).toNat).length < (loadU32 fields 4).toNat then .torn
      else if crc32c (tail.take (loadU32 fields 4).toNat) ≠ u32Of payloadCrc then .corrupt
      else .record ⟨loadU64 fields 8, tail.take (loadU32 fields 4).toNat⟩
        (tail.drop (loadU32 fields 4).toNat) := by
  have hlength : (fields ++ headerCrc ++ payloadCrc).length = journalHeaderBytes := by
    simp [hfields, hheaderCrc, hpayloadCrc, journalHeaderBytes]
  have hempty : ¬fields ++ headerCrc ++ payloadCrc ++ tail = [] := by
    intro hnil
    have := congrArg List.length hnil
    simp [hfields] at this
  have hshort : ¬(fields ++ headerCrc ++ payloadCrc ++ tail).length < journalHeaderBytes := by
    rw [List.length_append, hlength]
    omega
  have htake : (fields ++ headerCrc ++ payloadCrc).take 16 = fields := by
    rw [List.append_assoc]
    exact List.take_left' hfields
  have hcrcs : loadU32 (fields ++ headerCrc ++ payloadCrc) 16 = u32Of headerCrc ∧
      loadU32 (fields ++ headerCrc ++ payloadCrc) 20 = u32Of payloadCrc := by
    rw [← loadU32_of_length hheaderCrc, ← loadU32_of_length hpayloadCrc]
    constructor <;>
      simp (disch := simp [hfields, hheaderCrc]) only [loadU32_append_left, loadU32_append_right,
        List.length_append, hfields, hheaderCrc, Nat.reduceAdd, Nat.reduceSub]
  have hloads : loadU32 (fields ++ headerCrc ++ payloadCrc) 0 = loadU32 fields 0 ∧
      loadU32 (fields ++ headerCrc ++ payloadCrc) 4 = loadU32 fields 4 ∧
      loadU64 (fields ++ headerCrc ++ payloadCrc) 8 = loadU64 fields 8 := by
    simp (disch := simp [hfields, hheaderCrc]) only [loadU32_append_left, loadU64_append_left,
      and_self]
  unfold readFrame
  rw [if_neg hempty, if_neg hshort]
  simp only [List.take_left' hlength, List.drop_left' hlength, ← List.drop_drop, htake, hcrcs.1,
    hcrcs.2, hloads.1, hloads.2.1, hloads.2.2]

/-! ## Whole records -/

namespace JournalEntry

/-- What the scan takes for a record is one, in full. -/
theorem readFrame_eq_record {limits : Limits} {bytes rest : Bytes} {entry : JournalEntry} :
    readFrame limits bytes = .record entry rest ↔
      entry.Fits limits ∧ bytes = entry.encode ++ rest := by
  constructor
  · intro h
    unfold readFrame at h
    split at h
    · cases h
    split at h
    · cases h
    next hshort =>
      obtain ⟨magic, length, sequence, headerCrc, payloadCrc, hpieces⟩ :=
        exists_headerPieces (show (bytes.take journalHeaderBytes).length = journalHeaderBytes by
          rw [List.length_take]
          omega)
      obtain ⟨hmagic, hlength, hsequence, hheaderCrc, hpayloadCrc, htake⟩ := hpieces.load
      simp only [hmagic, hlength, hsequence, hheaderCrc, hpayloadCrc, htake] at h
      split at h
      · cases h
      next hmagicOk =>
      split at h
      · cases h
      next hbounded =>
      split at h
      · cases h
      next hheaderOk =>
      split at h
      · cases h
      next hwhole =>
      split at h
      · cases h
      next hpayloadOk =>
      obtain ⟨rfl, rfl⟩ := JournalFrame.record.inj h
      have hsize : ((bytes.drop journalHeaderBytes).take (u32Of length).toNat).length =
          (u32Of length).toNat := by
        rw [List.length_take] at hwhole ⊢
        omega
      refine ⟨⟨?_, ?_⟩, ?_⟩
      · rw [hsize, ← UInt32.toNat_toUInt64]
        exact UInt64.le_iff_toNat_le.mp (UInt64.not_lt.mp hbounded)
      · rw [hsize]
        exact (u32Of length).toNat_lt
      · have hfields : fields ⟨u64Of sequence,
            (bytes.drop journalHeaderBytes).take (u32Of length).toNat⟩ =
              magic ++ length ++ sequence := by
          rw [fields, hsize, UInt32.ofNat_toNat, ← not_not.mp hmagicOk,
            storeU32_u32Of hpieces.magic, storeU32_u32Of hpieces.length,
            storeU64_u64Of hpieces.sequence]
        rw [encode, header, hfields, not_not.mp hheaderOk, not_not.mp hpayloadOk,
          storeU32_u32Of hpieces.headerCrc, storeU32_u32Of hpieces.payloadCrc,
          ← hpieces.header_eq, ← List.drop_drop, List.append_assoc, List.take_append_drop,
          List.take_append_drop]
  · rintro ⟨hfits, rfl⟩
    exact readFrame_encode hfits rest

/-- The magic and the length of a header that was written. -/
theorem loadU32_fields (entry : JournalEntry) :
    loadU32 entry.fields 0 = journalRecordMagic ∧
      loadU32 entry.fields 4 = UInt32.ofNat entry.payload.length := by
  constructor <;>
    simp (disch := simp) only [fields, loadU32_append_left, loadU32_append_right, length_storeU32,
      Nat.reduceSub, loadU32_storeU32]

/-- A record with one byte changed is corrupt, whatever follows it. -/
theorem readFrame_set {limits : Limits} {entry : JournalEntry} (h : entry.Fits limits) {i : Nat}
    (hi : i < entry.encode.length) {byte : UInt8} (hne : byte ≠ entry.encode[i]) (rest : Bytes) :
    readFrame limits (entry.encode.set i byte ++ rest) = .corrupt := by
  by_cases hpayload : 24 ≤ i
  · rw [encode, List.set_append, if_neg (by simpa using hpayload), List.append_assoc,
      readFrame_header h]
    have hlength : (entry.payload.set (i - entry.header.length) byte).length =
        entry.payload.length := List.length_set
    rw [if_neg (by rw [List.length_append, hlength]; omega), List.take_left' hlength, if_pos]
    refine crc32c_set_ne ?_ ?_
    · rw [length_encode] at hi
      simp
      omega
    · simpa [encode, List.getElem_append, Nat.not_lt.mpr hpayload] using hne
  have hinside : i < entry.header.length := by
    rw [length_header]
    omega
  have hbyte : byte ≠ entry.header[i] := by
    simpa [encode, List.getElem_append, Nat.not_le.mp hpayload] using hne
  obtain ⟨hmagic, hlength⟩ := entry.loadU32_fields
  rw [encode, List.set_append, if_pos hinside, List.append_assoc]
  by_cases hfields : i < 16
  · have hcrc : crc32c (entry.fields.set i byte) ≠ u32Of (storeU32 (crc32c entry.fields)) := by
      rw [u32Of_storeU32]
      refine crc32c_set_ne (by simpa using hfields) ?_
      simpa [header, List.getElem_append, hfields] using hbyte
    rw [header, List.append_assoc entry.fields, List.set_append, if_pos (by simpa using hfields),
      ← List.append_assoc (entry.fields.set i byte),
      readFrame_parts limits (by simp) (by simp) (by simp), if_pos hcrc]
    split_ifs <;> rfl
  by_cases hheaderCrc : i < 20
  · have hset : entry.header.set i byte = entry.fields ++
        (storeU32 (crc32c entry.fields)).set (i - 16) byte ++ storeU32 (crc32c entry.payload) := by
      rw [header, List.set_append, if_pos (by simpa using hheaderCrc), List.set_append,
        if_neg (by simpa using hfields), length_fields]
    have hcrc : u32Of ((storeU32 (crc32c entry.fields)).set (i - 16) byte) ≠
        crc32c entry.fields := by
      refine u32Of_set_storeU32 (by simp; omega) ?_
      have hfour : i - 16 < 4 := by omega
      simpa [header, List.getElem_append, hfields, hfour] using hbyte
    rw [hset, readFrame_parts limits (by simp) (by simp) (by simp), if_pos hcrc.symm]
    split_ifs <;> rfl
  · have hset : entry.header.set i byte = entry.fields ++ storeU32 (crc32c entry.fields) ++
        (storeU32 (crc32c entry.payload)).set (i - 20) byte := by
      rw [header, List.set_append, if_neg (by simpa using hheaderCrc)]
      simp
    have hcrc : u32Of ((storeU32 (crc32c entry.payload)).set (i - 20) byte) ≠
        crc32c entry.payload := by
      refine u32Of_set_storeU32 (by simp; omega) ?_
      have hfour : ¬i - 16 < 4 := by omega
      simpa [header, List.getElem_append, hfields, hfour, Nat.sub_sub] using hbyte
    rw [hset, readFrame_parts limits (by simp) (by simp) (by simp), hmagic, hlength,
      toNat_length h, List.take_left, u32Of_storeU32, if_neg (not_not.mpr rfl),
      if_neg (length_le h), if_neg (not_not.mpr rfl), if_neg (Nat.lt_irrefl _), if_pos hcrc.symm]

end JournalEntry

/-! ## The scan -/

/-- Sequences that never fall, none of them below a given one. -/
def Ordered (start : UInt64) (entries : List JournalEntry) : Prop :=
  (start :: entries.map JournalEntry.sequence).IsChain (· ≤ ·)

theorem ordered_nil (start : UInt64) : Ordered start [] := by simp [Ordered]

/-- The first entry is in order, and the others are behind it. -/
theorem ordered_cons {start : UInt64} {entry : JournalEntry} {entries : List JournalEntry} :
    Ordered start (entry :: entries) ↔ start ≤ entry.sequence ∧ Ordered entry.sequence entries := by
  simp [Ordered]

/-- What rises is in order. -/
theorem Rising.ordered {start : UInt64} {entries : List JournalEntry} (h : Rising start entries) :
    Ordered start entries := h.imp fun _ _ hlt => UInt64.le_of_lt hlt

namespace JournalScan

/-- The scan with these records taken in. -/
def adoptAll (scan : JournalScan) (snapshotSequence : UInt64) (entries : List JournalEntry) :
    JournalScan :=
  entries.foldl (·.adopt snapshotSequence) scan

@[simp] theorem adoptAll_nil (scan : JournalScan) (snapshotSequence : UInt64) :
    scan.adoptAll snapshotSequence [] = scan := rfl

@[simp] theorem adoptAll_cons (scan : JournalScan) (snapshotSequence : UInt64)
    (entry : JournalEntry) (entries : List JournalEntry) :
    scan.adoptAll snapshotSequence (entry :: entries) =
      (scan.adopt snapshotSequence entry).adoptAll snapshotSequence entries := rfl

/-- What an entry adds to the scan. -/
theorem adopt_spec (scan : JournalScan) (snapshotSequence : UInt64) (entry : JournalEntry) :
    (scan.adopt snapshotSequence entry).lastSequence = entry.sequence ∧
      (scan.adopt snapshotSequence entry).replayableBytes =
        scan.replayableBytes + entry.encode.length ∧
      (scan.adopt snapshotSequence entry).tail = scan.tail ∧
      (scan.adopt snapshotSequence entry).bytesDiscarded = scan.bytesDiscarded := by
  have hlength := entry.length_encode
  unfold adopt
  split_ifs <;> simp [hlength, journalHeaderBytes, Nat.add_assoc]

/-- What all the entries add to the scan. -/
theorem adoptAll_spec (scan : JournalScan) (snapshotSequence : UInt64)
    (entries : List JournalEntry) :
    (scan.adoptAll snapshotSequence entries).lastSequence = lastOf scan.lastSequence entries ∧
      (scan.adoptAll snapshotSequence entries).replayableBytes =
        scan.replayableBytes + (journalImage entries).length ∧
      (scan.adoptAll snapshotSequence entries).tail = scan.tail ∧
      (scan.adoptAll snapshotSequence entries).bytesDiscarded = scan.bytesDiscarded := by
  induction entries generalizing scan with
  | nil => simp [lastOf]
  | cons entry entries ih =>
      obtain ⟨hlast, hbytes, htail, hdiscarded⟩ := scan.adopt_spec snapshotSequence entry
      obtain ⟨hlast', hbytes', htail', hdiscarded'⟩ := ih (scan.adopt snapshotSequence entry)
      rw [hlast] at hlast'
      rw [hbytes] at hbytes'
      refine ⟨hlast', ?_, htail'.trans htail, hdiscarded'.trans hdiscarded⟩
      rw [adoptAll_cons, hbytes', journalImage_cons, List.length_append, Nat.add_assoc]

/-- Records above everything seen are replayed unless the snapshot holds them. -/
theorem records_adoptAll {scan : JournalScan} {entries : List JournalEntry}
    (h : Rising scan.lastSequence entries) (snapshotSequence : UInt64) :
    (scan.adoptAll snapshotSequence entries).records =
      scan.records ++ replayed snapshotSequence entries := by
  induction entries generalizing scan with
  | nil => simp [replayed]
  | cons entry entries ih =>
      obtain ⟨hlt, htail⟩ := h.tail
      obtain ⟨hlast, -, hrecords⟩ := adopt_of_lt hlt snapshotSequence
      rw [adoptAll_cons, ih (by rwa [hlast]), hrecords, List.append_assoc]
      simp [replayed, ← List.map_append, ← List.filter_append]

end JournalScan

/-- The scan takes in whole records in order, and goes on behind them. -/
theorem scanFrames_append {limits : Limits} (snapshotSequence : UInt64)
    {entries : List JournalEntry} (hfits : ∀ entry ∈ entries, entry.Fits limits) (rest : Bytes)
    {scan : JournalScan}
    (hordered : Ordered scan.lastSequence entries) (fuel : Nat) :
    scanFrames limits snapshotSequence (entries.length + fuel) (journalImage entries ++ rest) scan =
      scanFrames limits snapshotSequence fuel rest (scan.adoptAll snapshotSequence entries) := by
  induction entries generalizing scan with
  | nil => simp
  | cons entry entries ih =>
      obtain ⟨hhead, htail⟩ := ordered_cons.mp hordered
      obtain ⟨hfit, hfits⟩ := List.forall_mem_cons.mp hfits
      have hlast := (scan.adopt_spec snapshotSequence entry).1
      rw [List.length_cons, Nat.add_right_comm, journalImage_cons, List.append_assoc, scanFrames,
        JournalEntry.readFrame_encode hfit]
      simp only [UInt64.not_lt.mpr hhead, if_false]
      exact ih hfits (by rwa [hlast])

/-- A scan is done where no bytes are left. -/
theorem readFrame_eq_done {limits : Limits} {bytes : Bytes} :
    readFrame limits bytes = .done ↔ bytes = [] := by
  constructor
  · intro h
    unfold readFrame at h
    split at h
    · assumption
    · simp only at h
      split_ifs at h
  · rintro rfl
    rfl

/-- Why a scan ends. -/
inductive ScanEnd (limits : Limits) (last : UInt64) (rest : Bytes) : Prop
  | done (empty : rest = [])
  | torn (frame : readFrame limits rest = .torn)
  | corrupt (frame : readFrame limits rest = .corrupt)
  | behind (entry : JournalEntry) (after : Bytes)
      (frame : readFrame limits rest = .record entry after) (lt : entry.sequence < last)

/-- The scan stops where it must, and keeps what it has. -/
theorem ScanEnd.scanFrames_eq {limits : Limits} {rest : Bytes} {scan : JournalScan}
    (h : ScanEnd limits scan.lastSequence rest) (snapshotSequence : UInt64) (fuel : Nat) :
    ∃ tail discarded, scanFrames limits snapshotSequence (fuel + 1) rest scan =
      { scan with tail := tail, bytesDiscarded := discarded } := by
  rw [scanFrames]
  cases h with
  | done hempty =>
      rw [readFrame_eq_done.mpr hempty]
      exact ⟨scan.tail, scan.bytesDiscarded, rfl⟩
  | torn hframe =>
      rw [hframe]
      exact ⟨.tornTail, rest.length, rfl⟩
  | corrupt hframe =>
      rw [hframe]
      exact ⟨.corrupt, rest.length, rfl⟩
  | behind entry after hframe hlt =>
      rw [hframe]
      simp only [hlt, if_true]
      exact ⟨.corrupt, rest.length, rfl⟩

/-- A journal is the records the scan takes in, and the part it refuses. -/
theorem exists_scanned (limits : Limits) (last : UInt64) (bytes : Bytes) :
    ∃ entries rest, bytes = journalImage entries ++ rest ∧
      (∀ entry ∈ entries, entry.Fits limits) ∧ Ordered last entries ∧
      ScanEnd limits (lastOf last entries) rest := by
  induction hsize : bytes.length using Nat.strongRecOn generalizing bytes last with
  | _ size ih =>
      cases hframe : readFrame limits bytes with
      | done =>
          exact ⟨[], bytes, rfl, by simp, ordered_nil _, .done (readFrame_eq_done.mp hframe)⟩
      | torn => exact ⟨[], bytes, rfl, by simp, ordered_nil _, .torn hframe⟩
      | corrupt => exact ⟨[], bytes, rfl, by simp, ordered_nil _, .corrupt hframe⟩
      | record entry rest =>
          by_cases hlt : entry.sequence < last
          · exact ⟨[], bytes, rfl, by simp, ordered_nil _, .behind entry rest hframe hlt⟩
          · obtain ⟨hfit, rfl⟩ := JournalEntry.readFrame_eq_record.mp hframe
            have hless : rest.length < size := by
              rw [List.length_append, JournalEntry.length_encode] at hsize
              omega
            obtain ⟨entries, refused, hrest, hfits, hordered, hend⟩ :=
              ih rest.length hless entry.sequence rest rfl
            refine ⟨entry :: entries, refused, ?_, List.forall_mem_cons.mpr ⟨hfit, hfits⟩,
              ordered_cons.mpr ⟨UInt64.not_lt.mp hlt, hordered⟩, hend⟩
            rw [hrest, journalImage_cons, List.append_assoc]

/-- What `scan_journal` finds in any journal: the records in front, and why it stopped. -/
theorem exists_scanFrames (limits : Limits) (snapshotSequence : UInt64) (bytes : Bytes) :
    ∃ entries rest, bytes = journalImage entries ++ rest ∧
      (∀ entry ∈ entries, entry.Fits limits) ∧ Ordered 0 entries ∧
      ∃ tail discarded, scanFrames limits snapshotSequence (bytes.length + 1) bytes {} =
        { JournalScan.adoptAll {} snapshotSequence entries with
          tail := tail, bytesDiscarded := discarded } := by
  obtain ⟨entries, rest, hbytes, hfits, hordered, hend⟩ := exists_scanned limits 0 bytes
  refine ⟨entries, rest, hbytes, hfits, hordered, ?_⟩
  obtain ⟨fuel, hfuel⟩ : ∃ fuel, bytes.length + 1 = entries.length + (fuel + 1) := by
    have hle := Host.length_le_journalImage entries
    refine ⟨bytes.length - entries.length, ?_⟩
    rw [hbytes, List.length_append]
    omega
  have hlast : (JournalScan.adoptAll {} snapshotSequence entries).lastSequence =
      lastOf 0 entries := (JournalScan.adoptAll_spec {} snapshotSequence entries).1
  rw [hfuel, hbytes, scanFrames_append snapshotSequence hfits rest hordered]
  rw [← hlast] at hend
  exact hend.scanFrames_eq snapshotSequence fuel

end ShuffleFabric
