import ShuffleFabric.Codec.Sound
import ShuffleFabric.DurableStore

/-!
# ShuffleFabric.DurableStore.Format

What the store writes, it reads: a snapshot file decodes to the image it was made
from, and a journal made of whole records, with or without the front part of one more,
is scanned to exactly those records.
-/

namespace ShuffleFabric

open Lib ByteReader

/-! ## Checks that pass -/

/-- A step that succeeded is passed over. -/
theorem ok_bind {α β : Type} (a : α) (f : α → Result β) : ((.ok a : Result α) >>= f) = f a := rfl

/-- A check whose condition does not hold. -/
theorem refuseIf_of_not {p : Prop} [Decidable p] {code : ErrorCode} {detail : String} (h : ¬p) :
    refuseIf p code detail = .ok () := refuseIf_eq_ok.mpr h

/-- A sum that does not wrap. -/
theorem checkedAdd_of_lt {a b : UInt64} (h : a.toNat + b.toNat < 2 ^ 64) :
    checkedAdd a b = .ok (a + b) := by
  have hb : b ≤ UInt64.ofNat (UInt64.size - 1) := by
    rw [UInt64.le_iff_toNat_le]
    have := b.toNat_lt
    simp only [UInt64.toNat_ofNat', UInt64.size]
    omega
  have hno : ¬addOverflows a b = true := by
    rw [addOverflows, decide_eq_true_eq, gt_iff_lt, UInt64.lt_iff_toNat_lt,
      UInt64.toNat_sub_of_le _ _ hb]
    simp only [UInt64.toNat_ofNat', UInt64.size]
    omega
  rw [checkedAdd, if_neg hno]

/-! ## Fixed-width fields -/

/-- The store writes numbers as the record codec does. -/
theorem storeU32_eq_putU32 (value : UInt32) : storeU32 value = putU32 value := by
  have hv := value.toNat_lt
  unfold storeU32 putU32 putU16
  simp only [List.range, List.range.loop, List.map_cons, List.map_nil, putU8, List.cons_append,
    List.nil_append, List.cons.injEq, and_true, ← UInt8.toNat_inj]
  refine ⟨?_, ?_, ?_, ?_⟩ <;>
    simp [nat_and_ff, nat_and_ffff, Nat.shiftRight_eq_div_pow] <;> omega

/-- Eight bytes are written as by the record codec. -/
theorem storeU64_eq_putU64 (value : UInt64) : storeU64 value = putU64 value := by
  have hv := value.toNat_lt
  unfold storeU64 putU64 putU32 putU16
  simp only [List.range, List.range.loop, List.map_cons, List.map_nil, putU8, List.cons_append,
    List.nil_append, List.cons.injEq, and_true, ← UInt8.toNat_inj]
  refine ⟨?_, ?_, ?_, ?_, ?_, ?_, ?_, ?_⟩ <;>
    simp [nat_and_ff, nat_and_ffff, nat_and_ffffffff, Nat.shiftRight_eq_div_pow] <;> omega

@[simp] theorem length_storeU32 (value : UInt32) : (storeU32 value).length = 4 := by
  simp [storeU32]

@[simp] theorem length_storeU64 (value : UInt64) : (storeU64 value).length = 8 := by
  simp [storeU64]

/-- Four bytes are read as by the record codec. -/
theorem loadU32_of_length {bytes : Bytes} (h : bytes.length = 4) : loadU32 bytes 0 = u32Of bytes := by
  obtain ⟨b0, b1, b2, b3, rfl⟩ := List.length_eq_four.mp h
  simp [loadU32, List.range, List.range.loop, u32Of]

/-- Eight bytes are read as by the record codec. -/
theorem loadU64_of_length {bytes : Bytes} (h : bytes.length = 8) : loadU64 bytes 0 = u64Of bytes := by
  match bytes, h with
  | [b0, b1, b2, b3, b4, b5, b6, b7], _ =>
    simp [loadU64, List.range, List.range.loop, u64Of]

@[simp] theorem loadU32_storeU32 (value : UInt32) : loadU32 (storeU32 value) 0 = value := by
  rw [loadU32_of_length (length_storeU32 value), storeU32_eq_putU32, u32Of_putU32]

@[simp] theorem loadU64_storeU64 (value : UInt64) : loadU64 (storeU64 value) 0 = value := by
  rw [loadU64_of_length (length_storeU64 value), storeU64_eq_putU64, u64Of_putU64]

/-- A number in the first of two parts is read there. -/
theorem loadU32_append_left {xs : Bytes} (ys : Bytes) {offset : Nat}
    (h : offset + 4 ≤ xs.length) : loadU32 (xs ++ ys) offset = loadU32 xs offset := by
  unfold loadU32
  apply List.foldl_ext
  intro value index hindex
  rw [List.getD_append]
  have := List.mem_range.mp hindex
  omega

/-- A number in the second of two parts is read there. -/
theorem loadU32_append_right {xs : Bytes} (ys : Bytes) {offset : Nat}
    (h : xs.length ≤ offset) : loadU32 (xs ++ ys) offset = loadU32 ys (offset - xs.length) := by
  unfold loadU32
  apply List.foldl_ext
  intro value index _
  rw [List.getD_append_right _ _ _ _ (by omega), Nat.sub_add_comm h]
/-- Eight bytes in the first of two parts are read there. -/
theorem loadU64_append_left {xs : Bytes} (ys : Bytes) {offset : Nat}
    (h : offset + 8 ≤ xs.length) : loadU64 (xs ++ ys) offset = loadU64 xs offset := by
  unfold loadU64
  apply List.foldl_ext
  intro value index hindex
  rw [List.getD_append]
  have := List.mem_range.mp hindex
  omega

/-- Eight bytes in the second of two parts are read there. -/
theorem loadU64_append_right {xs : Bytes} (ys : Bytes) {offset : Nat}
    (h : xs.length ≤ offset) : loadU64 (xs ++ ys) offset = loadU64 ys (offset - xs.length) := by
  unfold loadU64
  apply List.foldl_ext
  intro value index _
  rw [List.getD_append_right _ _ _ _ (by omega), Nat.sub_add_comm h]


/-! ## Snapshots -/

@[simp] theorem length_snapshotMagic : snapshotMagic.length = 8 := rfl

namespace SnapshotImage

@[simp] theorem length_fields (image : SnapshotImage) : image.fields.length = 32 := by
  simp [fields]

@[simp] theorem length_header (image : SnapshotImage) : image.header.length = 72 := by
  simp [header, (sha256 image.payload).size_eq]

theorem take_header (image : SnapshotImage) (n : Nat) (h : n ≤ 32) :
    image.header.take n = image.fields.take n := by
  simp only [header, List.append_assoc]
  rw [List.take_append_of_le_length (by simpa using h)]

/-- It ends with the digest of the payload. -/
theorem drop_header (image : SnapshotImage) :
    image.header.drop 40 = (sha256 image.payload).bytes := by
  rw [header, List.drop_left' (by simp)]

theorem loadU64_header (image : SnapshotImage) :
    loadU64 image.header 16 = image.sequence ∧
      loadU64 image.header 24 = UInt64.ofNat image.payload.length := by
  constructor <;>
    simp (disch := simp) only [header, fields, loadU64_append_left, loadU64_append_right,
      length_storeU32, length_storeU64, length_snapshotMagic, List.length_append, Nat.reduceSub,
      Nat.reduceAdd, loadU64_storeU64]

theorem loadU32_header (image : SnapshotImage) :
    loadU32 image.header 8 = snapshotVersion ∧ loadU32 image.header 12 = 0 ∧
      loadU32 image.header 32 = crc32c image.fields ∧
      loadU32 image.header 36 = crc32c image.payload := by
  refine ⟨?_, ?_, ?_, ?_⟩ <;>
    simp (disch := simp) only [header, fields, loadU32_append_left, loadU32_append_right,
      length_storeU32, length_storeU64, length_snapshotMagic, List.length_append, Nat.reduceSub,
      Nat.reduceAdd, loadU32_storeU32]
  rw [loadU32_append_right _ (by simp)]
  simp

/-- A snapshot within the bound decodes to the image it was written from. -/
theorem decode_encode {limits : Limits} (image : SnapshotImage)
    (h : image.payload.length ≤ limits.maxStateBytes.toNat)
    (hobject : image.payload.length < 2 ^ 63) :
    decodeSnapshotFile limits (some image.encode) = .ok image := by
  have htake : image.encode.take snapshotHeaderBytes = image.header := by
    rw [encode, List.take_left' (by simp [snapshotHeaderBytes])]
  have hdrop : image.encode.drop snapshotHeaderBytes = image.payload := by
    rw [encode, List.drop_left' (by simp [snapshotHeaderBytes])]
  have hlen : image.encode.length = 72 + image.payload.length := by simp [encode]
  have hsize : (UInt64.ofNat image.payload.length).toNat = image.payload.length := by
    rw [UInt64.toNat_ofNat', Nat.mod_eq_of_lt (by omega)]
  have hle : ¬UInt64.ofNat image.payload.length > limits.maxStateBytes := by
    rw [gt_iff_lt, UInt64.lt_iff_toNat_lt, hsize]
    omega
  have hmagic : image.header.take 8 = snapshotMagic := by
    rw [take_header _ _ (by decide), fields]
    simp only [List.append_assoc]
    rw [List.take_left' (by simp)]
  have hfields : image.header.take 32 = image.fields := by
    rw [take_header _ _ (by decide), List.take_of_length_le (by simp)]
  have htotal := checkedAdd_of_lt (a := UInt64.ofNat snapshotHeaderBytes)
    (b := UInt64.ofNat image.payload.length) (by rw [hsize]; simp [snapshotHeaderBytes]; omega)
  have hexpected := toNat_of_checkedAdd htotal
  rw [hsize] at hexpected
  have hheader : (UInt64.ofNat snapshotHeaderBytes).toNat = 72 := rfl
  obtain ⟨hsequence, hlength⟩ := loadU64_header image
  obtain ⟨hversion, hflags, hcrc, hpayload⟩ := loadU32_header image
  have hdigest : (image.header.drop 40).take 32 = (sha256 image.payload).bytes := by
    rw [drop_header, List.take_of_length_le (by rw [(sha256 image.payload).size_eq])]
  have hshort : ¬72 + image.payload.length < snapshotHeaderBytes := by
    rw [snapshotHeaderBytes]
    omega
  unfold decodeSnapshotFile openForRead
  rw [ok_bind]
  simp only [htake, hdrop, hlength, hsize, List.take_length, hmagic, hversion, hflags, hfields,
    hcrc, hpayload, hsequence, hdigest, htotal]
  simp only [refuseIf_of_not, ne_eq, not_true_eq_false, not_false_eq_true, ok_bind, hle, hexpected,
    hheader, hlen, hshort, gt_iff_lt, lt_irrefl]
  rw [pure_eq_ok]

end SnapshotImage

/-! ## The journal -/

namespace JournalEntry

@[simp] theorem length_fields (entry : JournalEntry) : entry.fields.length = 16 := by
  simp [fields]

@[simp] theorem length_header (entry : JournalEntry) : entry.header.length = 24 := by
  simp [header]

@[simp] theorem length_encode (entry : JournalEntry) :
    entry.encode.length = 24 + entry.payload.length := by
  simp [encode]

/-- The record is one that `append` accepts. -/
structure Fits (limits : Limits) (entry : JournalEntry) : Prop where
  bounded : entry.payload.length ≤ limits.maxJournalRecordBytes.toNat
  length_lt : entry.payload.length < 2 ^ 32

/-- Its 32-bit fields: the version, the reserved word and the two checksums. -/
theorem loadU32_header (entry : JournalEntry) :
    loadU32 entry.header 0 = journalRecordMagic ∧
      loadU32 entry.header 4 = UInt32.ofNat entry.payload.length ∧
      loadU32 entry.header 16 = crc32c entry.fields ∧
      loadU32 entry.header 20 = crc32c entry.payload := by
  refine ⟨?_, ?_, ?_, ?_⟩ <;>
    simp (disch := simp) only [header, fields, loadU32_append_left, loadU32_append_right,
      length_storeU32, length_storeU64, List.length_append, Nat.reduceSub,
      Nat.reduceAdd, loadU32_storeU32]

/-- The 64-bit fields of a snapshot header: the sequence and the size of the payload. -/
theorem loadU64_header (entry : JournalEntry) : loadU64 entry.header 8 = entry.sequence := by
  simp (disch := simp) only [header, fields, loadU64_append_left, loadU64_append_right,
    length_storeU32, List.length_append, Nat.reduceSub,
    Nat.reduceAdd, loadU64_storeU64]

/-- The header begins with the fields that its checksum covers. -/
theorem take_header (entry : JournalEntry) : entry.header.take 16 = entry.fields := by
  simp only [header, List.append_assoc]
  rw [List.take_left' (by simp)]

/-- The length field of an entry that fits says its length. -/
theorem toNat_length {limits : Limits} {entry : JournalEntry} (h : entry.Fits limits) :
    (UInt32.ofNat entry.payload.length).toNat = entry.payload.length := by
  rw [UInt32.toNat_ofNat', Nat.mod_eq_of_lt h.length_lt]

/-- An entry that fits is within the bound on records. -/
theorem length_le {limits : Limits} {entry : JournalEntry} (h : entry.Fits limits) :
    ¬(UInt32.ofNat entry.payload.length).toUInt64 > limits.maxJournalRecordBytes := by
  rw [gt_iff_lt, UInt64.lt_iff_toNat_lt, UInt32.toNat_toUInt64, toNat_length h]
  have := h.bounded
  omega

/-- A header that is there in full is read back, whatever follows it. -/
theorem readFrame_header {limits : Limits} {entry : JournalEntry} (h : entry.Fits limits)
    (rest : Bytes) :
    readFrame limits (entry.header ++ rest) =
      if rest.length < entry.payload.length then .torn
      else if crc32c (rest.take entry.payload.length) ≠ crc32c entry.payload then .corrupt
      else .record ⟨entry.sequence, rest.take entry.payload.length⟩
        (rest.drop entry.payload.length) := by
  have htake : (entry.header ++ rest).take journalHeaderBytes = entry.header :=
    List.take_left' (length_header entry)
  have hdrop : (entry.header ++ rest).drop journalHeaderBytes = rest :=
    List.drop_left' (length_header entry)
  have hempty : ¬entry.header ++ rest = [] := by
    intro hnil
    have := congrArg List.length hnil
    simp at this
  have hshort : ¬(entry.header ++ rest).length < journalHeaderBytes := by
    simp [journalHeaderBytes]
  obtain ⟨hmagic, hlength, hcrc, hpayload⟩ := loadU32_header entry
  unfold readFrame
  rw [if_neg hempty, if_neg hshort]
  simp only [htake, hdrop, ← List.drop_drop, hmagic, hlength, hcrc, hpayload, take_header,
    loadU64_header, toNat_length h, if_neg (length_le h), ne_eq, not_true_eq_false, if_false]
  have htorn : (rest.take entry.payload.length).length < entry.payload.length ↔
      rest.length < entry.payload.length := by
    rw [List.length_take]
    omega
  simp only [htorn]

/-- The scan reads a whole record back. -/
theorem readFrame_encode {limits : Limits} {entry : JournalEntry} (h : entry.Fits limits)
    (rest : Bytes) : readFrame limits (entry.encode ++ rest) = .record entry rest := by
  rw [encode, List.append_assoc, readFrame_header h, if_neg (by simp)]
  simp only [List.take_left, List.drop_left, ne_eq, not_true_eq_false, if_false]

/-- The scan takes the front part of a record for a torn tail. -/
theorem readFrame_take {limits : Limits} {entry : JournalEntry} (h : entry.Fits limits) {k : Nat}
    (hpos : 0 < k) (hk : k < entry.encode.length) :
    readFrame limits (entry.encode.take k) = .torn := by
  rw [length_encode] at hk
  by_cases hheader : k < 24
  · have hlen : (entry.encode.take k).length = k := by
      rw [List.length_take, length_encode]
      omega
    have hempty : ¬entry.encode.take k = [] := by
      intro hnil
      rw [hnil] at hlen
      simp at hlen
      omega
    unfold readFrame
    rw [if_neg hempty, if_pos (by rw [hlen]; exact hheader)]
  · have hsplit : entry.encode.take k = entry.header ++ entry.payload.take (k - 24) := by
      rw [encode, List.take_append, List.take_of_length_le (by simp; omega), length_header]
    rw [hsplit, readFrame_header h, if_pos (by rw [List.length_take]; omega)]

end JournalEntry

/-- The bytes of a list of records. -/
def journalImage (entries : List JournalEntry) : Bytes := entries.flatMap JournalEntry.encode

@[simp] theorem journalImage_nil : journalImage [] = [] := rfl

@[simp] theorem journalImage_cons (entry : JournalEntry) (entries : List JournalEntry) :
    journalImage (entry :: entries) = entry.encode ++ journalImage entries := rfl

/-- A journal that is written in two parts. -/
theorem journalImage_append (xs ys : List JournalEntry) :
    journalImage (xs ++ ys) = journalImage xs ++ journalImage ys := by
  simp [journalImage]

/-- The records a scan replays over a snapshot. -/
def replayed (snapshotSequence : UInt64) (entries : List JournalEntry) : List Bytes :=
  (entries.filter (snapshotSequence < ·.sequence)).map JournalEntry.payload

/-- Sequences that rise strictly, all of them above a given one. -/
def Rising (start : UInt64) (entries : List JournalEntry) : Prop :=
  (start :: entries.map JournalEntry.sequence).IsChain (· < ·)

/-- The sequences behind an entry rise from its own. -/
theorem Rising.tail {start : UInt64} {entry : JournalEntry} {entries : List JournalEntry}
    (h : Rising start (entry :: entries)) :
    start < entry.sequence ∧ Rising entry.sequence entries := by
  simpa [Rising] using h

/-- The sequence of the last record, or the given one if there is none. -/
def lastOf (start : UInt64) (entries : List JournalEntry) : UInt64 :=
  entries.foldl (fun _ entry => entry.sequence) start

/-- Rising sequences end in their greatest. -/
theorem Rising.le_lastOf {start : UInt64} {entries : List JournalEntry} (h : Rising start entries) :
    start ≤ lastOf start entries ∧ ∀ entry ∈ entries, entry.sequence ≤ lastOf start entries := by
  induction entries generalizing start with
  | nil => exact ⟨UInt64.le_refl _, fun _ h => (by cases h)⟩
  | cons entry entries ih =>
      obtain ⟨hlt, htail⟩ := h.tail
      obtain ⟨hle, hall⟩ := ih htail
      refine ⟨UInt64.le_trans (UInt64.le_of_lt hlt) hle, fun e he => ?_⟩
      rcases List.mem_cons.mp he with rfl | he
      · exact hle
      · exact hall e he

/-- The last sequence keeps to a bound that all of them keep to. -/
theorem lastOf_le {start bound : UInt64} {entries : List JournalEntry} (hstart : start ≤ bound)
    (h : ∀ entry ∈ entries, entry.sequence ≤ bound) : lastOf start entries ≤ bound := by
  induction entries generalizing start with
  | nil => exact hstart
  | cons entry entries ih =>
      exact ih (h entry List.mem_cons_self) fun e he => h e (List.mem_cons_of_mem _ he)

/-- An entry with a higher sequence may follow. -/
theorem Rising.snoc {start : UInt64} {entries : List JournalEntry} (h : Rising start entries)
    {entry : JournalEntry} (hlt : lastOf start entries < entry.sequence) :
    Rising start (entries ++ [entry]) := by
  induction entries generalizing start with
  | nil =>
      have hlt : start < entry.sequence := hlt
      simpa [Rising] using hlt
  | cons e entries ih =>
      obtain ⟨hhead, htail⟩ := h.tail
      have hrest := ih htail hlt
      unfold Rising at hrest ⊢
      simp only [List.cons_append, List.map_cons, List.isChain_cons_cons]
      exact ⟨hhead, hrest⟩

/-- The maximum is above both. -/
theorem le_maximum (a b : UInt64) : a ≤ max a b ∧ b ≤ max a b := by
  rw [show max a b = if a ≤ b then b else a from rfl]
  split
  · next h => exact ⟨h, UInt64.le_refl _⟩
  · next h => exact ⟨UInt64.le_refl _, UInt64.le_of_lt (UInt64.not_le.mp h)⟩

namespace JournalScan

/-- A record above everything seen is replayed unless the snapshot holds it. -/
theorem adopt_of_lt {scan : JournalScan} {entry : JournalEntry}
    (h : scan.lastSequence < entry.sequence) (snapshotSequence : UInt64) :
    (scan.adopt snapshotSequence entry).lastSequence = entry.sequence ∧
      (scan.adopt snapshotSequence entry).replayableBytes =
        scan.replayableBytes + entry.encode.length ∧
      (scan.adopt snapshotSequence entry).records =
        scan.records ++ replayed snapshotSequence [entry] := by
  have hne : entry.sequence ≠ scan.lastSequence := (UInt64.ne_of_lt h).symm
  by_cases hsnapshot : entry.sequence ≤ snapshotSequence
  · have hnot : ¬snapshotSequence < entry.sequence := UInt64.not_lt.mpr hsnapshot
    simp [adopt, hsnapshot, hnot, replayed, JournalEntry.length_encode, journalHeaderBytes,
      Nat.add_assoc]
  · have hlt : snapshotSequence < entry.sequence := UInt64.not_le.mp hsnapshot
    simp [adopt, hsnapshot, hne, hlt, replayed, JournalEntry.length_encode, journalHeaderBytes,
      Nat.add_assoc]

end JournalScan

/-- A scan over whole records, followed by the front part of one more, replays those the
snapshot does not hold. -/
theorem scanFrames_image {limits : Limits} {next : JournalEntry} (hnext : next.Fits limits)
    {k : Nat} (hk : k < next.encode.length) (snapshotSequence : UInt64)
    {entries : List JournalEntry} (hfits : ∀ entry ∈ entries, entry.Fits limits) {fuel : Nat}
    (hfuel : entries.length < fuel) {scan : JournalScan}
    (hrising : Rising scan.lastSequence entries) :
    let result := scanFrames limits snapshotSequence fuel
      (journalImage entries ++ next.encode.take k) scan
    result.records = scan.records ++ replayed snapshotSequence entries ∧
      result.lastSequence = lastOf scan.lastSequence entries ∧
      result.replayableBytes = scan.replayableBytes + (journalImage entries).length := by
  induction entries generalizing fuel scan with
  | nil =>
      obtain ⟨fuel, rfl⟩ : ∃ n, fuel = n + 1 := ⟨fuel - 1, by simp at hfuel; omega⟩
      by_cases hpos : 0 < k
      · simp [scanFrames, JournalEntry.readFrame_take hnext hpos hk, JournalScan.stop, replayed,
          lastOf]
      · obtain rfl : k = 0 := by omega
        simp [scanFrames, readFrame, replayed, lastOf]
  | cons entry entries ih =>
      obtain ⟨fuel, rfl⟩ : ∃ n, fuel = n + 1 := ⟨fuel - 1, by simp at hfuel; omega⟩
      obtain ⟨hlt, htail⟩ := hrising.tail
      obtain ⟨hlast, hbytes, hrecords⟩ := JournalScan.adopt_of_lt hlt snapshotSequence
      have hframe := JournalEntry.readFrame_encode (hfits entry List.mem_cons_self)
        (journalImage entries ++ next.encode.take k)
      have hstep : scanFrames limits snapshotSequence (fuel + 1)
          (journalImage (entry :: entries) ++ next.encode.take k) scan =
          scanFrames limits snapshotSequence fuel (journalImage entries ++ next.encode.take k)
            (scan.adopt snapshotSequence entry) := by
        rw [journalImage_cons, List.append_assoc, scanFrames, hframe]
        exact if_neg (UInt64.not_lt.mpr (UInt64.le_of_lt hlt))
      have hfuel' : entries.length < fuel := by simpa using hfuel
      have hrising' : Rising (scan.adopt snapshotSequence entry).lastSequence entries := by
        rwa [hlast]
      have hrest := ih (fun e he => hfits e (List.mem_cons_of_mem _ he)) hfuel' hrising'
      rw [hstep]
      rw [hrecords, hlast, hbytes] at hrest
      obtain ⟨h1, h2, h3⟩ := hrest
      refine ⟨?_, h2, ?_⟩
      · rw [h1, List.append_assoc]
        simp [replayed, ← List.map_append, ← List.filter_append]
      · rw [h3, journalImage_cons, List.length_append, Nat.add_assoc]

end ShuffleFabric
