import ShuffleFabric.DurableStore.Format

/-!
# ShuffleFabric.DurableStore.Scanner

The loop of `scan_journal` over the read buffer of `JournalScanner`.

`scanFrames` reads a journal as one list of bytes.  The code reads it through a buffer of 64 KiB
whose ends fall anywhere in a header or a payload; `scanBuffered_eq` says that this makes no
difference.
-/

namespace ShuffleFabric

def readBufferBytes : Nat := 64 * 1024

/-- `class JournalScanner`: the bytes the file has still to give, the part of the buffer that is
not handed out, and the number of bytes that are. -/
structure JournalScanner where
  file : Bytes
  buffer : Bytes := []
  position : Nat := 0
  deriving DecidableEq, Repr

namespace JournalScanner

/-- What the next reads will return. -/
def pending (scanner : JournalScanner) : Bytes := scanner.buffer ++ scanner.file

/-- `read_upto(file_, buffer_)`, called once the buffer is used up. -/
def refill (scanner : JournalScanner) : JournalScanner :=
  if scanner.buffer = [] then
    { scanner with
      file := scanner.file.drop readBufferBytes
      buffer := scanner.file.take readBufferBytes }
  else scanner

/-- Copy from the buffer. -/
def advance (scanner : JournalScanner) (take : Nat) : JournalScanner :=
  { scanner with buffer := scanner.buffer.drop take, position := scanner.position + take }

/-- The loop of `read_full`: what was copied, short of what was wanted when the file ends. -/
def readFull (scanner : JournalScanner) (wanted : Nat) : Bytes × JournalScanner :=
  if _ : wanted = 0 then ([], scanner)
  else if _ : scanner.refill.buffer = [] then ([], scanner.refill)
  else
    let take := min scanner.refill.buffer.length wanted
    let rest := (scanner.refill.advance take).readFull (wanted - take)
    (scanner.refill.buffer.take take ++ rest.1, rest.2)
  termination_by wanted
  decreasing_by
    have := List.length_pos_iff.mpr ‹¬scanner.refill.buffer = []›
    omega

theorem pending_refill (scanner : JournalScanner) : scanner.refill.pending = scanner.pending := by
  unfold refill pending
  split
  · next h => simp [h]
  · rfl

theorem refill_buffer_eq_nil {scanner : JournalScanner} (h : scanner.refill.buffer = []) :
    scanner.pending = [] := by
  unfold refill at h
  split at h
  · next hempty =>
      have hfile : scanner.file = [] := by simpa [readBufferBytes] using h
      simp [pending, hempty, hfile]
  · next hempty => exact absurd h hempty

theorem pending_advance {scanner : JournalScanner} {take : Nat}
    (h : take ≤ scanner.buffer.length) :
    (scanner.advance take).pending = scanner.pending.drop take ∧
      scanner.buffer.take take = scanner.pending.take take := by
  unfold advance pending
  rw [List.drop_append_of_le_length h, List.take_append_of_le_length h]
  exact ⟨rfl, rfl⟩

theorem position_refill (scanner : JournalScanner) : scanner.refill.position = scanner.position := by
  unfold refill
  split <;> rfl

/-- A read returns the next bytes of the file, however the buffer lies. -/
theorem readFull_spec (scanner : JournalScanner) (wanted : Nat) :
    (scanner.readFull wanted).1 = scanner.pending.take wanted ∧
      (scanner.readFull wanted).2.pending = scanner.pending.drop wanted ∧
      (scanner.readFull wanted).2.position =
        scanner.position + (scanner.pending.take wanted).length := by
  fun_induction readFull scanner wanted with
  | case1 scanner => simp
  | case2 scanner wanted hwanted hend =>
      rw [pending_refill, position_refill, refill_buffer_eq_nil hend]
      simp
  | case3 scanner wanted hwanted hend take rest ih =>
      have htake : take ≤ scanner.refill.buffer.length := Nat.min_le_left _ _
      have hwhole : take + (wanted - take) = wanted := by
        have : take ≤ wanted := Nat.min_le_right _ _
        omega
      obtain ⟨hdrop, hfirst⟩ := pending_advance htake
      obtain ⟨hcopied, hpending, hposition⟩ := ih
      rw [pending_refill] at hdrop hfirst
      rw [hdrop] at hcopied hpending hposition
      have hsplit : scanner.pending.take wanted = scanner.pending.take take ++
          (scanner.pending.drop take).take (wanted - take) := by
        rw [← List.take_add, hwhole]
      have hlength : (scanner.pending.take take).length = take := by
        rw [← hfirst, List.length_take, Nat.min_eq_left htake]
      refine ⟨?_, ?_, ?_⟩
      · show scanner.refill.buffer.take take ++ rest.1 = _
        rw [hcopied, hfirst, hsplit]
      · show rest.2.pending = _
        rw [hpending, List.drop_drop, hwhole]
      · show rest.2.position = _
        rw [hposition, hsplit, List.length_append, hlength]
        show scanner.refill.position + take + _ = _
        rw [position_refill, Nat.add_assoc]

end JournalScanner

/-- The loop of `scan_journal`, on a journal of this size. -/
def scanBuffered (limits : Limits) (snapshotSequence : UInt64) (size : Nat) :
    Nat → JournalScanner → JournalScan → JournalScan
  | 0, _, scan => scan
  | fuel + 1, scanner, scan =>
    let recordOffset := scanner.position
    let discard (tail : JournalTailStatus) : JournalScan :=
      { scan with tail := tail, bytesDiscarded := size - recordOffset }
    let (header, scanner) := scanner.readFull journalHeaderBytes
    if header.length < journalHeaderBytes then
      if scanner.position ≠ recordOffset then discard .tornTail else scan
    else
      let payloadLength := loadU32 header 4
      let sequence := loadU64 header 8
      if loadU32 header 0 ≠ journalRecordMagic then discard .corrupt
      else if payloadLength.toUInt64 > limits.maxJournalRecordBytes then discard .corrupt
      else if crc32c (header.take 16) ≠ loadU32 header 16 then discard .corrupt
      else
        let (payload, scanner) := scanner.readFull payloadLength.toNat
        if payload.length < payloadLength.toNat then discard .tornTail
        else if crc32c payload ≠ loadU32 header 20 then discard .corrupt
        else if sequence < scan.lastSequence then discard .corrupt
        else
          let seen := { scan with lastSequence := sequence, replayableBytes := scanner.position }
          scanBuffered limits snapshotSequence size fuel scanner <|
            if sequence = scan.lastSequence ∨ sequence ≤ snapshotSequence then
              { seen with recordsSkipped := scan.recordsSkipped + 1 }
            else
              { seen with
                records := scan.records ++ [payload]
                recordsReplayed := scan.recordsReplayed + 1 }

/-- The scan over the buffer is the scan over the bytes. -/
theorem scanBuffered_eq (limits : Limits) (snapshotSequence : UInt64) {size : Nat} (fuel : Nat)
    {scanner : JournalScanner} {scan : JournalScan}
    (hsize : scanner.position + scanner.pending.length = size)
    (hreplayable : scan.replayableBytes = scanner.position) :
    scanBuffered limits snapshotSequence size fuel scanner scan =
      scanFrames limits snapshotSequence fuel scanner.pending scan := by
  induction fuel generalizing scanner scan with
  | zero => rfl
  | succ fuel ih =>
      have hdiscard (tail : JournalTailStatus) :
          { scan with tail := tail, bytesDiscarded := size - scanner.position } =
            scan.stop tail scanner.pending := by
        rw [JournalScan.stop, ← hsize, Nat.add_sub_cancel_left]
      obtain ⟨hheader, hpending, hposition⟩ := scanner.readFull_spec journalHeaderBytes
      rw [scanBuffered, scanFrames]
      generalize scanner.readFull journalHeaderBytes = read at *
      obtain ⟨header, scanner₁⟩ := read
      obtain rfl : header = scanner.pending.take journalHeaderBytes := hheader
      have hlength : (scanner.pending.take journalHeaderBytes).length < journalHeaderBytes ↔
          scanner.pending.length < journalHeaderBytes := by
        rw [List.length_take]
        omega
      simp only [hdiscard, hlength]
      unfold readFrame
      by_cases hempty : scanner.pending = []
      · have hstand : scanner₁.position = scanner.position := by simpa [hempty] using hposition
        simp [hempty, hstand, journalHeaderBytes]
      by_cases hshort : scanner.pending.length < journalHeaderBytes
      · have hmoved : scanner₁.position ≠ scanner.position := by
          have := List.length_pos_iff.mpr hempty
          simp only [List.take_of_length_le (Nat.le_of_lt hshort)] at hposition
          omega
        simp only [hempty, hshort, hmoved, ne_eq, not_false_eq_true, if_true, if_false]
      have hwhole : (scanner.pending.take journalHeaderBytes).length = journalHeaderBytes := by
        rw [List.length_take]
        omega
      simp only [hwhole] at hpending hposition
      simp only [hempty, hshort, if_false]
      generalize (loadU32 (scanner.pending.take journalHeaderBytes) 4).toNat = length
      obtain ⟨hpayload, hpending₂, hposition₂⟩ := scanner₁.readFull_spec length
      generalize scanner₁.readFull length = read at *
      obtain ⟨payload, scanner₂⟩ := read
      rw [hpending] at hpayload hpending₂ hposition₂
      simp only [List.drop_drop] at hpending₂
      obtain rfl : payload = (scanner.pending.drop journalHeaderBytes).take length := hpayload
      simp only [hposition] at hposition₂
      have hsize₂ : scanner₂.position + scanner₂.pending.length = size := by
        rw [hposition₂, hpending₂, ← hsize, List.length_take, List.length_drop, List.length_drop]
        omega
      -- both sides make the same decisions, in the same order
      split_ifs with _ _ _ _ _ hbehind hduplicate
      all_goals try rfl
      · simp only [hbehind, if_true]
      · refine (ih hsize₂ rfl).trans ?_
        simp only [hbehind, hduplicate, if_true, if_false, hpending₂, JournalScan.adopt, hposition₂,
          hreplayable]
      · refine (ih hsize₂ rfl).trans ?_
        simp only [hbehind, hduplicate, if_false, hpending₂, JournalScan.adopt, hposition₂,
          hreplayable]

/-- `scan_journal` with its scanner is `scanJournal`. -/
theorem scanJournal_eq_scanBuffered {limits : Limits} {content : Bytes}
    (hsize : journalSizeOk limits content.length = true) (snapshotSequence : UInt64) :
    scanJournal limits (some content) snapshotSequence =
      .ok (scanBuffered limits snapshotSequence content.length (content.length + 1)
        { file := content } {}) := by
  have hpending : ({ file := content } : JournalScanner).pending = content := rfl
  rw [scanBuffered_eq limits snapshotSequence (content.length + 1)
    (by rw [hpending]; exact Nat.zero_add _) rfl, hpending]
  simp only [scanJournal, hsize, not_true_eq_false, not_false_eq_true, refuseIf_of_not, ok_bind]
  rfl

end ShuffleFabric
