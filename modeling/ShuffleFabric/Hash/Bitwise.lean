import ShuffleFabric.Hash.Detect
import ShuffleFabric.Lib.Register

/-!
# ShuffleFabric.Hash.Bitwise

The checksum by its definition: the message goes bit by bit through the register of the
reflected polynomial.  The loop of `crc32c` looks eight bits up in a table instead.
-/

namespace ShuffleFabric

open Lib

/-- CRC-32C bit by bit: every byte with its lowest bit first, in a register that starts with all
ones and is complemented at the end. -/
def crc32cBitwise (data : Bytes) : UInt32 :=
  .ofBitVec (~~~(data.flatMap fun byte => lowBits 8 byte.toBitVec).foldl
    (shiftIn 0x82f63b78#32) (BitVec.allOnes 32))

/-- The published check value for `"123456789"`. -/
example : crc32cBitwise [0x31, 0x32, 0x33, 0x34, 0x35, 0x36, 0x37, 0x38, 0x39] = 0xe3069283 := by
  decide +kernel

theorem low_bit_set (value : UInt32) : (value &&& 1) ≠ 0 ↔ value.toBitVec.getLsbD 0 = true := by
  have hlow : (value &&& 1).toBitVec = (BitVec.ofBool (value.toBitVec.getLsbD 0)).setWidth 32 :=
    BitVec.and_one_eq_setWidth_ofBool_getLsbD
  rw [ne_eq, ← UInt32.toBitVec_inj, hlow]
  cases value.toBitVec.getLsbD 0 <;> decide

/-- An entry of the table is its index, clocked eight times. -/
theorem toBitVec_crc32cEntry (index : UInt32) :
    (crc32cEntry index).toBitVec = (clock 0x82f63b78#32)^[8] index.toBitVec := by
  have hturn : Function.Semiconj UInt32.toBitVec
      (fun value => if (value &&& 1) ≠ 0 then (0x82f63b78 : UInt32) ^^^ (value >>> 1)
        else value >>> 1) (clock 0x82f63b78#32) := by
    intro value
    simp only [clock, low_bit_set]
    split <;> rfl
  exact hturn.iterate_right 8 index

theorem lowBits_setWidth {v w n : Nat} (h : n ≤ v) (x : BitVec w) :
    lowBits n (x.setWidth v) = lowBits n x := by
  refine List.map_congr_left fun i hi => ?_
  have hlt : i < v := Nat.lt_of_lt_of_le (List.mem_range.mp hi) h
  simp [hlt]

/-- One turn of the loop of `crc32c` shifts the eight bits of a byte in. -/
theorem toBitVec_crc32cStep (crc : UInt32) (byte : UInt8) :
    (crc32cStep crc byte).toBitVec =
      (lowBits 8 byte.toBitVec).foldl (shiftIn 0x82f63b78#32) crc.toBitVec := by
  -- the register with the byte added to it: the index of the entry, and what is above it
  set added := crc.toBitVec ^^^ byte.toBitVec.setWidth 32 with hadded
  have hsplit : (added &&& 0xff#32) ^^^ (added &&& 0xffffff00#32) = added := by
    ext i hi
    have hmask : ∀ i (hi : i < 32), (0xffffff00#32)[i] = !(0xff#32)[i] := by decide
    simp only [BitVec.getElem_xor, BitVec.getElem_and, hmask i hi]
    cases added[i] <;> cases (0xff#32)[i] <;> rfl
  have habove : ∀ i < 8, (added &&& 0xffffff00#32).getLsbD i = false := by
    intro i hi
    have hmask : ∀ i < 8, (0xffffff00#32).getLsbD i = false := by decide
    rw [BitVec.getLsbD_and, hmask i hi, Bool.and_false]
  have hmoved : (added &&& 0xffffff00#32) >>> 8 = crc.toBitVec >>> 8 := by
    apply BitVec.eq_of_getLsbD_eq
    intro i hi
    rw [BitVec.getLsbD_ushiftRight, BitVec.getLsbD_ushiftRight, BitVec.getLsbD_and, hadded,
      BitVec.getLsbD_xor, BitVec.getLsbD_setWidth, BitVec.getLsbD_of_ge byte.toBitVec _ (by omega)]
    by_cases hin : i < 24
    · have hmask : ∀ i < 24, (0xffffff00#32).getLsbD (8 + i) = true := by decide
      simp [hmask i hin]
    · simp [BitVec.getLsbD_of_ge crc.toBitVec (8 + i) (by omega)]
  have hbyte : (byte.toBitVec.setWidth 32).toNat < 2 ^ 8 := by
    have hlt := byte.toNat_lt
    rw [BitVec.toNat_setWidth, Nat.mod_eq_of_lt] <;> exact Nat.lt_of_lt_of_le hlt (by decide)
  calc (crc32cStep crc byte).toBitVec
      = (clock 0x82f63b78#32)^[8] (added &&& 0xff#32) ^^^ (crc.toBitVec >>> 8) := by
        show (crc32cEntry _).toBitVec ^^^ (crc >>> 8).toBitVec = _
        rw [toBitVec_crc32cEntry]
        rfl
    _ = (clock 0x82f63b78#32)^[8] added := by
        rw [← hmoved, ← iterate_clock_xor _ _ habove, hsplit]
    _ = (lowBits 8 byte.toBitVec).foldl (shiftIn 0x82f63b78#32) crc.toBitVec := by
        rw [hadded, ← foldl_shiftIn _ hbyte, lowBits_setWidth (by decide)]

/-- The table-driven loop computes the checksum of the definition. -/
theorem crc32c_eq_bitwise (data : Bytes) : crc32c data = crc32cBitwise data := by
  have hloop : (data.foldl crc32cStep 0xffffffff).toBitVec =
      (data.flatMap fun byte => lowBits 8 byte.toBitVec).foldl (shiftIn 0x82f63b78#32)
        (BitVec.allOnes 32) := by
    have hones : BitVec.allOnes 32 = (0xffffffff : UInt32).toBitVec := rfl
    rw [List.foldl_flatMap, hones]
    exact (List.foldl_hom UInt32.toBitVec fun crc byte => (toBitVec_crc32cStep crc byte).symm).symm
  rw [crc32c_eq, crc32cBitwise, ← hloop]
  rfl

end ShuffleFabric
