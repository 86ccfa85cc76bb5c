import ShuffleFabric.Hash
import ShuffleFabric.Lib.Fold
import Mathlib.Data.List.Nodup

/-!
# ShuffleFabric.Hash.Detect

What the checksum detects: every change of a single byte, in a message of any length.

The top byte of an entry of the table tells which entry it is, so a turn of the loop of
`crc32c` can be undone.
-/

namespace ShuffleFabric

open Lib

/-- One turn of the loop of `crc32c`. -/
def crc32cStep (crc : UInt32) (byte : UInt8) : UInt32 :=
  crc32cEntry ((crc ^^^ byte.toUInt32) &&& 0xff) ^^^ (crc >>> 8)

/-- The checksum is the complement of the register after all bytes. -/
theorem crc32c_eq (data : Bytes) : crc32c data = ~~~data.foldl crc32cStep 0xffffffff := by
  rw [crc32c]
  rfl

/-- The top bytes of the table are different. -/
theorem crc32cEntry_nodup :
    ((List.range 256).map fun index => crc32cEntry (UInt32.ofNat index) >>> 24).Nodup := by
  decide +kernel

/-- The top byte tells the entries of the table apart. -/
theorem crc32cEntry_inj {a b : UInt32} (ha : a.toNat < 256) (hb : b.toNat < 256)
    (h : crc32cEntry a >>> 24 = crc32cEntry b >>> 24) : a = b := by
  have hinj := List.inj_on_of_nodup_map crc32cEntry_nodup
  have heq := @hinj a.toNat (List.mem_range.mpr ha) b.toNat (List.mem_range.mpr hb)
    (by simpa using h)
  exact UInt32.toNat_inj.mp heq

theorem toNat_and_ff (value : UInt32) : (value &&& 0xff).toNat = value.toNat % 256 := by
  rw [UInt32.toNat_and]
  exact Nat.and_two_pow_sub_one_eq_mod _ 8

/-- A step tells which entry it used. -/
theorem entry_of_crc32cStep {crc crc' : UInt32} {byte byte' : UInt8}
    (h : crc32cStep crc byte = crc32cStep crc' byte') :
    (crc ^^^ byte.toUInt32) &&& 0xff = (crc' ^^^ byte'.toUInt32) &&& 0xff := by
  have hlow : ∀ value : UInt32, ((value &&& 0xff).toNat < 256) := by
    intro value
    rw [toNat_and_ff]
    exact Nat.mod_lt _ (by decide)
  have htop : ∀ (crc : UInt32) (byte : UInt8),
      crc32cStep crc byte >>> 24 = crc32cEntry ((crc ^^^ byte.toUInt32) &&& 0xff) >>> 24 := by
    intro crc byte
    have hzero : crc >>> 8 >>> 24 = 0 := by
      apply UInt32.toNat_inj.mp
      have hcrc := crc.toNat_lt
      simp only [UInt32.toNat_shiftRight, Nat.shiftRight_eq_div_pow]
      simp
      omega
    rw [crc32cStep, UInt32.shiftRight_xor, hzero, UInt32.xor_zero]
  have htops : crc32cStep crc byte >>> 24 = crc32cStep crc' byte' >>> 24 := by rw [h]
  rw [htop, htop] at htops
  exact crc32cEntry_inj (hlow _) (hlow _) htops

/-- The index of an entry: the low byte of the state, and the byte. -/
theorem toNat_index (crc : UInt32) (byte : UInt8) :
    ((crc ^^^ byte.toUInt32) &&& 0xff).toNat = crc.toNat % 256 ^^^ byte.toNat := by
  have hbyte := byte.toNat_lt
  rw [toNat_and_ff, UInt32.toNat_xor, UInt8.toNat_toUInt32]
  rw [show (256 : Nat) = 2 ^ 8 from rfl, Nat.xor_mod_two_pow, Nat.mod_eq_of_lt (a := byte.toNat)]
  exact hbyte

/-- A step loses neither the register nor the byte. -/
theorem lossless_crc32cStep : Lossless crc32cStep where
  state byte crc crc' h := by
    have h : crc32cStep crc byte = crc32cStep crc' byte := h
    have hentry := entry_of_crc32cStep h
    have hhigh : crc >>> 8 = crc' >>> 8 := by
      simp only [crc32cStep, hentry] at h
      exact (UInt32.xor_right_inj _).mp h
    have hlow : crc.toNat % 256 = crc'.toNat % 256 := by
      have hindex := congrArg UInt32.toNat hentry
      rw [toNat_index, toNat_index] at hindex
      exact (Nat.xor_left_inj).mp hindex
    have hdiv := congrArg UInt32.toNat hhigh
    simp only [UInt32.toNat_shiftRight, Nat.shiftRight_eq_div_pow] at hdiv
    apply UInt32.toNat_inj.mp
    simp at hdiv
    omega
  letter crc byte byte' h := by
    have hindex := congrArg UInt32.toNat (entry_of_crc32cStep h)
    rw [toNat_index, toNat_index] at hindex
    exact UInt8.toNat_inj.mp ((Nat.xor_right_inj).mp hindex)

/-- A message with one byte changed has another checksum. -/
theorem crc32c_set_ne {data : Bytes} {i : Nat} (hi : i < data.length) {byte : UInt8}
    (hne : byte ≠ data[i]) : crc32c (data.set i byte) ≠ crc32c data := by
  rw [crc32c_eq, crc32c_eq]
  intro h
  exact lossless_crc32cStep.foldl_set_ne 0xffffffff hi hne (UInt32.not_inj.mp h)

end ShuffleFabric
