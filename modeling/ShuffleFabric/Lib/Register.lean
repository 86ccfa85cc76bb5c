import Mathlib

/-!
# ShuffleFabric.Lib.Register

Division by a polynomial in a reflected shift register: the low bit leaves the register, and
feeds the polynomial back when it was set.

A word can be shifted in bit by bit, or added to the register before it is clocked as often as
the word has bits; and bits that do not reach the low end only move down.

Nothing here mentions the repository.
-/

namespace Lib

variable {w : Nat} (poly : BitVec w)

/-- One clock of the register. -/
def clock (s : BitVec w) : BitVec w :=
  if s.getLsbD 0 then poly ^^^ (s >>> 1) else s >>> 1

/-- One bit of a message: it is added to the bit that leaves the register. -/
def shiftIn (s : BitVec w) (bit : Bool) : BitVec w :=
  if s.getLsbD 0 ^^ bit then poly ^^^ (s >>> 1) else s >>> 1

/-- The bits of a word, the lowest first. -/
def lowBits (n : Nat) (x : BitVec w) : List Bool := (List.range n).map x.getLsbD

theorem lowBits_succ (n : Nat) (x : BitVec w) :
    lowBits (n + 1) x = x.getLsbD 0 :: lowBits n (x >>> 1) := by
  simp [lowBits, List.range_succ_eq_map, Function.comp_def, Nat.add_comm 1]

/-- What was added to the register leaves it with the low bit, or moves down. -/
theorem clock_xor (s x : BitVec w) :
    clock poly (s ^^^ x) = shiftIn poly s (x.getLsbD 0) ^^^ (x >>> 1) := by
  unfold clock shiftIn
  rw [BitVec.getLsbD_xor, BitVec.ushiftRight_xor_distrib]
  split
  · rw [BitVec.xor_assoc]
  · rfl

theorem shiftIn_false (s : BitVec w) : shiftIn poly s false = clock poly s := by
  simp [shiftIn, clock]

/-- Shifting in the bits of a word is clocking the register with the word added to it. -/
theorem foldl_shiftIn {n : Nat} {s x : BitVec w} (h : x.toNat < 2 ^ n) :
    (lowBits n x).foldl (shiftIn poly) s = (clock poly)^[n] (s ^^^ x) := by
  induction n generalizing s x with
  | zero =>
      have hzero : x = 0#w := BitVec.eq_of_toNat_eq (by simpa using h)
      simp [lowBits, hzero]
  | succ n ih =>
      have hrest : (x >>> 1).toNat < 2 ^ n := by
        rw [BitVec.toNat_ushiftRight, Nat.shiftRight_eq_div_pow]
        omega
      rw [lowBits_succ, List.foldl_cons, ih hrest, Function.iterate_succ_apply, clock_xor]

/-- Bits above the ones that are clocked out only move down. -/
theorem iterate_clock_xor {n : Nat} (s : BitVec w) {x : BitVec w}
    (h : ∀ i < n, x.getLsbD i = false) :
    (clock poly)^[n] (s ^^^ x) = (clock poly)^[n] s ^^^ (x >>> n) := by
  induction n generalizing s x with
  | zero => simp
  | succ n ih =>
      have hrest : ∀ i < n, (x >>> 1).getLsbD i = false := by
        intro i hi
        rw [BitVec.getLsbD_ushiftRight]
        exact h (1 + i) (by omega)
      rw [Function.iterate_succ_apply, clock_xor, h 0 (Nat.zero_lt_succ n), shiftIn_false,
        ih (clock poly s) hrest, ← Function.iterate_succ_apply, ← BitVec.shiftRight_add,
        Nat.add_comm 1]

end Lib
