import Mathlib.Data.List.Basic

/-!
# ShuffleFabric.Lib.Blocks

A list in blocks of one length: its whole blocks, and the rest behind them.

Nothing here mentions the repository.
-/

namespace Lib

variable {α : Type} {n : Nat}

/-- The whole blocks of a list, in order. -/
def blocks (n : Nat) (data : List α) : List (List α) :=
  (List.range (data.length / n)).map fun i => (data.drop (n * i)).take n

/-- What is left behind the whole blocks. -/
def rest (n : Nat) (data : List α) : List α := data.drop (n * (data.length / n))

/-- What is left is shorter than a block. -/
theorem length_rest (n : Nat) (data : List α) : (rest n data).length = data.length % n := by
  rw [rest, List.length_drop, Nat.mod_def]

/-- Too little for a block. -/
theorem blocks_of_short {data : List α} (h : data.length < n) : blocks n data = [] := by
  rw [blocks, Nat.div_eq_of_lt h]
  rfl

/-- Too little for a block is all left. -/
theorem rest_of_short {data : List α} (h : data.length < n) : rest n data = data := by
  rw [rest, Nat.div_eq_of_lt h, Nat.mul_zero, List.drop_zero]

/-- One block comes off the front. -/
theorem blocks_cons {block : List α} (hpos : 0 < n) (h : block.length = n) (data : List α) :
    blocks n (block ++ data) = block :: blocks n data := by
  have hcount : (block ++ data).length / n = data.length / n + 1 := by
    rw [List.length_append, h, Nat.add_comm, Nat.add_div_right _ hpos]
  rw [blocks, hcount, List.range_succ_eq_map, List.map_cons, List.map_map]
  refine congrArg₂ List.cons ?_ (List.map_congr_left fun i _ => ?_)
  · rw [Nat.mul_zero, List.drop_zero, ← h, List.take_left]
  · have hskip : n * i.succ = block.length + n * i := by rw [Nat.mul_succ, h, Nat.add_comm]
    simp only [Function.comp_apply]
    rw [hskip, List.drop_length_add_append]

/-- A whole block leaves nothing behind. -/
theorem rest_cons {block : List α} (hpos : 0 < n) (h : block.length = n) (data : List α) :
    rest n (block ++ data) = rest n data := by
  have hcount : (block ++ data).length / n = data.length / n + 1 := by
    rw [List.length_append, h, Nat.add_comm, Nat.add_div_right _ hpos]
  have hskip : n * (data.length / n + 1) = block.length + n * (data.length / n) := by
    rw [Nat.mul_succ, h, Nat.add_comm]
  rw [rest, hcount, hskip, List.drop_length_add_append]
  rfl

/-- Blocks come off the front until the list is too short for another one. -/
theorem blocks_induction {P : List α → Prop} (hpos : 0 < n)
    (hshort : ∀ data, data.length < n → P data)
    (hblock : ∀ block data, block.length = n → P data → P (block ++ data)) (data : List α) :
    P data := by
  induction hlength : data.length using Nat.strongRecOn generalizing data with
  | ind length ih =>
      by_cases hlt : data.length < n
      · exact hshort data hlt
      · have hfront : (data.take n).length = n := by
          rw [List.length_take]
          omega
        rw [← List.take_append_drop n data]
        refine hblock _ _ hfront (ih (data.drop n).length ?_ _ rfl)
        rw [List.length_drop]
        omega

/-- Only the rest of a list matters for what follows it. -/
theorem blocks_append (hpos : 0 < n) (front data : List α) :
    blocks n (front ++ data) = blocks n front ++ blocks n (rest n front ++ data) := by
  induction front using blocks_induction hpos with
  | hshort front hlt => rw [blocks_of_short hlt, rest_of_short hlt, List.nil_append]
  | hblock block front h ih =>
      rw [List.append_assoc, blocks_cons hpos h, blocks_cons hpos h, rest_cons hpos h, ih,
        List.cons_append]

/-- What is left of the front goes on with the rest. -/
theorem rest_append (hpos : 0 < n) (front data : List α) :
    rest n (front ++ data) = rest n (rest n front ++ data) := by
  induction front using blocks_induction hpos with
  | hshort front hlt => rw [rest_of_short hlt]
  | hblock block front h ih => rw [List.append_assoc, rest_cons hpos h, rest_cons hpos h, ih]

end Lib
