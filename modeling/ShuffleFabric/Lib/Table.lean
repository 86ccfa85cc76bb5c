import Mathlib

/-!
# ShuffleFabric.Lib.Table

Finite maps that are read with a default, and the number of entries of a map that meet
a condition.

Nothing here mentions the repository.
-/

namespace Lib

section Table

variable {κ β : Type} [Ord κ] [Std.TransOrd κ] [Std.LawfulEqOrd κ]

/-- Creating an entry with the default value is not seen by a reader that uses it. -/
@[simp] theorem getD_insertIfNew_default (m : Std.ExtTreeMap κ β) (k k' : κ) (d : β) :
    (m.insertIfNew k d).getD k' d = m.getD k' d := by
  rw [Std.ExtTreeMap.getD_insertIfNew]
  split
  · next h =>
      obtain ⟨hk, hnew⟩ := h
      obtain rfl := Std.LawfulEqOrd.eq_of_compare hk
      exact (Std.ExtTreeMap.getD_eq_fallback hnew).symm
  · rfl

/-- An overwritten entry. -/
theorem insert_insert (m : Std.ExtTreeMap κ β) (k : κ) (v v' : β) :
    (m.insert k v).insert k v' = m.insert k v' := by
  apply Std.ExtTreeMap.ext_getElem?
  intro k'
  simp only [Std.ExtTreeMap.getElem?_insert]
  split <;> rfl

theorem insertIfNew_of_none {m : Std.ExtTreeMap κ β} {k : κ} (h : m[k]? = none) (v : β) :
    m.insertIfNew k v = m.insert k v := by
  apply Std.ExtTreeMap.ext_getElem?
  intro k'
  rw [Std.ExtTreeMap.getElem?_insertIfNew, Std.ExtTreeMap.getElem?_insert]
  have hnew : k ∉ m := by
    rw [← Std.ExtTreeMap.isSome_getElem?_iff_mem, h]
    exact Bool.false_ne_true
  simp only [hnew, not_false_eq_true, and_true]

/-- A key that is taken keeps its entry. -/
theorem insertIfNew_of_some {m : Std.ExtTreeMap κ β} {k : κ} {old : β} (h : m[k]? = some old)
    (v : β) : m.insertIfNew k v = m := by
  have hold : k ∈ m := by
    rw [← Std.ExtTreeMap.isSome_getElem?_iff_mem, h]
    rfl
  apply Std.ExtTreeMap.ext_getElem?
  intro k'
  rw [Std.ExtTreeMap.getElem?_insertIfNew, if_neg fun hboth => hboth.2 hold]

theorem erase_of_none {m : Std.ExtTreeMap κ β} {k : κ} (h : m[k]? = none) : m.erase k = m := by
  apply Std.ExtTreeMap.ext_getElem?
  intro k'
  rw [Std.ExtTreeMap.getElem?_erase]
  split
  · next hsame => rw [← Std.LawfulEqOrd.eq_of_compare hsame, h]
  · rfl

/-! ## Counting entries -/

/-- The number of entries whose value meets a condition. -/
def tally (m : Std.ExtTreeMap κ β) (p : β → Bool) : Nat := (m.filter fun _ v => p v).size

theorem filter_insert (m : Std.ExtTreeMap κ β) (k : κ) (v : β) (p : β → Bool) :
    (m.insert k v).filter (fun _ v => p v) =
      if p v then (m.filter fun _ v => p v).insert k v else (m.filter fun _ v => p v).erase k := by
  apply Std.ExtTreeMap.ext_getElem?
  intro k'
  rw [Std.ExtTreeMap.getElem?_filter']
  split
  · next hp =>
      rw [Std.ExtTreeMap.getElem?_insert, Std.ExtTreeMap.getElem?_insert,
        Std.ExtTreeMap.getElem?_filter']
      split <;> simp [hp]
  · next hp =>
      rw [Std.ExtTreeMap.getElem?_insert, Std.ExtTreeMap.getElem?_erase,
        Std.ExtTreeMap.getElem?_filter']
      split <;> simp [hp]

theorem filter_erase (m : Std.ExtTreeMap κ β) (k : κ) (p : β → Bool) :
    (m.erase k).filter (fun _ v => p v) = (m.filter fun _ v => p v).erase k := by
  apply Std.ExtTreeMap.ext_getElem?
  intro k'
  rw [Std.ExtTreeMap.getElem?_filter', Std.ExtTreeMap.getElem?_erase,
    Std.ExtTreeMap.getElem?_erase, Std.ExtTreeMap.getElem?_filter']
  split <;> simp

theorem mem_filter_iff {m : Std.ExtTreeMap κ β} {k : κ} {p : β → Bool} :
    k ∈ (m.filter fun _ v => p v) ↔ ∃ v, m[k]? = some v ∧ p v := by
  rw [← Std.ExtTreeMap.isSome_getElem?_iff_mem, Std.ExtTreeMap.getElem?_filter']
  cases m[k]? <;> simp

/-- A new entry is counted if it meets the condition. -/
theorem tally_insert {m : Std.ExtTreeMap κ β} {k : κ} (h : m[k]? = none) (v : β) (p : β → Bool) :
    tally (m.insert k v) p = tally m p + if p v then 1 else 0 := by
  have hnew : k ∉ (m.filter fun _ v => p v) := by
    rw [mem_filter_iff]
    simp [h]
  rw [Std.ExtTreeMap.mem_iff_contains] at hnew
  unfold tally
  rw [filter_insert]
  split
  · rw [Std.ExtTreeMap.size_insert, if_neg hnew]
  · rw [Std.ExtTreeMap.size_erase, if_neg hnew]
    rfl

/-- So is an entry that goes away. -/
theorem tally_erase {m : Std.ExtTreeMap κ β} {k : κ} {v : β} (h : m[k]? = some v) (p : β → Bool) :
    tally (m.erase k) p + (if p v then 1 else 0) = tally m p := by
  unfold tally
  rw [filter_erase, Std.ExtTreeMap.size_erase]
  by_cases hp : p v
  · have hmem : k ∈ (m.filter fun _ v => p v) := mem_filter_iff.mpr ⟨v, h, hp⟩
    have hpos : 0 < (m.filter fun _ v => p v).size := by
      rcases Nat.eq_zero_or_pos (m.filter fun _ v => p v).size with hz | hpos
      · rw [Std.ExtTreeMap.eq_empty_iff_size_eq_zero.mpr hz] at hmem
        simp at hmem
      · exact hpos
    rw [if_pos (Std.ExtTreeMap.mem_iff_contains.mp hmem), if_pos hp]
    omega
  · have hmem : k ∉ (m.filter fun _ v => p v) := by
      rw [mem_filter_iff, h]
      simpa using hp
    rw [Std.ExtTreeMap.mem_iff_contains] at hmem
    rw [if_neg hmem, if_neg hp]
    rfl

@[simp] theorem tally_empty (p : β → Bool) : tally (∅ : Std.ExtTreeMap κ β) p = 0 := by
  unfold tally
  have hempty : (∅ : Std.ExtTreeMap κ β).filter (fun _ v => p v) = ∅ := by
    apply Std.ExtTreeMap.ext_getElem?
    intro k
    rw [Std.ExtTreeMap.getElem?_filter']
    simp
  rw [hempty]
  exact Std.ExtTreeMap.size_empty

/-- Every entry is counted by the condition that always holds. -/
theorem tally_true (m : Std.ExtTreeMap κ β) : tally m (fun _ => true) = m.size := by
  unfold tally
  congr 1
  apply Std.ExtTreeMap.ext_getElem?
  intro k
  rw [Std.ExtTreeMap.getElem?_filter']
  cases m[k]? <;> simp

/-- Two tables that agree on which keys count, count the same. -/
theorem tally_congr {γ : Type} {m : Std.ExtTreeMap κ β} {m' : Std.ExtTreeMap κ γ} {p : β → Bool}
    {q : γ → Bool} (h : ∀ k : κ, (m[k]?).map p = (m'[k]?).map q) : tally m p = tally m' q := by
  have hsame : (m.filter fun _ v => p v).map (fun _ _ => ()) =
      (m'.filter fun _ v => q v).map fun _ _ => () := by
    apply Std.ExtTreeMap.ext_getElem?
    intro k
    rw [Std.ExtTreeMap.getElem?_map, Std.ExtTreeMap.getElem?_map, Std.ExtTreeMap.getElem?_filter',
      Std.ExtTreeMap.getElem?_filter']
    have hk := h k
    cases hm : m[k]? <;> cases hm' : m'[k]? <;> simp_all [Option.filter]
  have hsize := congrArg Std.ExtTreeMap.size hsame
  rwa [Std.ExtTreeMap.size_map, Std.ExtTreeMap.size_map] at hsize

omit [Std.LawfulEqOrd κ] in
theorem nodup_keys_toList (m : Std.ExtTreeMap κ β) : (m.toList.map (·.1)).Nodup := by
  rw [Std.ExtTreeMap.map_fst_toList_eq_keys]
  exact m.nodup_keys

end Table

end Lib
