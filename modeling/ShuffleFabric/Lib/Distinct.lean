import Mathlib

/-!
# ShuffleFabric.Lib.Distinct

Counting distinct values (the residues of consecutive numbers, a vector that is sorted and
then rid of neighbours that are equal), and counting the pairs of a relation from both sides.

Nothing here mentions the repository.
-/

namespace Lib

/-! ## 32-bit integers are linearly ordered -/

instance linearOrderUInt32 : LinearOrder UInt32 where
  le_refl := UInt32.le_refl
  le_trans _ _ _ := UInt32.le_trans
  le_antisymm _ _ := UInt32.le_antisymm
  le_total := UInt32.le_total
  lt_iff_le_not_ge a b := by grind
  toDecidableLE := inferInstance
  toDecidableEq := inferInstance
  toDecidableLT := inferInstance
  min_def _ _ := rfl
  max_def _ _ := rfl
  compare_eq_compareOfLessAndEq _ _ := rfl

/-! ## Residues -/

/-- Consecutive numbers have as many residues as there are numbers, and at most all of them. -/
theorem card_image_mod_Ico (a m : Nat) {k : Nat} (hk : 0 < k) :
    ((Finset.Ico a (a + m)).image (· % k)).card = min m k := by
  by_cases hle : k ≤ m
  · -- one round already meets every residue
    have hround : (Finset.Ico a (a + m)).image (· % k) = Finset.range k := by
      refine Finset.Subset.antisymm ?_ ?_
      · intro r hr
        obtain ⟨n, -, rfl⟩ := Finset.mem_image.mp hr
        exact Finset.mem_range.mpr (Nat.mod_lt n hk)
      · rw [← Nat.image_Ico_mod a k]
        exact Finset.image_subset_image (Finset.Ico_subset_Ico_right (by omega))
    rw [hround, Finset.card_range]
    omega
  · have hinj : Set.InjOn (· % k) (Finset.Ico a (a + m) : Set Nat) := by
      intro x hx y hy hxy
      simp only [Finset.coe_Ico, Set.mem_Ico] at hx hy
      have hmod : x ≡ y [MOD k] := hxy
      rcases le_total x y with h | h
      · exact hmod.eq_of_abs_lt (by rw [abs_lt]; omega)
      · exact hmod.eq_of_abs_lt (by rw [abs_lt]; omega)
    rw [Finset.card_image_of_injOn hinj, Nat.card_Ico]
    omega

/-! ## Sorted vectors without repetitions -/

section Unique

variable {α : Type} [LinearOrder α]

/-- `std::unique`: of equal neighbours the first one stays. -/
def unique : List α → List α
  | [] => []
  | [a] => [a]
  | a :: b :: l => if a = b then unique (b :: l) else a :: unique (b :: l)

theorem mem_unique {l : List α} {c : α} : c ∈ unique l ↔ c ∈ l := by
  fun_induction unique l with
  | case1 => rfl
  | case2 a => rfl
  | case3 a l ih => simp [ih]
  | case4 a b l hne ih => simp [ih]

theorem nodup_unique {l : List α} (h : l.Pairwise (· ≤ ·)) : (unique l).Nodup := by
  fun_induction unique l with
  | case1 => exact List.nodup_nil
  | case2 a => exact List.nodup_singleton a
  | case3 a l ih => exact ih (List.pairwise_cons.mp h).2
  | case4 a b l hne ih =>
      obtain ⟨ha, hrest⟩ := List.pairwise_cons.mp h
      refine List.nodup_cons.mpr ⟨fun hmem => ?_, ih hrest⟩
      -- what is sorted behind a larger element does not return to the smaller one
      have hab : a < b := lt_of_le_of_ne (ha b List.mem_cons_self) hne
      rcases List.mem_cons.mp (mem_unique.mp hmem) with heq | hl
      · exact hne heq
      · exact absurd ((List.pairwise_cons.mp hrest).1 a hl) (not_le.mpr hab)

/-- Sorting and removing repetitions counts the distinct elements. -/
theorem length_unique_insertionSort (l : List α) :
    (unique (l.insertionSort (· ≤ ·))).length = l.toFinset.card := by
  have hnodup := nodup_unique (List.pairwise_insertionSort (· ≤ ·) l)
  rw [← List.toFinset_card_of_nodup hnodup]
  congr 1
  ext c
  rw [List.mem_toFinset, List.mem_toFinset, mem_unique, List.mem_insertionSort]

end Unique

/-! ## Pairs -/

section Pairs

variable {α β : Type}

theorem length_filter_eq_sum (p : α → Bool) (l : List α) :
    (l.filter p).length = (l.map fun a => if p a then 1 else 0).sum := by
  induction l with
  | nil => rfl
  | cons a l ih =>
      rw [List.filter_cons, List.map_cons, List.sum_cons, ← ih]
      split
      · rw [List.length_cons, Nat.add_comm]
      · rw [Nat.zero_add]

/-- Counted row by row or column by column. -/
theorem sum_length_filter (s : Finset α) (l : List β) (r : α → β → Bool) :
    ∑ a ∈ s, (l.filter (r a)).length = (l.map fun b => (s.filter (r · b)).card).sum := by
  induction l with
  | nil => simp
  | cons b l ih =>
      have hcons : ∀ a, ((b :: l).filter (r a)).length =
          (if r a b then 1 else 0) + (l.filter (r a)).length := by
        intro a
        rw [List.filter_cons]
        split
        · rw [List.length_cons, Nat.add_comm]
        · rw [Nat.zero_add]
      simp only [hcons, Finset.sum_add_distrib, ih, List.map_cons, List.sum_cons,
        Finset.card_filter]

/-- The pairs of a relation, counted row by row. -/
theorem ncard_pairs [DecidableEq β] (s : Finset α) {l : List β} (hl : l.Nodup) (r : α → β → Bool) :
    {pair : α × β | pair.1 ∈ s ∧ pair.2 ∈ l ∧ r pair.1 pair.2 = true}.ncard =
      ∑ a ∈ s, (l.filter (r a)).length := by
  classical
  have hset : {pair : α × β | pair.1 ∈ s ∧ pair.2 ∈ l ∧ r pair.1 pair.2 = true} =
      ((s ×ˢ l.toFinset).filter fun pair => r pair.1 pair.2 = true : Finset (α × β)) := by
    ext pair
    simp [and_assoc]
  rw [hset, Set.ncard_coe_finset, Finset.card_filter, Finset.sum_product]
  refine Finset.sum_congr rfl fun a _ => ?_
  rw [← Finset.card_filter, ← List.toFinset_filter, List.toFinset_card_of_nodup (hl.filter _)]

end Pairs

/-! ## Maps with few keys -/

/-- A map whose keys are all listed has at most as many entries as the list. -/
theorem size_le_length {κ β : Type} [Ord κ] [Std.TransOrd κ] [Std.LawfulEqOrd κ]
    {m : Std.ExtTreeMap κ β} {keys : List κ} (h : ∀ k, k ∈ m → k ∈ keys) :
    m.size ≤ keys.length := by
  rw [← Std.ExtTreeMap.length_keys]
  exact (List.subperm_of_subset Std.ExtTreeMap.nodup_keys fun k hk =>
    h k (Std.ExtTreeMap.mem_of_mem_keys hk)).length_le

end Lib
