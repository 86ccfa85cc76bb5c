import ShuffleFabric.Lib.Sorted

/-!
# ShuffleFabric.Lib.Count

Counting the records of a sorted vector: class by class, and never more of them than
there are keys.

Nothing here mentions the repository.
-/

namespace Lib

/-! ## Class by class -/

section Classes

variable {α : Type}

/-- The records weighed one by one, or counted class by class and weighed together. -/
theorem sum_countP_mul (f : α → Nat) (weight : Nat → Nat) {n : Nat} {l : List α}
    (h : ∀ a ∈ l, f a < n) :
    ∑ i ∈ Finset.range n, l.countP (f · == i) * weight i = (l.map fun a => weight (f a)).sum := by
  induction l with
  | nil => simp
  | cons a l ih =>
      obtain ⟨ha, hl⟩ := List.forall_mem_cons.mp h
      have hone : ∑ i ∈ Finset.range n, (if f a = i then 1 else 0) * weight i = weight (f a) := by
        simp [ha]
      simp only [List.countP_cons, beq_iff_eq, add_mul, Finset.sum_add_distrib, ih hl, hone,
        List.map_cons, List.sum_cons]
      omega

end Classes

/-! ## Records of a sorted vector -/

section Records

variable {α κ : Type} [LinearOrder κ] {key : α → κ}

theorem Sorted.nodup_keys {l : List α} (h : Sorted key l) : (l.map key).Nodup := by
  rw [List.Nodup, List.pairwise_map]
  exact h.imp fun hlt => ne_of_lt hlt

/-- Two sorted vectors of keys with the same keys in them have the same length. -/
theorem Sorted.length_congr {l l' : List κ} (h : Sorted (fun k => k) l) (h' : Sorted (fun k => k) l')
    (hmem : ∀ k, k ∈ l ↔ k ∈ l') : l.length = l'.length := by
  refine ((List.perm_ext_iff_of_nodup ?_ ?_).mpr hmem).length_eq
  · simpa using h.nodup_keys
  · simpa using h'.nodup_keys

/-- Overwriting a record that is there changes that record only. -/
theorem store_eq_map {l : List α} (hs : Sorted key l) {a b : α} (hb : b ∈ l) (hkey : key b = key a) :
    store key l a = l.map fun c => if key c = key a then a else c := by
  induction l with
  | nil => cases hb
  | cons c l ih =>
      unfold store
      rcases List.mem_cons.mp hb with rfl | hb
      · have hrest : l.map (fun c => if key c = key a then a else c) = l := by
          refine (List.map_congr_left fun c hc => ?_).trans (List.map_id l)
          rw [if_neg, id]
          exact fun heq => absurd (hs.head_lt hc) (by rw [hkey, heq]; exact lt_irrefl _)
        rw [if_neg (by rw [hkey]; exact lt_irrefl _), if_pos hkey, List.map_cons, if_pos hkey, hrest]
      · have hlt : key c < key a := hkey ▸ hs.head_lt hb
        rw [if_pos hlt, ih hs.tail hb, List.map_cons, if_neg (ne_of_lt hlt)]

/-- There are fewer than `2 ^ 64` records under non-zero 64-bit keys. -/
theorem Sorted.length_lt {key : α → UInt64} {l : List α} (h : Sorted key l)
    (hne : ∀ a ∈ l, key a ≠ 0) : l.length < 2 ^ 64 := by
  have hinj : Function.Injective UInt64.toFin := fun a b hab => UInt64.toFin_inj.mp hab
  have hnodup : (0 :: (l.map key).map UInt64.toFin).Nodup := by
    refine List.nodup_cons.mpr ⟨?_, h.nodup_keys.map hinj⟩
    intro hmem
    obtain ⟨k, hk, hzero⟩ := List.mem_map.mp hmem
    obtain ⟨a, ha, rfl⟩ := List.mem_map.mp hk
    exact hne a ha (hinj (hzero.trans rfl))
  have hle := hnodup.length_le_card
  simp only [List.length_cons, List.length_map, Fintype.card_fin, UInt64.size] at hle
  omega

end Records

end Lib
