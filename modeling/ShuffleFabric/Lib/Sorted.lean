import Mathlib

/-!
# ShuffleFabric.Lib.Sorted

Vectors that are kept sorted by a key and searched with `std::lower_bound`, and
the linear order of 64-bit integers they are keyed by.

`search`, `store` and `remove` are what `lower_bound` followed by a look at the
element found there computes: find the element with a key, overwrite it or insert
it in its place, and take it out.  On a strictly ascending vector they behave
like the operations of a finite map; that is all the users of such a vector need.

Nothing here mentions the repository.
-/

namespace Lib

/-! ## 64-bit integers are linearly ordered -/

/-- The order of the numbers, as they are counted. -/
instance linearOrderUInt64 : LinearOrder UInt64 where
  le_refl := UInt64.le_refl
  le_trans _ _ _ := UInt64.le_trans
  le_antisymm _ _ := UInt64.le_antisymm
  le_total := UInt64.le_total
  lt_iff_le_not_ge a b := by grind
  toDecidableLE := inferInstance
  toDecidableEq := inferInstance
  toDecidableLT := inferInstance
  min_def _ _ := rfl
  max_def _ _ := rfl
  compare_eq_compareOfLessAndEq _ _ := rfl

/-! ## Sorted vectors -/

section Sorted

variable {α κ : Type} [LinearOrder κ] (key : α → κ)

/-- Strictly ascending by key. -/
def Sorted (l : List α) : Prop := l.Pairwise (key · < key ·)

instance (l : List α) : Decidable (Sorted key l) := inferInstanceAs (Decidable (l.Pairwise _))

/-- The element with this key, looked for at its `lower_bound`. -/
def search : List α → κ → Option α
  | [], _ => none
  | b :: l, k => if key b < k then search l k else if key b = k then some b else none

/-- Overwrite the element with this key, or insert it at its `lower_bound`. -/
def store : List α → α → List α
  | [], a => [a]
  | b :: l, a =>
    if key b < key a then b :: store l a
    else if key b = key a then a :: l
    else a :: b :: l

/-- Erase the element with this key, if there is one at its `lower_bound`. -/
def remove : List α → κ → List α
  | [], _ => []
  | b :: l, k =>
    if key b < k then b :: remove l k
    else if key b = k then l
    else b :: l

variable {key}

/-- What follows the first is sorted. -/
theorem Sorted.tail {b : α} {l : List α} (h : Sorted key (b :: l)) : Sorted key l :=
  (List.pairwise_cons.mp h).2

/-- The first is below what follows. -/
theorem Sorted.head_lt {b c : α} {l : List α} (h : Sorted key (b :: l)) (hc : c ∈ l) :
    key b < key c := (List.pairwise_cons.mp h).1 c hc

/-- The empty list is sorted. -/
theorem sorted_nil : Sorted key ([] : List α) := List.Pairwise.nil

/-! ### search -/

/-- What is found is there, under its key. -/
theorem mem_of_search {l : List α} {k : κ} {a : α} (h : search key l k = some a) :
    a ∈ l ∧ key a = k := by
  induction l with
  | nil => simp [search] at h
  | cons b l ih =>
      simp only [search] at h
      split at h
      · exact ⟨List.mem_cons_of_mem _ (ih h).1, (ih h).2⟩
      · split at h
        · next hk =>
            obtain rfl : b = a := by simpa using h
            exact ⟨List.mem_cons_self, hk⟩
        · simp at h

/-- In a sorted vector the search finds exactly the element with the key. -/
theorem search_eq_some_iff {l : List α} (hs : Sorted key l) {k : κ} {a : α} :
    search key l k = some a ↔ a ∈ l ∧ key a = k := by
  refine ⟨mem_of_search, ?_⟩
  rintro ⟨hmem, rfl⟩
  induction l with
  | nil => simp at hmem
  | cons b l ih =>
      simp only [search]
      rcases List.mem_cons.mp hmem with rfl | hmem
      · simp
      · rw [if_pos (hs.head_lt hmem)]
        exact ih hs.tail hmem

/-- A key is not found exactly if nothing has it. -/
theorem search_eq_none_iff {l : List α} (hs : Sorted key l) {k : κ} :
    search key l k = none ↔ ∀ a ∈ l, key a ≠ k := by
  rw [Option.eq_none_iff_forall_ne_some]
  constructor
  · intro h a ha hk
    exact h a ((search_eq_some_iff hs).mpr ⟨ha, hk⟩)
  · intro h a ha
    exact h a (mem_of_search ha).1 (mem_of_search ha).2

/-! ### store -/

/-- What is stored replaces what had its key. -/
theorem mem_store {l : List α} (hs : Sorted key l) {a b : α} :
    b ∈ store key l a ↔ b = a ∨ (b ∈ l ∧ key b ≠ key a) := by
  induction l with
  | nil => simp [store]
  | cons c l ih =>
      have ih := ih hs.tail
      simp only [store]
      split
      · next hlt =>
          have hne : key c ≠ key a := ne_of_lt hlt
          simp only [List.mem_cons, ih]
          grind
      · split
        · next heq =>
            have hl : ∀ d ∈ l, key d ≠ key a := fun d hd => by
              rw [← heq]; exact ne_of_gt (hs.head_lt hd)
            simp only [List.mem_cons]
            grind
        · next hnlt hne =>
            have hgt : key a < key c := lt_of_le_of_ne (not_lt.mp hnlt) (Ne.symm hne)
            have hl : ∀ d ∈ l, key d ≠ key a := fun d hd =>
              ne_of_gt (lt_trans hgt (hs.head_lt hd))
            simp only [List.mem_cons]
            grind

/-- Storing keeps a list sorted. -/
theorem Sorted.store {l : List α} (hs : Sorted key l) (a : α) : Sorted key (store key l a) := by
  induction l with
  | nil => exact List.pairwise_singleton _ _
  | cons c l ih =>
      simp only [Lib.store]
      split
      · next hlt =>
          refine List.pairwise_cons.mpr ⟨?_, ih hs.tail⟩
          intro d hd
          rcases (mem_store hs.tail).mp hd with rfl | ⟨hd, -⟩
          · exact hlt
          · exact hs.head_lt hd
      · split
        · next heq =>
            refine List.pairwise_cons.mpr ⟨?_, hs.tail⟩
            intro d hd
            rw [← heq]
            exact hs.head_lt hd
        · next hnlt hne =>
            have hgt : key a < key c := lt_of_le_of_ne (not_lt.mp hnlt) (Ne.symm hne)
            refine List.pairwise_cons.mpr ⟨?_, hs⟩
            intro d hd
            rcases List.mem_cons.mp hd with rfl | hd
            · exact hgt
            · exact lt_trans hgt (hs.head_lt hd)

/-- What is stored is found, and the others as before. -/
theorem search_store {l : List α} (hs : Sorted key l) (a : α) (k : κ) :
    search key (store key l a) k = if key a = k then some a else search key l k := by
  split
  · next hk => exact (search_eq_some_iff (hs.store a)).mpr ⟨(mem_store hs).mpr (.inl rfl), hk⟩
  · next hk =>
      ext b
      rw [search_eq_some_iff (hs.store a), search_eq_some_iff hs, mem_store hs]
      constructor
      · rintro ⟨rfl | ⟨hb, -⟩, hbk⟩
        · exact absurd hbk hk
        · exact ⟨hb, hbk⟩
      · rintro ⟨hb, hbk⟩
        exact ⟨.inr ⟨hb, fun h => hk (h ▸ hbk)⟩, hbk⟩

/-- Storing adds one unless the key was there. -/
theorem length_store {l : List α} (hs : Sorted key l) (a : α) :
    (store key l a).length =
      if (search key l (key a)).isSome then l.length else l.length + 1 := by
  induction l with
  | nil => simp [store, search]
  | cons c l ih =>
      simp only [store, search]
      split
      · simp only [List.length_cons, ih hs.tail]
        split <;> rfl
      · split <;> simp

/-- Storing adds one at most. -/
theorem length_store_le (key : α → κ) (l : List α) (a : α) :
    (store key l a).length ≤ l.length + 1 := by
  induction l with
  | nil => simp [store]
  | cons b l ih =>
      unfold store
      split
      · simpa using ih
      · split <;> simp

/-! ### remove -/

/-- What is removed had the key. -/
theorem mem_remove {l : List α} (hs : Sorted key l) {k : κ} {b : α} :
    b ∈ remove key l k ↔ b ∈ l ∧ key b ≠ k := by
  induction l with
  | nil => simp [remove]
  | cons c l ih =>
      have ih := ih hs.tail
      simp only [remove]
      split
      · next hlt =>
          have hne : key c ≠ k := ne_of_lt hlt
          simp only [List.mem_cons, ih]
          grind
      · split
        · next heq =>
            have hl : ∀ d ∈ l, key d ≠ k := fun d hd => by
              rw [← heq]; exact ne_of_gt (hs.head_lt hd)
            simp only [List.mem_cons]
            grind
        · next hnlt hne =>
            have hgt : k < key c := lt_of_le_of_ne (not_lt.mp hnlt) (Ne.symm hne)
            have hl : ∀ d ∈ l, key d ≠ k := fun d hd => ne_of_gt (lt_trans hgt (hs.head_lt hd))
            simp only [List.mem_cons]
            grind

/-- Removing keeps the others in order. -/
theorem remove_sublist (l : List α) (k : κ) : (remove key l k).Sublist l := by
  induction l with
  | nil => exact List.Sublist.slnil
  | cons c l ih =>
      simp only [remove]
      split
      · exact ih.cons_cons c
      · split
        · exact List.sublist_cons_self c l
        · exact List.Sublist.refl _

/-- Removing keeps a list sorted. -/
theorem Sorted.remove {l : List α} (hs : Sorted key l) (k : κ) : Sorted key (remove key l k) :=
  List.Pairwise.sublist (remove_sublist l k) hs

end Sorted

end Lib
