import Mathlib.Data.List.Basic

/-!
# ShuffleFabric.Lib.Prefix

Parsers that read one item from the front of a word, and what it takes to run one over a
stream that arrives in pieces.

Such a parser never changes its mind about an item when more letters arrive, so the items of a
word do not depend on how the word was cut.

Nothing here mentions the repository.
-/

namespace Lib

variable {α β : Type}

/-- A parser of the front of a word: the item there, and how many letters it takes. -/
structure PrefixParser (α β : Type) where
  parse : List α → Option (β × Nat)
  pos : ∀ {word item n}, parse word = some (item, n) → 0 < n
  le : ∀ {word item n}, parse word = some (item, n) → n ≤ word.length
  append : ∀ {word item n}, parse word = some (item, n) →
    ∀ more, parse (word ++ more) = some (item, n)

namespace PrefixParser

variable (p : PrefixParser α β)

/-- At most `fuel` items. -/
def items : Nat → List α → List β
  | 0, _ => []
  | fuel + 1, word =>
    match p.parse word with
    | none => []
    | some (item, n) => item :: items fuel (word.drop n)

/-- The items of a word, until the parser stops. -/
def all (word : List α) : List β := p.items word.length word

/-- There are no more items than letters. -/
theorem items_eq_all {fuel : Nat} {word : List α} (h : word.length ≤ fuel) :
    p.items fuel word = p.all word := by
  suffices ∀ (fuel fuel' : Nat) (word : List α), word.length ≤ fuel → word.length ≤ fuel' →
      p.items fuel word = p.items fuel' word from this _ _ word h (Nat.le_refl _)
  intro fuel
  induction fuel with
  | zero =>
      intro fuel' word hzero _
      obtain rfl := List.length_eq_zero_iff.mp (Nat.le_zero.mp hzero)
      cases hparse : p.parse [] with
      | none => cases fuel' <;> simp [items, hparse]
      | some found => exact absurd (p.pos hparse) (Nat.not_lt.mpr (p.le hparse))
  | succ fuel ih =>
      intro fuel' word hfuel hfuel'
      cases hparse : p.parse word with
      | none => cases fuel' <;> simp [items, hparse]
      | some found =>
          have hpos := p.pos hparse
          have hle := p.le hparse
          obtain ⟨fuel', rfl⟩ : ∃ less, fuel' = less + 1 := ⟨fuel' - 1, by omega⟩
          have hrest : (word.drop found.2).length = word.length - found.2 := List.length_drop
          simp only [items, hparse, ih fuel' (word.drop found.2) (by omega) (by omega)]

theorem all_of_some {word : List α} {item : β} {n : Nat} (h : p.parse word = some (item, n)) :
    p.all word = item :: p.all (word.drop n) := by
  have hpos := p.pos h
  have hle := p.le h
  obtain ⟨length, hlength⟩ : ∃ length, word.length = length + 1 := ⟨word.length - 1, by omega⟩
  have hrest : (word.drop n).length ≤ length := by
    rw [List.length_drop]
    omega
  rw [all, hlength, items, h]
  simp only [p.items_eq_all hrest]

theorem all_of_none {word : List α} (h : p.parse word = none) : p.all word = [] := by
  rw [all]
  cases hlength : word.length with
  | zero => rfl
  | succ length => simp [items, h]

/-- What was taken off the front of a stream: the items so far, and the letters not yet
taken.  It says the same about every continuation of the stream. -/
def Splits (word : List α) (taken : List β) (queue : List α) : Prop :=
  ∀ more, p.all (word ++ more) = taken ++ p.all (queue ++ more)

theorem splits_nil : p.Splits [] [] [] := fun _ => rfl

variable {p} {word queue : List α} {taken : List β}

/-- More letters arrive. -/
theorem Splits.feed (h : p.Splits word taken queue) (letters : List α) :
    p.Splits (word ++ letters) taken (queue ++ letters) := by
  intro more
  rw [List.append_assoc, List.append_assoc]
  exact h (letters ++ more)

/-- An item is taken off the queue. -/
theorem Splits.take (h : p.Splits word taken queue) {item : β} {n : Nat}
    (hparse : p.parse queue = some (item, n)) :
    p.Splits word (taken ++ [item]) (queue.drop n) := by
  intro more
  rw [h more, p.all_of_some (p.append hparse more),
    List.drop_append_of_le_length (p.le hparse), List.append_assoc, List.singleton_append]

/-- What is in the queue is what is left. -/
theorem Splits.all_eq (h : p.Splits word taken queue) :
    p.all word = taken ++ p.all queue := by
  have hall := h []
  rwa [List.append_nil, List.append_nil] at hall

end PrefixParser

end Lib
