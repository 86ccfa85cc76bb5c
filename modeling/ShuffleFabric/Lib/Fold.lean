import Mathlib.Logic.Function.Basic

/-!
# ShuffleFabric.Lib.Fold

Folds that lose nothing: one step can be undone when the letter is known, and tells the
letters apart.  Such a fold notices every change of a single letter, however long the word
is.

Nothing here mentions the repository.
-/

namespace Lib

variable {σ α : Type} {step : σ → α → σ}

/-- A word with one letter changed is another word. -/
theorem set_ne_self {word : List α} {i : Nat} (hi : i < word.length) {a : α} (hne : a ≠ word[i]) :
    word.set i a ≠ word := by
  intro h
  have hletter := List.getElem_set_self (l := word) (i := i) (a := a) (by simpa using hi)
  simp only [h] at hletter
  exact hne hletter.symm

/-- A step that is one-to-one in the state and in the letter. -/
structure Lossless (step : σ → α → σ) : Prop where
  state : ∀ a, Function.Injective (step · a)
  letter : ∀ s, Function.Injective (step s)

/-- States that differ before a word differ behind it. -/
theorem Lossless.foldl_injective (h : Lossless step) (word : List α) :
    Function.Injective (word.foldl step) := by
  induction word with
  | nil => exact Function.injective_id
  | cons a word ih => exact ih.comp (h.state a)

/-- A changed letter changes the outcome. -/
theorem Lossless.foldl_ne (h : Lossless step) (s : σ) (before after : List α) {a b : α}
    (hne : a ≠ b) :
    (before ++ a :: after).foldl step s ≠ (before ++ b :: after).foldl step s := by
  rw [List.foldl_append, List.foldl_append, List.foldl_cons, List.foldl_cons]
  intro heq
  exact hne (h.letter _ (h.foldl_injective after heq))

theorem Lossless.foldl_set_ne (h : Lossless step) (s : σ) {word : List α} {i : Nat}
    (hi : i < word.length) {a : α} (hne : a ≠ word[i]) :
    (word.set i a).foldl step s ≠ word.foldl step s := by
  have hword : word.take i ++ word[i] :: word.drop (i + 1) = word := by
    rw [← List.drop_eq_getElem_cons hi, List.take_append_drop]
  have hset : word.take i ++ a :: word.drop (i + 1) = word.set i a :=
    (List.set_eq_take_append_cons_drop.trans (if_pos hi)).symm
  have hne := h.foldl_ne s (word.take i) (word.drop (i + 1)) hne
  rwa [hset, hword] at hne

end Lib
