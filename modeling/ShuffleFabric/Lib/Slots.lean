import Mathlib

/-!
# ShuffleFabric.Lib.Slots

A row of slots, some of them taken.

Setting one slot exchanges what was in it for what is put there; `reduceOption` is what the
slots hold, in some order.

Nothing here mentions the repository.
-/

namespace Lib

variable {α : Type}

/-- What a row of slots holds after one of them was set. -/
theorem reduceOption_set {slots : List (Option α)} {i : Nat} {old : Option α}
    (h : slots[i]? = some old) (new : Option α) :
    (old.toList ++ (slots.set i new).reduceOption).Perm (new.toList ++ slots.reduceOption) := by
  induction slots generalizing i with
  | nil => cases h
  | cons slot slots ih =>
      cases i with
      | zero =>
          obtain rfl : slot = old := by simpa using h
          cases slot <;> cases new <;> simp [List.Perm.swap]
      | succ i =>
          have ih := ih (i := i) (by simpa using h)
          cases slot with
          | none => simpa using ih
          | some a =>
              have hmiddle : ∀ l₁ l₂ : List α, (l₁ ++ a :: l₂).Perm (a :: (l₁ ++ l₂)) :=
                fun _ _ => List.perm_middle
              have hold := hmiddle old.toList (slots.set i new).reduceOption
              have hnew := hmiddle new.toList slots.reduceOption
              simpa using hold.trans ((ih.cons a).trans hnew.symm)

/-- A slot that holds something is among what is held. -/
theorem mem_reduceOption_of_slot {slots : List (Option α)} {i : Nat} {a : α}
    (h : slots[i]? = some (some a)) : a ∈ slots.reduceOption :=
  List.reduceOption_mem_iff.mpr (List.mem_of_getElem? h)

/-- Where fewer things are held than there are slots, one of them is free. -/
theorem exists_free_slot {slots : List (Option α)} (h : slots.reduceOption.length < slots.length) :
    ∃ i : Nat, slots[i]? = some none := by
  have hfree : none ∈ slots := List.reduceOption_length_lt_iff.mp h
  exact List.getElem?_of_mem hfree

end Lib
