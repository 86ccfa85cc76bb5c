import Mathlib

/-!
# ShuffleFabric.Lib.Group

Loops that sort what they meet into groups: the first item of a group opens a summary, every
later one is added to it.

Nothing here mentions the repository.
-/

namespace Lib

section Gather

variable {α κ σ : Type} [Ord κ] [Std.TransOrd κ] [Std.LawfulEqOrd κ] [DecidableEq κ]

/-- One turn of the loop. -/
def gather (key : α → κ) (start : α → σ) (next : σ → α → σ) (groups : Std.ExtTreeMap κ σ)
    (a : α) : Std.ExtTreeMap κ σ :=
  match groups[key a]? with
  | none => groups.insert (key a) (start a)
  | some summary => groups.insert (key a) (next summary a)

/-- The summary of one group, in the order its items are met. -/
def summarise (start : α → σ) (next : σ → α → σ) : List α → Option σ
  | [] => none
  | a :: rest => some (rest.foldl next (start a))

theorem getElem?_gather (key : α → κ) (start : α → σ) (next : σ → α → σ)
    (groups : Std.ExtTreeMap κ σ) (a : α) (k : κ) :
    (gather key start next groups a)[k]? =
      if key a = k then some (groups[k]?.elim (start a) (next · a)) else groups[k]? := by
  unfold gather
  by_cases hk : key a = k
  · subst hk
    cases groups[key a]? <;> simp
  · cases groups[key a]? <;> simp [Std.ExtTreeMap.getElem?_insert, hk]

/-- A group that is open already goes on. -/
theorem getElem?_foldl_gather_of_some (key : α → κ) (start : α → σ) (next : σ → α → σ)
    (items : List α) {groups : Std.ExtTreeMap κ σ} {k : κ} {summary : σ}
    (h : groups[k]? = some summary) :
    (items.foldl (gather key start next) groups)[k]? =
      some ((items.filter fun a => key a = k).foldl next summary) := by
  induction items generalizing groups summary with
  | nil => simpa using h
  | cons a items ih =>
      have hnext := getElem?_gather key start next groups a k
      by_cases hk : key a = k
      · rw [if_pos hk, h, Option.elim_some] at hnext
        rw [List.foldl_cons, ih hnext, List.filter_cons_of_pos (by simpa using hk),
          List.foldl_cons]
      · rw [if_neg hk, h] at hnext
        rw [List.foldl_cons, ih hnext, List.filter_cons_of_neg (by simpa using hk)]

/-- Every group is summarised from its own items, in the order they are met. -/
theorem getElem?_foldl_gather (key : α → κ) (start : α → σ) (next : σ → α → σ) (items : List α)
    {groups : Std.ExtTreeMap κ σ} {k : κ} (h : groups[k]? = none) :
    (items.foldl (gather key start next) groups)[k]? =
      summarise start next (items.filter fun a => key a = k) := by
  induction items generalizing groups with
  | nil => exact h
  | cons a items ih =>
      have hnext := getElem?_gather key start next groups a k
      by_cases hk : key a = k
      · rw [if_pos hk, h, Option.elim_none] at hnext
        rw [List.foldl_cons, getElem?_foldl_gather_of_some key start next items hnext,
          List.filter_cons_of_pos (by simpa using hk), summarise]
      · rw [if_neg hk, h] at hnext
        rw [List.foldl_cons, ih hnext, List.filter_cons_of_neg (by simpa using hk)]

end Gather

/-- Among items with different labels one item has its own label. -/
theorem countP_eq_one_of_nodup {α κ : Type} [DecidableEq κ] {label : α → κ} {l : List α}
    (h : (l.map label).Nodup) {a : α} (ha : a ∈ l) : l.countP (fun b => label b = label a) = 1 := by
  rw [← List.count_eq_one_of_mem h (List.mem_map_of_mem ha), List.count, List.countP_map]
  exact List.countP_congr fun b _ => by simp

/-- A running minimum is the least of what was met. -/
theorem exists_least_foldl {α τ : Type} [LinearOrder τ] (f : α → τ) (a : α) (rest : List α) :
    ∃ least ∈ a :: rest,
      rest.foldl (fun low b => if f b < low then f b else low) (f a) = f least ∧
        ∀ b ∈ a :: rest, f least ≤ f b := by
  induction rest generalizing a with
  | nil => exact ⟨a, by simp⟩
  | cons b rest ih =>
      rw [List.foldl_cons]
      by_cases hlt : f b < f a
      · rw [if_pos hlt]
        obtain ⟨least, hmem, hleast, hle⟩ := ih b
        refine ⟨least, List.mem_cons_of_mem a hmem, hleast, ?_⟩
        rw [List.forall_mem_cons]
        exact ⟨(hle b List.mem_cons_self).trans hlt.le, hle⟩
      · rw [if_neg hlt]
        obtain ⟨least, hmem, hleast, hle⟩ := ih a
        rw [List.forall_mem_cons] at hle
        have hmem' : least ∈ a :: b :: rest := by
          rcases List.mem_cons.mp hmem with rfl | hmem
          · exact List.mem_cons_self
          · exact List.mem_cons_of_mem a (List.mem_cons_of_mem b hmem)
        refine ⟨least, hmem', hleast, ?_⟩
        rw [List.forall_mem_cons, List.forall_mem_cons]
        exact ⟨hle.1, hle.1.trans (not_lt.mp hlt), hle.2⟩

end Lib
