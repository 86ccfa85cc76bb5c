import Mathlib

/-!
# ShuffleFabric.Lib.Survey

One pass over a list that measures every item: the largest measurement, and a report on
the first few items that lie above a ceiling.

Nothing here mentions the repository.
-/

namespace Lib

/-- What a pass has found so far. -/
structure Survey (κ β : Type) where
  peak : κ
  reports : List β := []
  exceeding : Nat := 0
  deriving DecidableEq, Repr

namespace Survey

variable {ε α κ β : Type} [LinearOrder κ]

/-- Take in an item. -/
def note (cap : Nat) (ceiling : κ) (report : α → κ → β) (s : Survey κ β) (a : α) (value : κ) :
    Survey κ β :=
  let s := { s with peak := max s.peak value }
  if value > ceiling then
    { s with
      reports := if s.exceeding < cap then s.reports ++ [report a value] else s.reports
      exceeding := s.exceeding + 1 }
  else s

/-- The pass; it stops at an item that cannot be measured. -/
def run (cap : Nat) (measure : α → Except ε κ) (ceiling : κ) (report : α → κ → β)
    (s : Survey κ β) (items : List α) : Except ε (Survey κ β) :=
  items.foldlM (fun s a => s.note cap ceiling report a <$> measure a) s

/-! ## What a pass finds -/

/-- The items above the ceiling. -/
def above (f : α → κ) (ceiling : κ) (items : List α) : List α := items.filter (f · > ceiling)

/-- The largest of a value and the measurements. -/
def top (f : α → κ) (least : κ) (items : List α) : κ := (items.map f).foldl max least

theorem above_cons (f : α → κ) (ceiling : κ) (a : α) (items : List α) :
    above f ceiling (a :: items) =
      if f a > ceiling then a :: above f ceiling items else above f ceiling items := by
  simp only [above, List.filter_cons, decide_eq_true_eq]

/-- Where every item can be measured, the pass goes on to the end. -/
theorem run_from {cap : Nat} {measure : α → Except ε κ} {f : α → κ} {ceiling : κ}
    {report : α → κ → β} {items : List α} (h : ∀ a ∈ items, measure a = .ok (f a))
    (s : Survey κ β) :
    run cap measure ceiling report s items = .ok {
      peak := top f s.peak items
      reports := s.reports ++
        ((above f ceiling items).take (cap - s.exceeding)).map fun a => report a (f a)
      exceeding := s.exceeding + (above f ceiling items).length } := by
  induction items generalizing s with
  | nil =>
      simp [run, top, above]
      rfl
  | cons a items ih =>
      obtain ⟨ha, hitems⟩ := List.forall_mem_cons.mp h
      have hrest := ih hitems (s.note cap ceiling report a (f a))
      have hstep : run cap measure ceiling report s (a :: items) =
          run cap measure ceiling report (s.note cap ceiling report a (f a)) items := by
        simp only [run, List.foldlM_cons, ha]
        rfl
      have hpeak : (s.note cap ceiling report a (f a)).peak = max s.peak (f a) := by
        unfold note
        split <;> rfl
      rw [hstep, hrest, hpeak, above_cons]
      unfold note
      split
      · next habove =>
          by_cases hroom : s.exceeding < cap
          · -- the report on this item is one of those there is room for
            obtain ⟨room, hcap⟩ : ∃ room, cap - s.exceeding = room + 1 :=
              ⟨cap - s.exceeding - 1, by omega⟩
            have hleft : cap - (s.exceeding + 1) = room := by omega
            simp [hroom, hcap, hleft, top, Nat.add_assoc, Nat.add_comm 1]
          · have hfull : cap - s.exceeding = 0 := by omega
            have hleft : cap - (s.exceeding + 1) = 0 := by omega
            simp [hroom, hfull, hleft, top, Nat.add_assoc, Nat.add_comm 1]
      · simp [top]

/-- Where every item can be measured, the pass ends with the largest measurement, a report on
the first items above the ceiling, and their number. -/
theorem run_eq {cap : Nat} {measure : α → Except ε κ} {f : α → κ} {ceiling : κ}
    {report : α → κ → β} {items : List α} (h : ∀ a ∈ items, measure a = .ok (f a)) (least : κ) :
    run cap measure ceiling report { peak := least } items = .ok {
      peak := top f least items
      reports := ((above f ceiling items).take cap).map fun a => report a (f a)
      exceeding := (above f ceiling items).length } := by
  rw [run_from h]
  simp only [List.nil_append, Nat.sub_zero, Nat.zero_add]

/-- What bounds the largest measurement bounds them all. -/
theorem top_le_iff {ι : Type} [LinearOrder ι] {g : κ → ι} (hg : Monotone g) {f : α → κ} {least : κ}
    {bound : ι} {items : List α} :
    g (top f least items) ≤ bound ↔ g least ≤ bound ∧ ∀ a ∈ items, g (f a) ≤ bound := by
  induction items generalizing least with
  | nil => simp [top]
  | cons a items ih =>
      have hstep : top f least (a :: items) = top f (max least (f a)) items := rfl
      simp [hstep, ih, hg.map_max, and_assoc]

/-- Nothing is reported exactly when nothing lies above the ceiling. -/
theorem take_above_eq_nil {f : α → κ} {ceiling : κ} {items : List α} {cap : Nat} (hcap : 0 < cap) :
    (above f ceiling items).take cap = [] ↔ ∀ a ∈ items, f a ≤ ceiling := by
  simp [above, List.take_eq_nil_iff, hcap.ne', List.filter_eq_nil_iff]

end Survey

end Lib
