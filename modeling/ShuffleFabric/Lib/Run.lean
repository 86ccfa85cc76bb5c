import Mathlib

/-!
# ShuffleFabric.Lib.Run

Runs of a machine that answers its inputs.

A machine is a function `step` from a state and an input to an answer and the next
state.  A `Run` lists what happened, input by input, with the state before and
after each; an invariant of every run follows from what one step preserves.

Nothing here mentions the repository.
-/

namespace Lib

/-- One input, the answer to it, and the states around it. -/
structure Event (σ ι ο : Type) where
  before : σ
  input : ι
  output : ο
  after : σ

section Run

variable {σ ι ο : Type}

/-- What happens when a machine takes an input. -/
def happen (step : σ → ι → ο × σ) (s : σ) (i : ι) : Event σ ι ο :=
  ⟨s, i, (step s i).1, (step s i).2⟩

/-- The runs of a machine from a start state: the events in order, and the state they
lead to. -/
inductive Run (step : σ → ι → ο × σ) (start : σ) : List (Event σ ι ο) → σ → Prop
  | nil : Run step start [] start
  | snoc {events : List (Event σ ι ο)} {s : σ} (run : Run step start events s) (i : ι) :
      Run step start (events ++ [happen step s i]) (step s i).2

variable {step : σ → ι → ο × σ} {start : σ}

/-- What holds at the start and survives every step holds after every run. -/
theorem Run.invariant {P : σ → Prop} (hstart : P start) (hstep : ∀ s i, P s → P (step s i).2)
    {events : List (Event σ ι ο)} {s : σ} (run : Run step start events s) : P s := by
  induction run with
  | nil => exact hstart
  | snoc run i ih => exact hstep _ i ih

/-- The same when only the steps that meet a condition preserve it. -/
theorem Run.invariant_of {P : σ → Prop} {good : σ → ι → Prop} (hstart : P start)
    (hstep : ∀ s i, good s i → P s → P (step s i).2)
    {events : List (Event σ ι ο)} {s : σ} (run : Run step start events s)
    (hgood : ∀ e ∈ events, good e.before e.input) : P s := by
  induction run with
  | nil => exact hstart
  | snoc run i ih =>
      have hi := hgood _ (List.mem_append_right _ List.mem_cons_self)
      exact hstep _ i hi (ih fun e he => hgood e (List.mem_append_left _ he))

/-- A run and one that goes on from where it ended. -/
theorem Run.trans {earlier later : List (Event σ ι ο)} {s t : σ} (run : Run step start earlier s)
    (run' : Run step s later t) : Run step start (earlier ++ later) t := by
  induction run' with
  | nil => simpa using run
  | snoc run' i ih => simpa [List.append_assoc] using ih.snoc i

/-- Every event is a step, taken after a run of its own. -/
theorem Run.of_mem {events : List (Event σ ι ο)} {s : σ} (run : Run step start events s)
    {e : Event σ ι ο} (he : e ∈ events) :
    e = happen step e.before e.input ∧ ∃ earlier, Run step start earlier e.before := by
  induction run with
  | nil => cases he
  | snoc run i ih =>
      rcases List.mem_append.mp he with he | he
      · exact ih he
      · obtain rfl := List.mem_singleton.mp he
        exact ⟨rfl, _, run⟩

theorem Run.last {events : List (Event σ ι ο)} {e : Event σ ι ο} {s : σ}
    (run : Run step start (events ++ [e]) s) :
    ∃ t i, Run step start events t ∧ e = happen step t i ∧ s = (step t i).2 := by
  generalize hall : events ++ [e] = all at run
  cases run with
  | nil => simp at hall
  | snoc run i =>
      obtain ⟨rfl, heq⟩ := List.append_inj' hall rfl
      cases heq
      exact ⟨_, i, run, rfl, rfl⟩

theorem Run.eq_start {s : σ} (run : Run step start [] s) : s = start := by
  generalize hnone : [] = events at run
  cases run with
  | nil => rfl
  | snoc => simp at hnone

/-- A run, cut in two. -/
theorem Run.split {earlier later : List (Event σ ι ο)} {s : σ}
    (run : Run step start (earlier ++ later) s) :
    ∃ t, Run step start earlier t ∧ Run step t later s := by
  induction later using List.reverseRecOn generalizing s with
  | nil => exact ⟨s, by simpa using run, .nil⟩
  | append_singleton later e ih =>
      rw [← List.append_assoc] at run
      obtain ⟨t, i, hrun, rfl, rfl⟩ := run.last
      obtain ⟨u, hearlier, hlater⟩ := ih hrun
      exact ⟨u, hearlier, hlater.snoc i⟩

/-- The first step of a run. -/
theorem Run.head {e : Event σ ι ο} {later : List (Event σ ι ο)} {s : σ}
    (run : Run step start (e :: later) s) :
    e = happen step start e.input ∧ Run step e.after later s := by
  have hcut : Run step start ([e] ++ later) s := run
  obtain ⟨t, hfirst, hlater⟩ := hcut.split
  have hlast : Run step start ([] ++ [e]) t := hfirst
  obtain ⟨u, i, hnone, rfl, rfl⟩ := hlast.last
  obtain rfl := hnone.eq_start
  exact ⟨rfl, hlater⟩

/-! ## Conditions along a run -/

/-- Every element of a list meets a condition together with what stands before it. -/
def Along {α : Type} (P : List α → α → Prop) : List α → List α → Prop
  | _, [] => True
  | earlier, a :: later => P earlier a ∧ Along P (earlier ++ [a]) later

instance decidableAlong {α : Type} (P : List α → α → Prop) [∀ earlier a, Decidable (P earlier a)] :
    ∀ earlier later, Decidable (Along P earlier later)
  | _, [] => inferInstanceAs (Decidable True)
  | earlier, a :: later =>
    have := decidableAlong P (earlier ++ [a]) later
    inferInstanceAs (Decidable (P earlier a ∧ Along P (earlier ++ [a]) later))

theorem along_append {α : Type} {P : List α → α → Prop} (earlier xs ys : List α) :
    Along P earlier (xs ++ ys) ↔ Along P earlier xs ∧ Along P (earlier ++ xs) ys := by
  induction xs generalizing earlier with
  | nil => simp [Along]
  | cons x xs ih => simp [Along, ih, and_assoc]

/-- A condition along a run, at its last event. -/
theorem along_snoc {α : Type} {P : List α → α → Prop} (xs : List α) (x : α) :
    Along P [] (xs ++ [x]) ↔ Along P [] xs ∧ P xs x := by
  rw [along_append]
  simp [Along]

/-! ## Running a list of inputs -/

/-- The events of a list of inputs. -/
def record (step : σ → ι → ο × σ) : σ → List ι → List (Event σ ι ο)
  | _, [] => []
  | s, i :: inputs => happen step s i :: record step (step s i).2 inputs

/-- The state behind a list of inputs. -/
def final (step : σ → ι → ο × σ) (s : σ) (inputs : List ι) : σ :=
  inputs.foldl (fun s i => (step s i).2) s

theorem Run.append {events : List (Event σ ι ο)} {s : σ} (run : Run step start events s)
    (inputs : List ι) :
    Run step start (events ++ record step s inputs) (final step s inputs) := by
  induction inputs generalizing events s with
  | nil => simpa [record, final] using run
  | cons i inputs ih => simpa [record, final] using ih (run.snoc i)

theorem record_append (step : σ → ι → ο × σ) (s : σ) (earlier later : List ι) :
    record step s (earlier ++ later) =
      record step s earlier ++ record step (final step s earlier) later := by
  induction earlier generalizing s with
  | nil => rfl
  | cons i earlier ih => simp [record, final, ih]

/-- Every list of inputs is a run. -/
theorem Run.of_inputs (step : σ → ι → ο × σ) (start : σ) (inputs : List ι) :
    Run step start (record step start inputs) (final step start inputs) :=
  Run.nil.append inputs

end Run

end Lib
