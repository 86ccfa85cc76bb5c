import Mathlib

/-!
# ShuffleFabric.Lib.Action

Mutating member functions that may refuse.

A member function of a C++ class mutates its object in place and returns either
a value or an error; what it changed before an error is not undone.  That is the
monad `ExceptT ε (StateM σ)`: the state is returned with an error as well.
`exec` runs such a computation, and the equations below evaluate it one statement
at a time.  `exec_bind_ok` is the inversion every proof about a successful call
starts from.

Nothing here mentions the repository.
-/

namespace Lib

/-- A computation over a mutable `σ` that returns an `α` or refuses with an `ε`. -/
abbrev Action (σ ε α : Type) := ExceptT ε (StateM σ) α

namespace Action

variable {σ ε α β : Type}

/-- Run an action: its answer, and the state it leaves behind. -/
def exec (x : Action σ ε α) (s : σ) : Except ε α × σ := x.run.run s

/-- `if (p) return e;`. -/
def throwIf (p : Prop) [Decidable p] (e : ε) : Action σ ε Unit :=
  if p then throw e else pure ()

/-! ## Equations -/

@[simp] theorem except_map_ok (f : α → β) (a : α) :
    Except.map f (.ok a : Except ε α) = .ok (f a) := rfl

@[simp] theorem except_map_error (f : α → β) (e : ε) :
    Except.map f (.error e : Except ε α) = .error e := rfl

@[simp] theorem exec_pure (a : α) (s : σ) : (pure a : Action σ ε α).exec s = (.ok a, s) := rfl

@[simp] theorem exec_throw (e : ε) (s : σ) :
    (throw e : Action σ ε α).exec s = (.error e, s) := rfl

@[simp] theorem exec_get (s : σ) : (get : Action σ ε σ).exec s = (.ok s, s) := rfl

@[simp] theorem exec_set (t s : σ) : (set t : Action σ ε PUnit).exec s = (.ok ⟨⟩, t) := rfl

@[simp] theorem exec_modify (f : σ → σ) (s : σ) :
    (modify f : Action σ ε PUnit).exec s = (.ok ⟨⟩, f s) := rfl

/-- A pure check that refuses leaves the state alone. -/
@[simp] theorem exec_liftM (r : Except ε α) (s : σ) :
    (liftM r : Action σ ε α).exec s = (r, s) := rfl

/-- What a sequence does: the second part runs on the state the first one left, unless that
failed. -/
theorem exec_bind (x : Action σ ε α) (f : α → Action σ ε β) (s : σ) :
    (x >>= f).exec s =
      match x.exec s with
      | (.ok a, s') => (f a).exec s'
      | (.error e, s') => (.error e, s') := by
  simp only [exec, ExceptT.run_bind, StateT.run_bind]
  rcases h : x.run.run s with ⟨r, s'⟩
  cases r <;> simp <;> rfl

/-- A first part that succeeds is replaced by the state it leaves. -/
theorem exec_bind_of_ok {x : Action σ ε α} {f : α → Action σ ε β} {s s' : σ} {a : α}
    (h : x.exec s = (.ok a, s')) : (x >>= f).exec s = (f a).exec s' := by
  rw [exec_bind, h]

/-- A first part that fails is the end. -/
theorem exec_bind_of_error {x : Action σ ε α} {f : α → Action σ ε β} {s s' : σ} {e : ε}
    (h : x.exec s = (.error e, s')) : (x >>= f).exec s = (.error e, s') := by
  rw [exec_bind, h]

/-- A successful sequence is a successful first part followed by a successful rest. -/
theorem exec_bind_ok {x : Action σ ε α} {f : α → Action σ ε β} {s s' : σ} {b : β}
    (h : (x >>= f).exec s = (.ok b, s')) :
    ∃ a t, x.exec s = (.ok a, t) ∧ (f a).exec t = (.ok b, s') := by
  rw [exec_bind] at h
  rcases hx : x.exec s with ⟨r, t⟩
  rw [hx] at h
  cases r with
  | error e => simp at h
  | ok a => exact ⟨a, t, rfl, h⟩

@[simp] theorem exec_map (f : α → β) (x : Action σ ε α) (s : σ) :
    (f <$> x).exec s = ((x.exec s).1.map f, (x.exec s).2) := by
  rw [map_eq_pure_bind, exec_bind]
  rcases x.exec s with ⟨r, s'⟩
  cases r <;> rfl

/-- A mapped action answers only if the action itself does. -/
theorem exec_of_map_ok {f : α → β} {x : Action σ ε α} {s : σ} {b : β}
    (h : ((f <$> x).exec s).1 = .ok b) : ∃ a, x.exec s = (.ok a, (x.exec s).2) ∧ f a = b := by
  rw [exec_map] at h
  cases hx : (x.exec s).1 with
  | error e => simp [hx] at h
  | ok a => exact ⟨a, Prod.ext hx rfl, by simpa [hx] using h⟩

@[simp] theorem exec_throwIf (p : Prop) [Decidable p] (e : ε) (s : σ) :
    (throwIf p e : Action σ ε Unit).exec s = (if p then .error e else .ok (), s) := by
  by_cases h : p <;> simp [throwIf, h]

/-- A check whose condition holds fails. -/
theorem exec_throwIf_pos {p : Prop} [Decidable p] (h : p) (e : ε) (s : σ) :
    (throwIf p e : Action σ ε Unit).exec s = (.error e, s) := by
  rw [exec_throwIf, if_pos h]

/-- A check whose condition does not hold is passed. -/
theorem exec_throwIf_neg {p : Prop} [Decidable p] (h : ¬p) (e : ε) (s : σ) :
    (throwIf p e : Action σ ε Unit).exec s = (.ok (), s) := by
  rw [exec_throwIf, if_neg h]

/-! ## Running an action aside -/

/-- Run an action on a value of its own: the value it leaves behind, if it succeeds. -/
def result (x : Action σ ε α) (s : σ) : Except ε (α × σ) :=
  match x.exec s with
  | (.ok a, s') => .ok (a, s')
  | (.error e, _) => .error e

/-- A run that succeeds, as a pair. -/
theorem result_eq_ok {x : Action σ ε α} {s s' : σ} {a : α} :
    x.result s = .ok (a, s') ↔ x.exec s = (.ok a, s') := by
  unfold result
  rcases x.exec s with ⟨r, t⟩
  cases r <;> simp

/-- Run an action and drop its answer, a refusal included. -/
def ignore (x : Action σ ε α) : Action σ ε Unit :=
  ExceptT.mk fun s => (.ok (), (x.exec s).2)

@[simp] theorem exec_ignore (x : Action σ ε α) (s : σ) :
    x.ignore.exec s = (.ok (), (x.exec s).2) := rfl

/-! ## What every statement respects

A preorder on states that each statement moves along, whatever it answers, is a
preorder the whole action moves along. -/

/-- From every state the action moves along the relation, also when it refuses. -/
def Moves (R : σ → σ → Prop) (x : Action σ ε α) : Prop := ∀ s, R s (x.exec s).2

section Moves

variable {R : σ → σ → Prop}

/-- An answer moves nothing. -/
theorem Moves.pure [Std.Refl R] (a : α) : (pure a : Action σ ε α).Moves R :=
  fun s => Std.Refl.refl s

/-- A failure moves nothing. -/
theorem Moves.throw [Std.Refl R] (e : ε) : (throw e : Action σ ε α).Moves R :=
  fun s => Std.Refl.refl s

/-- A look at the state moves nothing. -/
theorem Moves.get [Std.Refl R] : (get : Action σ ε σ).Moves R := fun s => Std.Refl.refl s

/-- A check moves nothing. -/
theorem Moves.throwIf [Std.Refl R] (p : Prop) [Decidable p] (e : ε) :
    (throwIf p e : Action σ ε Unit).Moves R := by
  intro s
  rw [exec_throwIf]
  exact Std.Refl.refl s

/-- A step without a state moves nothing. -/
theorem Moves.liftM [Std.Refl R] (r : Except ε α) : (liftM r : Action σ ε α).Moves R :=
  fun s => Std.Refl.refl s

/-- A change moves the state if every state is moved by it. -/
theorem Moves.modify {f : σ → σ} (h : ∀ s, R s (f s)) : (modify f : Action σ ε PUnit).Moves R := h

/-- A sequence moves as its parts do, whatever the first one answers. -/
theorem Moves.bind [IsTrans σ R] {x : Action σ ε α} {f : α → Action σ ε β} (hx : x.Moves R)
    (hf : ∀ a, (f a).Moves R) : (x >>= f).Moves R := by
  intro s
  rw [exec_bind]
  have hs := hx s
  rcases hexec : x.exec s with ⟨r, s'⟩
  rw [hexec] at hs
  cases r with
  | error e => exact hs
  | ok a => exact IsTrans.trans _ _ _ hs (hf a s')

/-- What follows a check may rely on it. -/
theorem Moves.bind_liftM [Std.Refl R] {r : Except ε α} {f : α → Action σ ε β}
    (hf : ∀ a, r = .ok a → (f a).Moves R) : (Bind.bind (MonadLift.monadLift r) f).Moves R := by
  intro s
  cases r with
  | error e => exact Std.Refl.refl s
  | ok a => exact hf a rfl s

/-- A branch moves as either side does. -/
theorem Moves.ite {p : Prop} [Decidable p] {x y : Action σ ε α} (hx : x.Moves R)
    (hy : y.Moves R) : (if p then x else y).Moves R := by
  split
  · exact hx
  · exact hy

/-- A relation may be known to be wider than it is. -/
theorem Moves.mono {R' : σ → σ → Prop} {x : Action σ ε α} (hx : x.Moves R)
    (h : ∀ s t, R s t → R' s t) : x.Moves R' := fun s => h _ _ (hx s)

/-- An answer that is dropped changes nothing. -/
theorem Moves.ignore {x : Action σ ε α} (hx : x.Moves R) : x.ignore.Moves R := hx

end Moves

/-! ## What no statement can tell apart

A relation between states that the statements of an action neither see nor break is one the
whole action neither sees nor breaks: run from related states it gives the same answer. -/

/-- From related states the action answers alike, and leaves related states behind. -/
def Respects (Q : σ → σ → Prop) (x : Action σ ε α) : Prop :=
  ∀ s t, Q s t → (x.exec s).1 = (x.exec t).1 ∧ Q (x.exec s).2 (x.exec t).2

section Respects

variable {Q : σ → σ → Prop}

/-- An answer is the same from both states. -/
theorem Respects.pure (a : α) : (pure a : Action σ ε α).Respects Q := fun _ _ h => ⟨rfl, h⟩

/-- A failure is the same from both states. -/
theorem Respects.throw (e : ε) : (throw e : Action σ ε α).Respects Q := fun _ _ h => ⟨rfl, h⟩

/-- A step without a state is the same from both states. -/
theorem Respects.liftM (r : Except ε α) : (liftM r : Action σ ε α).Respects Q :=
  fun _ _ h => ⟨rfl, h⟩

/-- A check that does not look at the state is the same from both. -/
theorem Respects.throwIf (p : Prop) [Decidable p] (e : ε) :
    (throwIf p e : Action σ ε Unit).Respects Q := by
  intro s t h
  rw [exec_throwIf, exec_throwIf]
  exact ⟨rfl, h⟩

/-- A change keeps states related if it keeps every pair related. -/
theorem Respects.modify {f : σ → σ} (h : ∀ s t, Q s t → Q (f s) (f t)) :
    (modify f : Action σ ε PUnit).Respects Q := fun s t hst => ⟨rfl, h s t hst⟩

/-- A sequence answers the same if its parts do: the first answers the same value to both. -/
theorem Respects.bind {x : Action σ ε α} {f : α → Action σ ε β} (hx : x.Respects Q)
    (hf : ∀ a, (f a).Respects Q) : (x >>= f).Respects Q := by
  intro s t hst
  obtain ⟨hanswer, hrest⟩ := hx s t hst
  rw [exec_bind, exec_bind]
  rcases hs : x.exec s with ⟨r, s'⟩
  rcases ht : x.exec t with ⟨r', t'⟩
  rw [hs, ht] at hanswer hrest
  obtain rfl : r = r' := hanswer
  cases r with
  | error e => exact ⟨rfl, hrest⟩
  | ok a => exact hf a s' t' hrest

/-- A statement that looks at the state must not see what the relation leaves open. -/
theorem Respects.get_bind {f : σ → Action σ ε β} (hsame : ∀ s t, Q s t → f s = f t)
    (hf : ∀ s, (f s).Respects Q) : (get >>= f).Respects Q := by
  intro s t hst
  rw [exec_bind_of_ok (exec_get s), exec_bind_of_ok (exec_get t), ← hsame s t hst]
  exact hf s s t hst

/-- A branch on something that does not depend on the state. -/
theorem Respects.ite {p : Prop} [Decidable p] {x y : Action σ ε α} (hx : x.Respects Q)
    (hy : y.Respects Q) : (if p then x else y).Respects Q := by
  split
  · exact hx
  · exact hy

/-- What is made of an answer is the same from both states. -/
theorem Respects.map {x : Action σ ε α} (f : α → β) (hx : x.Respects Q) : (f <$> x).Respects Q := by
  intro s t hst
  obtain ⟨hanswer, hrest⟩ := hx s t hst
  rw [exec_map, exec_map, hanswer]
  exact ⟨rfl, hrest⟩

/-- An answer that is dropped is no longer seen. -/
theorem Respects.ignore {x : Action σ ε α} (hx : x.Respects Q) : x.ignore.Respects Q :=
  fun s t hst => ⟨rfl, (hx s t hst).2⟩

end Respects

end Action

end Lib
