import ShuffleFabric.Lib.Action

/-!
# ShuffleFabric.Lib.Volume

Files whose operations may fail, or be the last thing the process does.

A `Volume` holds the contents of the named files, the write position of the open
descriptor on each of them, and a list of `Answer`s: how the system will answer the
next operations.  An operation is carried out, is reported as failed after some of it
took effect, or the process stops in it; once the answers are used up everything is
carried out.  Quantifying over the answers quantifies over every pattern of failures
and every point of a crash.

`Ends x s Q` says that `Q` holds of the answer and of the state behind the action, and
is proved statement by statement.

Nothing here mentions the repository.
-/

namespace Lib

/-! ## Contents -/

/-- `ftruncate`: cut to a length, or fill up with zeros. -/
def resize (content : List UInt8) (length : Nat) : List UInt8 :=
  content.take length ++ List.replicate (length - content.length) 0

/-- `write` at a position: what lies between the end and the position reads as zeros. -/
def overwrite (content : List UInt8) (position : Nat) (data : List UInt8) : List UInt8 :=
  resize content position ++ data ++ content.drop (position + data.length)

@[simp] theorem length_resize (content : List UInt8) (length : Nat) :
    (resize content length).length = length := by
  simp only [resize, List.length_append, List.length_take, List.length_replicate]
  omega

@[simp] theorem resize_zero (content : List UInt8) : resize content 0 = [] := by
  simp [resize]

@[simp] theorem resize_length (content : List UInt8) : resize content content.length = content := by
  simp [resize]

/-- Cutting off what follows a given part. -/
theorem resize_append {content rest : List UInt8} {n : Nat} (h : n = content.length) :
    resize (content ++ rest) n = content := by
  subst h
  simp [resize]

/-- Writing at the end of a file appends to it. -/
theorem overwrite_length {content data : List UInt8} {n : Nat} (h : n = content.length) :
    overwrite content n data = content ++ data := by
  subst h
  simp [overwrite, List.drop_eq_nil_of_le]

/-! ## Volumes -/

/-- How the system answers one operation.  `part` is how many bytes of a write reached
the file; of any other operation 0 means that nothing happened. -/
inductive Answer where
  | done
  | failed (part : Nat)
  | stopped (part : Nat)
  deriving DecidableEq, Repr

/-- Why a computation over files ended early. -/
inductive Halt (ε : Type) where
  | refused (e : ε)
  | stopped
  deriving DecidableEq, Repr

/-- The answers hold one that explains an early end. -/
def Blamed {ε : Type} (answers : List Answer) : Halt ε → Prop
  | .refused _ => ∃ part, .failed part ∈ answers
  | .stopped => ∃ part, .stopped part ∈ answers

/-- A failure that one of the answers explains is explained by any that include it. -/
theorem Blamed.mono {ε : Type} {answers answers' : List Answer} (hsub : answers ⊆ answers')
    {halt : Halt ε} (h : Blamed answers halt) : Blamed answers' halt := by
  cases halt with
  | refused e =>
      obtain ⟨part, hpart⟩ := h
      exact ⟨part, hsub hpart⟩
  | stopped =>
      obtain ⟨part, hpart⟩ := h
      exact ⟨part, hsub hpart⟩

/-- Whether an operation is reported as failed. -/
def Answer.isFailed : Answer → Bool
  | .failed _ => true
  | _ => false

/-- No operation is reported as failed; the process may still stop. -/
def Faultless (answers : List Answer) : Prop := ∀ answer ∈ answers, answer.isFailed = false

instance (answers : List Answer) : Decidable (Faultless answers) :=
  inferInstanceAs (Decidable (∀ answer ∈ answers, answer.isFailed = false))

/-- Without a fault among the answers nothing is refused. -/
theorem Faultless.not_blamed {ε : Type} {answers : List Answer} (h : Faultless answers) (e : ε) :
    ¬Blamed answers (.refused e) := by
  rintro ⟨part, hpart⟩
  cases h _ hpart

/-- Named files, the position of the descriptor open on each, and the answers to come. -/
structure Volume (P : Type) where
  files : P → Option (List UInt8)
  cursors : P → Nat
  answers : List Answer

namespace Volume

variable {P ε : Type}

/-- The volume once the next answer is given. -/
def next (v : Volume P) : Volume P := { v with answers := v.answers.tail }

@[simp] theorem next_files (v : Volume P) : v.next.files = v.files := rfl
@[simp] theorem next_cursors (v : Volume P) : v.next.cursors = v.cursors := rfl

/-- One operation: what it does when it is carried out, and when it is cut short. -/
def operate (effect : Volume P → Volume P) (cut : Nat → Volume P → Volume P) (e : ε) :
    Action (Volume P) (Halt ε) Unit :=
  ExceptT.mk fun v =>
    match v.answers.headD .done with
    | .done => (.ok (), effect v.next)
    | .failed part => (.error (.refused e), cut part v.next)
    | .stopped part => (.error .stopped, cut part v.next)

/-- An operation that takes effect at once or not at all. -/
def atomic (effect : Volume P → Volume P) (e : ε) : Action (Volume P) (Halt ε) Unit :=
  operate effect (fun part v => if part = 0 then v else effect v) e

variable [DecidableEq P]

/-- Put a file into the volume. -/
def put (p : P) (content : List UInt8) (v : Volume P) : Volume P :=
  { v with files := Function.update v.files p (some content) }

/-- Move the descriptor of a file. -/
def point (p : P) (position : Nat) (v : Volume P) : Volume P :=
  { v with cursors := Function.update v.cursors p position }

/-- The bytes of a file; a file that does not exist has none. -/
def content (v : Volume P) (p : P) : List UInt8 := (v.files p).getD []

/-- Write at the descriptor and move it on. -/
def writeThrough (p : P) (data : List UInt8) (v : Volume P) : Volume P :=
  (v.put p (overwrite (v.content p) (v.cursors p) data)).point p (v.cursors p + data.length)

/-- `open(O_CREAT | O_TRUNC)`. -/
def create (p : P) (e : ε) : Action (Volume P) (Halt ε) Unit :=
  atomic (fun v => (v.put p []).point p 0) e

/-- `open(O_CREAT)`. -/
def openFile (p : P) (e : ε) : Action (Volume P) (Halt ε) Unit :=
  atomic (fun v => (v.put p (v.content p)).point p 0) e

/-- `write`, repeated until all of the data is written; nothing is called for no data. -/
def write (p : P) (data : List UInt8) (e : ε) : Action (Volume P) (Halt ε) Unit :=
  if data = [] then pure ()
  else operate (writeThrough p data) (fun part => writeThrough p (data.take part)) e

/-- `fsync`. -/
def flush (e : ε) : Action (Volume P) (Halt ε) Unit := atomic id e

/-- `ftruncate`. -/
def truncate (p : P) (length : Nat) (e : ε) : Action (Volume P) (Halt ε) Unit :=
  atomic (fun v => v.put p (resize (v.content p) length)) e

/-- `lseek(SEEK_SET)`. -/
def seek (p : P) (position : Nat) (e : ε) : Action (Volume P) (Halt ε) Unit :=
  atomic (point p position) e

/-- `rename`. -/
def rename (source destination : P) (e : ε) : Action (Volume P) (Halt ε) Unit :=
  atomic (fun v =>
    { v with
      files := Function.update (Function.update v.files destination (v.files source)) source none })
    e

/-- `remove`. -/
def remove (p : P) (e : ε) : Action (Volume P) (Halt ε) Unit :=
  atomic (fun v => { v with files := Function.update v.files p none }) e

@[simp] theorem put_files_self (p : P) (content : List UInt8) (v : Volume P) :
    (v.put p content).files p = some content := by
  simp [put]

@[simp] theorem put_files_of_ne {p q : P} (h : q ≠ p) (content : List UInt8) (v : Volume P) :
    (v.put p content).files q = v.files q := by
  simp [put, h]

@[simp] theorem put_cursors (p : P) (content : List UInt8) (v : Volume P) :
    (v.put p content).cursors = v.cursors := rfl

@[simp] theorem point_files (p : P) (position : Nat) (v : Volume P) :
    (v.point p position).files = v.files := rfl

@[simp] theorem point_cursors_self (p : P) (position : Nat) (v : Volume P) :
    (v.point p position).cursors p = position := by
  simp [point]

@[simp] theorem put_answers (p : P) (content : List UInt8) (v : Volume P) :
    (v.put p content).answers = v.answers := rfl

@[simp] theorem point_answers (p : P) (position : Nat) (v : Volume P) :
    (v.point p position).answers = v.answers := rfl

end Volume

namespace Action

/-! ## What an action ends with -/

variable {σ τ ε α β : Type}

/-- `Q` holds of the answer of the action and of the state it leaves. -/
def Ends (x : Action σ ε α) (s : σ) (Q : Except ε α → σ → Prop) : Prop :=
  Q (x.exec s).1 (x.exec s).2

/-- A step that answers without doing anything. -/
theorem Ends.pure {a : α} {s : σ} {Q : Except ε α → σ → Prop} (h : Q (.ok a) s) :
    (pure a : Action σ ε α).Ends s Q := h

/-- A step that fails without doing anything. -/
theorem Ends.throw {e : ε} {s : σ} {Q : Except ε α → σ → Prop} (h : Q (.error e) s) :
    (throw e : Action σ ε α).Ends s Q := h

/-- A change of the state. -/
theorem Ends.modify {f : σ → σ} {s : σ} {Q : Except ε PUnit → σ → Prop} (h : Q (.ok ⟨⟩) (f s)) :
    (modify f : Action σ ε PUnit).Ends s Q := h

/-- A computation that reads its state first. -/
theorem Ends.get_bind {f : σ → Action σ ε α} {s : σ} {Q : Except ε α → σ → Prop}
    (h : (f s).Ends s Q) : (get >>= f).Ends s Q := h

/-- The rule for a sequence, with what is known between its parts. -/
theorem Ends.bind {x : Action σ ε α} {f : α → Action σ ε β} {s : σ}
    {Q : Except ε β → σ → Prop} {R : Except ε α → σ → Prop} (hx : x.Ends s R)
    (hok : ∀ a t, R (.ok a) t → (f a).Ends t Q) (herror : ∀ e t, R (.error e) t → Q (.error e) t) :
    (x >>= f).Ends s Q := by
  unfold Ends at hx ⊢
  rw [exec_bind]
  rcases hexec : x.exec s with ⟨r, t⟩
  rw [hexec] at hx
  cases r with
  | error e => exact herror e t hx
  | ok a => exact hok a t hx

/-- What is known of the outcome may be less than what holds. -/
theorem Ends.mono {x : Action σ ε α} {s : σ} {Q R : Except ε α → σ → Prop} (hx : x.Ends s R)
    (h : ∀ r t, R r t → Q r t) : x.Ends s Q := h _ _ hx

/-! ## Acting on a part of the state, and going on after a refusal -/

/-- A statement that is skipped unless a condition holds. -/
def runIf (p : Prop) [Decidable p] (x : Action σ ε Unit) : Action σ ε Unit :=
  if p then x else Pure.pure ()

/-- A step that is taken under a condition. -/
theorem Ends.runIf {p : Prop} [Decidable p] {x : Action σ ε Unit} {s : σ}
    {Q : Except ε Unit → σ → Prop} (hx : p → x.Ends s Q) (hskip : ¬p → Q (.ok ()) s) :
    (runIf p x).Ends s Q := by
  by_cases h : p
  · rw [Action.runIf, if_pos h]
    exact hx h
  · rw [Action.runIf, if_neg h]
    exact hskip h

/-- Run an action on a part of the state. -/
def zoom (view : σ → τ) (update : τ → σ → σ) (x : Action τ ε α) : Action σ ε α :=
  ExceptT.mk fun s => ((x.exec (view s)).1, update (x.exec (view s)).2 s)

/-- A step on a part of the state. -/
theorem Ends.zoom {view : σ → τ} {update : τ → σ → σ} {x : Action τ ε α} {s : σ}
    {Q : Except ε α → σ → Prop} (h : x.Ends (view s) fun r t => Q r (update t s)) :
    (zoom view update x).Ends s Q := h

/-- Go on after a refusal; a stopped process does not get there. -/
def onRefusal (x : Action σ (Halt ε) α) (f : ε → Action σ (Halt ε) α) : Action σ (Halt ε) α :=
  ExceptT.mk fun s =>
    match x.exec s with
    | (.error (.refused e), t) => (f e).exec t
    | (r, t) => (r, t)

/-- A refusal is handed on; an interruption is not, for nothing runs behind it. -/
theorem exec_onRefusal (x : Action σ (Halt ε) α) (f : ε → Action σ (Halt ε) α) (s : σ) :
    (x.onRefusal f).exec s =
      match x.exec s with
      | (.error (.refused e), t) => (f e).exec t
      | (r, t) => (r, t) := rfl

/-- The rule for a step with a handler. -/
theorem Ends.onRefusal {x : Action σ (Halt ε) α} {f : ε → Action σ (Halt ε) α} {s : σ}
    {Q R : Except (Halt ε) α → σ → Prop} (hx : x.Ends s R)
    (hok : ∀ a t, R (.ok a) t → Q (.ok a) t)
    (hrefused : ∀ e t, R (.error (.refused e)) t → (f e).Ends t Q)
    (hstopped : ∀ t, R (.error .stopped) t → Q (.error .stopped) t) : (x.onRefusal f).Ends s Q := by
  unfold Ends at hx ⊢
  rw [exec_onRefusal]
  rcases hexec : x.exec s with ⟨r, t⟩
  rw [hexec] at hx
  cases r with
  | ok a => exact hok a t hx
  | error e =>
      cases e with
      | refused e => exact hrefused e t hx
      | stopped => exact hstopped t hx

/-! ## File operations -/

section Volume

variable {P : Type} {v : Volume P} {e : ε} {Q : Except (Halt ε) Unit → Volume P → Prop}

/-- Once the answers are used up every operation is carried out. -/
theorem exec_operate {v : Volume P} (h : v.answers = [])
    (effect : Volume P → Volume P) (cut : Nat → Volume P → Volume P) (e : ε) :
    (Volume.operate effect cut e).exec v = (.ok (), effect v) := by
  obtain ⟨files, cursors, answers⟩ := v
  subst h
  rfl

/-- An operation ends early only if an answer says so. -/
theorem Ends.operate {effect : Volume P → Volume P} {cut : Nat → Volume P → Volume P}
    (hok : Q (.ok ()) (effect v.next))
    (hcut : ∀ part halt, Blamed v.answers halt → Q (.error halt) (cut part v.next)) :
    (Volume.operate effect cut e).Ends v Q := by
  have hexec : (Volume.operate effect cut e).exec v =
      match v.answers.headD .done with
      | .done => (.ok (), effect v.next)
      | .failed part => (.error (.refused e), cut part v.next)
      | .stopped part => (.error .stopped, cut part v.next) := rfl
  unfold Ends
  rw [hexec]
  cases hanswers : v.answers with
  | nil => exact hok
  | cons answer rest =>
      cases answer with
      | done => exact hok
      | failed part =>
          have hblamed : Blamed v.answers (.refused e) := ⟨part, by simp [hanswers]⟩
          exact hcut part _ hblamed
      | stopped part =>
          have hblamed : Blamed v.answers (.stopped : Halt ε) := ⟨part, by simp [hanswers]⟩
          exact hcut part _ hblamed

/-- Whatever the answer, an atomic operation took effect or it did not. -/
theorem Ends.atomic {effect : Volume P → Volume P} (hok : Q (.ok ()) (effect v.next))
    (hcut : ∀ halt, Blamed v.answers halt →
      Q (.error halt) v.next ∧ Q (.error halt) (effect v.next)) :
    (Volume.atomic effect e).Ends v Q := by
  refine Ends.operate hok fun part halt hblamed => ?_
  by_cases h : part = 0
  · simpa [h] using (hcut halt hblamed).1
  · simpa [h] using (hcut halt hblamed).2

end Volume

end Action

end Lib
