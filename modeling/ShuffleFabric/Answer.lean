import ShuffleFabric.Frame

/-!
# ShuffleFabric.Answer

What a retransmission is answered with.

Every reply is cached under the number of its frame, a refusal of the guard as well as an
answer of `handle`, and a duplicate gets the first cached reply with its number.  A number
that was refused and is admitted later is answered with the old refusal from then on.
-/

namespace ShuffleFabric

open Lib

namespace Session

variable {σ : Type}

section Retransmission

variable (handle : σ → Frame → (MessageType × Bytes) × σ) (limits : Limits)
  (wireId : σ → SessionId)

/-- One frame of a session whose answers are framed by `encode_frame`. -/
abbrev step (s : Session σ) (a : Arrival) : Served × Session σ :=
  serve handle (frameAnswer limits wireId) s a

/-- The reply of that step. -/
abbrev reply (s : Session σ) (a : Arrival) : Option Bytes :=
  s.replyTo handle (frameAnswer limits wireId) a

/-- A frame that refuses a duplicate whose answer is gone. -/
def IsDuplicateRefusal (sequence : UInt64) (frame : Bytes) : Prop :=
  ∃ session, encodeFrame (answerHeader session .errorResponse sequence) (duplicateRefusal limits)
    limits = .ok frame

/-- The guard still holds the number. -/
def Holds (g : ReplayGuard) (sequence : UInt64) : Prop :=
  sequence = g.highest ∨ sequence ∈ g.recentSet

instance (g : ReplayGuard) (sequence : UInt64) : Decidable (Holds g sequence) :=
  inferInstanceAs (Decidable (_ ∨ _))

/-- A reply to the number is cached, and stays cached when one more is. -/
def Cached (s : Session σ) (sequence : UInt64) : Prop :=
  ∃ entry ∈ s.answers.drop (s.answers.length + 1 - kAnswerCacheEntries), entry.1 = sequence

instance (s : Session σ) (sequence : UInt64) : Decidable (s.Cached sequence) :=
  inferInstanceAs (Decidable (∃ entry ∈ _, _))

/-- What a frame has to meet: no refused reply to its number is cached when the number is
admitted; of a number that was admitted before, the guard still holds it, and if no reply to
it is cached any more, the refusal of a duplicate fits into a frame. -/
def Orderly (earlier : List (Event (Session σ) Arrival Served))
    (e : Event (Session σ) Arrival Served) : Prop :=
  e.before.ended = false →
    ((e.before.guard.accept e.input.frame.sequence).1 = .ok true →
      ¬e.before.Cached e.input.frame.sequence) ∧
    ((∃ e' ∈ earlier, e'.output = .applied ∧ e'.input.frame.sequence = e.input.frame.sequence) →
      Holds e.before.guard e.input.frame.sequence ∧
        (e.before.cachedAnswer e.input.frame.sequence = none →
          Fits e.before.limits (duplicateRefusal e.before.limits)))

instance (earlier : List (Event (Session σ) Arrival Served))
    (e : Event (Session σ) Arrival Served) : Decidable (Orderly earlier e) :=
  inferInstanceAs (Decidable (_ → _))

/-- The later of two frames with one number gets the reply of the first, or the refusal of a
duplicate. -/
def AnsweredAlike (e e' : Event (Session σ) Arrival Served) : Prop :=
  e.output = .applied → e'.input.frame.sequence = e.input.frame.sequence →
    e'.before.ended = false →
    ∃ first second, reply handle limits wireId e.before e.input = some first ∧
      reply handle limits wireId e'.before e'.input = some second ∧
      (second = first ∨ IsDuplicateRefusal limits e.input.frame.sequence second)

/-- What is cached for an admitted number: its reply, or refusals of duplicates. -/
def Kept (s : Session σ) (e : Event (Session σ) Arrival Served) : Prop :=
  ∃ first, reply handle limits wireId e.before e.input = some first ∧
    ∀ entry ∈ s.answers, entry.1 = e.input.frame.sequence →
      entry.2 = first ∨ IsDuplicateRefusal limits e.input.frame.sequence entry.2

variable {handle limits wireId}

/-- A number the guard holds is a duplicate. -/
theorem accept_of_holds {g : ReplayGuard} (hg : g.Coherent) {sequence : UInt64} (hne : sequence ≠ 0)
    (h : Holds g sequence) : g.accept sequence = (.ok false, g) := by
  have hle : sequence ≤ g.highest := by
    rcases h with rfl | hmem
    · exact UInt64.le_refl _
    · rw [hg.set, List.mem_toFinset] at hmem
      exact hg.bound sequence hmem
  have hhighest : g.highest ≠ 0 := by
    intro hzero
    rw [hzero] at hle
    exact hne (UInt64.le_antisymm hle (UInt64.zero_le))
  have hbelow : g.acceptBelow sequence = (.ok false, g) := by
    unfold ReplayGuard.acceptBelow
    exact if_pos h
  rw [ReplayGuard.accept, if_neg hne, if_pos ⟨hhighest, hle⟩, hbelow]

/-- A cached entry was cached before, or is the reply that was just remembered. -/
theorem mem_rememberAnswer {s : Session σ} {sequence : UInt64} {frame : Bytes}
    {entry : UInt64 × Bytes} (h : entry ∈ (s.rememberAnswer sequence frame).answers) :
    entry ∈ s.answers.drop (s.answers.length + 1 - kAnswerCacheEntries) ∨
      entry = (sequence, frame) := by
  simp only [rememberAnswer, List.length_append, List.length_cons, List.length_nil,
    Nat.zero_add] at h
  have hle : s.answers.length + 1 - kAnswerCacheEntries ≤ s.answers.length := by
    simp only [kAnswerCacheEntries]
    omega
  rw [List.drop_append_of_le_length hle] at h
  simpa using h

/-- A step leaves the ended sessions ended. -/
theorem not_ended_of_step {s : Session σ} {a : Arrival}
    (h : (step handle limits wireId s a).2.ended = false) : s.ended = false := by
  by_contra hended
  rw [Bool.not_eq_false] at hended
  rw [step, serve_of_ended s a hended, hended] at h
  cases h

theorem limits_step (s : Session σ) (a : Arrival) :
    (step handle limits wireId s a).2.limits = s.limits := by
  have hrespond : ∀ (s : Session σ) (type : MessageType) (answer : Bytes),
      (s.respond (frameAnswer limits wireId) a type answer).limits = s.limits := by
    intro s type answer
    rw [respond_eq]
    split <;> rfl
  unfold step serve
  split
  · rfl
  · split
    · exact hrespond _ _ _
    · simp only
      split
      · exact hrespond _ _ _
      · rfl
    · exact hrespond _ _ _

/-- The reply to a duplicate: the first cached one, or the refusal. -/
theorem reply_of_duplicate {s : Session σ} {a : Arrival} (hopen : s.ended = false)
    (hlimits : s.limits = limits) (hne : a.frame.sequence ≠ 0)
    (hfits : s.cachedAnswer a.frame.sequence = none → Fits s.limits (duplicateRefusal s.limits))
    (h : (s.guard.accept a.frame.sequence).1 = .ok false) :
    (∃ entry ∈ s.answers, entry.1 = a.frame.sequence ∧
        reply handle limits wireId s a = some entry.2 ∧
        (step handle limits wireId s a).2.answers = s.answers) ∨
      ∃ refusal, reply handle limits wireId s a = some refusal ∧
        IsDuplicateRefusal limits a.frame.sequence refusal := by
  unfold reply replyTo
  rw [if_neg (by simp [hopen]), h]
  simp only
  cases hcached : s.cachedAnswer a.frame.sequence with
  | some cached =>
      left
      obtain ⟨entry, hfind, rfl⟩ := Option.map_eq_some_iff.mp hcached
      refine ⟨entry, List.mem_of_find?_eq_some hfind, ?_, rfl, ?_⟩
      · simpa using List.find?_some hfind
      · rw [step, serve_answers handle _ s a hopen, if_pos ⟨h, by rw [hcached]; rfl⟩]
  | none =>
      right
      simp only
      obtain ⟨refusal, hencode⟩ := (encodeFrame_answer (wireId s.app) .errorResponse
        a.frame.sequence (duplicateRefusal limits) limits).mpr ⟨hne, hlimits ▸ hfits hcached⟩
      refine ⟨refusal, ?_, wireId s.app, hencode⟩
      simp only [framed, frameAnswer, hlimits, hencode]

/-- The invariant of a session: what it knows of the numbers it admitted. -/
structure Remembers (handle : σ → Frame → (MessageType × Bytes) × σ) (limits : Limits)
    (wireId : σ → SessionId) (events : List (Event (Session σ) Arrival Served)) (s : Session σ) :
    Prop where
  coherent : s.guard.Coherent
  bounds : s.limits = limits
  applied : ∀ e ∈ events, e.output = .applied →
    e.input.frame.sequence ≠ 0 ∧ (s.ended = false → s.Kept handle limits wireId e)

theorem coherent_step {s : Session σ} (h : s.guard.Coherent) (a : Arrival) :
    (step handle limits wireId s a).2.guard.Coherent := by
  cases hended : s.ended with
  | true =>
      rw [step, serve_of_ended s a hended]
      exact h
  | false =>
      rw [step, (serve_spec handle _ s a hended).1]
      exact h.accept _

/-- Of the replies the later frames get, none displaces that of an admitted number. -/
theorem kept_step {s : Session σ} {a : Arrival} {e : Event (Session σ) Arrival Served}
    (hopen : s.ended = false) (hcoherent : s.guard.Coherent) (hlimits : s.limits = limits)
    (hne : e.input.frame.sequence ≠ 0)
    (hholds : e.input.frame.sequence = a.frame.sequence → Holds s.guard a.frame.sequence ∧
      (s.cachedAnswer a.frame.sequence = none → Fits s.limits (duplicateRefusal s.limits)))
    (h : s.Kept handle limits wireId e) :
    (step handle limits wireId s a).2.Kept handle limits wireId e := by
  obtain ⟨first, hfirst, hkept⟩ := h
  refine ⟨first, hfirst, ?_⟩
  intro entry hentry hsequence
  by_cases hsame : e.input.frame.sequence = a.frame.sequence
  · obtain ⟨hheld, hfits⟩ := hholds hsame
    have haccept := accept_of_holds hcoherent (hsame ▸ hne) hheld
    rcases reply_of_duplicate hopen hlimits (hsame ▸ hne) hfits
      (congrArg Prod.fst haccept) with ⟨-, -, -, -, hanswers⟩ | ⟨refusal, hreply, hrefusal⟩
    · rw [hanswers] at hentry
      exact hkept entry hentry hsequence
    · rw [step, serve_answers handle _ s a hopen] at hentry
      split at hentry
      · exact hkept entry hentry hsequence
      · rw [show s.replyTo handle (frameAnswer limits wireId) a = some refusal from hreply] at hentry
        rcases mem_rememberAnswer hentry with hold | rfl
        · exact hkept entry (List.mem_of_mem_drop hold) hsequence
        · right
          rw [hsame]
          exact hrefusal
  · rw [step, serve_answers handle _ s a hopen] at hentry
    split at hentry
    · exact hkept entry hentry hsequence
    · split at hentry
      · rcases mem_rememberAnswer hentry with hold | rfl
        · exact hkept entry (List.mem_of_mem_drop hold) hsequence
        · exact absurd hsequence.symm hsame
      · exact hkept entry hentry hsequence

/-- A number that is admitted while no reply to it is cached is cached with its own reply. -/
theorem kept_of_applied {s : Session σ} {a : Arrival} (hopen : s.ended = false)
    (hadmitted : (s.guard.accept a.frame.sequence).1 = .ok true)
    (hfresh : ¬s.Cached a.frame.sequence)
    (hafter : (step handle limits wireId s a).2.ended = false) :
    (step handle limits wireId s a).2.Kept handle limits wireId
      (happen (step handle limits wireId) s a) := by
  have hanswers := serve_answers handle (frameAnswer limits wireId) s a hopen
  rw [if_neg (by simp [hadmitted])] at hanswers
  cases hreply : s.replyTo handle (frameAnswer limits wireId) a with
  | none =>
      -- a frame without a reply ends the session
      exfalso
      unfold replyTo at hreply
      rw [if_neg (by simp [hopen]), hadmitted] at hreply
      revert hafter
      unfold step serve
      rw [if_neg (by simp [hopen])]
      rcases hguard : s.guard.accept a.frame.sequence with ⟨answer, guard⟩
      rw [hguard] at hadmitted
      obtain rfl : answer = .ok true := hadmitted
      simp only
      rw [respond_eq]
      simp only at hreply
      have hframed : ({ s with guard, app := (handle s.app a.frame).2 } : Session σ).framed
          (frameAnswer limits wireId) a.frame.sequence (handle s.app a.frame).1.1
          (handle s.app a.frame).1.2 = none := hreply
      rw [hframed]
      simp
  | some first =>
      rw [hreply] at hanswers
      refine ⟨first, hreply, fun entry hentry hsequence => .inl ?_⟩
      rw [step, hanswers] at hentry
      rcases mem_rememberAnswer hentry with hold | rfl
      · exact absurd ⟨entry, hold, hsequence⟩ hfresh
      · rfl

theorem Remembers.snoc {events : List (Event (Session σ) Arrival Served)} {s : Session σ}
    (h : Remembers handle limits wireId events s) {a : Arrival}
    (horderly : Orderly events (happen (step handle limits wireId) s a)) :
    Remembers handle limits wireId (events ++ [happen (step handle limits wireId) s a])
      (step handle limits wireId s a).2 := by
  refine ⟨coherent_step h.coherent a, (limits_step s a).trans h.bounds, ?_⟩
  intro e he happlied
  rcases List.mem_append.mp he with hold | hnew
  · obtain ⟨hne, hkept⟩ := h.applied e hold happlied
    refine ⟨hne, fun hafter => ?_⟩
    have hopen := not_ended_of_step hafter
    refine kept_step hopen h.coherent h.bounds hne (fun hsame => ?_) (hkept hopen)
    exact (horderly hopen).2 ⟨e, hold, happlied, hsame⟩
  · obtain rfl := List.mem_singleton.mp hnew
    have hopen : s.ended = false := by
      by_contra hended
      rw [Bool.not_eq_false] at hended
      have houtput : (step handle limits wireId s a).1 = .applied := happlied
      rw [step, serve_of_ended s a hended] at houtput
      cases houtput
    have hadmitted := (serve_spec handle (frameAnswer limits wireId) s a hopen).2.1.mp happlied
    exact ⟨ne_zero_of_accept hadmitted, fun hafter =>
      kept_of_applied hopen hadmitted ((horderly hopen).1 hadmitted) hafter⟩

theorem Remembers.answered {events : List (Event (Session σ) Arrival Served)} {s : Session σ}
    (h : Remembers handle limits wireId events s) {a : Arrival}
    (horderly : Orderly events (happen (step handle limits wireId) s a))
    {e : Event (Session σ) Arrival Served} (he : e ∈ events) :
    AnsweredAlike handle limits wireId e (happen (step handle limits wireId) s a) := by
  intro happlied hsame hopen
  obtain ⟨hne, hkept⟩ := h.applied e he happlied
  obtain ⟨first, hfirst, hentries⟩ := hkept hopen
  have hsame : a.frame.sequence = e.input.frame.sequence := hsame
  obtain ⟨hholds, hfits⟩ := (horderly hopen).2 ⟨e, he, happlied, hsame.symm⟩
  have haccept := accept_of_holds h.coherent (hsame ▸ hne) hholds
  rcases reply_of_duplicate hopen h.bounds (hsame ▸ hne) hfits (congrArg Prod.fst haccept) with
    ⟨entry, hentry, hnumber, hreply, -⟩ | ⟨refusal, hreply, hrefusal⟩
  · exact ⟨first, entry.2, hfirst, hreply, hentries entry hentry (hnumber.trans hsame)⟩
  · exact ⟨first, refusal, hfirst, hreply, .inr (hsame ▸ hrefusal)⟩

variable (handle limits wireId) in
/-- If a number is only admitted while no reply to it is cached, and the guard still holds a
number that comes again, then every retransmission gets the original reply or the refusal
of a duplicate, whatever `handle` answers; the refusal, where it is called for, has to fit. -/
theorem retransmission_answered (window : UInt64) (app : σ)
    {events : List (Event (Session σ) Arrival Served)} {s : Session σ}
    (serving : Run (step handle limits wireId) { guard := ReplayGuard.make window, limits, app }
      events s) (horderly : Along Orderly [] events) :
    events.Pairwise (AnsweredAlike handle limits wireId) := by
  suffices h : Remembers handle limits wireId events s ∧
      events.Pairwise (AnsweredAlike handle limits wireId) from h.2
  induction serving with
  | nil => exact ⟨⟨ReplayGuard.coherent_make window, rfl, by simp⟩, List.Pairwise.nil⟩
  | @snoc events s run a ih =>
      obtain ⟨hbefore, hlast⟩ := (along_snoc events _).mp horderly
      obtain ⟨hremembers, hpairs⟩ := ih hbefore
      refine ⟨hremembers.snoc hlast, ?_⟩
      rw [List.pairwise_append]
      refine ⟨hpairs, List.pairwise_singleton _ _, fun e he e' he' => ?_⟩
      obtain rfl := List.mem_singleton.mp he'
      exact hremembers.answered hlast he

end Retransmission

/-- A session that counts the frames it handles and answers with the count. -/
private def counting (n : Nat) (_ : Frame) : (MessageType × Bytes) × Nat :=
  ((.statusResponse, [UInt8.ofNat (n + 1)]), n + 1)

private def arrivals (sequences : List UInt64) : List Arrival :=
  sequences.map fun sequence => ⟨⟨.statusRequest, sequence, []⟩, true⟩

/-- Two numbers and the first of them again. -/
theorem retransmission_answered_small :
    (record (step counting {} fun _ => 7) { guard := ReplayGuard.make 3, limits := {}, app := 0 }
      (arrivals [1, 2, 1])).Pairwise (AnsweredAlike counting {} fun _ => 7) :=
  retransmission_answered counting {} (fun _ => 7) 3 0
    (Run.of_inputs _ _ (arrivals [1, 2, 1])) (by decide +kernel)

/-- 2^40 + 1 is too far ahead of 0 and refused; after 1 it is admitted and handled, and the
frame that repeats it is told that it is too far ahead. -/
theorem retransmission_refused :
    ¬∀ (handle : Nat → Frame → (MessageType × Bytes) × Nat) (limits : Limits)
      (wireId : Nat → SessionId) (window : UInt64) (app : Nat)
      (events : List (Event (Session Nat) Arrival Served)) (s : Session Nat),
      Fits limits (duplicateRefusal limits) →
      Run (step handle limits wireId) { guard := ReplayGuard.make window, limits, app } events s →
      events.Pairwise (AnsweredAlike handle limits wireId) := by
  intro h
  have hpairs := h counting {} (fun _ => 7) 1024 0 _ _ (by decide +kernel)
    (Run.of_inputs (step counting {} fun _ => 7)
      { guard := ReplayGuard.make 1024, limits := {}, app := 0 }
      (arrivals [0x10000000001, 1, 0x10000000001, 0x10000000001]))
  obtain ⟨first, second, hfirst, hsecond, halike⟩ :=
    (List.pairwise_cons.mp (List.pairwise_cons.mp (List.pairwise_cons.mp hpairs).2).2).1 _
      (List.mem_singleton_self _) (by decide +kernel) rfl (by decide +kernel)
  have hone : (some first).map List.length = some 41 := by
    rw [← hfirst]
    decide +kernel
  have htwo : (some second).map List.length = some 110 := by
    rw [← hsecond]
    decide +kernel
  simp only [Option.map_some, Option.some.injEq] at hone htwo
  rcases halike with rfl | ⟨session, hrefusal⟩
  · omega
  · have hlength := length_of_encodeFrame hrefusal
    rw [htwo] at hlength
    revert hlength
    decide +kernel

end Session

end ShuffleFabric
