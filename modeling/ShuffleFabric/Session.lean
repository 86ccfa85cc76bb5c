import ShuffleFabric.Codec
import ShuffleFabric.Lib.Run
import ShuffleFabric.Lib.Sorted

/-!
# ShuffleFabric.Session

Replay suppression and the frame loop of one server session: `ReplayGuard`
(`frame.hpp`, `frame.cpp`) and `CoordinatorServer::Impl::serve` (`service.cpp`).

The guard remembers the last `window` sequence numbers it admitted, in the order it
admitted them, and the highest of all.  What has left the ring is told from a new
number only by being smaller than the front of the ring.
-/

namespace ShuffleFabric

open Lib

/-! ## The guard -/

/-- `class ReplayGuard`. -/
structure ReplayGuard where
  recent : List UInt64 := []
  recentSet : Finset UInt64 := ∅
  highest : UInt64 := 0
  window : UInt64
  deriving DecidableEq

namespace ReplayGuard

/-- `kMaxReplayWindow`. -/
def kMaxReplayWindow : UInt64 := 0x10000

/-- `kMaxForwardJump`. -/
def kMaxForwardJump : UInt64 := 0x10000000000

/-- The constructor. -/
def make (window : UInt64) : ReplayGuard where
  window := if window < kMaxReplayWindow then window else kMaxReplayWindow

/-- `while (recent_.size() > window_)`. -/
def evict (window : Nat) : List UInt64 → Finset UInt64 → List UInt64 × Finset UInt64
  | [], set => ([], set)
  | front :: rest, set =>
    if rest.length + 1 > window then evict window rest (set.erase front) else (front :: rest, set)

/-- `ReplayGuard::remember`. -/
def remember (g : ReplayGuard) (sequence : UInt64) : ReplayGuard :=
  let (recent, recentSet) :=
    evict g.window.toNat (g.recent ++ [sequence]) (insert sequence g.recentSet)
  { g with recent, recentSet }

/-- `ReplayGuard::accept` for a number that is not above the highest one. -/
def acceptBelow (g : ReplayGuard) (sequence : UInt64) : Result Bool × ReplayGuard :=
  if sequence = g.highest ∨ sequence ∈ g.recentSet then (.ok false, g)
  else if g.recent.head?.all (sequence < ·) then
    (makeFailure .sequenceViolation
      "sequence fell out of the retained replay window and was never accepted", g)
  else (.ok true, g.remember sequence)

/-- `ReplayGuard::accept`. -/
def accept (g : ReplayGuard) (sequence : UInt64) : Result Bool × ReplayGuard :=
  if sequence = 0 then (makeFailure .sequenceViolation "wire sequences start at 1", g)
  else if g.highest ≠ 0 ∧ sequence ≤ g.highest then g.acceptBelow sequence
  else if sequence - g.highest > kMaxForwardJump then
    (makeFailure .malformedInput
      "sequence jumps more than 2^40 past the highest accepted sequence", g)
  else (.ok true, ({ g with highest := sequence }).remember sequence)

/-- The guard refuses the number: it lies below the front of the ring, or too far ahead. -/
def OutOfReach (g : ReplayGuard) (sequence : UInt64) : Prop :=
  g.recent.head?.any (sequence < ·) ∨
    (g.highest < sequence ∧ sequence - g.highest > kMaxForwardJump)

instance (g : ReplayGuard) (sequence : UInt64) : Decidable (g.OutOfReach sequence) :=
  inferInstanceAs (Decidable (_ ∨ _))

/-- The ring has room, or its front is its least number. -/
def EvictsOldest (g : ReplayGuard) : Prop :=
  g.recent.length < g.window.toNat ∨
    g.recent.tail.all fun number => g.recent.head?.all (· < number)

instance (g : ReplayGuard) : Decidable g.EvictsOldest :=
  inferInstanceAs (Decidable (_ ∨ _))

/-- A full ring gives up its front.  The front is also the least number of the ring
unless a number was admitted out of order; a retained number is not stored again, and
neither is one out of reach. -/
def FrontIsOldest (g : ReplayGuard) (sequence : UInt64) : Prop :=
  sequence ∈ g.recent ∨ g.OutOfReach sequence ∨ g.EvictsOldest

instance (g : ReplayGuard) (sequence : UInt64) : Decidable (g.FrontIsOldest sequence) :=
  inferInstanceAs (Decidable (_ ∨ _ ∨ _))

/-! ### What a reachable guard knows -/

/-- The ring and the set hold the same numbers, none above the highest. -/
structure Coherent (g : ReplayGuard) : Prop where
  set : g.recentSet = g.recent.toFinset
  nodup : g.recent.Nodup
  bound : ∀ number ∈ g.recent, number ≤ g.highest
  room : g.recent.length ≤ g.window.toNat

/-- The guard can tell that the number was used: it is retained, or it lies below
everything retained. -/
def Knows (g : ReplayGuard) (sequence : UInt64) : Prop :=
  sequence ≤ g.highest ∧ (sequence ∈ g.recent ∨ ∀ number ∈ g.recent, sequence < number)

theorem coherent_make (window : UInt64) : (make window).Coherent :=
  ⟨rfl, List.nodup_nil, by simp [make], by simp [make]⟩

/-- A ring with room for everything keeps everything. -/
theorem evict_of_le {window : Nat} {ring : List UInt64} {set : Finset UInt64}
    (h : ring.length ≤ window) : evict window ring set = (ring, set) := by
  cases ring with
  | nil => rfl
  | cons front rest =>
      have h' : ¬rest.length + 1 > window := by simpa using h
      simp only [evict, if_neg h']

/-- Where the ring was full, exactly one number leaves it. -/
theorem remember_cases {g : ReplayGuard} (h : g.Coherent) (sequence : UInt64) :
    (g.recent.length < g.window.toNat ∧
      g.remember sequence = { g with
        recent := g.recent ++ [sequence], recentSet := insert sequence g.recentSet }) ∨
    (∃ front rest, g.recent ++ [sequence] = front :: rest ∧ rest.length = g.window.toNat ∧
      g.remember sequence = { g with
        recent := rest, recentSet := (insert sequence g.recentSet).erase front }) := by
  have hroom := h.room
  rcases Nat.lt_or_ge g.recent.length g.window.toNat with hlt | hge
  · left
    refine ⟨hlt, ?_⟩
    rw [remember, evict_of_le (by simpa using hlt)]
  · right
    obtain ⟨front, rest, hring⟩ : ∃ front rest, g.recent ++ [sequence] = front :: rest := by
      cases hr : g.recent with
      | nil => exact ⟨sequence, [], rfl⟩
      | cons front rest => exact ⟨front, rest ++ [sequence], rfl⟩
    have hlen : rest.length = g.window.toNat := by
      have := congrArg List.length hring
      simp only [List.length_append, List.length_cons, List.length_nil] at this
      omega
    refine ⟨front, rest, hring, hlen, ?_⟩
    have hfull : rest.length + 1 > g.window.toNat := by omega
    rw [remember, hring]
    simp only [evict, if_pos hfull]
    rw [evict_of_le (by omega)]

/-- Storing a new number keeps the ring and the set together. -/
theorem Coherent.remember {g : ReplayGuard} (h : g.Coherent) {sequence : UInt64}
    (hnew : sequence ∉ g.recent) (hle : sequence ≤ g.highest) :
    (g.remember sequence).Coherent := by
  have hnodup : (g.recent ++ [sequence]).Nodup := by
    rw [List.nodup_append]
    refine ⟨h.nodup, List.nodup_singleton _, ?_⟩
    rintro a ha b hb rfl
    rw [List.mem_singleton.mp hb] at ha
    exact hnew ha
  have hbound : ∀ number ∈ g.recent ++ [sequence], number ≤ g.highest := by
    intro number hnumber
    rcases List.mem_append.mp hnumber with hn | hn
    · exact h.bound number hn
    · rw [List.mem_singleton.mp hn]
      exact hle
  have hset : insert sequence g.recentSet = (g.recent ++ [sequence]).toFinset := by
    rw [h.set]
    ext number
    simp
  rcases remember_cases h sequence with ⟨hlt, heq⟩ | ⟨front, rest, hring, hlen, heq⟩
  · rw [heq]
    exact ⟨hset, hnodup, hbound, by simpa using hlt⟩
  · rw [heq]
    rw [hring] at hset hnodup hbound
    refine ⟨?_, (List.nodup_cons.mp hnodup).2,
      fun number hn => hbound number (List.mem_cons_of_mem _ hn), le_of_eq hlen⟩
    have hfront : front ∉ rest := (List.nodup_cons.mp hnodup).1
    rw [hset, List.toFinset_cons, Finset.erase_insert (by simpa using hfront)]

/-- If a full ring gives up its least number, nothing the guard knows is forgotten. -/
theorem Knows.remember {g : ReplayGuard} (h : g.Coherent) {sequence number : UInt64}
    (hfront : g.EvictsOldest) (habove : ∀ front ∈ g.recent.head?, front < sequence)
    (hknows : g.Knows number)
    (hsep : number ∉ g.recent → number < sequence) : (g.remember sequence).Knows number := by
  obtain ⟨hle, hmem⟩ := hknows
  rcases remember_cases h sequence with ⟨hlt, heq⟩ | ⟨front, rest, hring, hlen, heq⟩
  · rw [heq]
    refine ⟨hle, ?_⟩
    by_cases hin : number ∈ g.recent
    · exact .inl (List.mem_append_left _ hin)
    · right
      intro other hother
      rcases List.mem_append.mp hother with ho | ho
      · exact hmem.resolve_left hin other ho
      · rw [List.mem_singleton.mp ho]
        exact hsep hin
  · rw [heq]
    refine ⟨hle, ?_⟩
    -- the front that leaves is below everything that stays
    have hleast : ∀ other ∈ rest, front < other := by
      cases hr : g.recent with
      | nil =>
          rw [hr] at hring
          simp only [List.nil_append, List.cons.injEq] at hring
          simp [← hring.2]
      | cons first others =>
          rw [hr] at hring
          simp only [List.cons_append, List.cons.injEq] at hring
          obtain ⟨rfl, rfl⟩ := hring
          intro other hother
          rcases List.mem_append.mp hother with ho | ho
          · rcases hfront with hroom | hfront
            · rw [hr] at hroom
              simp only [List.length_append, List.length_cons, List.length_nil] at hlen hroom
              omega
            · simpa [hr] using List.all_eq_true.mp hfront other (by simpa [hr] using ho)
          · rw [List.mem_singleton.mp ho]
            exact habove first (by simp [hr])
    have hring' : ∀ other, other ∈ g.recent ∨ other = sequence ↔ other = front ∨ other ∈ rest := by
      intro other
      have := congrArg (other ∈ ·) hring
      simpa using this
    by_cases hin : number ∈ g.recent
    · rcases (hring' number).mp (.inl hin) with rfl | hrest
      · exact .inr hleast
      · exact .inl hrest
    · right
      intro other hother
      rcases (hring' other).mpr (.inr hother) with ho | ho
      · exact hmem.resolve_left hin other ho
      · rw [ho]
        exact hsep hin

/-- The admission of a number, which is within reach, and what it leaves behind. -/
theorem accept_ok_true {g : ReplayGuard} (h : g.Coherent) {sequence : UInt64}
    (hok : (g.accept sequence).1 = .ok true) :
    ¬g.Knows sequence ∧ sequence ∉ g.recent ∧ (g.recent = [] → g.highest < sequence) ∧
      (∀ front ∈ g.recent.head?, front < sequence) ∧
      ¬(g.highest < sequence ∧ sequence - g.highest > kMaxForwardJump) ∧
      ∃ mark, g.highest ≤ mark ∧ sequence ≤ mark ∧
        (g.accept sequence).2 = ({ g with highest := mark }).remember sequence := by
  have haccept : g.accept sequence = (.ok true, (g.accept sequence).2) := Prod.ext hok rfl
  generalize (g.accept sequence).2 = g' at haccept ⊢
  unfold accept at haccept
  split at haccept
  · cases haccept
  next hzero =>
  split at haccept
  · next hbelow =>
      unfold acceptBelow at haccept
      split at haccept
      · cases haccept
      next hfresh =>
      split at haccept
      · cases haccept
      next hhead =>
      obtain ⟨hne, hset⟩ := not_or.mp hfresh
      have hnew : sequence ∉ g.recent := by
        rw [h.set] at hset
        simpa using hset
      obtain ⟨front, hfront, hle⟩ : ∃ front, g.recent.head? = some front ∧ front ≤ sequence := by
        cases hr : g.recent.head? with
        | none => simp [hr] at hhead
        | some front => exact ⟨front, rfl, by simpa [hr] using hhead⟩
      have hmem : front ∈ g.recent := List.mem_of_mem_head? hfront
      refine ⟨?_, hnew, fun hnil => by simp [hnil] at hmem, ?_,
        fun hfar => absurd hbelow.2 (not_le.mpr hfar.1), g.highest, le_refl _, hbelow.2, ?_⟩
      · rintro ⟨-, hin | hlt⟩
        · exact hnew hin
        · exact absurd (hlt front hmem) (not_lt.mpr hle)
      · intro other hother
        rw [hfront] at hother
        obtain rfl := Option.some.inj hother
        exact lt_of_le_of_ne hle fun heq => hnew (heq ▸ hmem)
      · simpa [eq_comm] using haccept
  next hbelow =>
  split at haccept
  · cases haccept
  next hjump =>
  have hgt : g.highest < sequence := by
    by_cases h0 : g.highest = 0
    · rw [h0]
      exact UInt64.pos_iff_ne_zero.mpr hzero
    · exact not_le.mp fun hle => hbelow ⟨h0, hle⟩
  have hnew : sequence ∉ g.recent := fun hin => absurd (h.bound sequence hin) (not_le.mpr hgt)
  refine ⟨fun hknows => absurd hknows.1 (not_le.mpr hgt), hnew, fun _ => hgt, ?_,
    fun hfar => hjump hfar.2, sequence, le_of_lt hgt, le_refl _, ?_⟩
  · intro front hfront
    exact lt_of_le_of_lt (h.bound front (List.mem_of_mem_head? hfront)) hgt
  · simpa [eq_comm] using haccept

/-- Anything but an admission leaves the guard alone. -/
theorem accept_of_ne {g : ReplayGuard} {sequence : UInt64}
    (h : (g.accept sequence).1 ≠ .ok true) : (g.accept sequence).2 = g := by
  unfold accept acceptBelow at h ⊢
  grind

theorem Coherent.accept {g : ReplayGuard} (h : g.Coherent) (sequence : UInt64) :
    (g.accept sequence).2.Coherent := by
  by_cases hok : (g.accept sequence).1 = .ok true
  · obtain ⟨-, hnew, -, -, -, mark, hmark, hle, heq⟩ := accept_ok_true h hok
    rw [heq]
    have h' : Coherent { g with highest := mark } :=
      ⟨h.set, h.nodup, fun number hn => le_trans (h.bound number hn) hmark, h.room⟩
    exact h'.remember hnew hle
  · rw [accept_of_ne hok]
    exact h

/-- A number that was stored is known. -/
theorem knows_remember {g : ReplayGuard} (h : g.Coherent) {sequence : UInt64}
    (hle : sequence ≤ g.highest) : (g.remember sequence).Knows sequence := by
  rcases remember_cases h sequence with ⟨hlt, heq⟩ | ⟨front, rest, hring, hlen, heq⟩
  · rw [heq]
    exact ⟨hle, .inl (by simp)⟩
  · rw [heq]
    refine ⟨hle, ?_⟩
    cases hr : g.recent with
    | nil =>
        rw [hr] at hring
        simp only [List.nil_append, List.cons.injEq] at hring
        exact .inr (by simp [← hring.2])
    | cons first others =>
        rw [hr] at hring
        simp only [List.cons_append, List.cons.injEq] at hring
        exact .inl (by simp [← hring.2])

/-- An admitted number is known from then on, and so is what was known before. -/
theorem knows_of_accept {g : ReplayGuard} (h : g.Coherent) {sequence : UInt64}
    (hfront : g.FrontIsOldest sequence) (hok : (g.accept sequence).1 = .ok true)
    {number : UInt64} (hnumber : number = sequence ∨ g.Knows number) :
    (g.accept sequence).2.Knows number := by
  obtain ⟨-, hnew, hempty, habove, hnear, mark, hmark, hle, heq⟩ := accept_ok_true h hok
  have hevicts : g.EvictsOldest := by
    rcases hfront with hin | (hbelow | hfar) | hevicts
    · exact absurd hin hnew
    · obtain ⟨front, hhead, hlt⟩ := (Option.any_eq_true _ _).mp hbelow
      exact absurd (of_decide_eq_true hlt) (not_lt.mpr (le_of_lt (habove front hhead)))
    · exact absurd hfar hnear
    · exact hevicts
  have h' : Coherent { g with highest := mark } :=
    ⟨h.set, h.nodup, fun number hn => le_trans (h.bound number hn) hmark, h.room⟩
  rw [heq]
  rcases hnumber with rfl | ⟨hknown, hmem⟩
  · exact knows_remember h' hle
  · refine Knows.remember h' hevicts habove ⟨le_trans hknown hmark, hmem⟩ ?_
    intro hout
    cases hr : g.recent with
    | nil => exact lt_of_le_of_lt hknown (hempty hr)
    | cons front rest =>
        have hin : front ∈ g.recent := by simp [hr]
        exact lt_trans (hmem.resolve_left hout front hin) (habove front (by simp [hr]))

/-- What the guard knows it keeps knowing. -/
theorem Knows.accept {g : ReplayGuard} (h : g.Coherent) {sequence number : UInt64}
    (hfront : g.FrontIsOldest sequence) (hknows : g.Knows number) :
    (g.accept sequence).2.Knows number := by
  by_cases hok : (g.accept sequence).1 = .ok true
  · exact knows_of_accept h hfront hok (.inr hknows)
  · rw [accept_of_ne hok]
    exact hknows

/-! ### Runs -/

/-- How often a number was admitted. -/
def admissions (events : List (Event ReplayGuard UInt64 (Result Bool))) (sequence : UInt64) : Nat :=
  events.countP fun e => e.input == sequence && e.output == .ok true

/-- In a run that only ever evicts the least number of the ring, no number is admitted
again. -/
theorem admissions_le_one {window : UInt64} {events : List (Event ReplayGuard UInt64 (Result Bool))}
    {g : ReplayGuard} (run : Run accept (make window) events g)
    (hfront : ∀ e ∈ events, e.before.FrontIsOldest e.input) :
    g.Coherent ∧ ∀ sequence, admissions events sequence ≤ 1 ∧
      (0 < admissions events sequence → g.Knows sequence) := by
  induction run with
  | nil => exact ⟨coherent_make window, by simp [admissions]⟩
  | @snoc events g run i ih =>
      obtain ⟨hg, ih⟩ := ih fun e he => hfront e (List.mem_append_left _ he)
      have hi : g.FrontIsOldest i := hfront _ (List.mem_append_right _ List.mem_cons_self)
      refine ⟨hg.accept i, fun sequence => ?_⟩
      obtain ⟨hone, hknown⟩ := ih sequence
      have hcount : admissions (events ++ [happen accept g i]) sequence =
          admissions events sequence +
            if i = sequence ∧ (g.accept i).1 = .ok true then 1 else 0 := by
        simp [admissions, List.countP_append, List.countP_cons, happen]
      rw [hcount]
      split
      · next hadmitted =>
          obtain ⟨rfl, hok⟩ := hadmitted
          have hunknown := (accept_ok_true hg hok).1
          have hzero : admissions events i = 0 := by
            by_contra hpos
            exact hunknown (hknown (Nat.pos_of_ne_zero hpos))
          exact ⟨by omega, fun _ => knows_of_accept hg hi hok (.inl rfl)⟩
      · exact ⟨by omega, fun hpos => (hknown (by omega)).accept hg hi⟩

end ReplayGuard

/-! ## The frame loop -/

/-- `enum class MessageType`. -/
inductive MessageType where
  | handshakeRequest | handshakeResponse | errorResponse
  | openShuffleRequest | openShuffleResponse
  | registerParticipantRequest | registerParticipantResponse
  | publishManifestRequest | publishManifestResponse
  | nextWaveRequest | nextWaveResponse
  | commitTransferRequest | commitTransferResponse
  | reportFailureRequest | reportFailureResponse
  | congestionIntentRequest | congestionIntentResponse
  | cancelShuffleRequest | cancelShuffleResponse
  | progressRequest | progressResponse
  | explainRequest | explainResponse
  | closeRequest | closeResponse
  | manifestRequest | manifestResponse
  | statusRequest | statusResponse
  | chunkFetchRequest | chunkFetchResponse | chunkFetchFailure
  deriving DecidableEq, Repr

/-- What `serve` reads of a `DecodedFrame`. -/
structure Frame where
  type : MessageType
  sequence : UInt64
  payload : Bytes
  deriving DecidableEq

/-- `struct Session`; `app` is everything `handle` reads and changes, the coordinator
behind the server included. -/
structure Session (σ : Type) where
  guard : ReplayGuard
  limits : Limits
  app : σ
  answers : List (UInt64 × Bytes) := []
  /-- `serve` returned. -/
  ended : Bool := false

/-- What became of a frame. -/
inductive Served where
  /-- `handle` ran. -/
  | applied
  /-- The number was used before: answered from the cache, or refused. -/
  | duplicate
  | refused
  /-- The session had ended; the frame was not read. -/
  | unread
  deriving DecidableEq, Repr

/-- A frame that arrives, and whether the answer to it can be sent. -/
structure Arrival where
  frame : Frame
  sent : Bool
  deriving DecidableEq

namespace Session

/-- `kAnswerCacheEntries`. -/
def kAnswerCacheEntries : Nat := 32

/-- `write_error_envelope`. -/
def writeErrorEnvelope (limits : Limits) (e : Error) : Bytes :=
  putU16 e.code.value ++ putByteString (e.detail.toUTF8.toList.take limits.maxStringBytes.toNat)

variable {σ : Type}

/-- `Session::cached_answer`. -/
def cachedAnswer (s : Session σ) (sequence : UInt64) : Option Bytes :=
  (s.answers.find? (·.1 == sequence)).map (·.2)

/-- `Session::remember_answer`. -/
def rememberAnswer (s : Session σ) (sequence : UInt64) (frame : Bytes) : Session σ :=
  let answers := s.answers ++ [(sequence, frame)]
  { s with answers := answers.drop (answers.length - kAnswerCacheEntries) }

section Serve

-- `CoordinatorServer::Impl::handle` and `encode_frame`: whatever they are, `serve`
-- treats a frame alike.
variable (handle : σ → Frame → (MessageType × Bytes) × σ)
  (encodeFrame : σ → MessageType → UInt64 → Bytes → Result Bytes)

/-- The tail of the loop: the framed answer is cached and sent. -/
def deliver (s : Session σ) (a : Arrival) (reply : Bytes) : Session σ :=
  let s := s.rememberAnswer a.frame.sequence reply
  { s with ended := !a.sent || a.frame.type == .closeRequest }

/-- Frame the answer; a refusal to frame it is answered instead. -/
def respond (s : Session σ) (a : Arrival) (type : MessageType) (answer : Bytes) : Session σ :=
  match encodeFrame s.app type a.frame.sequence answer with
  | .ok reply => s.deliver a reply
  | .error e =>
    match encodeFrame s.app .errorResponse a.frame.sequence (writeErrorEnvelope s.limits e) with
    | .ok reply => s.deliver a reply
    | .error _ => { s with ended := true }

/-- One frame of `serve`. -/
def serve (s : Session σ) (a : Arrival) : Served × Session σ :=
  if s.ended then (.unread, s)
  else
    match s.guard.accept a.frame.sequence with
    | (.error e, guard) =>
      (.refused, ({ s with guard }).respond encodeFrame a .errorResponse
        (writeErrorEnvelope s.limits e))
    | (.ok false, guard) =>
      let s := { s with guard }
      match s.cachedAnswer a.frame.sequence with
      | none =>
        (.duplicate, s.respond encodeFrame a .errorResponse
          (writeErrorEnvelope s.limits
            ⟨.duplicateFrame, "duplicate sequence whose answer has left the retained window"⟩))
      | some _ => (.duplicate, { s with ended := !a.sent })
    | (.ok true, guard) =>
      let ((type, answer), app) := handle s.app a.frame
      (.applied, ({ s with guard, app }).respond encodeFrame a type answer)

variable {handle encodeFrame}

@[simp] theorem respond_guard (s : Session σ) (a : Arrival) (type : MessageType) (answer : Bytes) :
    (s.respond encodeFrame a type answer).guard = s.guard := by
  unfold respond
  split
  · rfl
  · split <;> rfl

@[simp] theorem respond_app (s : Session σ) (a : Arrival) (type : MessageType) (answer : Bytes) :
    (s.respond encodeFrame a type answer).app = s.app := by
  unfold respond
  split
  · rfl
  · split <;> rfl

variable (handle encodeFrame) in
/-- A frame reaches `handle` exactly when the guard admits its number, and nothing else
touches the application. -/
theorem serve_spec (s : Session σ) (a : Arrival) (h : s.ended = false) :
    (serve handle encodeFrame s a).2.guard = (s.guard.accept a.frame.sequence).2 ∧
      ((serve handle encodeFrame s a).1 = .applied ↔
        (s.guard.accept a.frame.sequence).1 = .ok true) ∧
      (serve handle encodeFrame s a).2.app =
        if (s.guard.accept a.frame.sequence).1 = .ok true then (handle s.app a.frame).2
        else s.app := by
  unfold serve
  rw [h]
  rcases s.guard.accept a.frame.sequence with ⟨answer, guard⟩
  match answer with
  | .error e => simp
  | .ok false =>
      simp only [Bool.false_eq_true, if_false]
      split <;> simp
  | .ok true => simp

theorem serve_of_ended (s : Session σ) (a : Arrival) (h : s.ended = true) :
    serve handle encodeFrame s a = (.unread, s) := by
  rw [serve, if_pos h]

/-- The calls a session makes to its guard. -/
def guardCall (e : Event (Session σ) Arrival Served) :
    Option (Event ReplayGuard UInt64 (Result Bool)) :=
  if e.before.ended then none
  else some (happen ReplayGuard.accept e.before.guard e.input.frame.sequence)

/-- A run of a session is a run of its guard. -/
theorem guard_run {start s : Session σ} {events : List (Event (Session σ) Arrival Served)}
    (run : Run (serve handle encodeFrame) start events s) :
    Run ReplayGuard.accept start.guard (events.filterMap guardCall) s.guard := by
  induction run with
  | nil => exact Run.nil
  | @snoc events s run a ih =>
      rw [List.filterMap_append]
      cases h : s.ended with
      | true =>
          rw [serve_of_ended s a h]
          simpa [happen, guardCall, h] using ih
      | false =>
          rw [(serve_spec handle encodeFrame s a h).1]
          simpa [happen, guardCall, h] using ih.snoc a.frame.sequence

/-- How often a frame with this number was applied. -/
def applications (events : List (Event (Session σ) Arrival Served)) (sequence : UInt64) : Nat :=
  events.countP fun e => e.input.frame.sequence == sequence && e.output == .applied

theorem applications_eq {start s : Session σ} {events : List (Event (Session σ) Arrival Served)}
    (run : Run (serve handle encodeFrame) start events s) (sequence : UInt64) :
    applications events sequence =
      ReplayGuard.admissions (events.filterMap guardCall) sequence := by
  induction run with
  | nil => rfl
  | @snoc events s run a ih =>
      simp only [applications, ReplayGuard.admissions, List.countP_append,
        List.filterMap_append] at ih ⊢
      rw [ih]
      congr 1
      cases h : s.ended with
      | true => simp [happen, guardCall, h, serve_of_ended s a h]
      | false =>
          have hspec := (serve_spec handle encodeFrame s a h).2.1
          simp [happen, guardCall, h, hspec, List.countP_cons]

variable (handle encodeFrame) in
/-- A number is admitted at most once, and a frame is applied exactly when its number
is, hence at most once. -/
theorem sequence_admitted_once (window : UInt64)
    {calls : List (Event ReplayGuard UInt64 (Result Bool))} {g : ReplayGuard}
    (guarding : Run ReplayGuard.accept (ReplayGuard.make window) calls g)
    (hcalls : ∀ e ∈ calls, e.before.FrontIsOldest e.input) (limits : Limits) (app : σ)
    {events : List (Event (Session σ) Arrival Served)} {s : Session σ}
    (serving : Run (serve handle encodeFrame)
      { guard := ReplayGuard.make window, limits, app } events s)
    (hevents : ∀ e ∈ events, e.before.ended = false →
      e.before.guard.FrontIsOldest e.input.frame.sequence) :
    (∀ sequence, ReplayGuard.admissions calls sequence ≤ 1) ∧
      (∀ e ∈ events, e.before.ended = false →
        (e.output = .applied ↔
          (e.before.guard.accept e.input.frame.sequence).1 = .ok true) ∧
        e.after.app = if e.output = .applied then (handle e.before.app e.input.frame).2
          else e.before.app) ∧
      ∀ sequence, applications events sequence ≤ 1 := by
  refine ⟨fun sequence => ((ReplayGuard.admissions_le_one guarding hcalls).2 sequence).1,
    fun e he hopen => ?_, fun sequence => ?_⟩
  · obtain ⟨hstep, -⟩ := serving.of_mem he
    obtain ⟨-, happlied, happ⟩ := serve_spec handle encodeFrame e.before e.input hopen
    rw [hstep]
    refine ⟨happlied, ?_⟩
    simp only [happen, happlied]
    exact happ
  · rw [applications_eq serving]
    refine ((ReplayGuard.admissions_le_one (guard_run serving) ?_).2 sequence).1
    intro call hcall
    obtain ⟨e, he, hguard⟩ := List.mem_filterMap.mp hcall
    unfold guardCall at hguard
    split at hguard
    · cases hguard
    · next hopen =>
        obtain rfl := Option.some.inj hguard
        exact hevents e he (by simpa using hopen)

end Serve

/-- Four numbers through a ring of three, the last of them out of order, and a session
that counts the frames it handles. -/
theorem sequence_admitted_once_ring_of_three :
    (∀ sequence, ReplayGuard.admissions
      (record ReplayGuard.accept (ReplayGuard.make 3) [1, 2, 4, 3]) sequence ≤ 1) ∧
    ∀ sequence, applications
      (record
        (serve (fun (n : Nat) (_ : Frame) => ((.statusResponse, []), n + 1))
          fun (_ : Nat) _ _ answer => .ok answer)
        { guard := ReplayGuard.make 3, limits := {}, app := 0 }
        [⟨⟨.statusRequest, 1, []⟩, true⟩, ⟨⟨.statusRequest, 1, []⟩, true⟩]) sequence ≤ 1 :=
  have h := sequence_admitted_once (fun (n : Nat) (_ : Frame) => ((.statusResponse, []), n + 1))
    (fun (_ : Nat) _ _ answer => .ok answer) 3
    (Run.of_inputs ReplayGuard.accept (ReplayGuard.make 3) [1, 2, 4, 3]) (by decide +kernel) {} 0
    (Run.of_inputs _ _ [⟨⟨.statusRequest, 1, []⟩, true⟩, ⟨⟨.statusRequest, 1, []⟩, true⟩])
    (by decide +kernel)
  ⟨h.1, h.2.2⟩

/-- A ring of two evicts 20 before the smaller 15 and admits it again. -/
theorem sequence_admitted_twice :
    ¬∀ (window : UInt64) (events : List (Event ReplayGuard UInt64 (Result Bool)))
      (g : ReplayGuard), Run ReplayGuard.accept (ReplayGuard.make window) events g →
      ∀ sequence, ReplayGuard.admissions events sequence ≤ 1 := by
  intro h
  have h20 := h 2 _ _ (Run.of_inputs ReplayGuard.accept (ReplayGuard.make 2) [10, 20, 15, 30, 20])
    20
  revert h20
  decide +kernel

end Session

end ShuffleFabric
