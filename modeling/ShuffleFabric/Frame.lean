import ShuffleFabric.Codec.Sound
import ShuffleFabric.Hash
import ShuffleFabric.Session

/-!
# ShuffleFabric.Frame

The frame a message travels in (`frame.hpp`, `frame.cpp`): a header of 40 bytes with the
length and the checksum of the payload, and the payload.

Everything is validated before a byte is written, so an encoding is a whole frame or a
refusal.
-/

namespace ShuffleFabric

open Lib

/-! ## Headers -/

/-- The number of a message type on the wire. -/
def MessageType.value : MessageType → UInt16
  | .handshakeRequest => 1
  | .handshakeResponse => 2
  | .errorResponse => 3
  | .openShuffleRequest => 10
  | .openShuffleResponse => 11
  | .registerParticipantRequest => 12
  | .registerParticipantResponse => 13
  | .publishManifestRequest => 14
  | .publishManifestResponse => 15
  | .nextWaveRequest => 16
  | .nextWaveResponse => 17
  | .commitTransferRequest => 18
  | .commitTransferResponse => 19
  | .reportFailureRequest => 20
  | .reportFailureResponse => 21
  | .congestionIntentRequest => 22
  | .congestionIntentResponse => 23
  | .cancelShuffleRequest => 24
  | .cancelShuffleResponse => 25
  | .progressRequest => 26
  | .progressResponse => 27
  | .explainRequest => 28
  | .explainResponse => 29
  | .closeRequest => 30
  | .closeResponse => 31
  | .manifestRequest => 32
  | .manifestResponse => 33
  | .statusRequest => 34
  | .statusResponse => 35
  | .chunkFetchRequest => 40
  | .chunkFetchResponse => 41
  | .chunkFetchFailure => 42

/-- `kFrameMagic`. -/
def kFrameMagic : UInt32 := 0x31424653

/-- `kProtocolVersion`. -/
def kProtocolVersion : UInt16 := 1

/-- `kFrameHeaderBytes`. -/
def kFrameHeaderBytes : UInt64 := 40

/-- `kFlagResponse`. -/
def kFlagResponse : UInt32 := 1

/-- `kFlagReservedMask`. -/
def kFlagReservedMask : UInt32 := 0xfffffffe

/-- The identifier the server gives to a session. -/
abbrev SessionId := UInt64

/-- `struct FrameHeader`. -/
structure FrameHeader where
  version : UInt16 := kProtocolVersion
  type : MessageType
  flags : UInt32 := 0
  session : SessionId := 0
  sequence : UInt64
  payloadLength : UInt32 := 0
  payloadCrc32c : UInt32 := 0
  deriving DecidableEq

namespace FrameHeader

/-- The header up to its own checksum, for a payload. -/
def fields (header : FrameHeader) (payload : Bytes) : Bytes :=
  putU32 kFrameMagic ++ putU16 header.version ++ putU16 header.type.value ++ putU32 header.flags ++
    putU64 header.session ++ putU64 header.sequence ++ putU32 (UInt32.ofNat payload.length) ++
    putU32 (crc32c payload)

end FrameHeader

/-- `encode_frame`.  The source also refuses a message type outside the protocol;
`MessageType` has none. -/
def encodeFrame (header : FrameHeader) (payload : Bytes) (limits : Limits) : Result Bytes := do
  refuseIf (header.version ≠ kProtocolVersion) .unsupportedVersion "frame version is not supported"
  refuseIf (header.flags &&& kFlagReservedMask ≠ 0) .malformedInput
    "reserved frame flag bits must be zero"
  refuseIf (header.sequence = 0) .sequenceViolation "wire sequences start at 1"
  refuseIf (payload.length > limits.maxFramePayloadBytes.toNat) .oversizedInput
    "payload exceeds max_frame_payload_bytes"
  refuseIf (payload.length > 0xffffffff) .oversizedInput
    "payload does not fit the 32-bit length field"
  refuseIf (header.payloadLength ≠ 0 ∧ header.payloadLength.toNat ≠ payload.length) .invalidArgument
    "declared payload_length contradicts the payload"
  refuseIf (header.payloadCrc32c ≠ 0 ∧ header.payloadCrc32c ≠ crc32c payload) .invalidArgument
    "declared payload_crc32c contradicts the payload"
  let total ← checkedAdd kFrameHeaderBytes (UInt64.ofNat payload.length)
  refuseIf (total > limits.maxAllocationBytes) .limitExceeded "frame exceeds max_allocation_bytes"
  pure (header.fields payload ++ putU32 (crc32c (header.fields payload)) ++ payload)

/-- A frame is 40 bytes longer than its payload. -/
theorem length_of_encodeFrame {header : FrameHeader} {payload : Bytes} {limits : Limits}
    {frame : Bytes} (h : encodeFrame header payload limits = .ok frame) :
    frame.length = 40 + payload.length := by
  unfold encodeFrame at h
  simp only [bind_eq_ok, pure_eq_ok] at h
  obtain ⟨-, -, -, -, -, -, -, -, -, -, -, -, -, -, -, -, -, -, rfl⟩ := h
  simp only [FrameHeader.fields, List.length_append, length_putU16, length_putU32, length_putU64]

/-- Does a frame carry an error response? -/
def IsErrorResponse (frame : Bytes) : Prop :=
  (frame.drop 6).take 2 = putU16 MessageType.errorResponse.value

instance (frame : Bytes) : Decidable (IsErrorResponse frame) := inferInstanceAs (Decidable (_ = _))

theorem value_eq_errorResponse {type : MessageType} (h : type.value = MessageType.errorResponse.value) :
    type = .errorResponse := by
  cases type <;> first | rfl | exact absurd h (by decide)

/-- A frame is an error response exactly if its header says so. -/
theorem isErrorResponse_of_encodeFrame {header : FrameHeader} {payload : Bytes} {limits : Limits}
    {frame : Bytes} (h : encodeFrame header payload limits = .ok frame) :
    IsErrorResponse frame ↔ header.type = .errorResponse := by
  have hfields : ∃ rest, frame = (putU32 kFrameMagic ++ putU16 header.version) ++
      (putU16 header.type.value ++ rest) := by
    unfold encodeFrame at h
    simp only [bind_eq_ok, pure_eq_ok] at h
    obtain ⟨-, -, -, -, -, -, -, -, -, -, -, -, -, -, -, -, -, -, rfl⟩ := h
    simp only [FrameHeader.fields, List.append_assoc]
    exact ⟨_, rfl⟩
  obtain ⟨rest, rfl⟩ := hfields
  have hsix : (putU32 kFrameMagic ++ putU16 header.version).length = 6 := by simp
  have htwo : (putU16 header.type.value).length = 2 := by simp
  rw [IsErrorResponse, ← hsix, List.drop_left, ← htwo, List.take_left]
  constructor
  · intro hvalue
    have hread := congrArg ByteReader.u16Of hvalue
    rw [u16Of_putU16, u16Of_putU16] at hread
    exact value_eq_errorResponse hread
  · intro htype
    rw [htype]

namespace Session

variable {σ : Type}

/-- The header of an answer: `serve` sets the type, the flag, the session and the sequence,
and leaves the derived fields to the encoder. -/
def answerHeader (session : SessionId) (type : MessageType) (sequence : UInt64) : FrameHeader where
  type := type
  flags := kFlagResponse
  session := session
  sequence := sequence

/-- The payload fits into one frame. -/
def Fits (limits : Limits) (payload : Bytes) : Prop :=
  payload.length ≤ limits.maxFramePayloadBytes.toNat ∧ payload.length ≤ 0xffffffff ∧
    40 + payload.length ≤ limits.maxAllocationBytes.toNat

instance (limits : Limits) (payload : Bytes) : Decidable (Fits limits payload) :=
  inferInstanceAs (Decidable (_ ∧ _))

/-- An answer is framed exactly if its sequence is not 0 and it fits. -/
theorem encodeFrame_answer (session : SessionId) (type : MessageType) (sequence : UInt64)
    (payload : Bytes) (limits : Limits) :
    (∃ frame, encodeFrame (answerHeader session type sequence) payload limits = .ok frame) ↔
      sequence ≠ 0 ∧ Fits limits payload := by
  have hsum : ∀ total, payload.length ≤ 0xffffffff →
      (checkedAdd kFrameHeaderBytes (UInt64.ofNat payload.length) = .ok total ↔
        total.toNat = 40 + payload.length) := by
    intro total hlength
    rw [checkedAdd_eq_ok, UInt64.toNat_ofNat', Nat.mod_eq_of_lt (by omega)]
    rfl
  have hflags : kFlagResponse &&& kFlagReservedMask = 0 := by decide
  unfold encodeFrame Fits
  simp only [bind_eq_ok, refuseIf_eq_ok, exists_const, pure_eq_ok, answerHeader, hflags,
    not_true_eq_false, ne_eq, false_and, not_false_eq_true, true_and, gt_iff_lt, not_lt]
  constructor
  · rintro ⟨frame, _, hsequence, hframe, hlength, total, htotal, hallocation, -⟩
    rw [hsum total hlength] at htotal
    rw [UInt64.le_iff_toNat_le, htotal] at hallocation
    exact ⟨refuseIf_eq_ok.mp hsequence, hframe, hlength, hallocation⟩
  · rintro ⟨hsequence, hframe, hlength, hallocation⟩
    refine ⟨_, (), refuseIf_eq_ok.mpr hsequence, hframe, hlength,
      UInt64.ofNat (40 + payload.length), ?_, ?_, rfl⟩
    · rw [hsum _ hlength, UInt64.toNat_ofNat', Nat.mod_eq_of_lt (by omega)]
    · rw [UInt64.le_iff_toNat_le, UInt64.toNat_ofNat', Nat.mod_eq_of_lt (by omega)]
      exact hallocation

/-- Why an answer that does not fit is not framed. -/
def unframed (limits : Limits) (payload : Bytes) : Error :=
  if payload.length > limits.maxFramePayloadBytes.toNat then
    ⟨.oversizedInput, "payload exceeds max_frame_payload_bytes"⟩
  else if payload.length > 0xffffffff then
    ⟨.oversizedInput, "payload does not fit the 32-bit length field"⟩
  else ⟨.limitExceeded, "frame exceeds max_allocation_bytes"⟩

theorem encodeFrame_unframed (session : SessionId) (type : MessageType) {sequence : UInt64}
    {payload : Bytes} {limits : Limits} (hsequence : sequence ≠ 0) (h : ¬Fits limits payload) :
    encodeFrame (answerHeader session type sequence) payload limits =
      .error (unframed limits payload) := by
  have hflags : ¬(answerHeader session type sequence).flags &&& kFlagReservedMask ≠ 0 := by
    simp only [answerHeader]
    decide
  have hsequence : ¬(answerHeader session type sequence).sequence = 0 := hsequence
  rw [encodeFrame, bind_refuseIf_of_not _ (by simp [answerHeader]), bind_refuseIf_of_not _ hflags,
    bind_refuseIf_of_not _ hsequence]
  by_cases hlarge : payload.length > limits.maxFramePayloadBytes.toNat
  · rw [bind_refuseIf_of _ hlarge, unframed, if_pos hlarge]
  by_cases hlength : payload.length > 0xffffffff
  · rw [bind_refuseIf_of_not _ hlarge, bind_refuseIf_of _ hlength, unframed, if_neg hlarge,
      if_pos hlength]
  have hsum : (UInt64.ofNat (40 + payload.length)).toNat = 40 + payload.length := by
    rw [UInt64.toNat_ofNat', Nat.mod_eq_of_lt (by omega)]
  have htotal : checkedAdd kFrameHeaderBytes (UInt64.ofNat payload.length) =
      .ok (UInt64.ofNat (40 + payload.length)) := by
    rw [checkedAdd_eq_ok, hsum, UInt64.toNat_ofNat', Nat.mod_eq_of_lt (by omega)]
    rfl
  have hover : UInt64.ofNat (40 + payload.length) > limits.maxAllocationBytes := by
    rw [gt_iff_lt, UInt64.lt_iff_toNat_lt, hsum]
    unfold Fits at h
    omega
  rw [bind_refuseIf_of_not _ hlarge, bind_refuseIf_of_not _ hlength,
    bind_refuseIf_of_not _ (by simp [answerHeader]), bind_refuseIf_of_not _ (by simp [answerHeader]),
    htotal, unframed, if_neg hlarge, if_neg hlength]
  exact bind_refuseIf_of _ hover

/-- The framing of an answer, under the session identifier the application knows. -/
def frameAnswer (limits : Limits) (wireId : σ → SessionId) (app : σ) (type : MessageType)
    (sequence : UInt64) (answer : Bytes) : Result Bytes :=
  encodeFrame (answerHeader (wireId app) type sequence) answer limits

/-- The number 0 is never admitted. -/
theorem ne_zero_of_accept {g : ReplayGuard} {sequence : UInt64}
    (h : (g.accept sequence).1 = .ok true) : sequence ≠ 0 := by
  rintro rfl
  simp [ReplayGuard.accept, makeFailure] at h

/-! ## The reply to a frame -/

section Reply

variable (handle : σ → Frame → (MessageType × Bytes) × σ)
  (encode : σ → MessageType → UInt64 → Bytes → Result Bytes)

/-- The frame `serve` makes of an answer: the answer, else the refusal to frame it. -/
def framed (s : Session σ) (sequence : UInt64) (type : MessageType) (answer : Bytes) :
    Option Bytes :=
  match encode s.app type sequence answer with
  | .ok reply => some reply
  | .error e =>
    match encode s.app .errorResponse sequence (writeErrorEnvelope s.limits e) with
    | .ok reply => some reply
    | .error _ => none

theorem respond_eq (s : Session σ) (a : Arrival) (type : MessageType) (answer : Bytes) :
    s.respond encode a type answer =
      match s.framed encode a.frame.sequence type answer with
      | some reply => s.deliver a reply
      | none => { s with ended := true } := by
  unfold respond framed
  cases encode s.app type a.frame.sequence answer with
  | ok reply => rfl
  | error e =>
      simp only
      cases encode s.app .errorResponse a.frame.sequence (writeErrorEnvelope s.limits e) <;> rfl

/-- The refusal of a duplicate whose answer is gone. -/
def duplicateRefusal (limits : Limits) : Bytes :=
  writeErrorEnvelope limits
    ⟨.duplicateFrame, "duplicate sequence whose answer has left the retained window"⟩

/-- The reply `serve` sends to a frame, if it sends one. -/
def replyTo (s : Session σ) (a : Arrival) : Option Bytes :=
  if s.ended then none
  else
    match (s.guard.accept a.frame.sequence).1 with
    | .error e => s.framed encode a.frame.sequence .errorResponse (writeErrorEnvelope s.limits e)
    | .ok false =>
      match s.cachedAnswer a.frame.sequence with
      | some cached => some cached
      | none => s.framed encode a.frame.sequence .errorResponse (duplicateRefusal s.limits)
    | .ok true =>
      let ((type, answer), app) := handle s.app a.frame
      ({ s with app }).framed encode a.frame.sequence type answer

/-- A reply from the cache changes the cache of answers as little as no reply does; every
other reply is cached. -/
theorem serve_answers (s : Session σ) (a : Arrival) (h : s.ended = false) :
    (serve handle encode s a).2.answers =
      if (s.guard.accept a.frame.sequence).1 = .ok false ∧
          (s.cachedAnswer a.frame.sequence).isSome then s.answers
      else
        match s.replyTo handle encode a with
        | some reply => (s.rememberAnswer a.frame.sequence reply).answers
        | none => s.answers := by
  have hrespond : ∀ (s : Session σ) (type : MessageType) (answer : Bytes),
      (s.respond encode a type answer).answers =
        match s.framed encode a.frame.sequence type answer with
        | some reply => (s.rememberAnswer a.frame.sequence reply).answers
        | none => s.answers := by
    intro s type answer
    rw [respond_eq]
    cases s.framed encode a.frame.sequence type answer <;> rfl
  obtain ⟨guard, limits, app, answers, ended⟩ := s
  obtain rfl : ended = false := h
  unfold serve replyTo
  simp only
  rcases guard.accept a.frame.sequence with ⟨answer, guard'⟩
  match answer with
  | .error e =>
      simp only [Bool.false_eq_true, if_false, reduceCtorEq, false_and]
      exact hrespond _ _ _
  | .ok false =>
      simp only [Bool.false_eq_true, if_false, true_and]
      rw [show (⟨guard', limits, app, answers, false⟩ : Session σ).cachedAnswer a.frame.sequence =
        (⟨guard, limits, app, answers, false⟩ : Session σ).cachedAnswer a.frame.sequence from rfl]
      cases (⟨guard, limits, app, answers, false⟩ : Session σ).cachedAnswer a.frame.sequence with
      | some cached => simp
      | none =>
          simp only [Option.isSome_none, Bool.false_eq_true, if_false]
          exact hrespond _ _ _
  | .ok true =>
      simp only [Bool.false_eq_true, if_false, Except.ok.injEq, Bool.true_eq_false, false_and]
      exact hrespond _ _ _

end Reply

end Session

end ShuffleFabric
