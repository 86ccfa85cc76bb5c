import Mathlib

/-!
# ShuffleFabric.Error

Deterministic error codes, their retry classification, and the carriers of a
refusal (`error.hpp`, `error.cpp`).

`ErrorCode` is a scoped enumeration over `std::uint16_t`.  Durable records and
wire messages are decoded by a cast from the raw 16-bit value, so a value
without a name is still a value of the type: the model is the 16-bit value, and
the enumerators are names for some of them.
-/

namespace ShuffleFabric

/-! ## Codes -/

/-- `enum class ErrorCode : std::uint16_t`. -/
structure ErrorCode where
  value : UInt16
  deriving DecidableEq, Repr

namespace ErrorCode

/-! Codes 1xx: input, decoding, formats. -/

def ok : ErrorCode := ⟨0⟩
def invalidArgument : ErrorCode := ⟨100⟩
def malformedInput : ErrorCode := ⟨101⟩
def truncatedInput : ErrorCode := ⟨102⟩
def oversizedInput : ErrorCode := ⟨103⟩
def trailingGarbage : ErrorCode := ⟨104⟩
def unsupportedVersion : ErrorCode := ⟨105⟩
def checksumMismatch : ErrorCode := ⟨106⟩
def integerOverflow : ErrorCode := ⟨107⟩
def invalidUnicode : ErrorCode := ⟨108⟩
def emptyValue : ErrorCode := ⟨109⟩
def limitExceeded : ErrorCode := ⟨110⟩
def invalidState : ErrorCode := ⟨111⟩

/-! Codes 2xx: identity, generations, authority. -/

def unknownPartition : ErrorCode := ⟨201⟩
def unknownParticipant : ErrorCode := ⟨203⟩
def staleGeneration : ErrorCode := ⟨204⟩
def staleIncarnation : ErrorCode := ⟨205⟩
def staleTopology : ErrorCode := ⟨206⟩
def stalePolicy : ErrorCode := ⟨207⟩
def staleAttempt : ErrorCode := ⟨208⟩
def incarnationMismatch : ErrorCode := ⟨209⟩
def generationMismatch : ErrorCode := ⟨210⟩
def digestMismatch : ErrorCode := ⟨211⟩
def authorityDenied : ErrorCode := ⟨212⟩
def eligibilityDenied : ErrorCode := ⟨213⟩
def divergentCommit : ErrorCode := ⟨214⟩
def lateAuthority : ErrorCode := ⟨215⟩
def topologyMismatch : ErrorCode := ⟨216⟩
def policyMismatch : ErrorCode := ⟨217⟩
def manifestInconsistent : ErrorCode := ⟨218⟩
def participantNotActive : ErrorCode := ⟨219⟩
def partitionNotOwned : ErrorCode := ⟨221⟩
def partitionNotProduced : ErrorCode := ⟨223⟩

/-! Codes 3xx: policy envelope, scheduling and lifecycle. -/

def fanOutCeilingExceeded : ErrorCode := ⟨300⟩
def fanInCeilingExceeded : ErrorCode := ⟨301⟩
def concurrencyLimitExceeded : ErrorCode := ⟨302⟩
def policyDenied : ErrorCode := ⟨303⟩
def backpressureActive : ErrorCode := ⟨304⟩
def backpressureUnknown : ErrorCode := ⟨305⟩
def noWorkAvailable : ErrorCode := ⟨306⟩
def waveLimitReached : ErrorCode := ⟨307⟩
def cancelled : ErrorCode := ⟨308⟩
def shuttingDown : ErrorCode := ⟨309⟩
def attemptSuperseded : ErrorCode := ⟨310⟩
def retryDeferred : ErrorCode := ⟨312⟩

/-! Codes 4xx and 5xx: accounting, completion and the retry state machine. -/

def integrityFailure : ErrorCode := ⟨403⟩
def payloadRejected : ErrorCode := ⟨404⟩
def accountingMismatch : ErrorCode := ⟨405⟩
def purgedHistory : ErrorCode := ⟨406⟩
def notCommitted : ErrorCode := ⟨408⟩
def ambiguousOutcome : ErrorCode := ⟨502⟩

/-! Codes 6xx: durable state. -/

def persistenceFailure : ErrorCode := ⟨600⟩
def stateCorrupt : ErrorCode := ⟨601⟩
def stateImpossible : ErrorCode := ⟨603⟩
def atomicReplaceFailed : ErrorCode := ⟨604⟩
def stateTooLarge : ErrorCode := ⟨605⟩

/-! Codes 7xx and 8xx: transport, sessions and resource discipline. -/

def sessionClosed : ErrorCode := ⟨701⟩
def protocolViolation : ErrorCode := ⟨702⟩
def duplicateFrame : ErrorCode := ⟨703⟩
def sequenceViolation : ErrorCode := ⟨704⟩
def handshakeRequired : ErrorCode := ⟨706⟩
def identityMismatch : ErrorCode := ⟨707⟩
def connectionFailure : ErrorCode := ⟨708⟩
def peerUnavailable : ErrorCode := ⟨709⟩
def connectionClosed : ErrorCode := ⟨710⟩
def queueFull : ErrorCode := ⟨801⟩
def tooManyParticipants : ErrorCode := ⟨802⟩
def tooManyPartitions : ErrorCode := ⟨803⟩
def tooManyChunks : ErrorCode := ⟨804⟩
def tooManyPatterns : ErrorCode := ⟨805⟩
def tooManyTrackedEdges : ErrorCode := ⟨806⟩

end ErrorCode

/-! ## Retry classification -/

/-- Whether another attempt can repair a failure: a property of the code, not of
the caller. -/
inductive RetryClass where
  | notApplicable
  | retriable
  | deferred
  | authority
  | permanent
  deriving DecidableEq, Repr

open ErrorCode in
/-- `classify`: total on the 16-bit values; a code without a case is permanent. -/
def classify (code : ErrorCode) : RetryClass :=
  if code = ok then .notApplicable
  else if code ∈ [connectionFailure, peerUnavailable, connectionClosed, sessionClosed,
      integrityFailure, payloadRejected, checksumMismatch, ambiguousOutcome] then .retriable
  else if code ∈ [backpressureActive, backpressureUnknown, retryDeferred, noWorkAvailable,
      waveLimitReached, concurrencyLimitExceeded, queueFull, duplicateFrame] then .deferred
  else if code ∈ [authorityDenied, eligibilityDenied, staleGeneration, staleIncarnation,
      staleTopology, stalePolicy, staleAttempt, incarnationMismatch, generationMismatch,
      lateAuthority, attemptSuperseded, topologyMismatch, policyMismatch, participantNotActive,
      partitionNotOwned, policyDenied, fanOutCeilingExceeded, fanInCeilingExceeded, cancelled,
      shuttingDown, divergentCommit] then .authority
  else .permanent

/-! ## Carriers -/

/-- A refusal: its code and the explanation that goes with it. -/
structure Error where
  code : ErrorCode
  detail : String
  deriving DecidableEq, Repr

/-- `Result<T>`. -/
abbrev Result (α : Type) := Except Error α

/-- `Status`. -/
abbrev Status := Result Unit

/-- `make_failure` / `Status{make_error(..)}`. -/
def makeFailure {α : Type} (code : ErrorCode) (detail : String) : Result α :=
  .error ⟨code, detail⟩

/-- `if (p) return failure;`. -/
def refuseIf (p : Prop) [Decidable p] (code : ErrorCode) (detail : String) : Status :=
  if p then makeFailure code detail else .ok ()

/-! ## Success of a chain of checks -/

section Success

variable {α β : Type} {p : Prop} [Decidable p] {code : ErrorCode} {detail : String}

theorem bind_eq_ok {x : Result α} {f : α → Result β} {b : β} :
    (x >>= f) = .ok b ↔ ∃ a, x = .ok a ∧ f a = .ok b := by
  cases x with
  | error e => simp [bind, Except.bind]
  | ok a => simp [bind, Except.bind]

theorem pure_eq_ok {a b : α} : (pure a : Result α) = .ok b ↔ a = b := by
  simp [pure, Except.pure]

theorem refuseIf_eq_ok {u : Unit} : refuseIf p code detail = .ok u ↔ ¬p := by
  by_cases h : p <;> simp [refuseIf, h, makeFailure]

/-- A check that refuses ends the chain. -/
theorem bind_refuseIf_of (f : Unit → Result β) (h : p) :
    (refuseIf p code detail >>= f) = .error ⟨code, detail⟩ := by
  rw [refuseIf, if_pos h]
  rfl

/-- A check that passes is skipped. -/
theorem bind_refuseIf_of_not (f : Unit → Result β) (h : ¬p) :
    (refuseIf p code detail >>= f) = f () := by
  rw [refuseIf, if_neg h]
  rfl

end Success

end ShuffleFabric
