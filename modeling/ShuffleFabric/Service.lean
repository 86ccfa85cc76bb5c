import ShuffleFabric.Frame.Decode
import ShuffleFabric.Service.Request

/-!
# ShuffleFabric.Service

`CoordinatorServer::Impl::handle` (`service.cpp`): what the coordinator service does with a
frame that the replay guard let through.

A case reads its payload to the end, compares it with the identity the handshake bound,
enters the coordinator once, and answers with an envelope and a body.  Cases differ in what
they read, what they compare and what they write.
-/

namespace ShuffleFabric

open Lib Action ByteReader

/-- `to_string(MessageType)`. -/
def MessageType.text : MessageType → String
  | .handshakeRequest => "HandshakeRequest"
  | .handshakeResponse => "HandshakeResponse"
  | .errorResponse => "ErrorResponse"
  | .openShuffleRequest => "OpenShuffleRequest"
  | .openShuffleResponse => "OpenShuffleResponse"
  | .registerParticipantRequest => "RegisterParticipantRequest"
  | .registerParticipantResponse => "RegisterParticipantResponse"
  | .publishManifestRequest => "PublishManifestRequest"
  | .publishManifestResponse => "PublishManifestResponse"
  | .nextWaveRequest => "NextWaveRequest"
  | .nextWaveResponse => "NextWaveResponse"
  | .commitTransferRequest => "CommitTransferRequest"
  | .commitTransferResponse => "CommitTransferResponse"
  | .reportFailureRequest => "ReportFailureRequest"
  | .reportFailureResponse => "ReportFailureResponse"
  | .congestionIntentRequest => "CongestionIntentRequest"
  | .congestionIntentResponse => "CongestionIntentResponse"
  | .cancelShuffleRequest => "CancelShuffleRequest"
  | .cancelShuffleResponse => "CancelShuffleResponse"
  | .progressRequest => "ProgressRequest"
  | .progressResponse => "ProgressResponse"
  | .explainRequest => "ExplainRequest"
  | .explainResponse => "ExplainResponse"
  | .closeRequest => "CloseRequest"
  | .closeResponse => "CloseResponse"
  | .manifestRequest => "ManifestRequest"
  | .manifestResponse => "ManifestResponse"
  | .statusRequest => "StatusRequest"
  | .statusResponse => "StatusResponse"
  | .chunkFetchRequest => "ChunkFetchRequest"
  | .chunkFetchResponse => "ChunkFetchResponse"
  | .chunkFetchFailure => "ChunkFetchFailure"

namespace Service

/-! ## Answers -/

/-- The out parameters of `handle`. -/
structure Answer where
  type : MessageType := .errorResponse
  payload : Bytes
  served : Bool := false
  deriving DecidableEq

/-- The lambda `refuse` of `handle`. -/
def refuse (limits : Limits) (e : Error) : Answer where
  payload := Session.writeErrorEnvelope limits e

/-- The shape of a case: `ask` is the payload as far as it is read and checked, and in it what
the coordinator says.  The request counts as served once the coordinator was asked. -/
def answer (limits : Limits) (type : MessageType) (ask : Result (Result Bytes)) : Answer :=
  match ask with
  | .error e => refuse limits e
  | .ok (.error e) => { refuse limits e with served := true }
  | .ok (.ok body) => { type, payload := writeOkEnvelope ++ body, served := true }

/-- The body of an answer, behind the envelope. -/
def writeReply (limits : Limits) : Reply → Bytes
  | .registered outcome =>
    putU64 outcome.topologyGeneration ++ putU64 outcome.incarnation ++
      putBool outcome.supersededPrevious
  | .accepted acceptance =>
    putDigest acceptance.manifestDigest ++ putU64 acceptance.partitionGeneration
  | .wave plan => writeWavePlan limits plan
  | .committed outcome =>
    putBool outcome.receipt.newlyCommitted ++ putBool outcome.receipt.edgeNewlyCompleted ++
      putBool outcome.receipt.duplicate ++ putU64 outcome.receipt.sequence ++
      putDigest outcome.receipt.manifestDigest ++ putU64 outcome.receipt.accountedBytes ++
      putBool outcome.shuffleCompleted
  | .failed outcome => putBool outcome.permanent ++ putU32 outcome.attempts ++ putU64 outcome.readyAt
  | .done | .ticked _ => []

/-- A case that performs an operation. -/
def command (limits : Limits) (type : MessageType) (call : Result Call) (c : Coordinator) :
    Answer × Coordinator :=
  (answer limits type ((fun call => writeReply limits <$> (c.perform call).1) <$> call),
    match call with
    | .ok call => (c.perform call).2
    | .error _ => c)

/-! ## The requests -/

/-- `is_producer_kind`, `is_consumer_kind` and the cast. -/
def kindOf (raw : UInt8) (detail : String) : Result ParticipantKind :=
  match ParticipantKind.ofUInt8 raw with
  | some kind => .ok kind
  | none => makeFailure .malformedInput detail

/-- `check_participant_identity`. -/
def checkParticipantIdentity (identity : SessionIdentity) (kind : ParticipantKind) (id : UInt64)
    (incarnation : IncarnationId) : Status :=
  refuseIf (identity.kind ≠ kind ∨ identity.participantId ≠ id ∨
    identity.incarnation ≠ incarnation) .identityMismatch
    "request identity contradicts the session established by the handshake"

/-- An error code that a request may carry. -/
def codeOf (raw : UInt16) (detail : String) : Result ErrorCode := do
  refuseIf (raw = 0 ∨ ¬Wire.isKnownErrorCode raw) .malformedInput detail
  pure ⟨raw⟩

section Requests

variable (limits : Limits) (identity : SessionIdentity) (payload : Bytes)

/-- The case `OpenShuffleRequest`, up to the coordinator. -/
def openShuffleRequest : Result Call :=
  Call.openShuffle <$> decodeWith (toEnd Wire.readOpenShuffle) payload limits

/-- The case `RegisterParticipantRequest`, up to the coordinator. -/
def registerParticipantRequest : Result Call := do
  let request ← decodeWith (toEnd (Wire.readRegistration limits)) payload limits
  let kind ← kindOf request.rawKind
    "registration carries a participant kind outside protocol version 1"
  checkParticipantIdentity identity kind request.id request.incarnation
  match kind with
  | .producer => pure (.registerProducer request.id request.incarnation request.endpoint)
  | .consumer =>
    pure (.registerConsumer request.id request.incarnation request.endpoint request.selection)

/-- The case `PublishManifestRequest`, up to the coordinator. -/
def publishManifestRequest : Result Call := do
  let encoded ← decodeWith (toEnd (bytes limits.maxMessagePayloadBytes.toNat)) payload limits
  let manifest ← decodeManifest encoded limits
  refuseIf (identity.kind ≠ .producer ∨ manifest.producer ≠ identity.participantId ∨
    manifest.producerIncarnation ≠ identity.incarnation) .identityMismatch
    "manifest contradicts the identity bound by the handshake"
  pure (.publishManifest manifest)

/-- The case `NextWaveRequest`, up to the coordinator. -/
def nextWaveRequest : Result Call :=
  (fun _ => Call.nextWave) <$> decodeWith requireEnd payload limits

/-- The local `identity_matches` of `handle`. -/
def identityMatches (request : CommitRequest) : Bool :=
  match identity.kind with
  | .consumer => request.consumer == identity.participantId &&
      request.consumerIncarnation == identity.incarnation
  | .producer => request.producer == identity.participantId &&
      request.producerIncarnation == identity.incarnation

/-- The case `CommitTransferRequest`, up to the coordinator. -/
def commitTransferRequest : Result Call := do
  let request ← decodeWith (toEnd (Wire.readCommitRequest limits)) payload limits
  refuseIf (¬identityMatches identity request) .identityMismatch
    "completion contradicts the identity bound by the handshake"
  pure (.commitTransfer request)

/-- The case `ReportFailureRequest`, up to the coordinator; nobody asks who reports. -/
def reportFailureRequest : Result Call := do
  let report ← decodeWith (toEnd Wire.readFailureReport) payload limits
  let code ← codeOf report.rawCode "failure code is outside protocol version 1"
  pure (.reportFailure report.attempt code)

/-- The case `CongestionIntentRequest`, up to the coordinator. -/
def congestionIntentRequest : Result Call := do
  let report ← decodeWith (toEnd Wire.readCongestionReport) payload limits
  let kind ← kindOf report.rawKind "congestion reporter kind is outside protocol version 1"
  checkParticipantIdentity identity kind report.reporter report.incarnation
  pure (.updateCongestion {
    reporterKind := kind, reporterId := report.reporter
    reporterIncarnation := report.incarnation
    producer := report.producer, consumer := report.consumer, level := report.level
    policyGeneration := report.policyGeneration, observedAt := report.observedAt })

/-- The case `CancelShuffleRequest`, up to the coordinator; nobody asks who cancels. -/
def cancelShuffleRequest : Result Call := do
  let raw ← decodeWith (toEnd u16) payload limits
  let reason ← codeOf raw "cancellation reason is outside protocol version 1"
  pure (.cancelShuffle reason)

end Requests

/-! ## The questions -/

section Questions

-- `walk` is the order in which the ledger meets its failure records.
variable (limits : Limits) (walk : CompletionLedger → List FailureRecord) (payload : Bytes)
  (c : Coordinator)

/-- The case `ManifestRequest`. -/
def manifestRequest : Result (Result Bytes) :=
  (fun partition => do
    let manifest ← c.manifestOf partition
    let encoded ← encodeManifest manifest limits
    pure (putByteString encoded)) <$> decodeWith (toEnd u64) payload limits

/-- The case `ProgressRequest`. -/
def progressRequest : Result (Result Bytes) :=
  (fun _ => Wire.writeProgressSnapshot <$> c.progress) <$> decodeWith requireEnd payload limits

/-- The texts of an entry, as `write_text` sends them. -/
def entryText (entry : ExplainEntry) : Wire.ExplainText where
  code := entry.code
  subject := entry.subject.toUTF8.toList
  detail := entry.detail.toUTF8.toList
  count := entry.count

/-- The case `ExplainRequest`; `Coordinator::explain` does not look at `max_samples`. -/
def explainRequest : Result (Result Bytes) :=
  (fun _ => (fun entries => Wire.writeExplanation limits (entries.map entryText)) <$>
    c.explain (walk c.ledger)) <$> decodeWith (toEnd u32) payload limits

/-- The case `StatusRequest`. -/
def statusRequest : Result (Result Bytes) :=
  (fun _ => Wire.writeStatus <$> c.status) <$> decodeWith requireEnd payload limits

/-- The case `CloseRequest`. -/
def closeRequest : Result (Result Bytes) :=
  (fun _ => .ok []) <$> decodeWith requireEnd payload limits

end Questions

/-! ## The two stages -/

/-- What a session of the server knows of its peer. -/
structure Connection where
  bound : Bool := false
  wireId : SessionId := 0
  identity : SessionIdentity := {}
  deriving DecidableEq

/-- What the sessions share: the coordinator, and the next session identifier. -/
structure Hub where
  coordinator : Coordinator
  nextWireSession : UInt64 := 1

section Handle

variable (limits : Limits) (walk : CompletionLedger → List FailureRecord)

/-- The identity a handshake asks for. -/
def bindIdentity (payload : Bytes) : Result SessionIdentity := do
  let hello ← decodeWith (toEnd Wire.readHandshake) payload limits
  let kind ← kindOf hello.rawKind
    "handshake carries a participant kind outside protocol version 1"
  let identity : SessionIdentity :=
    ⟨kind, hello.participant, hello.incarnation, hello.bootNonce⟩
  refuseIf (¬identity.valid) .invalidArgument "handshake identity is incomplete"
  pure identity

/-- The handshake stage of `handle`. -/
def handshake (connection : Connection) (hub : Hub) (payload : Bytes) :
    Answer × Connection × Hub :=
  match bindIdentity limits payload with
  | .error e => (refuse limits e, connection, hub)
  | .ok identity =>
    (answer limits .handshakeResponse (.ok (.ok [])),
      { identity, wireId := hub.nextWireSession, bound := true },
      { hub with nextWireSession := hub.nextWireSession + 1 })

/-- The switch of `handle`. -/
def dispatch (identity : SessionIdentity) (type : MessageType) (payload : Bytes)
    (c : Coordinator) : Answer × Coordinator :=
  match type with
  | .openShuffleRequest =>
    command limits .openShuffleResponse (openShuffleRequest limits payload) c
  | .registerParticipantRequest =>
    command limits .registerParticipantResponse
      (registerParticipantRequest limits identity payload) c
  | .publishManifestRequest =>
    command limits .publishManifestResponse (publishManifestRequest limits identity payload) c
  | .nextWaveRequest => command limits .nextWaveResponse (nextWaveRequest limits payload) c
  | .commitTransferRequest =>
    command limits .commitTransferResponse (commitTransferRequest limits identity payload) c
  | .reportFailureRequest =>
    command limits .reportFailureResponse (reportFailureRequest limits payload) c
  | .congestionIntentRequest =>
    command limits .congestionIntentResponse (congestionIntentRequest limits identity payload) c
  | .cancelShuffleRequest =>
    command limits .cancelShuffleResponse (cancelShuffleRequest limits payload) c
  | .manifestRequest => (answer limits .manifestResponse (manifestRequest limits payload c), c)
  | .progressRequest => (answer limits .progressResponse (progressRequest limits payload c), c)
  | .explainRequest => (answer limits .explainResponse (explainRequest limits walk payload c), c)
  | .statusRequest => (answer limits .statusResponse (statusRequest limits payload c), c)
  | .closeRequest => (answer limits .closeResponse (closeRequest limits payload), c)
  | type =>
    (refuse limits ⟨.frameTypeUnsupported,
      "message type " ++ type.text ++ " is not served by the coordinator service"⟩, c)

/-- `handle`, for a frame whose header names `session`. -/
def handle (session : SessionId) (connection : Connection) (hub : Hub) (frame : Frame) :
    Answer × Connection × Hub :=
  if frame.payload.length > limits.maxMessagePayloadBytes.toNat then
    (refuse limits ⟨.oversizedInput, "payload exceeds max_message_payload_bytes"⟩,
      connection, hub)
  else if ¬connection.bound then
    if frame.type ≠ .handshakeRequest then
      (refuse limits ⟨.handshakeRequired,
        "the first request on a connection must be HandshakeRequest"⟩, connection, hub)
    else handshake limits connection hub frame.payload
  else if frame.type = .handshakeRequest then
    (refuse limits ⟨.protocolViolation, "the session is already bound to an identity"⟩,
      connection, hub)
  else if session ≠ connection.wireId then
    (refuse limits ⟨.identityMismatch,
      "frame carries a session id that is not this session's"⟩, connection, hub)
  else
    let (answer, coordinator) :=
      dispatch limits walk connection.identity frame.type frame.payload hub.coordinator
    (answer, connection, { hub with coordinator })

end Handle

end Service

end ShuffleFabric
