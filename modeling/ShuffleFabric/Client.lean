import ShuffleFabric.Service.Pool

/-!
# ShuffleFabric.Client

`CoordinatorClient` (`service.cpp`): one request frame out, one reply frame in.

The client speaks to a world that takes a frame and gives a reply back, or says why there is
none; sending and receiving on the socket are that world.  A peer that does not keep to the
protocol ends the connection, and a refusal does not.
-/

namespace ShuffleFabric

open Lib Action ByteReader

/-- `struct ClientOptions`, without the address to connect to. -/
structure ClientOptions where
  identity : SessionIdentity := {}
  limits : Limits := {}
  deriving DecidableEq

/-- `struct CoordinatorClient::Impl`, without the socket. -/
structure CoordinatorClient where
  options : ClientOptions := {}
  session : SessionId := 0
  nextSequence : UInt64 := 1
  guard : ReplayGuard := ReplayGuard.make CoordinatorServer.kReplayWindow
  connected : Bool := false

/-- What a member function of the client does, in a world that answers frames. -/
abbrev Remote (ω α : Type) := CoordinatorClient → ω → Result α × CoordinatorClient × ω

/-! ## Replies -/

namespace Wire

/-- `read_envelope`: the error code and the detail. -/
def readEnvelope (limits : Limits) : Read (ErrorCode × Bytes) := do
  let raw ← u16
  let detail ← string limits.maxStringBytes.toNat
  checkOk
  throwIf (¬isKnownErrorCode raw)
    ⟨.protocolViolation, "reply carries an error code outside protocol version 1"⟩
  pure (⟨raw⟩, detail)

/-- The reads of `CoordinatorClient::register_participant`. -/
def readRegistrationOutcome : Read RegistrationOutcome := do
  let topologyGeneration ← u64
  let incarnation ← u64
  let supersededPrevious ← boolean
  checkOk
  pure { topologyGeneration, incarnation, supersededPrevious }

/-- The reads of `CoordinatorClient::publish_manifest`. -/
def readAcceptance : Read ManifestAcceptance := do
  let manifestDigest ← digest
  let partitionGeneration ← u64
  checkOk
  pure { manifestDigest, partitionGeneration }

/-- The reads of `CoordinatorClient::commit_transfer`. -/
def readCommitOutcome : Read CommitOutcome := do
  let newlyCommitted ← boolean
  let edgeNewlyCompleted ← boolean
  let duplicate ← boolean
  let sequence ← u64
  let manifestDigest ← digest
  let accountedBytes ← u64
  let shuffleCompleted ← boolean
  checkOk
  pure {
    receipt := {
      newlyCommitted, edgeNewlyCompleted, duplicate, sequence, manifestDigest, accountedBytes }
    shuffleCompleted }

/-- The reads of `CoordinatorClient::report_failure`. -/
def readFailureOutcome : Read FailureOutcome := do
  let permanent ← boolean
  let attempts ← u32
  let readyAt ← u64
  checkOk
  pure { permanent, attempts, readyAt }

/-- The text of a string that was read. -/
def textOf (text : Bytes) : String := (String.fromUTF8? text.toByteArray).getD ""

end Wire

namespace CoordinatorClient

/-- `drop_connection`. -/
def drop (c : CoordinatorClient) : CoordinatorClient := { c with connected := false }

/-- The lambda `violation` of `transact`. -/
def violation {α : Type} (c : CoordinatorClient) (detail : String) : Result α × CoordinatorClient :=
  (makeFailure .protocolViolation detail, c.drop)

/-- The fields of an intent, in the order they are sent. -/
def congestionReport (intent : CongestionIntent) : CongestionReport where
  rawKind := intent.reporterKind.toUInt8
  reporter := intent.reporterId
  incarnation := intent.reporterIncarnation
  producer := intent.producer
  consumer := intent.consumer
  level := intent.level
  policyGeneration := intent.policyGeneration
  observedAt := intent.observedAt

/-- The header of a request. -/
def requestHeader (c : CoordinatorClient) (type : MessageType) : FrameHeader where
  type := type
  session := c.session
  sequence := c.nextSequence

/-- `transact`, from the reply on: the body behind the envelope. -/
def receive (c : CoordinatorClient) (responseType : MessageType) (reply : DecodedFrame) :
    Result Bytes × CoordinatorClient :=
  if reply.header.flags &&& kFlagResponse = 0 then
    c.violation "reply does not carry the Response flag"
  else if reply.header.sequence ≠ c.nextSequence then
    c.violation "reply does not carry the request sequence"
  else
    match c.guard.accept reply.header.sequence with
    | (.error e, guard) => { c with guard }.violation e.detail
    | (.ok false, guard) => { c with guard }.violation "reply sequence was already used"
    | (.ok true, guard) =>
      let c := { c with guard }
      if reply.header.session ≠ c.session then
        c.violation "reply carries another session id"
      else if reply.header.type ≠ responseType ∧ reply.header.type ≠ .errorResponse then
        c.violation "reply type is not the expected response"
      else
        match (Wire.readEnvelope c.options.limits).exec ⟨reply.payload, c.options.limits, none⟩ with
        | (.error e, _) => c.violation e.detail
        | (.ok (code, detail), rest) =>
          if code ≠ .ok then
            match (requireEnd.exec rest).1 with
            | .error e => c.violation e.detail
            | .ok _ =>
              (.error ⟨code, Wire.textOf detail⟩, { c with nextSequence := c.nextSequence + 1 })
          else if reply.header.type = .errorResponse then
            c.violation "an error response carries an Ok code"
          else if reply.payload.length < 2 + 4 + detail.length then
            c.violation "reply payload is shorter than its envelope"
          else
            (.ok (reply.payload.drop (2 + 4 + detail.length)),
              { c with nextSequence := c.nextSequence + 1 })

section World

variable {ω α : Type} (exchange : Bytes → ω → Result DecodedFrame × ω)

/-- `transact`. -/
def transact (requestType responseType : MessageType) (payload : Bytes) : Remote ω Bytes :=
  fun c world =>
    if ¬c.connected then (makeFailure .sessionClosed "the client is not connected", c, world)
    else
      match encodeFrame (c.requestHeader requestType) payload c.options.limits with
      | .error e => (.error e, c, world)
      | .ok frame =>
        match exchange frame world with
        | (.error e, world) => (.error e, c.drop, world)
        | (.ok reply, world) =>
          let (body, c) := c.receive responseType reply
          (body, c, world)

/-- `call`. -/
def call (requestType responseType : MessageType) (payload : Bytes) : Remote ω Unit :=
  fun c world =>
    match transact exchange requestType responseType payload c world with
    | (.error e, after) => (.error e, after)
    | (.ok body, c, world) =>
      if body ≠ [] then
        (makeFailure .protocolViolation "the reply carries a body it must not carry", c.drop, world)
      else (.ok (), c, world)

/-- A payload that can be refused, `round_trip`, and the decoding of the body. -/
def roundTrip (requestType responseType : MessageType) (payload : Limits → Result Bytes)
    (decode : Bytes → Limits → Result α) : Remote ω α :=
  fun c world =>
    match payload c.options.limits with
    | .error e => (.error e, c, world)
    | .ok payload =>
      let (body, after) := transact exchange requestType responseType payload c world
      (body >>= fun body => decode body c.options.limits, after)

/-! ## The operations -/

/-- `CoordinatorClient::open_shuffle`. -/
def openShuffle (request : ShuffleOpenRequest) : Remote ω Unit :=
  call exchange .openShuffleRequest .openShuffleResponse (Wire.writeOpenShuffle request)

/-- `CoordinatorClient::register_participant`. -/
def registerParticipant (kind : ParticipantKind) (id : UInt64) (incarnation : IncarnationId)
    (endpoint : Bytes) (selection : PartitionSelection) : Remote ω RegistrationOutcome :=
  roundTrip exchange .registerParticipantRequest .registerParticipantResponse
    (fun limits => Wire.writeRegistration limits
      ⟨kind.toUInt8, id, incarnation, endpoint, selection⟩)
    (decodeWith (toEnd Wire.readRegistrationOutcome))

/-- `CoordinatorClient::publish_manifest`. -/
def publishManifest (manifest : PartitionManifest) : Remote ω ManifestAcceptance :=
  roundTrip exchange .publishManifestRequest .publishManifestResponse
    (fun limits => putByteString <$> encodeManifest manifest limits)
    (decodeWith (toEnd Wire.readAcceptance))

/-- `CoordinatorClient::next_wave`. -/
def nextWave : Remote ω WavePlan :=
  roundTrip exchange .nextWaveRequest .nextWaveResponse (fun _ => .ok [])
    (fun body limits => decodeWith (toEnd (Wire.readWavePlan limits)) body limits)

/-- `CoordinatorClient::commit_transfer`. -/
def commitTransfer (request : CommitRequest) : Remote ω CommitOutcome :=
  roundTrip exchange .commitTransferRequest .commitTransferResponse
    (fun _ => .ok (Wire.writeCommitRequest request))
    (decodeWith (toEnd Wire.readCommitOutcome))

/-- `CoordinatorClient::report_failure`. -/
def reportFailure (attempt : TransferAttemptId) (code : ErrorCode) : Remote ω FailureOutcome :=
  roundTrip exchange .reportFailureRequest .reportFailureResponse
    (fun _ => .ok (Wire.writeFailureReport ⟨attempt, code.value⟩))
    (decodeWith (toEnd Wire.readFailureOutcome))

/-- `CoordinatorClient::report_congestion`. -/
def reportCongestion (intent : CongestionIntent) : Remote ω Unit :=
  call exchange .congestionIntentRequest .congestionIntentResponse
    (Wire.writeCongestionReport (congestionReport intent))

/-- `CoordinatorClient::cancel_shuffle`. -/
def cancelShuffle (reason : ErrorCode) : Remote ω Unit :=
  call exchange .cancelShuffleRequest .cancelShuffleResponse (putU16 reason.value)

/-! ## The questions -/

/-- `CoordinatorClient::manifest`. -/
def manifest (partition : PartitionId) : Remote ω PartitionManifest :=
  roundTrip exchange .manifestRequest .manifestResponse (fun _ => .ok (putU64 partition))
    fun body limits => do
      let encoded ← decodeWith (toEnd (bytes limits.maxMessagePayloadBytes.toNat)) body limits
      decodeManifest encoded limits

/-- `CoordinatorClient::progress`. -/
def progress : Remote ω ProgressSnapshot :=
  roundTrip exchange .progressRequest .progressResponse (fun _ => .ok [])
    (decodeWith (toEnd Wire.readProgressSnapshot))

/-- `CoordinatorClient::explain`. -/
def explain (maxSamplesPerCode : UInt32) : Remote ω (List Wire.ExplainText) :=
  roundTrip exchange .explainRequest .explainResponse (fun _ => .ok (putU32 maxSamplesPerCode))
    (fun body limits => decodeWith (toEnd (Wire.readExplanation limits)) body limits)

/-- `CoordinatorClient::status`. -/
def status : Remote ω CoordinatorStatus :=
  roundTrip exchange .statusRequest .statusResponse (fun _ => .ok [])
    (decodeWith (toEnd Wire.readStatus))

/-! ## Connecting and closing -/

/-- `handshake`, from the reply on. -/
def bindSession (c : CoordinatorClient) (reply : DecodedFrame) : Status × CoordinatorClient :=
  if reply.header.flags &&& kFlagResponse = 0 ∨ reply.header.sequence ≠ 1 then
    (makeFailure .protocolViolation "handshake reply does not carry the request sequence", c)
  else
    match c.guard.accept reply.header.sequence with
    | (.error e, guard) => (.error e, { c with guard })
    | (.ok false, guard) =>
      (makeFailure .protocolViolation "handshake reply reuses a sequence already seen",
        { c with guard })
    | (.ok true, guard) =>
      let c := { c with guard }
      match (Wire.readEnvelope c.options.limits).exec ⟨reply.payload, c.options.limits, none⟩ with
      | (.error e, _) => (.error e, c)
      | (.ok (code, detail), rest) =>
        if code ≠ .ok then (.error ⟨code, Wire.textOf detail⟩, c)
        else if reply.header.type = .errorResponse then
          (makeFailure .protocolViolation "an error response carries an Ok code", c)
        else if reply.header.type ≠ .handshakeResponse then
          (makeFailure .protocolViolation "the first reply must be HandshakeResponse", c)
        else
          match (requireEnd.exec rest).1 with
          | .error e => (.error e, c)
          | .ok _ =>
            if reply.header.session = 0 then
              (makeFailure .protocolViolation "the server did not assign a session id", c)
            else (.ok (), { c with session := reply.header.session, nextSequence := 2 })

/-- The identity as the handshake presents it. -/
def hello (identity : SessionIdentity) : Handshake :=
  ⟨identity.kind.toUInt8, identity.participantId, identity.incarnation, identity.bootNonce⟩

/-- `handshake`. -/
def handshake : Remote ω Unit :=
  fun c world =>
    match encodeFrame { type := .handshakeRequest, sequence := 1 }
      (Wire.writeHandshake (hello c.options.identity)) c.options.limits with
    | .error e => (.error e, c, world)
    | .ok frame =>
      match exchange frame world with
      | (.error e, world) => (.error e, c, world)
      | (.ok reply, world) =>
        let (status, c) := c.bindSession reply
        (status, c, world)

/-- The checks of `connect`; `reached` is what `Socket::connect` says. -/
def checkConnect (c : CoordinatorClient) (options : ClientOptions) (reached : Status) : Status := do
  refuseIf c.connected .invalidState "the client is already connected"
  options.limits.validate
  refuseIf (¬options.identity.valid) .invalidArgument
    "a client identity must be bound before connecting"
  reached

/-- `connect`. -/
def connect (options : ClientOptions) (reached : Status) : Remote ω Unit :=
  fun c world =>
    match c.checkConnect options reached with
    | .error e => (.error e, c, world)
    | .ok _ =>
      match handshake exchange { options } world with
      | (.error e, c, world) => (.error e, c.drop, world)
      | (.ok _, c, world) => (.ok (), { c with connected := true }, world)

/-- `close`; `open_` says whether there is a socket. -/
def close (open_ : Bool) : Remote ω Unit :=
  fun c world =>
    if ¬open_ then (.ok (), c.drop, world)
    else if c.connected then
      let (_, c, world) := transact exchange .closeRequest .closeResponse [] c world
      (.ok (), c.drop, world)
    else (.ok (), c.drop, world)

end World

end CoordinatorClient

end ShuffleFabric
