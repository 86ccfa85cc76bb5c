import ShuffleFabric.Frame

/-!
# ShuffleFabric.Frame.Decode

Reading a frame back (`frame.cpp`).

Integrity before semantics: magic and version first, then the checksum of the header, and
only then the fields it covers.  The first frame of a buffer may be followed by others;
`decodeFrame` insists on exactly one.
-/

namespace ShuffleFabric

open ByteReader

def ErrorCode.frameTypeUnsupported : ErrorCode := ⟨705⟩

/-! ## Fields of a buffer -/

/-- The bytes of a field. -/
def slice (bytes : Bytes) (offset width : Nat) : Bytes := (bytes.drop offset).take width

/-- `read_u16`, at an offset. -/
def readU16 (bytes : Bytes) (offset : Nat) : UInt16 := u16Of (slice bytes offset 2)

/-- `read_u32`, at an offset. -/
def readU32 (bytes : Bytes) (offset : Nat) : UInt32 := u32Of (slice bytes offset 4)

/-- `read_u64`, at an offset. -/
def readU64 (bytes : Bytes) (offset : Nat) : UInt64 := u64Of (slice bytes offset 8)

/-! ## Message types -/

/-- `kMessageTypes`: every message type of the protocol, in numeric order. -/
def kMessageTypes : List MessageType :=
  [.handshakeRequest, .handshakeResponse, .errorResponse, .openShuffleRequest,
    .openShuffleResponse, .registerParticipantRequest, .registerParticipantResponse,
    .publishManifestRequest, .publishManifestResponse, .nextWaveRequest, .nextWaveResponse,
    .commitTransferRequest, .commitTransferResponse, .reportFailureRequest,
    .reportFailureResponse, .congestionIntentRequest, .congestionIntentResponse,
    .cancelShuffleRequest, .cancelShuffleResponse, .progressRequest, .progressResponse,
    .explainRequest, .explainResponse, .closeRequest, .closeResponse, .manifestRequest,
    .manifestResponse, .statusRequest, .statusResponse, .chunkFetchRequest, .chunkFetchResponse,
    .chunkFetchFailure]

/-- The message type a number stands for; `none` where `is_known_message_type` is false. -/
def MessageType.ofValue (value : UInt16) : Option MessageType :=
  kMessageTypes.find? fun type => type.value = value

theorem MessageType.ofValue_eq_some {value : UInt16} {type : MessageType} :
    MessageType.ofValue value = some type ↔ type.value = value := by
  constructor
  · intro h
    simpa using List.find?_some h
  · rintro rfl
    cases type <;> rfl

/-! ## Frames -/

/-- `kFrameHeaderCrcOffset`. -/
def kFrameHeaderCrcOffset : Nat := 36

/-- `decode_header`. -/
def decodeHeader (headerBytes : Bytes) (limits : Limits) : Result FrameHeader := do
  refuseIf (headerBytes.length < kFrameHeaderBytes.toNat) .truncatedInput
    "fewer than 40 bytes of frame header"
  refuseIf (headerBytes.length > kFrameHeaderBytes.toNat) .trailingGarbage
    "header span is longer than one frame header"
  refuseIf (readU32 headerBytes 0 ≠ kFrameMagic) .protocolViolation
    "frame magic does not match 'SFB1'"
  let version := readU16 headerBytes 4
  refuseIf (version ≠ kProtocolVersion) .unsupportedVersion "frame version is not supported"
  refuseIf (readU32 headerBytes kFrameHeaderCrcOffset ≠
    crc32c (headerBytes.take kFrameHeaderCrcOffset)) .checksumMismatch
    "header CRC-32C does not match"
  let flags := readU32 headerBytes 8
  refuseIf (flags &&& kFlagReservedMask ≠ 0) .malformedInput
    "reserved frame flag bits must be zero"
  match MessageType.ofValue (readU16 headerBytes 6) with
  | none =>
    makeFailure .frameTypeUnsupported "message type is not part of protocol version 1"
  | some type => do
    let payloadLength := readU32 headerBytes 28
    refuseIf (payloadLength.toUInt64 > limits.maxFramePayloadBytes) .oversizedInput
      "declared payload exceeds max_frame_payload_bytes"
    let session := readU64 headerBytes 12
    let sequence := readU64 headerBytes 20
    refuseIf (sequence = 0) .sequenceViolation "wire sequences start at 1"
    let payloadCrc32c := readU32 headerBytes 32
    pure { version, type, flags, session, sequence, payloadLength, payloadCrc32c }

/-- `struct DecodedFrame`. -/
structure DecodedFrame where
  header : FrameHeader
  payload : Bytes
  consumed : Nat
  deriving DecidableEq

/-- `decode_frame_prefix`. -/
def decodeFramePrefix (bytes : Bytes) (limits : Limits) : Result DecodedFrame := do
  refuseIf (bytes.length < kFrameHeaderBytes.toNat) .truncatedInput
    "fewer than 40 bytes of frame header"
  let header ← decodeHeader (bytes.take kFrameHeaderBytes.toNat) limits
  let frameSize ← checkedAdd kFrameHeaderBytes header.payloadLength.toUInt64
  refuseIf (bytes.length < frameSize.toNat) .truncatedInput
    "buffer ends before the declared frame length"
  let payload := slice bytes kFrameHeaderBytes.toNat header.payloadLength.toNat
  refuseIf (crc32c payload ≠ header.payloadCrc32c) .checksumMismatch
    "payload CRC-32C does not match"
  pure ⟨header, payload, frameSize.toNat⟩

/-- `decode_frame`. -/
def decodeFrame (bytes : Bytes) (limits : Limits) : Result DecodedFrame := do
  let frame ← decodeFramePrefix bytes limits
  refuseIf (frame.consumed ≠ bytes.length) .trailingGarbage "bytes follow the complete frame"
  pure frame

end ShuffleFabric
