import ShuffleFabric.Wire

/-!
# ShuffleFabric.Service.Request

The payloads of the requests, as the client writes them and the server reads them
(`service.cpp`).

Writers and readers stand side by side.  A reader stops at the first field that cannot be
read; whether bytes follow is asked afterwards, by `toEnd`.
-/

namespace ShuffleFabric

open Lib Action ByteReader

set_option synthInstance.maxSize 512

/-! ## The identity of a session -/

/-- `struct SessionIdentity`. -/
structure SessionIdentity where
  kind : ParticipantKind := .producer
  participantId : UInt64 := 0
  incarnation : IncarnationId := 0
  bootNonce : UInt64 := 0
  deriving DecidableEq

/-- `SessionIdentity::valid`. -/
def SessionIdentity.valid (identity : SessionIdentity) : Bool :=
  identity.participantId != 0 && identity.incarnation != 0

/-- The payload of a `HandshakeRequest`; the kind is raw. -/
structure Handshake where
  rawKind : UInt8
  participant : UInt64
  incarnation : UInt64
  bootNonce : UInt64
  deriving DecidableEq

/-- The payload of a `RegisterParticipantRequest`. -/
structure Registration where
  rawKind : UInt8
  id : UInt64
  incarnation : UInt64
  endpoint : Bytes
  selection : PartitionSelection
  deriving DecidableEq

/-- The payload of a `ReportFailureRequest`. -/
structure FailureReport where
  attempt : UInt64
  rawCode : UInt16
  deriving DecidableEq

/-- The payload of a `CongestionIntentRequest`. -/
structure CongestionReport where
  rawKind : UInt8
  reporter : UInt64
  incarnation : UInt64
  producer : ProducerId
  consumer : ConsumerId
  level : UInt32
  policyGeneration : PolicyGeneration
  observedAt : TickId
  deriving DecidableEq

namespace Wire

/-! ## Handshakes -/

/-- The payload `CoordinatorClient::connect` writes. -/
def writeHandshake (hello : Handshake) : Bytes :=
  putU8 hello.rawKind ++ putU64 hello.participant ++ putU64 hello.incarnation ++
    putU64 hello.bootNonce

/-- The reads of the handshake stage of `handle`. -/
def readHandshake : Read Handshake := do
  let rawKind ← u8
  let participant ← u64
  let incarnation ← u64
  let bootNonce ← u64
  pure { rawKind, participant, incarnation, bootNonce }

/-! ## Shuffles -/

/-- The payload `CoordinatorClient::open_shuffle` writes. -/
def writeOpenShuffle (request : ShuffleOpenRequest) : Bytes :=
  putU64 request.shuffle ++ putU64 request.generation ++ putU32 request.partitionCount ++
    encodePolicy request.policy

/-- `read_open_shuffle`. -/
def readOpenShuffle : Read ShuffleOpenRequest := do
  let shuffle ← u64
  let generation ← u64
  let partitionCount ← u32
  checkOk
  let policy ← decodePolicy
  checkOk
  pure { shuffle, generation, partitionCount, policy }

/-! ## Registrations -/

/-- `write_selection`. -/
def writeSelection (limits : Limits) (selection : PartitionSelection) : Result Bytes := do
  refuseIf (selection.list.length > limits.maxSelectionItems.toNat) .oversizedInput
    "selection list exceeds max_selection_items"
  pure (putU8 selection.kind.toUInt8 ++ putU64 selection.first ++ putU64 selection.last ++
    putCount selection.list.length ++ putMany putU64 selection.list)

/-- `read_selection`; unlike the durable form it does not ask for a canonical list. -/
def readSelection (limits : Limits) : Read PartitionSelection := do
  let rawKind ← u8
  let first ← u64
  let last ← u64
  checkOk
  let kind ← orThrow (SelectionKind.ofUInt8 rawKind)
    ⟨.malformedInput, "selection kind is not part of protocol version 1"⟩
  let count ← collectionCount limits.maxSelectionItems.toNat
  checkOk
  let list ← readMany u64 count
  checkOk
  pure { kind, first, last, list }

/-- The payload `CoordinatorClient::register_participant` writes; the endpoint is cut at its
bound. -/
def writeRegistration (limits : Limits) (registration : Registration) : Result Bytes := do
  let selection ← writeSelection limits registration.selection
  pure (putU8 registration.rawKind ++ putU64 registration.id ++ putU64 registration.incarnation ++
    putByteString (registration.endpoint.take limits.maxEndpointBytes.toNat) ++ selection)

/-- The reads of the case `RegisterParticipantRequest`. -/
def readRegistration (limits : Limits) : Read Registration := do
  let rawKind ← u8
  let id ← u64
  let incarnation ← u64
  let endpoint ← string limits.maxEndpointBytes.toNat
  let selection ← readSelection limits
  pure { rawKind, id, incarnation, endpoint, selection }

/-! ## Reports -/

/-- The payload `CoordinatorClient::report_failure` writes. -/
def writeFailureReport (report : FailureReport) : Bytes :=
  putU64 report.attempt ++ putU16 report.rawCode

/-- The reads of the case `ReportFailureRequest`. -/
def readFailureReport : Read FailureReport := do
  let attempt ← u64
  let rawCode ← u16
  pure { attempt, rawCode }

/-- The payload `CoordinatorClient::report_congestion` writes. -/
def writeCongestionReport (report : CongestionReport) : Bytes :=
  putU8 report.rawKind ++ putU64 report.reporter ++ putU64 report.incarnation ++
    putU64 report.producer ++ putU64 report.consumer ++ putU32 report.level ++
    putU64 report.policyGeneration ++ putU64 report.observedAt

/-- The reads of the case `CongestionIntentRequest`. -/
def readCongestionReport : Read CongestionReport := do
  let rawKind ← u8
  let reporter ← u64
  let incarnation ← u64
  let producer ← u64
  let consumer ← u64
  let level ← u32
  let policyGeneration ← u64
  let observedAt ← u64
  pure { rawKind, reporter, incarnation, producer, consumer, level, policyGeneration, observedAt }

/-! ## Reading what was written -/

variable {limits : Limits}

instance stickyHandshake : Sticky readHandshake := by unfold readHandshake; infer_instance
instance stickySelection : Sticky (readSelection limits) := by
  unfold readSelection; infer_instance
instance stickyRegistration : Sticky (readRegistration limits) := by
  unfold readRegistration; infer_instance

theorem reads_handshake (hello : Handshake) :
    Reads limits (8 ≤ limits.maxAllocationBytes.toNat) readHandshake (writeHandshake hello)
      hello := by
  have h : Reads limits _ readHandshake _ hello := (Reads.u8 hello.rawKind).bind <|
    (Reads.u64 hello.participant).bind <| (Reads.u64 hello.incarnation).bind <|
    (Reads.u64 hello.bootNonce).bind <| Reads.pure hello
  refine h.congr ⟨fun h => h.2.1, fun h8 => ⟨by omega, h8, h8, h8, trivial⟩⟩ ?_
  simp only [writeHandshake, List.append_assoc, List.append_nil]

/-- An invalid policy is refused by the reader already. -/
theorem reads_openShuffle (request : ShuffleOpenRequest) :
    Reads limits
      (8 ≤ limits.maxAllocationBytes.toNat ∧ validatePolicy request.policy = .ok ())
      readOpenShuffle (writeOpenShuffle request) request := by
  have h : Reads limits _ readOpenShuffle _ request := (Reads.u64 request.shuffle).bind <|
    (Reads.u64 request.generation).bind <| (Reads.u32 request.partitionCount).bind <|
    Reads.checkOk.bind <| (reads_policy request.policy).bind <| Reads.checkOk.bind <|
    Reads.pure request
  refine h.congr ?_ ?_
  · constructor
    · rintro ⟨h8, -, -, -, ⟨-, hvalid⟩, -⟩
      exact ⟨h8, hvalid⟩
    · rintro ⟨h8, hvalid⟩
      exact ⟨h8, h8, by omega, trivial, ⟨h8, hvalid⟩, trivial, trivial⟩
  · simp only [writeOpenShuffle, List.append_assoc, List.append_nil, List.nil_append]

theorem reads_wireSelection (s : PartitionSelection) (h32 : s.list.length < 2 ^ 32) :
    Reads limits
      (8 ≤ limits.maxAllocationBytes.toNat ∧
        CountOk limits limits.maxSelectionItems.toNat s.list.length)
      (readSelection limits)
      (putU8 s.kind.toUInt8 ++ putU64 s.first ++ putU64 s.last ++ putCount s.list.length ++
        putMany putU64 s.list) s := by
  have hkind : SelectionKind.ofUInt8 s.kind.toUInt8 = some s.kind := by cases s.kind <;> rfl
  have hmany : Reads limits (∀ p ∈ s.list, 8 ≤ limits.maxAllocationBytes.toNat) _ _ s.list :=
    Reads.many fun p _ => Reads.u64 p
  have hlen : s.list.length ≤ (putMany putU64 s.list).length :=
    length_le_putMany (fun p => by simp) _
  have h : Reads limits _ (readSelection limits) _ s := (Reads.u8 s.kind.toUInt8).bind <|
    (Reads.u64 s.first).bind <| (Reads.u64 s.last).bind <| Reads.checkOk.bind <|
    (Reads.orThrow hkind).bind <| Reads.count h32 (by simpa using hlen) <|
    Reads.checkOk.bind <| hmany.bind <| Reads.checkOk.bind <| Reads.pure s
  refine h.congr ?_ ?_
  · constructor
    · rintro ⟨-, h8, -, -, -, hcount, -⟩
      exact ⟨h8, hcount⟩
    · rintro ⟨h8, hcount⟩
      exact ⟨by omega, h8, h8, trivial, trivial, hcount, trivial, fun _ _ => h8, trivial, trivial⟩
  · simp only [List.append_assoc, List.append_nil, List.nil_append]

/-- What the reader of a registration asks for. -/
structure RegistrationFits (limits : Limits) (r : Registration) : Prop where
  endpoint : r.endpoint.length ≤ limits.maxEndpointBytes.toNat
  utf8 : isValidUtf8 r.endpoint
  list : r.selection.list.length ≤ limits.maxSelectionItems.toNat
  items : r.selection.list.length ≤ limits.maxCollectionItems.toNat

theorem reads_registration {r : Registration} (hfits : RegistrationFits limits r) :
    ∃ data, writeRegistration limits r = .ok data ∧
      Reads limits
        (8 ≤ limits.maxAllocationBytes.toNat ∧
          r.endpoint.length ≤ limits.maxAllocationBytes.toNat)
        (readRegistration limits) data r := by
  obtain ⟨hendpoint, hutf, hlist, hitems⟩ := hfits
  have hlen : r.endpoint.length < 2 ^ 32 := hendpoint.trans_lt limits.maxEndpointBytes.toNat_lt
  have hsel : r.selection.list.length < 2 ^ 32 :=
    hitems.trans_lt limits.maxCollectionItems.toNat_lt
  have hover : ¬r.selection.list.length > limits.maxSelectionItems.toNat := not_lt.mpr hlist
  have h : Reads limits _ (readRegistration limits) _ r := (Reads.u8 r.rawKind).bind <|
    (Reads.u64 r.id).bind <| (Reads.u64 r.incarnation).bind <|
    (Reads.string limits.maxEndpointBytes.toNat hlen).bind <|
    (reads_wireSelection r.selection hsel).bind <| Reads.pure r
  refine ⟨_, ?_, h.congr ?_ rfl⟩
  · simp only [writeRegistration, writeSelection, bind_assoc]
    rw [bind_refuseIf_of_not _ hover]
    simp only [pure_bind, List.take_of_length_le hendpoint, List.append_assoc, List.append_nil]
    rfl
  · constructor
    · rintro ⟨-, h8, -, ⟨-, -, hraw, -⟩, -⟩
      exact ⟨h8, hraw⟩
    · rintro ⟨h8, hraw⟩
      exact ⟨by omega, h8, h8, ⟨by omega, hendpoint, hraw, hutf⟩,
        ⟨h8, by omega, hlist, hitems⟩, trivial⟩

theorem reads_failureReport (report : FailureReport) :
    Reads limits (8 ≤ limits.maxAllocationBytes.toNat) readFailureReport
      (writeFailureReport report) report := by
  have h : Reads limits _ readFailureReport _ report := (Reads.u64 report.attempt).bind <|
    (Reads.u16 report.rawCode).bind <| Reads.pure report
  refine h.congr ⟨fun h => h.1, fun h8 => ⟨h8, by omega, trivial⟩⟩ ?_
  simp only [writeFailureReport, List.append_nil]

theorem reads_congestionReport (report : CongestionReport) :
    Reads limits (8 ≤ limits.maxAllocationBytes.toNat) readCongestionReport
      (writeCongestionReport report) report := by
  have h : Reads limits _ readCongestionReport _ report := (Reads.u8 report.rawKind).bind <|
    (Reads.u64 report.reporter).bind <| (Reads.u64 report.incarnation).bind <|
    (Reads.u64 report.producer).bind <| (Reads.u64 report.consumer).bind <|
    (Reads.u32 report.level).bind <| (Reads.u64 report.policyGeneration).bind <|
    (Reads.u64 report.observedAt).bind <| Reads.pure report
  refine h.congr ⟨fun h => h.2.1, fun h8 => ?_⟩ ?_
  · exact ⟨by omega, h8, h8, h8, h8, by omega, h8, h8, trivial⟩
  · simp only [writeCongestionReport, List.append_assoc, List.append_nil]

end Wire

end ShuffleFabric
