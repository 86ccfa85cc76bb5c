import ShuffleFabric.Client
import ShuffleFabric.Codec.Utf8
import ShuffleFabric.Frame.Sound
import ShuffleFabric.Lib.Text
import ShuffleFabric.Manifest.Canonical
import ShuffleFabric.Service.Attribution

/-!
# ShuffleFabric.Client.Remote

A remote call and the operation it stands for.

Client and session are a pair as long as they agree about the identity, the session
identifier and the sequence numbers.  What a paired client asks for is performed once, the
client learns what the coordinator said, and the two are a pair again.
-/

namespace ShuffleFabric

open Lib Action ByteReader

set_option synthInstance.maxSize 512

variable {limits : Limits}

/-! ## Reading replies -/

namespace Wire

/-- The envelope of an answer is read back if its detail is text within the bound. -/
theorem reads_envelope {code : ErrorCode} {detail : Bytes} (hknown : isKnownErrorCode code.value)
    (hbound : detail.length ≤ limits.maxStringBytes.toNat) (hutf : isValidUtf8 detail) :
    Reads limits
      (4 ≤ limits.maxAllocationBytes.toNat ∧ detail.length ≤ limits.maxAllocationBytes.toNat)
      (readEnvelope limits) (putU16 code.value ++ putByteString detail) (code, detail) := by
  have hlen : detail.length < 2 ^ 32 := hbound.trans_lt limits.maxStringBytes.toNat_lt
  have h : Reads limits _ (readEnvelope limits) _ (code, detail) :=
    (Reads.u16 code.value).bind <| (Reads.string limits.maxStringBytes.toNat hlen).bind <|
    Reads.checkOk.bind <| Reads.throwIf.bind <| Reads.pure (code, detail)
  refine h.congr ?_ (by simp only [List.append_nil])
  constructor
  · rintro ⟨-, ⟨h4, -, hraw, -⟩, -⟩
    exact ⟨h4, hraw⟩
  · rintro ⟨h4, hraw⟩
    exact ⟨by omega, ⟨h4, hbound, hraw, hutf⟩, trivial, not_not.mpr hknown, trivial⟩

/-- The answer to a registration. -/
theorem reads_registrationOutcome (outcome : RegistrationOutcome) :
    Reads limits (8 ≤ limits.maxAllocationBytes.toNat) readRegistrationOutcome
      (putU64 outcome.topologyGeneration ++ putU64 outcome.incarnation ++
        putBool outcome.supersededPrevious) outcome := by
  have h : Reads limits _ readRegistrationOutcome _ outcome :=
    (Reads.u64 outcome.topologyGeneration).bind <| (Reads.u64 outcome.incarnation).bind <|
    (Reads.boolean outcome.supersededPrevious).bind <| Reads.checkOk.bind <| Reads.pure outcome
  refine h.congr ⟨fun h => h.1, fun h8 => ⟨h8, h8, by omega, trivial, trivial⟩⟩ ?_
  simp only [List.append_assoc, List.append_nil]

/-- The answer to a manifest. -/
theorem reads_acceptance (acceptance : ManifestAcceptance) :
    Reads limits (32 ≤ limits.maxAllocationBytes.toNat) readAcceptance
      (putDigest acceptance.manifestDigest ++ putU64 acceptance.partitionGeneration)
      acceptance := by
  have h : Reads limits _ readAcceptance _ acceptance :=
    (Reads.digest acceptance.manifestDigest).bind <|
    (Reads.u64 acceptance.partitionGeneration).bind <| Reads.checkOk.bind <| Reads.pure acceptance
  refine h.congr ⟨fun h => h.1, fun h32 => ⟨h32, by omega, trivial, trivial⟩⟩ ?_
  simp only [List.append_nil]

/-- The answer to a completion. -/
theorem reads_commitOutcome (outcome : CommitOutcome) :
    Reads limits (32 ≤ limits.maxAllocationBytes.toNat) readCommitOutcome
      (putBool outcome.receipt.newlyCommitted ++ putBool outcome.receipt.edgeNewlyCompleted ++
        putBool outcome.receipt.duplicate ++ putU64 outcome.receipt.sequence ++
        putDigest outcome.receipt.manifestDigest ++ putU64 outcome.receipt.accountedBytes ++
        putBool outcome.shuffleCompleted) outcome := by
  have h : Reads limits _ readCommitOutcome _ outcome :=
    (Reads.boolean outcome.receipt.newlyCommitted).bind <|
    (Reads.boolean outcome.receipt.edgeNewlyCompleted).bind <|
    (Reads.boolean outcome.receipt.duplicate).bind <| (Reads.u64 outcome.receipt.sequence).bind <|
    (Reads.digest outcome.receipt.manifestDigest).bind <|
    (Reads.u64 outcome.receipt.accountedBytes).bind <|
    (Reads.boolean outcome.shuffleCompleted).bind <| Reads.checkOk.bind <| Reads.pure outcome
  refine h.congr ⟨fun h => h.2.2.2.2.1, fun h32 => ?_⟩ ?_
  · exact ⟨by omega, by omega, by omega, by omega, h32, by omega, by omega, trivial, trivial⟩
  · simp only [List.append_assoc, List.append_nil]

/-- The answer to a failure. -/
theorem reads_failureOutcome (outcome : FailureOutcome) :
    Reads limits (8 ≤ limits.maxAllocationBytes.toNat) readFailureOutcome
      (putBool outcome.permanent ++ putU32 outcome.attempts ++ putU64 outcome.readyAt)
      outcome := by
  have h : Reads limits _ readFailureOutcome _ outcome :=
    (Reads.boolean outcome.permanent).bind <| (Reads.u32 outcome.attempts).bind <|
    (Reads.u64 outcome.readyAt).bind <| Reads.checkOk.bind <| Reads.pure outcome
  refine h.congr ⟨fun h => h.2.2.1, fun h8 => ⟨by omega, by omega, h8, trivial, trivial⟩⟩ ?_
  simp only [List.append_assoc, List.append_nil]

/-- A text comes back as it was sent. -/
theorem textOf_toUTF8 (text : String) : textOf text.toUTF8.toList = text := by
  rw [textOf, fromUTF8?_toUTF8]
  rfl

/-- The texts of the source are valid UTF-8. -/
theorem isValidUtf8_toUTF8 (text : String) : isValidUtf8 text.toUTF8.toList :=
  (validUtf8Loop_iff (Nat.le_refl _)).mpr (toUTF8_toList text)

end Wire

/-! ## What can be sent -/

/-- A refusal that reaches the client as it is. -/
structure ErrorFits (limits : Limits) (e : Error) : Prop where
  known : Wire.isKnownErrorCode e.code.value
  refusal : e.code ≠ .ok
  detail : e.detail.toUTF8.toList.length ≤ limits.maxStringBytes.toNat

namespace Service

variable {walk : CompletionLedger → List FailureRecord}

/-- The message that asks for an operation; two operations are not offered. -/
def requestType : Call → MessageType
  | .openShuffle _ => .openShuffleRequest
  | .cancelShuffle _ => .cancelShuffleRequest
  | .registerProducer _ _ _ | .registerConsumer _ _ _ _ => .registerParticipantRequest
  | .publishManifest _ => .publishManifestRequest
  | .nextWave => .nextWaveRequest
  | .commitTransfer _ => .commitTransferRequest
  | .reportFailure _ _ => .reportFailureRequest
  | .updateCongestion _ => .congestionIntentRequest
  | .advanceTick | .setParticipantState _ _ _ _ => .errorResponse

/-- The message that answers an operation. -/
def responseType : Call → MessageType
  | .openShuffle _ => .openShuffleResponse
  | .cancelShuffle _ => .cancelShuffleResponse
  | .registerProducer _ _ _ | .registerConsumer _ _ _ _ => .registerParticipantResponse
  | .publishManifest _ => .publishManifestResponse
  | .nextWave => .nextWaveResponse
  | .commitTransfer _ => .commitTransferResponse
  | .reportFailure _ _ => .reportFailureResponse
  | .updateCongestion _ => .congestionIntentResponse
  | .advanceTick | .setParticipantState _ _ _ _ => .errorResponse

/-- The answer to an operation that was performed. -/
def answerTo (limits : Limits) (call : Call) (result : Result Reply) : Answer :=
  answer limits (responseType call) (.ok (writeReply limits <$> result))

/-- The switch performs the requested operation and answers with what comes of it. -/
theorem dispatch_of_requested {identity : SessionIdentity} {type : MessageType} {payload : Bytes}
    {call : Call} (h : requested limits identity payload type = some call) (c : Coordinator) :
    dispatch limits walk identity type payload c =
      (answerTo limits call (c.perform call).1, (c.perform call).2) := by
  unfold requested at h
  split at h
  · have hcall := ok_of_toOption h
    obtain ⟨request, -, rfl⟩ := map_eq_ok.mp hcall
    rw [dispatch, hcall]
    rfl
  · have hcall := ok_of_toOption h
    have hshape := hcall
    simp only [registerParticipantRequest, bind_eq_ok] at hshape
    obtain ⟨request, -, kind, -, _, -, hshape⟩ := hshape
    rw [dispatch, hcall]
    cases kind <;> obtain rfl := pure_eq_ok.mp hshape <;> rfl
  · have hcall := ok_of_toOption h
    have hshape := hcall
    simp only [publishManifestRequest, bind_eq_ok, pure_eq_ok] at hshape
    obtain ⟨encoded, -, manifest, -, _, -, rfl⟩ := hshape
    rw [dispatch, hcall]
    rfl
  · have hcall := ok_of_toOption h
    obtain ⟨u, -, rfl⟩ := map_eq_ok.mp hcall
    rw [dispatch, hcall]
    rfl
  · have hcall := ok_of_toOption h
    have hshape := hcall
    simp only [commitTransferRequest, bind_eq_ok, pure_eq_ok] at hshape
    obtain ⟨request, -, _, -, rfl⟩ := hshape
    rw [dispatch, hcall]
    rfl
  · have hcall := ok_of_toOption h
    have hshape := hcall
    simp only [reportFailureRequest, bind_eq_ok, pure_eq_ok] at hshape
    obtain ⟨report, -, code, -, rfl⟩ := hshape
    rw [dispatch, hcall]
    rfl
  · have hcall := ok_of_toOption h
    have hshape := hcall
    simp only [congestionIntentRequest, bind_eq_ok, pure_eq_ok] at hshape
    obtain ⟨report, -, kind, -, _, -, rfl⟩ := hshape
    rw [dispatch, hcall]
    rfl
  · have hcall := ok_of_toOption h
    have hshape := hcall
    simp only [cancelShuffleRequest, bind_eq_ok, pure_eq_ok] at hshape
    obtain ⟨raw, -, reason, -, rfl⟩ := hshape
    rw [dispatch, hcall]
    rfl
  · cases h

/-- A bound session has the operation performed that a frame of it asks for. -/
theorem handle_of_requested (walk : CompletionLedger → List FailureRecord)
    (connection : Connection) (frame : Frame) {call : Call}
    (hsize : frame.payload.length ≤ limits.maxMessagePayloadBytes.toNat)
    (htype : frame.type ≠ .handshakeRequest) (hbound : connection.bound = true)
    (hrequested : requested limits connection.identity frame.payload frame.type = some call)
    (hub : Hub) :
    handle limits walk connection.wireId connection hub frame =
      (answerTo limits call (hub.coordinator.perform call).1, connection,
        { hub with coordinator := (hub.coordinator.perform call).2 }) := by
  rw [handle, if_neg (not_lt.mpr hsize), if_neg (not_not.mpr hbound), if_neg htype,
    if_neg (not_not.mpr rfl), dispatch_of_requested hrequested]

end Service

/-! ## Sequence numbers -/

/-- The number behind the highest one is admitted, and is then the highest. -/
theorem ReplayGuard.accept_next {g : ReplayGuard} {sequence : UInt64}
    (h : g.highest.toNat + 1 = sequence.toNat) :
    ∃ guard, g.accept sequence = (.ok true, guard) ∧ guard.highest = sequence := by
  have hpos : sequence ≠ 0 := by
    rintro rfl
    simp at h
  have hlt : g.highest < sequence := by
    rw [UInt64.lt_iff_toNat_lt]
    omega
  have hdiff : sequence - g.highest = 1 := by
    apply UInt64.toNat.inj
    rw [UInt64.toNat_sub_of_le _ _ (UInt64.le_of_lt hlt), ← h, UInt64.toNat_one]
    omega
  refine ⟨({ g with highest := sequence }).remember sequence, ?_, rfl⟩
  rw [ReplayGuard.accept, if_neg hpos, if_neg fun h => absurd h.2 (UInt64.not_le.mpr hlt), hdiff,
    if_neg (by decide)]

/-! ## One frame there and one back -/

/-- What is encoded is one frame, and decodes to it. -/
theorem decodeFrame_of_encodable {header : FrameHeader} {payload : Bytes}
    (h : Encodable header payload limits) :
    encodeFrame header payload limits = .ok (DecodedFrame.of header payload).wire ∧
      decodeFrame (DecodedFrame.of header payload).wire limits =
        .ok (DecodedFrame.of header payload) :=
  ⟨encodeFrame_eq_ok.mpr ⟨h, rfl⟩, decodeFrame_eq_ok.mpr ⟨h.valid, rfl⟩⟩

/-- A header whose derived fields are left to the encoder. -/
theorem encodable_of_fits (header : FrameHeader) {payload : Bytes}
    (hversion : header.version = kProtocolVersion)
    (hflags : header.flags &&& kFlagReservedMask = 0) (hsequence : header.sequence ≠ 0)
    (hlength : header.payloadLength = 0) (hcrc : header.payloadCrc32c = 0)
    (h : Session.Fits limits payload) : Encodable header payload limits where
  version := hversion
  flags := hflags
  sequence := hsequence
  bounded := h.1
  length := Nat.lt_succ_of_le h.2.1
  declaredLength := .inl hlength
  declaredCrc := .inl hcrc
  allocation := h.2.2

namespace Session

variable {σ : Type} {handle : σ → Frame → (MessageType × Bytes) × σ}
  {encode : σ → MessageType → UInt64 → Bytes → Result Bytes}

/-- A frame that is admitted and whose answer can be framed is answered with it. -/
theorem serve_accepted (s : Session σ) (frame : Frame) {guard : ReplayGuard}
    {answer : MessageType × Bytes} {app : σ} {reply : Bytes} (hopen : s.ended = false)
    (haccept : s.guard.accept frame.sequence = (.ok true, guard))
    (hhandle : handle s.app frame = (answer, app))
    (hreply : encode app answer.1 frame.sequence answer.2 = .ok reply) :
    s.serve handle encode ⟨frame, true⟩ =
        (.applied, ({ s with guard, app }).deliver ⟨frame, true⟩ reply) ∧
      s.replyTo handle encode ⟨frame, true⟩ = some reply := by
  constructor
  · simp [serve, hopen, haccept, hhandle, respond, hreply]
  · simp [replyTo, hopen, haccept, hhandle, framed, hreply]

end Session

/-! ## A client and its session -/

namespace CoordinatorServer

/-- A server after a frame of one of its workers: the others serve what they served. -/
structure Beside (worker : Nat) (s s' : CoordinatorServer) : Prop where
  options : s'.options = s.options
  others : ∀ other, other ≠ worker → s'.peerOf other = s.peerOf other

variable (walk : CompletionLedger → List FailureRecord)

/-- What a frame of the client comes to: it reaches the server, the worker of the session
serves it, and the answer comes back.  Where there is no answer, the transport says `lost`. -/
def exchange (worker : Nat) (limits : Limits) (lost : Error) (bytes : Bytes)
    (s : CoordinatorServer) : Result DecodedFrame × CoordinatorServer :=
  match decodeFrame bytes s.options.limits with
  | .error _ => (.error lost, (s.leave worker).2)
  | .ok request =>
    let frame : Frame := ⟨request.header.type, request.header.sequence, request.payload⟩
    match s.frame walk worker request.header.session ⟨frame, true⟩ with
    | (.served _ _ (some reply), s) => (decodeFrame reply limits, s)
    | (_, s) => (.error lost, s)

variable {walk} in
/-- A frame, by what `serve` makes of it. -/
theorem frame_of_serve {s : CoordinatorServer} {worker : Nat} {peer : Peer} {session : SessionId}
    {arrival : Arrival} {what : Served} {after : Session (Service.Connection × Service.Hub)}
    {reply : Option Bytes} (hpeer : s.peerOf worker = some peer)
    (hserve : serveFrame walk peer s.hub session arrival = (what, after))
    (hreply : replyTo walk peer s.hub session arrival = reply) :
    ∃ s', s.frame walk worker session arrival = (.served peer.id what reply, s') ∧
      s'.hub = after.app.2 ∧ Beside worker s s' ∧
      s'.peerOf worker = some (parted peer.id after) := by
  have hslot := (List.getElem?_eq_some_iff.mp (slot_of_peerOf hpeer)).1
  have hframe : s.frame walk worker session arrival = (.served peer.id what reply, { s with
      hub := after.app.2, threads := s.threads.set worker (some (parted peer.id after))
      stats := note walk s.stats peer s.hub session arrival.frame what }) := by
    simp only [frame, hpeer, hserve, hreply]
  refine ⟨_, hframe, rfl, ⟨rfl, fun other hother => ?_⟩, ?_⟩
  · simp only [peerOf, List.getElem?_set_ne hother.symm]
  · simp only [peerOf, List.getElem?_set_self hslot, Option.join_some]

end CoordinatorServer

/-- The client and the session its worker serves are a pair: they agree about the limits, the
identity, the session identifier and the sequence numbers. -/
structure Paired (limits : Limits) (worker : Nat) (c : CoordinatorClient) (s : CoordinatorServer) :
    Prop where
  connected : c.connected = true
  client : c.options.limits = limits
  server : s.options.limits = limits
  synced : c.guard.highest.toNat + 1 = c.nextSequence.toNat
  peer : ∃ peer, s.peerOf worker = some peer ∧ peer.session.ended = false ∧
    peer.session.limits = limits ∧ peer.session.app = ⟨true, c.session, c.options.identity⟩ ∧
    peer.session.guard.highest = c.guard.highest

/-- A frame of another session leaves the pair alone. -/
theorem Paired.beside {worker other : Nat} {c : CoordinatorClient} {s s' : CoordinatorServer}
    (h : Paired limits other c s) (hbeside : CoordinatorServer.Beside worker s s')
    (hne : other ≠ worker) :
    Paired limits other c s' where
  connected := h.connected
  client := h.client
  server := by rw [hbeside.options, h.server]
  synced := h.synced
  peer := by
    rw [hbeside.others other hne]
    exact h.peer

section Pair

variable {walk : CompletionLedger → List FailureRecord} {worker : Nat} {c : CoordinatorClient}
  {s : CoordinatorServer} {call : Call} {payload : Bytes}

/-- The frame of an answer. -/
def answerFrame (session : SessionId) (sequence : UInt64) (answer : Service.Answer) : DecodedFrame :=
  DecodedFrame.of (Session.answerHeader session answer.type sequence) answer.payload

/-- An answer that fits a frame is framed. -/
theorem encodable_answer (session : SessionId) {sequence : UInt64} {answer : Service.Answer}
    (hsequence : sequence ≠ 0) (hfits : Session.Fits limits answer.payload) :
    Encodable (Session.answerHeader session answer.type sequence) answer.payload limits :=
  encodable_of_fits _ rfl (by simp only [Session.answerHeader]; decide) hsequence rfl rfl hfits

/-- The server's part: the operation is performed, and its answer is framed. -/
theorem Paired.frame (h : Paired limits worker c s) (walk : CompletionLedger → List FailureRecord)
    (hrequested : Service.requested limits c.options.identity payload
      (Service.requestType call) = some call)
    (htype : Service.requestType call ≠ .handshakeRequest ∧
      Service.requestType call ≠ .closeRequest)
    (hsize : payload.length ≤ limits.maxMessagePayloadBytes.toNat)
    (hfits : Session.Fits limits
      (Service.answerTo limits call (s.hub.coordinator.perform call).1).payload) :
    ∃ id s', s.frame walk worker c.session
        ⟨⟨Service.requestType call, c.nextSequence, payload⟩, true⟩ =
          (.served id .applied (some (answerFrame c.session c.nextSequence
            (Service.answerTo limits call (s.hub.coordinator.perform call).1)).wire), s') ∧
      s'.hub.coordinator = (s.hub.coordinator.perform call).2 ∧ CoordinatorServer.Beside worker s s' ∧
      ∃ peer, s'.peerOf worker = some peer ∧ peer.session.ended = false ∧
        peer.session.limits = limits ∧
        peer.session.app = ⟨true, c.session, c.options.identity⟩ ∧
        peer.session.guard.highest = c.nextSequence := by
  obtain ⟨peer, hpeer, hopen, hlimits, happ, hhighest⟩ := h.peer
  obtain ⟨guard, haccept, hguard⟩ := ReplayGuard.accept_next (hhighest ▸ h.synced)
  let frame : Frame := ⟨Service.requestType call, c.nextSequence, payload⟩
  let answer := Service.answerTo limits call (s.hub.coordinator.perform call).1
  let hub : Service.Hub := { s.hub with coordinator := (s.hub.coordinator.perform call).2 }
  have hhandle : CoordinatorServer.handle walk peer.session.limits c.session
      (CoordinatorServer.joined peer s.hub).app frame =
        ((answer.type, answer.payload), peer.session.app, hub) := by
    have hanswer := Service.handle_of_requested walk ⟨true, c.session, c.options.identity⟩ frame
      hsize htype.1 rfl hrequested s.hub
    rw [CoordinatorServer.handle, CoordinatorServer.joined, hlimits, happ]
    simp only [hanswer]
    rfl
  have hsequence : c.nextSequence ≠ 0 := Session.ne_zero_of_accept (congrArg Prod.fst haccept)
  have hreply : Session.frameAnswer peer.session.limits
      (fun app : Service.Connection × Service.Hub => app.1.wireId) (peer.session.app, hub)
      answer.type frame.sequence answer.payload =
        .ok (answerFrame c.session c.nextSequence answer).wire := by
    rw [Session.frameAnswer, hlimits, happ]
    exact (decodeFrame_of_encodable (encodable_answer c.session hsequence hfits)).1
  obtain ⟨hserve, hsent⟩ := Session.serve_accepted (CoordinatorServer.joined peer s.hub) frame
    hopen haccept hhandle hreply
  obtain ⟨s', hframe, hhub, hbeside, hpeer'⟩ := CoordinatorServer.frame_of_serve hpeer hserve hsent
  refine ⟨peer.id, s', hframe, congrArg _ hhub, hbeside, _, hpeer', ?_, hlimits, happ, hguard⟩
  simpa [CoordinatorServer.parted, Session.deliver, frame] using htype.2

/-- The refusals among the results reach the client as they are. -/
def RefusalFits (limits : Limits) (result : Result Reply) : Prop :=
  ∀ e, result = .error e → ErrorFits limits e

/-- The envelope of an answer is read, and what lies behind it is the body. -/
theorem receive_answer (hclient : c.options.limits = limits)
    (hsynced : c.guard.highest.toNat + 1 = c.nextSequence.toNat)
    (h4 : 4 ≤ limits.maxAllocationBytes.toNat)
    (hstring : limits.maxStringBytes.toNat ≤ limits.maxAllocationBytes.toNat)
    (htype : Service.responseType call ≠ .errorResponse) {result : Result Reply}
    (hresult : RefusalFits limits result) :
    ∃ guard, guard.highest = c.nextSequence ∧
      c.receive (Service.responseType call)
          (answerFrame c.session c.nextSequence (Service.answerTo limits call result)) =
        (Service.writeReply limits <$> result,
          { c with guard, nextSequence := c.nextSequence + 1 }) := by
  obtain ⟨guard, haccept, hguard⟩ := ReplayGuard.accept_next hsynced
  refine ⟨guard, hguard, ?_⟩
  have hflag : kFlagResponse ≠ 0 := by decide
  cases result with
  | ok reply =>
      have henvelope : Reads limits _ (Wire.readEnvelope limits) writeOkEnvelope (.ok, []) :=
        Wire.reads_envelope (by decide) (Nat.zero_le _) (by decide)
      have hread := henvelope.exact ⟨h4, Nat.zero_le _⟩ (Service.writeReply limits reply)
      have hlength : writeOkEnvelope.length = 6 := by simp [writeOkEnvelope, putByteString]
      simp [CoordinatorClient.receive, answerFrame, DecodedFrame.of, FrameHeader.derived,
        Session.answerHeader, Service.answerTo, Service.answer, hclient, hflag, haccept, htype,
        hread, hlength]
  | error e =>
      obtain ⟨hknown, hrefusal, hdetail⟩ := hresult e rfl
      have henvelope : Reads limits _ (Wire.readEnvelope limits) _ (e.code, _) :=
        Wire.reads_envelope hknown hdetail (Wire.isValidUtf8_toUTF8 e.detail)
      have hread := henvelope.exact ⟨h4, hdetail.trans hstring⟩ []
      rw [List.append_nil] at hread
      have hsent : Session.writeErrorEnvelope limits e =
          putU16 e.code.value ++ putByteString e.detail.toUTF8.toList := by
        rw [Session.writeErrorEnvelope, List.take_of_length_le hdetail]
      have hend : (requireEnd.exec ⟨[], limits, none⟩).1 = .ok () := rfl
      simp [-String.toUTF8_eq_toByteArray, CoordinatorClient.receive, answerFrame,
        DecodedFrame.of, FrameHeader.derived, Session.answerHeader, Service.answerTo,
        Service.answer, Service.refuse, hclient, hflag, haccept, hsent, hread, hrefusal, hend,
        Wire.textOf_toUTF8]

/-- A call is sent as itself, not as part of the session's own exchange. -/
theorem requestType_plain (call : Call) :
    Service.requestType call ≠ .handshakeRequest ∧ Service.requestType call ≠ .closeRequest := by
  cases call <;> simp [Service.requestType]

/-- An answer to a call is told apart from an error. -/
theorem responseType_ne {identity : SessionIdentity} (h : Service.SpeaksFor identity call) :
    Service.responseType call ≠ .errorResponse := by
  cases call with
  | advanceTick | setParticipantState => exact h.elim
  | _ => simp [Service.responseType]

/-- What a frame with this payload asks the server for. -/
structure Asks (limits : Limits) (identity : SessionIdentity) (call : Call) (payload : Bytes) :
    Prop where
  requested : Service.requested limits identity payload (Service.requestType call) = some call
  size : payload.length ≤ limits.maxMessagePayloadBytes.toNat
  fits : Session.Fits limits payload

/-- What comes of an operation, and can be sent back. -/
structure Answers (limits : Limits) (call : Call) (result : Result Reply) : Prop where
  refusal : RefusalFits limits result
  plan : ∀ plan, result = .ok (.wave plan) → Wire.PlanFits limits plan
  fits : Session.Fits limits (Service.answerTo limits call result).payload

/-- Limits under which a session can speak at all. -/
structure Speaks (limits : Limits) : Prop where
  valid : limits.validate = .ok ()
  digest : 32 ≤ limits.maxAllocationBytes.toNat

/-- A client and a server after a call: the operation was performed, and they are a pair. -/
structure Exchanged (limits : Limits) (worker : Nat) (call : Call) (c : CoordinatorClient)
    (s : CoordinatorServer) (c' : CoordinatorClient) (s' : CoordinatorServer) : Prop where
  performed : s'.hub.coordinator = (s.hub.coordinator.perform call).2
  beside : CoordinatorServer.Beside worker s s'
  paired : Paired limits worker c' s'
  options : c'.options = c.options
  next : c'.nextSequence.toNat = c.nextSequence.toNat + 1

/-- A request and its reply: the body is what the coordinator said. -/
theorem Paired.transact (h : Paired limits worker c s)
    (walk : CompletionLedger → List FailureRecord) (hspeaks : Speaks limits)
    (hasks : Asks limits c.options.identity call payload)
    (hanswers : Answers limits call (s.hub.coordinator.perform call).1)
    (hroom : c.nextSequence.toNat + 1 < 2 ^ 64) (lost : Error) :
    ∃ c' s', CoordinatorClient.transact (CoordinatorServer.exchange walk worker limits lost)
        (Service.requestType call) (Service.responseType call) payload c s =
          (Service.writeReply limits <$> (s.hub.coordinator.perform call).1, c', s') ∧
      Exchanged limits worker call c s c' s' := by
  have hstring := (Wire.text_bounds_of_validate hspeaks.valid).2
  have h4 : 4 ≤ limits.maxAllocationBytes.toNat := by
    have := hspeaks.digest
    omega
  have htype := responseType_ne (Service.speaksFor_of_requested hasks.requested)
  have hsequence : c.nextSequence ≠ 0 := by
    intro hzero
    have := h.synced
    simp [hzero] at this
  obtain ⟨hencode, hdecode⟩ := decodeFrame_of_encodable
    (encodable_of_fits (c.requestHeader (Service.requestType call)) rfl
      (by simp only [CoordinatorClient.requestHeader]; decide) hsequence rfl rfl hasks.fits)
  obtain ⟨id, s', hframe, hcoordinator, hbeside, hpeer⟩ :=
    h.frame walk hasks.requested (requestType_plain call) hasks.size hanswers.fits
  obtain ⟨guard, hguard, hreceive⟩ := receive_answer h.client h.synced h4 hstring htype
    hanswers.refusal
  have hreply := (decodeFrame_of_encodable
    (encodable_answer c.session hsequence hanswers.fits)).2
  have hexchange : CoordinatorServer.exchange walk worker limits lost
      (DecodedFrame.of (c.requestHeader (Service.requestType call)) payload).wire s =
        (.ok (answerFrame c.session c.nextSequence
          (Service.answerTo limits call (s.hub.coordinator.perform call).1)), s') := by
    rw [CoordinatorServer.exchange, h.server, hdecode]
    simp only [DecodedFrame.of, FrameHeader.derived, CoordinatorClient.requestHeader]
    rw [hframe]
    exact congrArg (·, s') hreply
  have hnext : (c.nextSequence + 1).toNat = c.nextSequence.toNat + 1 := by
    rw [UInt64.toNat_add, UInt64.toNat_one, Nat.mod_eq_of_lt hroom]
  refine ⟨{ c with guard, nextSequence := c.nextSequence + 1 }, s', ?_, hcoordinator, hbeside,
    ⟨h.connected, h.client, ?_, ?_, ?_⟩, rfl, hnext⟩
  · rw [CoordinatorClient.transact, if_neg (not_not.mpr h.connected), h.client, hencode]
    simp only [hexchange]
    rw [hreceive]
  · rw [hbeside.options, h.server]
  · rw [hnext, hguard]
  · rw [hguard]
    exact hpeer

end Pair

/-! ## What the client writes is what the server reads -/

/-- The payload the client writes for an operation. -/
def payloadOf (limits : Limits) : Call → Result Bytes
  | .openShuffle request => .ok (Wire.writeOpenShuffle request)
  | .cancelShuffle reason => .ok (putU16 reason.value)
  | .registerProducer id incarnation endpoint =>
    Wire.writeRegistration limits
      ⟨ParticipantKind.producer.toUInt8, id, incarnation, endpoint, {}⟩
  | .registerConsumer id incarnation endpoint selection =>
    Wire.writeRegistration limits
      ⟨ParticipantKind.consumer.toUInt8, id, incarnation, endpoint, selection⟩
  | .publishManifest manifest => putByteString <$> encodeManifest manifest limits
  | .nextWave => .ok []
  | .commitTransfer request => .ok (Wire.writeCommitRequest request)
  | .reportFailure attempt code => .ok (Wire.writeFailureReport ⟨attempt, code.value⟩)
  | .updateCongestion intent =>
    .ok (Wire.writeCongestionReport (CoordinatorClient.congestionReport intent))
  | .advanceTick | .setParticipantState _ _ _ _ => .ok []

/-- A code that a request may carry. -/
def CodeFits (code : ErrorCode) : Prop := code ≠ .ok ∧ Wire.isKnownErrorCode code.value

/-- The arguments of an operation are within the bounds of the readers. -/
def ArgumentsFit (limits : Limits) : Call → Prop
  | .openShuffle request => validatePolicy request.policy = .ok ()
  | .registerProducer id incarnation endpoint =>
    Wire.RegistrationFits limits ⟨ParticipantKind.producer.toUInt8, id, incarnation, endpoint, {}⟩
  | .registerConsumer id incarnation endpoint selection =>
    Wire.RegistrationFits limits
      ⟨ParticipantKind.consumer.toUInt8, id, incarnation, endpoint, selection⟩
  | .publishManifest manifest => validateManifest manifest limits = .ok () ∧ ReaderFits limits manifest
  | .commitTransfer request => Wire.RequestFits limits request
  | .reportFailure _ code | .cancelShuffle code => CodeFits code
  | .nextWave | .updateCongestion _ | .advanceTick | .setParticipantState _ _ _ _ => True

namespace Service

variable {identity : SessionIdentity}

/-- A code that fits is read back. -/
theorem codeOf_of_fits {code : ErrorCode} (h : CodeFits code) (detail : String) :
    codeOf code.value detail = .ok code := by
  obtain ⟨hrefusal, hknown⟩ := h
  have hzero : code.value ≠ 0 := fun hzero => hrefusal (by cases code; cases hzero; rfl)
  simp [codeOf, refuseIf, hzero, hknown]

/-- A kind of participant is read back. -/
theorem kindOf_toUInt8 (kind : ParticipantKind) (detail : String) :
    kindOf kind.toUInt8 detail = .ok kind := by
  cases kind <;> rfl

/-- Who speaks for itself passes the identity check. -/
theorem checkParticipantIdentity_self {kind : ParticipantKind} {id : UInt64}
    {incarnation : IncarnationId} (hkind : identity.kind = kind)
    (hid : identity.participantId = id) (hincarnation : identity.incarnation = incarnation) :
    checkParticipantIdentity identity kind id incarnation = .ok () := by
  simp [checkParticipantIdentity, refuseIf, hkind, hid, hincarnation]

/-- A registration that was written is understood. -/
theorem registerParticipantRequest_ok {registration : Registration} {kind : ParticipantKind}
    {payload : Bytes} (hspeaks : Speaks limits)
    (hwrite : Wire.writeRegistration limits registration = .ok payload)
    (hfit : Wire.RegistrationFits limits registration)
    (hraw : registration.rawKind = kind.toUInt8) (hkind : identity.kind = kind)
    (hid : identity.participantId = registration.id)
    (hincarnation : identity.incarnation = registration.incarnation) :
    registerParticipantRequest limits identity payload =
      .ok (match kind with
        | .producer =>
          .registerProducer registration.id registration.incarnation registration.endpoint
        | .consumer => .registerConsumer registration.id registration.incarnation
            registration.endpoint registration.selection) := by
  obtain ⟨data, hwrite', hreads⟩ := Wire.reads_registration hfit
  obtain rfl : payload = data := Except.ok.inj (hwrite.symm.trans hwrite')
  obtain ⟨hendpoint, hstring⟩ := Wire.text_bounds_of_validate hspeaks.valid
  have h32 := hspeaks.digest
  have hread := hreads.decode_toEnd ⟨by omega, hfit.endpoint.trans (by omega)⟩
  simp only [registerParticipantRequest, bind_eq_ok]
  refine ⟨registration, hread, kind, hraw ▸ kindOf_toUInt8 kind _, (),
    checkParticipantIdentity_self hkind hid hincarnation, ?_⟩
  cases kind <;> rfl

/-- A manifest that was written is understood. -/
theorem publishManifestRequest_ok {manifest : PartitionManifest}
    (hvalid : validateManifest manifest limits = .ok ()) (hreader : ReaderFits limits manifest)
    (hfits : Session.Fits limits (putByteString (manifestBytes manifest)))
    (hidentity : SpeaksFor identity (.publishManifest manifest)) :
    publishManifestRequest limits identity (putByteString (manifestBytes manifest)) =
      .ok (.publishManifest manifest) := by
  obtain ⟨hkind, hid, hincarnation⟩ := hidentity
  have hlength := length_manifestBytes manifest
  have hmessage := hreader.message
  obtain ⟨-, h32, hallocation⟩ := hfits
  rw [length_putByteString] at h32 hallocation
  have hreads : Reads limits _ (bytes limits.maxMessagePayloadBytes.toNat)
      (putByteString (manifestBytes manifest)) (manifestBytes manifest) :=
    Reads.bytes _ (by omega)
  simp only [publishManifestRequest, bind_eq_ok]
  refine ⟨_, hreads.decode_toEnd ⟨by omega, by omega, by omega⟩, manifest,
    (decodeManifest_manifestBytes_iff hvalid).mpr hreader, (), refuseIf_eq_ok.mpr ?_, rfl⟩
  simp [hkind, hid, hincarnation]

/-- A completion that was written is understood. -/
theorem commitTransferRequest_ok {request : CommitRequest} (hspeaks : Speaks limits)
    (hfit : Wire.RequestFits limits request)
    (hidentity : SpeaksFor identity (.commitTransfer request)) :
    commitTransferRequest limits identity (Wire.writeCommitRequest request) =
      .ok (.commitTransfer request) := by
  have h32 := hspeaks.digest
  obtain ⟨hlen, hcount⟩ := Wire.countOk_of_le (by omega) hfit.chunks hfit.items
  have hreads : Reads limits _ (Wire.readCommitRequest limits) _ request :=
    Wire.reads_commitRequest request hlen
  simp only [commitTransferRequest, bind_eq_ok]
  refine ⟨request, hreads.decode_toEnd ⟨h32, hcount⟩, (), refuseIf_eq_ok.mpr ?_, rfl⟩
  rcases hidentity with ⟨hkind, hid, hincarnation⟩ | ⟨hkind, hid, hincarnation⟩ <;>
    simp [identityMatches, hkind, hid, hincarnation]

/-- A failure that was written is understood. -/
theorem reportFailureRequest_ok {attempt : TransferAttemptId} {code : ErrorCode}
    (hspeaks : Speaks limits) (hfit : CodeFits code) :
    reportFailureRequest limits (Wire.writeFailureReport ⟨attempt, code.value⟩) =
      .ok (.reportFailure attempt code) := by
  have h32 := hspeaks.digest
  have hreads : Reads limits _ Wire.readFailureReport _ ⟨attempt, code.value⟩ :=
    Wire.reads_failureReport _
  simp only [reportFailureRequest, bind_eq_ok]
  exact ⟨_, hreads.decode_toEnd (by omega), code, codeOf_of_fits hfit _, rfl⟩

/-- A reading that was written is understood. -/
theorem congestionIntentRequest_ok {intent : CongestionIntent} (hspeaks : Speaks limits)
    (hidentity : SpeaksFor identity (.updateCongestion intent)) :
    congestionIntentRequest limits identity
      (Wire.writeCongestionReport (CoordinatorClient.congestionReport intent)) =
        .ok (.updateCongestion intent) := by
  have h32 := hspeaks.digest
  have hreads : Reads limits _ Wire.readCongestionReport _ _ :=
    Wire.reads_congestionReport (CoordinatorClient.congestionReport intent)
  have hcheck := checkParticipantIdentity_self hidentity.1 hidentity.2.1 hidentity.2.2
  simp only [congestionIntentRequest, bind_eq_ok]
  exact ⟨_, hreads.decode_toEnd (by omega), _, kindOf_toUInt8 _ _, (), hcheck, rfl⟩

/-- A cancellation that was written is understood. -/
theorem cancelShuffleRequest_ok {reason : ErrorCode} (hspeaks : Speaks limits)
    (hfit : CodeFits reason) :
    cancelShuffleRequest limits (putU16 reason.value) = .ok (.cancelShuffle reason) := by
  have h32 := hspeaks.digest
  have hreads : Reads limits _ u16 _ reason.value := Reads.u16 reason.value
  simp only [cancelShuffleRequest, bind_eq_ok]
  exact ⟨_, hreads.decode_toEnd (by omega), reason, codeOf_of_fits hfit _, rfl⟩

/-- An opening that was written is understood. -/
theorem openShuffleRequest_ok {request : ShuffleOpenRequest} (hspeaks : Speaks limits)
    (hfit : validatePolicy request.policy = .ok ()) :
    openShuffleRequest limits (Wire.writeOpenShuffle request) = .ok (.openShuffle request) := by
  have h32 := hspeaks.digest
  have hreads : Reads limits _ Wire.readOpenShuffle _ request := Wire.reads_openShuffle request
  exact map_eq_ok.mpr ⟨request, hreads.decode_toEnd ⟨by omega, hfit⟩, rfl⟩

/-- What the client writes for an operation it may ask for is read as that operation. -/
theorem requested_of_payload {call : Call} {payload : Bytes} (hspeaks : Speaks limits)
    (hidentity : SpeaksFor identity call) (hfit : ArgumentsFit limits call)
    (hpayload : payloadOf limits call = .ok payload) (hfits : Session.Fits limits payload) :
    requested limits identity payload (requestType call) = some call := by
  cases call with
  | openShuffle request =>
      obtain rfl := Except.ok.inj hpayload
      rw [requestType, requested, openShuffleRequest_ok hspeaks hfit]
      rfl
  | cancelShuffle reason =>
      obtain rfl := Except.ok.inj hpayload
      rw [requestType, requested, cancelShuffleRequest_ok hspeaks hfit]
      rfl
  | registerProducer id incarnation endpoint =>
      rw [requestType, requested, registerParticipantRequest_ok hspeaks hpayload hfit rfl
        hidentity.1 hidentity.2.1 hidentity.2.2]
      rfl
  | registerConsumer id incarnation endpoint selection =>
      rw [requestType, requested, registerParticipantRequest_ok hspeaks hpayload hfit rfl
        hidentity.1 hidentity.2.1 hidentity.2.2]
      rfl
  | publishManifest manifest =>
      obtain ⟨hvalid, hreader⟩ := hfit
      obtain rfl : putByteString (manifestBytes manifest) = payload := by
        simpa [payloadOf, encodeManifest, hvalid] using hpayload
      rw [requestType, requested, publishManifestRequest_ok hvalid hreader hfits hidentity]
      rfl
  | nextWave =>
      obtain rfl := Except.ok.inj hpayload
      rfl
  | commitTransfer request =>
      obtain rfl := Except.ok.inj hpayload
      rw [requestType, requested, commitTransferRequest_ok hspeaks hfit hidentity]
      rfl
  | reportFailure attempt code =>
      obtain rfl := Except.ok.inj hpayload
      rw [requestType, requested, reportFailureRequest_ok hspeaks hfit]
      rfl
  | updateCongestion intent =>
      obtain rfl := Except.ok.inj hpayload
      rw [requestType, requested, congestionIntentRequest_ok hspeaks hidentity]
      rfl
  | advanceTick => exact hidentity.elim
  | setParticipantState => exact hidentity.elim

end Service

/-- An operation a client may ask for, with arguments that can be sent. -/
structure Sendable (limits : Limits) (identity : SessionIdentity) (call : Call) : Prop where
  identity : Service.SpeaksFor identity call
  arguments : ArgumentsFit limits call
  payload : ∃ payload, payloadOf limits call = .ok payload ∧
    payload.length ≤ limits.maxMessagePayloadBytes.toNat ∧ Session.Fits limits payload

/-- A call that may be sent is written, and asks for itself. -/
theorem Sendable.asks {identity : SessionIdentity} {call : Call}
    (h : Sendable limits identity call) (hspeaks : Speaks limits) :
    ∃ payload, payloadOf limits call = .ok payload ∧ Asks limits identity call payload := by
  obtain ⟨payload, hpayload, hsize, hfits⟩ := h.payload
  exact ⟨payload, hpayload,
    Service.requested_of_payload hspeaks h.identity h.arguments hpayload hfits, hsize, hfits⟩

end ShuffleFabric
