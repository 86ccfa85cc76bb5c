import ShuffleFabric.Client.Remote

/-!
# ShuffleFabric.Client.Connect

A client that connects to a fresh session is paired with it.
-/

namespace ShuffleFabric

open Lib Action ByteReader

variable {limits : Limits} {worker : Nat} {s : CoordinatorServer}

/-- The number of a first request. -/
theorem first_ne_zero : (1 : UInt64) ≠ 0 := by decide

/-- A new guard admits the number 1. -/
theorem accept_first : ∃ guard : ReplayGuard,
    (ReplayGuard.make CoordinatorServer.kReplayWindow).accept 1 = (.ok true, guard) ∧
      guard.highest = 1 :=
  ReplayGuard.accept_next rfl

/-- The worker has taken a session of which no frame was read. -/
structure Fresh (limits : Limits) (worker : Nat) (s : CoordinatorServer) : Prop where
  server : s.options.limits = limits
  peer : ∃ id, s.peerOf worker = some ⟨id, {
    guard := ReplayGuard.make CoordinatorServer.kReplayWindow, limits, app := {} }⟩

theorem Fresh.beside {other : Nat} {s' : CoordinatorServer} (h : Fresh limits other s)
    (hbeside : CoordinatorServer.Beside worker s s') (hne : other ≠ worker) :
    Fresh limits other s' where
  server := by rw [hbeside.options, h.server]
  peer := by
    rw [hbeside.others other hne]
    exact h.peer

namespace Service

/-- The handshake a client presents is the identity it is bound to. -/
theorem bindIdentity_hello (hspeaks : Speaks limits) {identity : SessionIdentity}
    (hvalid : identity.valid = true) :
    bindIdentity limits (Wire.writeHandshake (CoordinatorClient.hello identity)) =
      .ok identity := by
  have h32 := hspeaks.digest
  have hreads : Reads limits _ Wire.readHandshake _ (CoordinatorClient.hello identity) :=
    Wire.reads_handshake _
  simp only [bindIdentity, bind_eq_ok]
  exact ⟨_, hreads.decode_toEnd (by omega), identity.kind, kindOf_toUInt8 _ _, (),
    refuseIf_eq_ok.mpr (not_not.mpr hvalid), rfl⟩

/-- The answer to a handshake that was accepted. -/
def welcome (limits : Limits) : Answer := answer limits .handshakeResponse (.ok (.ok []))

theorem handle_hello (walk : CompletionLedger → List FailureRecord) (hspeaks : Speaks limits)
    {identity : SessionIdentity} (hvalid : identity.valid = true) (frame : Frame)
    (htype : frame.type = .handshakeRequest)
    (hpayload : frame.payload = Wire.writeHandshake (CoordinatorClient.hello identity))
    (hsize : frame.payload.length ≤ limits.maxMessagePayloadBytes.toNat) (session : SessionId)
    (hub : Hub) :
    handle limits walk session {} hub frame =
      (welcome limits, { identity, wireId := hub.nextWireSession, bound := true },
        { hub with nextWireSession := hub.nextWireSession + 1 }) := by
  rw [handle, if_neg (not_lt.mpr hsize), if_pos (by simp), if_neg (not_not.mpr htype), handshake,
    hpayload, bindIdentity_hello hspeaks hvalid]
  rfl

end Service

/-- The server's part of a handshake. -/
theorem Fresh.frame (h : Fresh limits worker s) (walk : CompletionLedger → List FailureRecord)
    (hspeaks : Speaks limits) {identity : SessionIdentity} (hvalid : identity.valid = true)
    (hsize : (Wire.writeHandshake (CoordinatorClient.hello identity)).length ≤
      limits.maxMessagePayloadBytes.toNat)
    (hfits : Session.Fits limits (Service.welcome limits).payload) :
    ∃ id s', s.frame walk worker 0 ⟨⟨.handshakeRequest, 1,
        Wire.writeHandshake (CoordinatorClient.hello identity)⟩, true⟩ =
          (.served id .applied
            (some (answerFrame s.hub.nextWireSession 1 (Service.welcome limits)).wire), s') ∧
      s'.hub = { s.hub with nextWireSession := s.hub.nextWireSession + 1 } ∧
      CoordinatorServer.Beside worker s s' ∧
      ∃ peer, s'.peerOf worker = some peer ∧ peer.session.ended = false ∧
        peer.session.limits = limits ∧
        peer.session.app = ⟨true, s.hub.nextWireSession, identity⟩ ∧
        peer.session.guard.highest = 1 := by
  obtain ⟨id, hpeer⟩ := h.peer
  obtain ⟨guard, haccept, hguard⟩ := accept_first
  let frame : Frame :=
    ⟨.handshakeRequest, 1, Wire.writeHandshake (CoordinatorClient.hello identity)⟩
  let peer : Peer := ⟨id, {
    guard := ReplayGuard.make CoordinatorServer.kReplayWindow, limits, app := {} }⟩
  let app : Service.Connection × Service.Hub :=
    (⟨true, s.hub.nextWireSession, identity⟩,
      { s.hub with nextWireSession := s.hub.nextWireSession + 1 })
  have hhandle : CoordinatorServer.handle walk limits 0 (CoordinatorServer.joined peer s.hub).app
      frame = (((Service.welcome limits).type, (Service.welcome limits).payload), app) := by
    have hanswer := Service.handle_hello walk hspeaks hvalid frame rfl rfl hsize 0 s.hub
    simp only [CoordinatorServer.handle, CoordinatorServer.joined, peer, hanswer]
    rfl
  have hreply : Session.frameAnswer limits
      (fun app : Service.Connection × Service.Hub => app.1.wireId) app
      (Service.welcome limits).type frame.sequence (Service.welcome limits).payload =
        .ok (answerFrame s.hub.nextWireSession 1 (Service.welcome limits)).wire :=
    (decodeFrame_of_encodable (encodable_answer s.hub.nextWireSession first_ne_zero hfits)).1
  obtain ⟨hserve, hsent⟩ := Session.serve_accepted (CoordinatorServer.joined peer s.hub) frame
    rfl haccept hhandle hreply
  obtain ⟨s', hframe, hhub, hbeside, hpeer'⟩ := CoordinatorServer.frame_of_serve hpeer hserve hsent
  exact ⟨id, s', hframe, hhub, hbeside, _, hpeer', rfl, rfl, rfl, hguard⟩

/-- The client's part: the answer binds it to the session identifier in the header. -/
theorem bindSession_welcome {options : ClientOptions} (hspeaks : Speaks limits)
    (hlimits : options.limits = limits) {session : SessionId} (hsession : session ≠ 0) :
    ∃ guard, guard.highest = 1 ∧
      CoordinatorClient.bindSession { options } (answerFrame session 1 (Service.welcome limits)) =
        (.ok (), { options, session, nextSequence := 2, guard }) := by
  obtain ⟨guard, haccept, hguard⟩ := accept_first
  refine ⟨guard, hguard, ?_⟩
  have h32 := hspeaks.digest
  have hflag : kFlagResponse ≠ 0 := by decide
  have henvelope : Reads limits _ (Wire.readEnvelope limits) writeOkEnvelope (.ok, []) :=
    Wire.reads_envelope (by decide) (Nat.zero_le _) (by decide)
  have hread := henvelope.exact ⟨by omega, Nat.zero_le _⟩ []
  rw [List.append_nil] at hread
  have hend : (requireEnd.exec ⟨[], limits, none⟩).1 = .ok () := rfl
  simp [CoordinatorClient.bindSession, answerFrame, DecodedFrame.of, FrameHeader.derived,
    Session.answerHeader, Service.welcome, Service.answer, hlimits, hflag, haccept, hread, hend,
    hsession]

/-- A client with a complete identity that reaches a fresh session is bound to it. -/
theorem connect_fresh (h : Fresh limits worker s) (walk : CompletionLedger → List FailureRecord)
    (hspeaks : Speaks limits) (options : ClientOptions) (hlimits : options.limits = limits)
    (hvalid : options.identity.valid = true)
    (hsize : (Wire.writeHandshake (CoordinatorClient.hello options.identity)).length ≤
      limits.maxMessagePayloadBytes.toNat)
    (hhello : Session.Fits limits
      (Wire.writeHandshake (CoordinatorClient.hello options.identity)))
    (hfits : Session.Fits limits (Service.welcome limits).payload)
    (hsession : s.hub.nextWireSession ≠ 0) (c : CoordinatorClient) (hfree : c.connected = false)
    (lost : Error) :
    ∃ c' s', CoordinatorClient.connect (CoordinatorServer.exchange walk worker limits lost)
        options (.ok ()) c s = (.ok (), c', s') ∧
      s'.hub = { s.hub with nextWireSession := s.hub.nextWireSession + 1 } ∧
      CoordinatorServer.Beside worker s s' ∧ Paired limits worker c' s' ∧
      c'.options = options ∧ c'.nextSequence = 2 := by
  obtain ⟨id, s', hframe, hhub, hbeside, hpeer⟩ := h.frame walk hspeaks hvalid hsize hfits
  obtain ⟨guard, hguard, hbind⟩ := bindSession_welcome hspeaks hlimits hsession
  obtain ⟨hencode, hdecode⟩ := decodeFrame_of_encodable (encodable_of_fits
    { type := .handshakeRequest, sequence := 1 } rfl (by decide) first_ne_zero rfl rfl hhello)
  have hexchange : CoordinatorServer.exchange walk worker limits lost
      (DecodedFrame.of { type := .handshakeRequest, sequence := 1 }
        (Wire.writeHandshake (CoordinatorClient.hello options.identity))).wire s =
        (.ok (answerFrame s.hub.nextWireSession 1 (Service.welcome limits)), s') := by
    rw [CoordinatorServer.exchange, h.server, hdecode]
    simp only [DecodedFrame.of, FrameHeader.derived]
    rw [hframe]
    exact congrArg (·, s')
      (decodeFrame_of_encodable (encodable_answer s.hub.nextWireSession first_ne_zero hfits)).2
  have hcheck : c.checkConnect options (.ok ()) = .ok () := by
    simp only [CoordinatorClient.checkConnect, bind_eq_ok, refuseIf_eq_ok]
    exact ⟨(), by simp [hfree], (), hlimits ▸ hspeaks.valid, (), not_not.mpr hvalid, trivial⟩
  let bound : CoordinatorClient := {
    options, session := s.hub.nextWireSession, nextSequence := 2, guard, connected := true }
  refine ⟨bound, s', ?_, hhub, hbeside, ⟨rfl, hlimits, ?_, ?_, ?_⟩, rfl, rfl⟩
  · rw [CoordinatorClient.connect, hcheck]
    simp only [CoordinatorClient.handshake, hlimits, hencode, hexchange, hbind]
    rfl
  · rw [hbeside.options, h.server]
  · simp only [bound, hguard]
    rfl
  · simpa only [bound, hguard] using hpeer

end ShuffleFabric
