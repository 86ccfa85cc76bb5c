import ShuffleFabric.Service

/-!
# ShuffleFabric.Service.Admission

What one frame does: which operation it has performed, for whom, and what it leaves alone.

`requested` is the operation a payload asks for, `admitted` the operation a frame gets past
the two stages of `handle`.  Everything a frame does to the coordinator is that operation.
-/

namespace ShuffleFabric

open Lib Action ByteReader

namespace Service

variable {limits : Limits} {walk : CompletionLedger → List FailureRecord}

/-! ## What a payload asks for -/

/-- The operation a request asks for, if its payload is read and its identity is the bound
one. -/
def requested (limits : Limits) (identity : SessionIdentity) (payload : Bytes) :
    MessageType → Option Call
  | .openShuffleRequest => (openShuffleRequest limits payload).toOption
  | .registerParticipantRequest => (registerParticipantRequest limits identity payload).toOption
  | .publishManifestRequest => (publishManifestRequest limits identity payload).toOption
  | .nextWaveRequest => (nextWaveRequest limits payload).toOption
  | .commitTransferRequest => (commitTransferRequest limits identity payload).toOption
  | .reportFailureRequest => (reportFailureRequest limits payload).toOption
  | .congestionIntentRequest => (congestionIntentRequest limits identity payload).toOption
  | .cancelShuffleRequest => (cancelShuffleRequest limits payload).toOption
  | _ => none

/-- A coordinator after an operation, or without one. -/
def after (c : Coordinator) : Option Call → Coordinator
  | some call => (c.perform call).2
  | none => c

theorem command_coordinator (type : MessageType) (call : Result Call) (c : Coordinator) :
    (command limits type call c).2 = after c call.toOption := by
  cases call <;> rfl

/-- The switch enters the coordinator for the requested operation, and for nothing else. -/
theorem dispatch_coordinator (identity : SessionIdentity) (type : MessageType) (payload : Bytes)
    (c : Coordinator) :
    (dispatch limits walk identity type payload c).2 =
      after c (requested limits identity payload type) := by
  cases type <;> first | exact command_coordinator _ _ c | rfl

/-! ## For whom a payload speaks -/

/-- An operation that a participant may ask for under this identity.  Some operations name
nobody, and some are not offered by the service. -/
def SpeaksFor (identity : SessionIdentity) : Call → Prop
  | .registerProducer id incarnation _ =>
    identity.kind = .producer ∧ identity.participantId = id ∧ identity.incarnation = incarnation
  | .registerConsumer id incarnation _ _ =>
    identity.kind = .consumer ∧ identity.participantId = id ∧ identity.incarnation = incarnation
  | .publishManifest manifest =>
    identity.kind = .producer ∧ identity.participantId = manifest.producer ∧
      identity.incarnation = manifest.producerIncarnation
  | .commitTransfer request =>
    (identity.kind = .consumer ∧ identity.participantId = request.consumer ∧
        identity.incarnation = request.consumerIncarnation) ∨
      identity.kind = .producer ∧ identity.participantId = request.producer ∧
        identity.incarnation = request.producerIncarnation
  | .updateCongestion intent =>
    identity.kind = intent.reporterKind ∧ identity.participantId = intent.reporterId ∧
      identity.incarnation = intent.reporterIncarnation
  | .openShuffle _ | .cancelShuffle _ | .nextWave | .reportFailure _ _ => True
  | .advanceTick | .setParticipantState _ _ _ _ => False

theorem checkParticipantIdentity_ok {identity : SessionIdentity} {kind : ParticipantKind}
    {id : UInt64} {incarnation : IncarnationId}
    (h : checkParticipantIdentity identity kind id incarnation = .ok ()) :
    identity.kind = kind ∧ identity.participantId = id ∧ identity.incarnation = incarnation := by
  simpa [checkParticipantIdentity, refuseIf_eq_ok, not_or] using h

theorem speaksFor_registerParticipant {identity : SessionIdentity} {payload : Bytes} {call : Call}
    (h : registerParticipantRequest limits identity payload = .ok call) :
    SpeaksFor identity call := by
  simp only [registerParticipantRequest, bind_eq_ok] at h
  obtain ⟨request, -, kind, -, _, hcheck, h⟩ := h
  have hidentity := checkParticipantIdentity_ok hcheck
  cases kind <;> obtain rfl := pure_eq_ok.mp h <;> exact hidentity

theorem speaksFor_publishManifest {identity : SessionIdentity} {payload : Bytes} {call : Call}
    (h : publishManifestRequest limits identity payload = .ok call) :
    SpeaksFor identity call := by
  simp only [publishManifestRequest, bind_eq_ok, refuseIf_eq_ok, not_or, not_not, exists_const,
    pure_eq_ok] at h
  obtain ⟨encoded, -, manifest, -, ⟨hkind, hid, hincarnation⟩, rfl⟩ := h
  exact ⟨hkind, hid.symm, hincarnation.symm⟩

theorem speaksFor_commitTransfer {identity : SessionIdentity} {payload : Bytes} {call : Call}
    (h : commitTransferRequest limits identity payload = .ok call) :
    SpeaksFor identity call := by
  simp only [commitTransferRequest, bind_eq_ok, refuseIf_eq_ok, not_not, exists_const,
    pure_eq_ok] at h
  obtain ⟨request, -, hmatches, rfl⟩ := h
  unfold identityMatches at hmatches
  cases hkind : identity.kind with
  | producer =>
      simp only [hkind, Bool.and_eq_true, beq_iff_eq] at hmatches
      exact .inr ⟨hkind, hmatches.1.symm, hmatches.2.symm⟩
  | consumer =>
      simp only [hkind, Bool.and_eq_true, beq_iff_eq] at hmatches
      exact .inl ⟨hkind, hmatches.1.symm, hmatches.2.symm⟩

theorem speaksFor_congestionIntent {identity : SessionIdentity} {payload : Bytes} {call : Call}
    (h : congestionIntentRequest limits identity payload = .ok call) :
    SpeaksFor identity call := by
  simp only [congestionIntentRequest, bind_eq_ok, pure_eq_ok] at h
  obtain ⟨report, -, kind, -, _, hcheck, rfl⟩ := h
  exact checkParticipantIdentity_ok hcheck

theorem ok_of_toOption {α : Type} {r : Result α} {a : α} (h : r.toOption = some a) : r = .ok a := by
  cases r with
  | error e => cases h
  | ok b => exact congrArg _ (Option.some.inj h)

theorem map_eq_ok {α β : Type} {f : α → β} {r : Result α} {b : β} :
    f <$> r = .ok b ↔ ∃ a, r = .ok a ∧ f a = b := by
  cases r <;> simp

/-- Nobody is spoken for but the participant the handshake named. -/
theorem speaksFor_of_requested {identity : SessionIdentity} {payload : Bytes} {type : MessageType}
    {call : Call} (h : requested limits identity payload type = some call) :
    SpeaksFor identity call := by
  unfold requested at h
  split at h
  · obtain ⟨request, -, rfl⟩ := map_eq_ok.mp (ok_of_toOption h)
    trivial
  · exact speaksFor_registerParticipant (ok_of_toOption h)
  · exact speaksFor_publishManifest (ok_of_toOption h)
  · obtain ⟨u, -, rfl⟩ := map_eq_ok.mp (ok_of_toOption h)
    trivial
  · exact speaksFor_commitTransfer (ok_of_toOption h)
  · have h := ok_of_toOption h
    simp only [reportFailureRequest, bind_eq_ok, pure_eq_ok] at h
    obtain ⟨report, -, code, -, rfl⟩ := h
    trivial
  · exact speaksFor_congestionIntent (ok_of_toOption h)
  · have h := ok_of_toOption h
    simp only [cancelShuffleRequest, bind_eq_ok, pure_eq_ok] at h
    obtain ⟨raw, -, reason, -, rfl⟩ := h
    trivial
  · cases h

/-! ## What a frame gets done -/

/-- The frame passes the bound stage. -/
def Passes (limits : Limits) (session : SessionId) (connection : Connection) (frame : Frame) :
    Prop :=
  frame.payload.length ≤ limits.maxMessagePayloadBytes.toNat ∧ connection.bound = true ∧
    frame.type ≠ .handshakeRequest ∧ session = connection.wireId

instance decidablePasses (limits : Limits) (session : SessionId) (connection : Connection)
    (frame : Frame) : Decidable (Passes limits session connection frame) :=
  inferInstanceAs (Decidable (_ ∧ _))

/-- The operation a frame has performed. -/
def admitted (limits : Limits) (session : SessionId) (connection : Connection) (frame : Frame) :
    Option Call :=
  if Passes limits session connection frame then
    requested limits connection.identity frame.payload frame.type
  else none

/-- The identity a frame binds. -/
def binds (limits : Limits) (connection : Connection) (frame : Frame) : Option SessionIdentity :=
  if frame.payload.length ≤ limits.maxMessagePayloadBytes.toNat ∧ connection.bound = false ∧
      frame.type = .handshakeRequest then
    (bindIdentity limits frame.payload).toOption
  else none

/-- A connection after a frame. -/
def rebound (connection : Connection) (wireId : SessionId) : Option SessionIdentity → Connection
  | some identity => { identity, wireId, bound := true }
  | none => connection

/-- Everything a frame does: the operation it is admitted for, and the identity it binds. -/
theorem handle_eq (session : SessionId) (connection : Connection) (hub : Hub) (frame : Frame) :
    (handle limits walk session connection hub frame).2 =
      (rebound connection hub.nextWireSession (binds limits connection frame),
        { coordinator := after hub.coordinator (admitted limits session connection frame)
          nextWireSession :=
            if (binds limits connection frame).isSome then hub.nextWireSession + 1
            else hub.nextWireSession }) := by
  obtain ⟨bound, wireId, identity⟩ := connection
  by_cases hsize : frame.payload.length > limits.maxMessagePayloadBytes.toNat
  · have hlarge : ¬frame.payload.length ≤ limits.maxMessagePayloadBytes.toNat := not_le.mpr hsize
    simp [handle, admitted, binds, Passes, hsize, hlarge, after, rebound]
  have hfits : frame.payload.length ≤ limits.maxMessagePayloadBytes.toNat := not_lt.mp hsize
  by_cases htype : frame.type = .handshakeRequest
  · cases bound with
    | false =>
        cases hbind : bindIdentity limits frame.payload <;>
          simp [handle, admitted, binds, Passes, handshake, hsize, hfits, htype, hbind, after,
            rebound, Except.toOption]
    | true => simp [handle, admitted, binds, Passes, hsize, htype, after, rebound]
  · cases bound with
    | false => simp [handle, admitted, binds, Passes, hsize, htype, after, rebound]
    | true =>
        by_cases hsession : session = wireId
        · simp [handle, admitted, binds, Passes, hsize, hfits, htype, hsession, rebound,
            dispatch_coordinator]
        · simp [handle, admitted, binds, Passes, hsize, htype, hsession, after, rebound]

/-- A frame that is admitted for an operation finds its connection bound. -/
theorem passes_of_admitted {session : SessionId} {connection : Connection} {frame : Frame}
    {call : Call} (h : admitted limits session connection frame = some call) :
    Passes limits session connection frame ∧
      requested limits connection.identity frame.payload frame.type = some call := by
  unfold admitted at h
  split at h
  · next hpasses => exact ⟨hpasses, h⟩
  · cases h

/-- A frame that binds an identity finds its connection unbound. -/
theorem of_binds {connection : Connection} {frame : Frame} {identity : SessionIdentity}
    (h : binds limits connection frame = some identity) :
    connection.bound = false ∧ frame.type = .handshakeRequest ∧
      bindIdentity limits frame.payload = .ok identity := by
  unfold binds at h
  split at h
  · next hstage => exact ⟨hstage.2.1, hstage.2.2, ok_of_toOption h⟩
  · cases h

/-- An identity that was bound is complete. -/
theorem valid_of_bindIdentity {payload : Bytes} {identity : SessionIdentity}
    (h : bindIdentity limits payload = .ok identity) : identity.valid = true := by
  simp only [bindIdentity, bind_eq_ok, refuseIf_eq_ok, not_not, exists_const, pure_eq_ok] at h
  obtain ⟨hello, -, kind, -, hvalid, rfl⟩ := h
  exact hvalid

/-- The wave request of the service is the one of `Server`. -/
theorem dispatch_nextWave (identity : SessionIdentity) (payload : Bytes) (server : Server) :
    let out := dispatch limits walk identity .nextWaveRequest payload server.coordinator
    ((out.1.type, out.1.payload), { server with coordinator := out.2 }) =
      server.handleNextWave limits payload := by
  have hperform : server.coordinator.perform .nextWave =
      ((Coordinator.nextWave.exec server.coordinator).1.map Reply.wave,
        (Coordinator.nextWave.exec server.coordinator).2) := exec_map _ _ _
  unfold dispatch command nextWaveRequest Server.handleNextWave decodeWith
  rcases (requireEnd.exec ⟨payload, limits, none⟩).1 with e | u
  · rfl
  · rcases hwave : Coordinator.nextWave.exec server.coordinator with ⟨e | plan, coordinator⟩ <;>
      simp only [hwave, except_map_ok, except_map_error] at hperform <;>
      simp [hperform, answer, refuse, Server.refuse, waveAnswer, writeReply]

end Service

end ShuffleFabric
