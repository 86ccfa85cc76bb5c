import ShuffleFabric.Frame
import ShuffleFabric.InFlight

/-!
# ShuffleFabric.Server

The server's answer to a wave request (`service.cpp`).

The wave is planned and its grants are registered first; only then is the answer framed.  An
answer that does not fit a frame is replaced by an error, and the grants stay.
-/

namespace ShuffleFabric

open Lib Action

/-! ## The answer to a wave request -/

/-- `write_ok_envelope`. -/
def writeOkEnvelope : Bytes := putU16 0 ++ putByteString []

/-- `write_grant`; the endpoint is cut at its bound. -/
def writeGrant (limits : Limits) (grant : DispatchGrant) : Bytes :=
  putU64 grant.attempt ++ putU64 grant.wave ++ putU64 grant.shuffle ++
    putU64 grant.shuffleGeneration ++ putU64 grant.partition ++
    putU64 grant.partitionGeneration ++ putU64 grant.producer ++
    putU64 grant.producerIncarnation ++
    putByteString (grant.producerEndpoint.take limits.maxEndpointBytes.toNat) ++
    putU64 grant.consumer ++ putU64 grant.consumerIncarnation ++
    putU64 grant.topologyGeneration ++ putU64 grant.policyGeneration ++
    putDigest grant.manifestDigest ++ putU64 grant.totalBytes ++ putU32 grant.attemptOrdinal ++
    putU64 grant.issuedAt

/-- `write_wave_plan`. -/
def writeWavePlan (limits : Limits) (plan : WavePlan) : Bytes :=
  putU64 plan.id ++ putCount plan.grants.length ++ putMany (writeGrant limits) plan.grants ++
    putU32 plan.examined ++ putU32 plan.skippedCompleted ++ putU32 plan.skippedFailed ++
    putU32 plan.skippedInFlight ++ putU32 plan.skippedUnproduced ++ putU32 plan.deferredLimits ++
    putU32 plan.deferredSourcePressure ++ putU32 plan.deferredDestinationPressure ++
    putU32 plan.deferredUnknownPressure ++ putU32 plan.deferredRetryWait ++
    putBool plan.cursorWrapped ++ putBool plan.allResolved

/-- The payload of a `NextWaveResponse`. -/
def waveAnswer (limits : Limits) (plan : WavePlan) : Bytes :=
  writeOkEnvelope ++ writeWavePlan limits plan

/-- A grant takes 152 bytes and its endpoint. -/
theorem length_writeGrant (limits : Limits) (grant : DispatchGrant) :
    (writeGrant limits grant).length =
      152 + min limits.maxEndpointBytes.toNat grant.producerEndpoint.length := by
  simp only [writeGrant, List.length_append, length_putU64, length_putU32, length_putDigest,
    length_putByteString, List.length_take]
  omega

/-- The size of an answer: 60 bytes and the grants. -/
def waveAnswerSize (limits : Limits) (plan : WavePlan) : Nat :=
  60 + (plan.grants.map fun grant =>
    152 + min limits.maxEndpointBytes.toNat grant.producerEndpoint.length).sum

theorem length_waveAnswer (limits : Limits) (plan : WavePlan) :
    (waveAnswer limits plan).length = waveAnswerSize limits plan := by
  have hgrants : (putMany (writeGrant limits) plan.grants).length =
      (plan.grants.map fun grant =>
        152 + min limits.maxEndpointBytes.toNat grant.producerEndpoint.length).sum := by
    simp only [putMany, List.length_flatten, List.map_map, Function.comp_def, length_writeGrant]
  simp only [waveAnswer, waveAnswerSize, writeOkEnvelope, writeWavePlan, List.length_append,
    length_putU64, length_putU32, length_putU16, length_putBool, length_putCount,
    length_putByteString, hgrants, List.length_nil]
  omega

/-- The answer is too large for a frame. -/
def Oversized (limits : Limits) (plan : WavePlan) : Prop :=
  limits.maxFramePayloadBytes.toNat < waveAnswerSize limits plan ∨
    0xffffffff < waveAnswerSize limits plan ∨
    limits.maxAllocationBytes.toNat < 40 + waveAnswerSize limits plan

theorem not_fits_waveAnswer (limits : Limits) (plan : WavePlan) :
    ¬Session.Fits limits (waveAnswer limits plan) ↔ Oversized limits plan := by
  rw [Session.Fits, Oversized, length_waveAnswer]
  omega

/-! ## The server -/

/-- What `handle` reads and changes: the coordinator, and whether the session is bound. -/
structure Server where
  coordinator : Coordinator
  bound : Bool := false
  wireId : SessionId := 0

namespace Server

/-- The lambda `refuse` of `handle`. -/
def refuse (limits : Limits) (code : ErrorCode) (detail : String) : MessageType × Bytes :=
  (.errorResponse, Session.writeErrorEnvelope limits ⟨code, detail⟩)

/-- `handle`, the case `NextWaveRequest`. -/
def handleNextWave (limits : Limits) (server : Server) (payload : Bytes) :
    (MessageType × Bytes) × Server :=
  match (ByteReader.requireEnd.exec { data := payload, limits }).1 with
  | .error e => (refuse limits e.code e.detail, server)
  | .ok () =>
    let (plan, coordinator) := Coordinator.nextWave.exec server.coordinator
    match plan with
    | .error e => (refuse limits e.code e.detail, { server with coordinator })
    | .ok plan => ((.nextWaveResponse, waveAnswer limits plan), { server with coordinator })

section Handle

-- `session` is the session a frame names; `other` is the handshake, and the other requests.
variable (limits : Limits) (session : SessionId)
  (other : Server → Frame → (MessageType × Bytes) × Server)

/-- `CoordinatorServer::Impl::handle`. -/
def handle (server : Server) (frame : Frame) : (MessageType × Bytes) × Server :=
  if frame.payload.length > limits.maxMessagePayloadBytes.toNat then
    (refuse limits .oversizedInput "payload exceeds max_message_payload_bytes", server)
  else if ¬server.bound then
    if frame.type ≠ .handshakeRequest then
      (refuse limits .handshakeRequired
        "the first request on a connection must be HandshakeRequest", server)
    else other server frame
  else if frame.type = .handshakeRequest then
    (refuse limits .protocolViolation "the session is already bound to an identity", server)
  else if session ≠ server.wireId then
    (refuse limits .identityMismatch "frame carries a session id that is not this session's",
      server)
  else if frame.type = .nextWaveRequest then server.handleNextWave limits frame.payload
  else other server frame

end Handle

end Server

/-! ## What a wave hands out -/

/-- As many attempts in flight as before, overall and for everybody. -/
structure WaveScheduler.SameFlight (s s' : WaveScheduler) : Prop where
  global : s'.globalInFlight = s.globalInFlight
  producers : ∀ id, s'.producerInFlight.getD id 0 = s.producerInFlight.getD id 0
  consumers : ∀ id, s'.consumerInFlight.getD id 0 = s.consumerInFlight.getD id 0
  attempts : s'.attempts = s.attempts

/-- No authority was granted. -/
structure Coordinator.SameGrants (c c' : Coordinator) : Prop where
  grants : c'.grants = c.grants
  flight : c.scheduler.SameFlight c'.scheduler
  bytes : c'.ledger.attemptedBytes = c.ledger.attemptedBytes

namespace WaveScheduler

theorem SameFlight.refl (s : WaveScheduler) : SameFlight s s :=
  ⟨rfl, fun _ => rfl, fun _ => rfl, rfl⟩

theorem SameFlight.trans {s₁ s₂ s₃ : WaveScheduler} (h : SameFlight s₁ s₂)
    (h' : SameFlight s₂ s₃) : SameFlight s₁ s₃ :=
  ⟨h'.global.trans h.global, fun id => (h'.producers id).trans (h.producers id),
    fun id => (h'.consumers id).trans (h.consumers id), h'.attempts.trans h.attempts⟩

/-- How far a wave is. -/
structure Issued (s : WaveScheduler) (target : Nat) (w : WaveLoop) : Prop where
  room : w.plan.grants.length ≤ target
  global : w.scheduler.globalInFlight = s.globalInFlight + UInt32.ofNat w.plan.grants.length
  none : w.plan.grants = [] → s.SameFlight w.scheduler

theorem Issued.turn {s : WaveScheduler} {target : Nat} {w : WaveLoop}
    {env : SchedulingEnvironment} (hmore : w.plan.grants.length < target)
    (h : Issued s target w) : Issued s target (w.turn env) := by
  rcases WaveLoop.turned env w with hstill | ⟨grant, hissue⟩
  · refine ⟨hstill.grants ▸ h.room, ?_, fun hnone => ?_⟩
    · rw [hstill.globalInFlight, hstill.grants, h.global]
    · have hsame := h.none (hstill.grants ▸ hnone)
      exact ⟨hstill.globalInFlight.trans hsame.global,
        fun id => (hstill.producerInFlight id).trans (hsame.producers id),
        fun id => (hstill.consumerInFlight id).trans (hsame.consumers id),
        hstill.attempts.trans hsame.attempts⟩
  · obtain ⟨w₁, hstill, heq⟩ := hissue.issue
    have hgrants : (w.turn env).plan.grants = w.plan.grants ++ [grant] := by
      rw [heq, ← hstill.grants]
      rfl
    refine ⟨?_, ?_, fun hnone => by simp [hgrants] at hnone⟩
    · rw [hgrants, List.length_append]
      exact hmore
    · have hglobal : (w.turn env).scheduler.globalInFlight = w.scheduler.globalInFlight + 1 := by
        rw [heq, ← hstill.globalInFlight]
        rfl
      rw [hglobal, hgrants, List.length_append, h.global, UInt32.ofNat_add, UInt32.add_assoc]
      rfl

/-- A wave without a grant leaves everything in flight as it was, a wave with grants does
not: there are fewer than 2^32 of them. -/
theorem nextWave_flight {s s' : WaveScheduler} {env : SchedulingEnvironment} {plan : WavePlan}
    (h : s.nextWave env = .ok (plan, s')) :
    (plan.grants = [] → s.SameFlight s') ∧
      (plan.grants ≠ [] → s'.globalInFlight ≠ s.globalInFlight) := by
  rcases nextWave_ok h with ⟨-, rfl, rfl⟩ | ⟨-, hgrants, ⟨nextWaveId, rfl⟩, -⟩
  · exact ⟨fun _ => .refl _, fun hsome => absurd rfl hsome⟩
  · have hissued : Issued s s.policy.waves.maxGrantsPerWave.toNat (s.waveLoop env) :=
      WaveLoop.run_induction (fun w hmore hw => hw.turn hmore) _
        ⟨Nat.zero_le _, by simp, fun _ => .refl s⟩
    rw [hgrants]
    refine ⟨fun hnone => ?_, fun hsome hsame => ?_⟩
    · have hflight := hissued.none hnone
      exact ⟨hflight.global, hflight.producers, hflight.consumers, hflight.attempts⟩
    · have hcount : UInt32.ofNat (s.waveLoop env).plan.grants.length = 0 := by
        have hglobal := hissued.global
        rw [show (s.waveLoop env).scheduler.globalInFlight = s.globalInFlight from hsame] at hglobal
        simpa using hglobal.symm
      have hlength := congrArg UInt32.toNat hcount
      have hroom := hissued.room
      have hbound := s.policy.waves.maxGrantsPerWave.toNat_lt
      rw [UInt32.toNat_ofNat', Nat.mod_eq_of_lt (by omega)] at hlength
      exact hsome (List.eq_nil_of_length_eq_zero hlength)

end WaveScheduler

namespace Coordinator

/-- The wave that is planned in a state. -/
def Plans (c : Coordinator) (plan : WavePlan) : Prop :=
  ∃ topology scheduler scheduler', c.ensureOpen = .ok topology ∧
    c.ensureScheduler topology = .ok scheduler ∧
    scheduler.nextWave (c.environment topology) = .ok (plan, scheduler')

/-- At most one wave is planned in a state. -/
theorem Plans.unique {c : Coordinator} {plan plan' : WavePlan} (h : c.Plans plan)
    (h' : c.Plans plan') : plan = plan' := by
  obtain ⟨topology, scheduler, scheduler', hopen, hscheduler, hwave⟩ := h
  obtain ⟨topology', scheduler₁, scheduler₁', hopen', hscheduler', hwave'⟩ := h'
  obtain rfl := Except.ok.inj (hopen.symm.trans hopen')
  obtain rfl := Except.ok.inj (hscheduler.symm.trans hscheduler')
  exact (Prod.mk.inj (Except.ok.inj (hwave.symm.trans hwave'))).1

theorem SameGrants.refl (c : Coordinator) : SameGrants c c := ⟨rfl, .refl _, rfl⟩

/-- A scheduler keeps what is in flight when it is configured anew. -/
theorem ensureScheduler_flight {c : Coordinator} {topology : Topology} {scheduler : WaveScheduler}
    (h : c.ensureScheduler topology = .ok scheduler) : c.scheduler.SameFlight scheduler := by
  unfold ensureScheduler at h
  split at h
  · simp only [WaveScheduler.configure, bind_eq_ok, refuseIf_eq_ok, exists_const, pure_eq_ok] at h
    obtain ⟨-, -, -, rfl⟩ := h
    exact ⟨rfl, fun _ => rfl, fun _ => rfl, rfl⟩
  · rw [Except.ok.inj h]
    exact .refl _

/-- A planned wave is answered with, and its grants are admitted. -/
theorem exec_nextWave {c : Coordinator} (hin : c.inside = false) {topology : Topology}
    {scheduler scheduler' : WaveScheduler} {plan : WavePlan} (hopen : c.ensureOpen = .ok topology)
    (hscheduler : c.ensureScheduler topology = .ok scheduler)
    (hwave : scheduler.nextWave (c.environment topology) = .ok (plan, scheduler')) :
    nextWave.exec c =
      (.ok plan, (plan.grants.foldl admitGrant
        { c.flagged true with scheduler := scheduler' }).flagged false) := by
  have hstate : ¬(c.flagged true).state = .completed := by
    rw [show (c.flagged true).state = c.state from rfl, (ensureOpen_ok hopen).1]
    decide
  have hflagged : (c.flagged true).ensureOpen = .ok topology := hopen
  have hconfigured : (c.flagged true).ensureScheduler topology = .ok scheduler := hscheduler
  have henv : (c.flagged true).environment topology = c.environment topology := rfl
  rw [nextWave, exec_guarded _ hin, exec_bind_of_ok (exec_get _), if_neg hstate]
  simp only [exec_bind, exec_liftM, hflagged, hconfigured, exec_modify, henv, hwave, exec_pure]

/-- A request for a wave grants something exactly if the planned wave has grants, and then
it is answered with that wave. -/
theorem nextWave_sameGrants {c : Coordinator} (hin : c.inside = false) :
    (SameGrants c (nextWave.exec c).2 ∧ ∀ plan, c.Plans plan → plan.grants = []) ∨
      ∃ plan, c.Plans plan ∧ plan.grants ≠ [] ∧ (nextWave.exec c).1 = .ok plan ∧
        ¬SameGrants c (nextWave.exec c).2 := by
  by_cases hplans : ∀ plan, c.Plans plan → plan.grants = []
  · left
    refine ⟨?_, hplans⟩
    rcases nextWave_cases hin with ⟨-, hexec⟩ | ⟨e, hexec⟩ |
      ⟨topology, scheduler, e, -, hscheduler, -, hexec⟩ |
      ⟨topology, scheduler, plan, scheduler', hopen, hscheduler, hwave, hexec⟩
    · rw [hexec]
      exact .refl c
    · rw [hexec]
      exact .refl c
    · rw [hexec]
      exact ⟨rfl, ensureScheduler_flight hscheduler, rfl⟩
    · have hnone := hplans plan ⟨topology, scheduler, scheduler', hopen, hscheduler, hwave⟩
      have hflight := (WaveScheduler.nextWave_flight hwave).1 hnone
      rw [hexec, hnone]
      exact ⟨rfl, (ensureScheduler_flight hscheduler).trans hflight, rfl⟩
  · right
    obtain ⟨plan, hplan⟩ := not_forall.mp hplans
    obtain ⟨⟨topology, scheduler, scheduler', hopen, hscheduler, hwave⟩, hsome⟩ :=
      Classical.not_imp.mp hplan
    have hexec := exec_nextWave hin hopen hscheduler hwave
    refine ⟨plan, ⟨topology, scheduler, scheduler', hopen, hscheduler, hwave⟩, hsome, ?_, ?_⟩
    · rw [hexec]
    · intro hsame
      obtain ⟨grants, bytes, hadmitted, -⟩ := exists_foldl_admitGrant plan.grants
        { c.flagged true with scheduler := scheduler' }
      rw [hexec, hadmitted] at hsame
      have hglobal : scheduler'.globalInFlight = c.scheduler.globalInFlight := hsame.flight.global
      rw [← (ensureScheduler_flight hscheduler).global] at hglobal
      exact (WaveScheduler.nextWave_flight hwave).2 hsome hglobal

end Coordinator

/-! ## A request for a wave, and its reply -/

namespace Server

/-- The wave of this state has grants, its answer does not fit a frame, and the refusal
does. -/
def Overflows (limits : Limits) (c : Coordinator) : Prop :=
  ∃ plan, c.Plans plan ∧ plan.grants ≠ [] ∧ Oversized limits plan ∧
    Session.Fits limits (Session.writeErrorEnvelope limits
      (Session.unframed limits (waveAnswer limits plan)))

/-- The request is well-formed, on a bound session, and comes from outside. -/
def Admissible (session : SessionId) (server : Server) (payload : Bytes) : Prop :=
  payload = [] ∧ server.bound = true ∧ session = server.wireId ∧
    server.coordinator.inside = false

/-- The request reaches the coordinator. -/
def Reaches (session : SessionId) (s : Session Server) (sequence : UInt64) (payload : Bytes) :
    Prop :=
  s.ended = false ∧ (s.guard.accept sequence).1 = .ok true ∧
    Admissible session s.app payload

variable {limits : Limits} {session : SessionId}
  {other : Server → Frame → (MessageType × Bytes) × Server}

theorem handle_admissible {server : Server} {sequence : UInt64} {payload : Bytes}
    (h : Admissible session server payload) :
    handle limits session other server ⟨.nextWaveRequest, sequence, payload⟩ =
      server.handleNextWave limits payload := by
  obtain ⟨rfl, hbound, hsession, -⟩ := h
  simp [handle, hbound, hsession]

/-- Whatever is answered, the coordinator has planned the wave. -/
theorem handleNextWave_coordinator (server : Server) :
    (server.handleNextWave limits []).2.coordinator =
      (Coordinator.nextWave.exec server.coordinator).2 := by
  rw [handleNextWave,
    show (ByteReader.requireEnd.exec { data := [], limits }).1 = .ok () from rfl]
  cases hexec : Coordinator.nextWave.exec server.coordinator with
  | mk answer coordinator => cases answer <;> rfl

theorem handleNextWave_answer {server : Server} {plan : WavePlan}
    (h : (Coordinator.nextWave.exec server.coordinator).1 = .ok plan) :
    (server.handleNextWave limits []).1 = (.nextWaveResponse, waveAnswer limits plan) := by
  rw [handleNextWave,
    show (ByteReader.requireEnd.exec { data := [], limits }).1 = .ok () from rfl]
  simp only [h]

/-- The reply to a request that reaches the coordinator. -/
theorem replyTo_of_reaches {s : Session Server} {sequence : UInt64} {payload : Bytes} (sent : Bool)
    (h : Reaches session s sequence payload) :
    s.replyTo (handle s.limits session other) (Session.frameAnswer s.limits wireId)
        ⟨⟨.nextWaveRequest, sequence, payload⟩, sent⟩ =
      ({ s with app := (s.app.handleNextWave s.limits payload).2 } : Session Server).framed
        (Session.frameAnswer s.limits wireId) sequence
        (s.app.handleNextWave s.limits payload).1.1
        (s.app.handleNextWave s.limits payload).1.2 := by
  obtain ⟨hopen, hadmitted, hadmissible⟩ := h
  have hhandle : handle s.limits session other s.app ⟨.nextWaveRequest, sequence, payload⟩ =
      s.app.handleNextWave s.limits payload := handle_admissible hadmissible
  rw [← hhandle, Session.replyTo, if_neg (by simp [hopen]), hadmitted]

/-- A request that is not admissible is refused, by the server or by the coordinator. -/
theorem handle_inadmissible {server : Server} {sequence : UInt64} {payload : Bytes}
    (h : ¬Admissible session server payload) :
    (handle limits session other server ⟨.nextWaveRequest, sequence, payload⟩).2 = server := by
  have hnext : (¬(payload = [] ∧ server.coordinator.inside = false)) →
      (server.handleNextWave limits payload).2 = server := by
    intro h
    unfold handleNextWave
    split
    · rfl
    · next hend =>
        have hempty : payload = [] := by
          by_contra hne
          simp [ByteReader.requireEnd, ByteReader.checkOk, exec_bind, hne] at hend
        have hinside : server.coordinator.inside = true := by simpa [hempty] using h
        rw [Coordinator.nextWave, Coordinator.exec_guarded_inside _ hinside]
  unfold handle
  split
  · rfl
  split
  · simp
  simp only [reduceCtorEq, if_false]
  split
  · rfl
  · next hbound hsession =>
      simp only [if_true]
      refine hnext fun hadmissible => h ⟨hadmissible.1, by simpa using hbound,
        not_not.mp hsession, hadmissible.2⟩

/-- The reply to an answer that is no error response is an error response exactly if the
answer does not fit a frame and the refusal does. -/
theorem framed_isErrorResponse (s : Session Server) {sequence : UInt64} {type : MessageType}
    (answer : Bytes) (hsequence : sequence ≠ 0) (htype : type ≠ .errorResponse) :
    (∃ reply, s.framed (Session.frameAnswer s.limits wireId) sequence type answer = some reply ∧
        IsErrorResponse reply) ↔
      ¬Session.Fits s.limits answer ∧
        Session.Fits s.limits (Session.writeErrorEnvelope s.limits
          (Session.unframed s.limits answer)) := by
  unfold Session.framed Session.frameAnswer
  by_cases hfits : Session.Fits s.limits answer
  · obtain ⟨frame, hframe⟩ := (Session.encodeFrame_answer s.app.wireId type sequence answer
      s.limits).mpr ⟨hsequence, hfits⟩
    have hanswer := isErrorResponse_of_encodeFrame hframe
    simp only [hframe, Option.some.injEq, exists_eq_left', hfits, not_true_eq_false, false_and,
      iff_false]
    exact fun herror => htype (hanswer.mp herror)
  · rw [Session.encodeFrame_unframed s.app.wireId type hsequence hfits]
    simp only
    by_cases hrefusal : Session.Fits s.limits (Session.writeErrorEnvelope s.limits
        (Session.unframed s.limits answer))
    · obtain ⟨frame, hframe⟩ := (Session.encodeFrame_answer s.app.wireId .errorResponse sequence
        _ s.limits).mpr ⟨hsequence, hrefusal⟩
      have herror := (isErrorResponse_of_encodeFrame hframe).mpr rfl
      simp only [hframe, Option.some.injEq, exists_eq_left', herror, hfits, hrefusal,
        not_false_eq_true, and_self]
    · rw [Session.encodeFrame_unframed s.app.wireId .errorResponse hsequence hrefusal]
      simp [hrefusal]

/-- An error reply to a request for a wave grants nothing, exactly if the request does not
reach a coordinator whose wave has grants that do not fit a frame. -/
theorem error_reply_grants_nothing (session : SessionId)
    (other : Server → Frame → (MessageType × Bytes) × Server) (s : Session Server)
    (sequence : UInt64) (payload : Bytes) (sent : Bool) :
    (∀ reply, s.replyTo (handle s.limits session other) (Session.frameAnswer s.limits wireId)
        ⟨⟨.nextWaveRequest, sequence, payload⟩, sent⟩ = some reply → IsErrorResponse reply →
      s.app.coordinator.SameGrants
        (Session.serve (handle s.limits session other) (Session.frameAnswer s.limits wireId) s
          ⟨⟨.nextWaveRequest, sequence, payload⟩, sent⟩).2.app.coordinator) ↔
      ¬(Reaches session s sequence payload ∧ Overflows s.limits s.app.coordinator) := by
  by_cases hended : s.ended = true
  · simp [Session.serve_of_ended s _ hended, Coordinator.SameGrants.refl, Reaches, hended]
  have hopen : s.ended = false := by simpa using hended
  have happ := (Session.serve_spec (handle s.limits session other)
    (Session.frameAnswer s.limits wireId) s ⟨⟨.nextWaveRequest, sequence, payload⟩, sent⟩ hopen).2.2
  by_cases hadmitted : (s.guard.accept sequence).1 = .ok true
  · rw [if_pos hadmitted] at happ
    by_cases hadmissible : Admissible session s.app payload
    · have hreaches : Reaches session s sequence payload := ⟨hopen, hadmitted, hadmissible⟩
      obtain rfl : payload = [] := hadmissible.1
      rw [handle_admissible hadmissible] at happ
      rw [happ, replyTo_of_reaches sent hreaches, handleNextWave_coordinator]
      rcases Coordinator.nextWave_sameGrants hadmissible.2.2.2 with ⟨hsame, hnone⟩ |
        ⟨plan, hplans, hsome, hexec, hchanged⟩
      · refine iff_of_true (fun _ _ _ => hsame) ?_
        rintro ⟨-, plan, hplans, hsome, -⟩
        exact hsome (hnone plan hplans)
      · rw [handleNextWave_answer hexec]
        have htype : MessageType.nextWaveResponse ≠ .errorResponse := by decide
        have hframed := framed_isErrorResponse
          ({ s with app := (s.app.handleNextWave s.limits []).2 } : Session Server)
          (waveAnswer s.limits plan) (Session.ne_zero_of_accept hadmitted) htype
        constructor
        · rintro h ⟨-, plan', hplans', -, hoverflow⟩
          obtain rfl := hplans.unique hplans'
          obtain ⟨reply, hreply, herror⟩ :=
            hframed.mpr (hoverflow.imp (not_fits_waveAnswer _ _).mpr id)
          exact hchanged (h reply hreply herror)
        · intro h reply hreply herror
          have hoverflow := (hframed.mp ⟨reply, hreply, herror⟩).imp
            (not_fits_waveAnswer _ _).mp id
          exact absurd ⟨hreaches, plan, hplans, hsome, hoverflow⟩ h
    · rw [handle_inadmissible hadmissible] at happ
      simp [happ, Coordinator.SameGrants.refl, Reaches, hadmissible]
  · rw [if_neg hadmitted] at happ
    simp [happ, Coordinator.SameGrants.refl, Reaches, hadmitted]

/-- A bound session in front of the small shuffle, whose frames carry at most 150 bytes. -/
private def narrow : Session Server where
  guard := ReplayGuard.make 1024
  limits := { maxFramePayloadBytes := 150 }
  app := {
    coordinator := Lib.final Coordinator.perform (Coordinator.make {} (some acceptAll))
      smallCalls.dropLast
    bound := true
    wireId := 1 }

private def requestWave : Arrival := ⟨⟨.nextWaveRequest, 1, []⟩, true⟩

/-- The one grant of the wave takes 212 bytes with its envelope: the request is answered
with an error, and the attempt is in flight. -/
theorem error_reply_keeps_grant :
    ¬∀ (session : SessionId) (other : Server → Frame → (MessageType × Bytes) × Server)
      (s : Session Server) (sequence : UInt64) (payload : Bytes) (sent : Bool) (reply : Bytes),
      s.replyTo (handle s.limits session other) (Session.frameAnswer s.limits wireId)
        ⟨⟨.nextWaveRequest, sequence, payload⟩, sent⟩ = some reply → IsErrorResponse reply →
      s.app.coordinator.SameGrants
        (Session.serve (handle s.limits session other) (Session.frameAnswer s.limits wireId) s
          ⟨⟨.nextWaveRequest, sequence, payload⟩, sent⟩).2.app.coordinator := by
  intro h
  have herror : ((narrow.replyTo (handle narrow.limits 1 fun server _ => (refuse {} .ok "", server))
      (Session.frameAnswer narrow.limits wireId) requestWave).map
        fun reply => decide (IsErrorResponse reply)) = some true := by decide +kernel
  obtain ⟨reply, hreply, hdecide⟩ := Option.map_eq_some_iff.mp herror
  have hsame := (h 1 _ narrow 1 [] true reply hreply (of_decide_eq_true hdecide)).flight.global
  revert hsame
  decide +kernel

end Server

end ShuffleFabric
