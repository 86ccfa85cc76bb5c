import ShuffleFabric.Client.Connect
import ShuffleFabric.Lib.Run

/-!
# ShuffleFabric.Client.Transparent

Any number of clients and one server behave like the coordinator alone.

Each client calls the member functions of its `CoordinatorClient`, in any order and
interleaved with the others; the answers are those the coordinator would give to the same
operations in the same order, and it is left in the same state.
-/

namespace ShuffleFabric

open Lib Action ByteReader

/-! ## The member functions, by operation -/

namespace CoordinatorClient

section World

variable {ω α β : Type} (exchange : Bytes → ω → Result DecodedFrame × ω)

/-- A member function, and what its result is called. -/
def yields (f : α → β) (member : Remote ω α) : Remote ω β := fun c world =>
  let (result, after) := member c world
  (f <$> result, after)

/-- The member function for an operation; two operations are not offered to clients. -/
def perform : Call → Option (Remote ω Reply)
  | .openShuffle request => some (yields (fun _ => .done) (openShuffle exchange request))
  | .cancelShuffle reason => some (yields (fun _ => .done) (cancelShuffle exchange reason))
  | .registerProducer id incarnation endpoint =>
    some (yields .registered (registerParticipant exchange .producer id incarnation endpoint {}))
  | .registerConsumer id incarnation endpoint selection =>
    some (yields .registered
      (registerParticipant exchange .consumer id incarnation endpoint selection))
  | .publishManifest manifest => some (yields .accepted (publishManifest exchange manifest))
  | .nextWave => some (yields .wave (nextWave exchange))
  | .commitTransfer request => some (yields .committed (commitTransfer exchange request))
  | .reportFailure attempt code => some (yields .failed (reportFailure exchange attempt code))
  | .updateCongestion intent => some (yields (fun _ => .done) (reportCongestion exchange intent))
  | .advanceTick | .setParticipantState _ _ _ _ => none

variable {exchange}

/-- A call without a body, where the coordinator had none to send. -/
theorem call_of_transact {requestType responseType : MessageType} {payload : Bytes}
    {c : CoordinatorClient} {world : ω} {after : CoordinatorClient × ω} {limits : Limits}
    {result : Result α}
    (h : transact exchange requestType responseType payload c world =
      (Service.writeReply limits <$> ((fun _ => Reply.done) <$> result), after)) :
    yields (fun _ => Reply.done) (call exchange requestType responseType payload) c world =
      ((fun _ => Reply.done) <$> result, after) := by
  rw [yields, call, h]
  cases result with
  | error e => rfl
  | ok a => rfl

/-- A round trip, where the decoder reads what the coordinator had to send. -/
theorem roundTrip_of_transact {requestType responseType : MessageType} {f : α → Reply}
    {payload : Limits → Result Bytes} {decode : Bytes → Limits → Result α} {bytes : Bytes}
    {c : CoordinatorClient} {world : ω} {after : CoordinatorClient × ω} {limits : Limits}
    {result : Result α} (hpayload : payload c.options.limits = .ok bytes)
    (h : transact exchange requestType responseType bytes c world =
      (Service.writeReply limits <$> (f <$> result), after))
    (hdecode : ∀ a, result = .ok a →
      decode (Service.writeReply limits (f a)) c.options.limits = .ok a) :
    yields f (roundTrip exchange requestType responseType payload decode) c world =
      (f <$> result, after) := by
  rw [yields, roundTrip]
  simp only [hpayload, h]
  cases result with
  | error e => rfl
  | ok a =>
      have hread := hdecode a rfl
      change (f <$> (decode (Service.writeReply limits (f a)) c.options.limits), after) = _
      rw [hread]

end World

end CoordinatorClient

/-! ## One call -/

section Call

variable {limits : Limits} {worker : Nat} {c : CoordinatorClient} {s : CoordinatorServer}

/-- The result of an operation, under the name of its reply. -/
theorem Coordinator.perform_map {α : Type} {call : Call} {f : α → Reply} {op : Op α}
    (h : call.op = f <$> op) (c : Coordinator) : (c.perform call).1 = f <$> (op.exec c).1 := by
  rw [Coordinator.perform, h]
  exact congrArg Prod.fst (exec_map _ _ _)

/-- A remote call returns what the operation returns. -/
theorem Paired.perform {call : Call} (h : Paired limits worker c s)
    (walk : CompletionLedger → List FailureRecord) (hspeaks : Speaks limits)
    (hsend : Sendable limits c.options.identity call)
    (hanswers : Answers limits call (s.hub.coordinator.perform call).1)
    (hroom : c.nextSequence.toNat + 1 < 2 ^ 64) (lost : Error) :
    ∃ member c' s',
      CoordinatorClient.perform (CoordinatorServer.exchange walk worker limits lost) call =
        some member ∧
      member c s = ((s.hub.coordinator.perform call).1, c', s') ∧
      Exchanged limits worker call c s c' s' := by
  obtain ⟨payload, hpayload, hasks⟩ := hsend.asks hspeaks
  obtain ⟨c', s', htransact, hexchanged⟩ := h.transact walk hspeaks hasks hanswers hroom lost
  have hclient := h.client
  have h32 := hspeaks.digest
  cases call with
  | openShuffle request =>
      obtain rfl := Except.ok.inj hpayload
      rw [Coordinator.perform_map rfl] at htransact ⊢
      exact ⟨_, c', s', rfl, CoordinatorClient.call_of_transact htransact, hexchanged⟩
  | cancelShuffle reason =>
      obtain rfl := Except.ok.inj hpayload
      rw [Coordinator.perform_map rfl] at htransact ⊢
      exact ⟨_, c', s', rfl, CoordinatorClient.call_of_transact htransact, hexchanged⟩
  | registerProducer id incarnation endpoint =>
      rw [Coordinator.perform_map rfl] at htransact ⊢
      refine ⟨_, c', s', rfl, CoordinatorClient.roundTrip_of_transact (hclient ▸ hpayload) htransact
        fun outcome _ => ?_, hexchanged⟩
      rw [hclient]
      exact (Wire.reads_registrationOutcome outcome).decode_toEnd (by omega)
  | registerConsumer id incarnation endpoint selection =>
      rw [Coordinator.perform_map rfl] at htransact ⊢
      refine ⟨_, c', s', rfl, CoordinatorClient.roundTrip_of_transact (hclient ▸ hpayload) htransact
        fun outcome _ => ?_, hexchanged⟩
      rw [hclient]
      exact (Wire.reads_registrationOutcome outcome).decode_toEnd (by omega)
  | publishManifest manifest =>
      rw [Coordinator.perform_map rfl] at htransact ⊢
      refine ⟨_, c', s', rfl, CoordinatorClient.roundTrip_of_transact (hclient ▸ hpayload) htransact
        fun acceptance _ => ?_, hexchanged⟩
      rw [hclient]
      exact (Wire.reads_acceptance acceptance).decode_toEnd h32
  | nextWave =>
      obtain rfl := Except.ok.inj hpayload
      have hplan := hanswers.plan
      rw [Coordinator.perform_map rfl] at htransact hplan ⊢
      refine ⟨_, c', s', rfl, CoordinatorClient.roundTrip_of_transact rfl htransact
        fun plan hwave => ?_, hexchanged⟩
      have hfits := hplan plan (by rw [hwave]; rfl)
      obtain ⟨hlen, hcount⟩ := Wire.countOk_of_le (by omega) hfits.grants hfits.items
      obtain ⟨hendpoint, hstring⟩ := Wire.text_bounds_of_validate hspeaks.valid
      rw [hclient]
      refine (Wire.reads_wavePlan plan hlen hfits.endpoint).decode_toEnd
        ⟨by omega, hcount, fun g hg => ⟨h32, ?_, hfits.utf8 g hg⟩⟩
      have hbound := hfits.endpoint g hg
      omega
  | commitTransfer request =>
      obtain rfl := Except.ok.inj hpayload
      rw [Coordinator.perform_map rfl] at htransact ⊢
      refine ⟨_, c', s', rfl, CoordinatorClient.roundTrip_of_transact rfl htransact
        fun outcome _ => ?_, hexchanged⟩
      rw [hclient]
      exact (Wire.reads_commitOutcome outcome).decode_toEnd h32
  | reportFailure attempt code =>
      obtain rfl := Except.ok.inj hpayload
      rw [Coordinator.perform_map rfl] at htransact ⊢
      refine ⟨_, c', s', rfl, CoordinatorClient.roundTrip_of_transact rfl htransact
        fun outcome _ => ?_, hexchanged⟩
      rw [hclient]
      exact (Wire.reads_failureOutcome outcome).decode_toEnd (by omega)
  | updateCongestion intent =>
      obtain rfl := Except.ok.inj hpayload
      rw [Coordinator.perform_map rfl] at htransact ⊢
      exact ⟨_, c', s', rfl, CoordinatorClient.call_of_transact htransact, hexchanged⟩
  | advanceTick => exact hsend.identity.elim
  | setParticipantState => exact hsend.identity.elim

end Call

/-! ## Any number of clients -/

/-- A server, and the client at each of its workers. -/
structure Fleet where
  server : CoordinatorServer
  clients : Nat → CoordinatorClient

namespace Fleet

variable (limits : Limits) (walk : CompletionLedger → List FailureRecord) (lost : Error)

/-- The client at a worker calls a member function; `none` where there is no such function. -/
def step (f : Fleet) (i : Nat × Call) : Option (Result Reply) × Fleet :=
  match CoordinatorClient.perform (CoordinatorServer.exchange walk i.1 limits lost) i.2 with
  | none => (none, f)
  | some member =>
    let (result, c, server) := member (f.clients i.1) f.server
    (some result, { server, clients := Function.update f.clients i.1 c })

variable {limits walk lost}

/-- All these workers serve clients that are paired with them. -/
def Connected (limits : Limits) (workers : Set Nat) (f : Fleet) : Prop :=
  ∀ worker ∈ workers, Paired limits worker (f.clients worker) f.server

/-- A connected client calls for something that can be sent, and so can the answer. -/
structure Proper (limits : Limits) (workers : Set Nat)
    (e : Event Fleet (Nat × Call) (Option (Result Reply))) : Prop where
  worker : e.input.1 ∈ workers
  sendable : Sendable limits (e.before.clients e.input.1).options.identity e.input.2
  answers : Answers limits e.input.2 (e.before.server.hub.coordinator.perform e.input.2).1
  room : (e.before.clients e.input.1).nextSequence.toNat + 1 < 2 ^ 64

/-- One call of one client: it is the operation, and everybody stays connected. -/
theorem step_proper {workers : Set Nat} {f : Fleet} {i : Nat × Call} (hspeaks : Speaks limits)
    (hconnected : f.Connected limits workers)
    (hproper : Proper limits workers (happen (step limits walk lost) f i)) :
    (step limits walk lost f i).1 = some (f.server.hub.coordinator.perform i.2).1 ∧
      (step limits walk lost f i).2.server.hub.coordinator =
        (f.server.hub.coordinator.perform i.2).2 ∧
      (step limits walk lost f i).2.Connected limits workers := by
  obtain ⟨worker, call⟩ := i
  have hsend : Sendable limits (f.clients worker).options.identity call := hproper.sendable
  have hanswers : Answers limits call (f.server.hub.coordinator.perform call).1 := hproper.answers
  obtain ⟨member, c', s', hmember, hresult, hexchanged⟩ :=
    (hconnected worker hproper.worker).perform walk hspeaks hsend hanswers hproper.room lost
  have hstep : step limits walk lost f (worker, call) =
      (some (f.server.hub.coordinator.perform call).1,
        { server := s', clients := Function.update f.clients worker c' }) := by
    simp only [step, hmember, hresult]
  rw [hstep]
  refine ⟨rfl, hexchanged.performed, fun other hother => ?_⟩
  by_cases heq : other = worker
  · subst heq
    simpa using hexchanged.paired
  · simpa [heq] using (hconnected other hother).beside hexchanged.beside heq

/-- A server with a shuffle and two workers, and with two sessions that nobody has spoken to. -/
def smallServer : CoordinatorServer :=
  final (CoordinatorServer.step fun _ => [])
    (CoordinatorServer.make { maxSessions := 2, workerThreads := 1 }
      ((Coordinator.make {} (some acceptAll)).perform (.openShuffle (smallOpen 1))).2)
    [.start (.ok ()), .spawn (.ok ()), .spawn (.ok ()), .spawn (.ok ()),
      .accept, .accept, .take 0, .take 1]

/-- A participant connects to the session of a worker. -/
def smallConnect (worker : Nat) (kind : ParticipantKind) (id : UInt64) (s : CoordinatorServer) :
    Status × CoordinatorClient × CoordinatorServer :=
  CoordinatorClient.connect
    (CoordinatorServer.exchange (fun _ => []) worker {} ⟨.connectionClosed, ""⟩)
    ⟨⟨kind, id, 1, 0⟩, {}⟩ (.ok ()) {} s

/-- A producer at the first worker and a consumer at the second. -/
def smallFleet : Fleet :=
  let (_, producer, s) := smallConnect 0 .producer 1 smallServer
  let (_, consumer, s) := smallConnect 1 .consumer 2 s
  { server := s, clients := fun worker => if worker = 0 then producer else consumer }

theorem speaks_default : Speaks {} := ⟨by decide +kernel, by decide⟩

/-- A participant that connects to a fresh session of a server is paired with it. -/
theorem smallConnect_paired {worker : Nat} {s : CoordinatorServer} (h : Fresh {} worker s)
    (hsession : s.hub.nextWireSession ≠ 0) (kind : ParticipantKind) (id : UInt64)
    (hid : id ≠ 0) :
    ∃ c s', smallConnect worker kind id s = (.ok (), c, s') ∧
      s'.hub.nextWireSession = s.hub.nextWireSession + 1 ∧
      CoordinatorServer.Beside worker s s' ∧ Paired {} worker c s' := by
  have hlength : (Wire.writeHandshake (CoordinatorClient.hello ⟨kind, id, 1, 0⟩)).length = 25 := by
    simp [Wire.writeHandshake]
  have hvalid : (SessionIdentity.mk kind id 1 0).valid = true := by
    simp [SessionIdentity.valid, hid]
  have hhello : Session.Fits {} (Wire.writeHandshake (CoordinatorClient.hello ⟨kind, id, 1, 0⟩)) := by
    rw [Session.Fits, hlength]
    decide
  obtain ⟨c, s', hconnect, hhub, hbeside, hpaired, -⟩ :=
    connect_fresh h (fun _ => []) speaks_default ⟨⟨kind, id, 1, 0⟩, {}⟩ rfl hvalid
      (by rw [hlength]; decide) hhello (by decide +kernel) hsession {} rfl ⟨.connectionClosed, ""⟩
  exact ⟨c, s', hconnect, by rw [hhub], hbeside, hpaired⟩

theorem smallFleet_connected : smallFleet.Connected {} {0, 1} := by
  have hfirst : Fresh {} 0 smallServer := ⟨rfl, 1, rfl⟩
  have hsecond : Fresh {} 1 smallServer := ⟨rfl, 2, rfl⟩
  have hnext : smallServer.hub.nextWireSession = 1 := rfl
  obtain ⟨producer, s, hproducer, hsession, hbeside, hpaired⟩ :=
    smallConnect_paired hfirst (by rw [hnext]; decide) .producer 1 (by decide)
  obtain ⟨consumer, s', hconsumer, -, hbeside', hpaired'⟩ :=
    smallConnect_paired (hsecond.beside hbeside (by decide)) (by rw [hsession, hnext]; decide)
      .consumer 2 (by decide)
  have hfleet : smallFleet =
      { server := s', clients := fun worker => if worker = 0 then producer else consumer } := by
    simp only [smallFleet, hproducer, hconsumer]
  rw [hfleet]
  rintro worker (rfl | rfl)
  · exact hpaired.beside hbeside' (by decide)
  · exact hpaired'

/-- What the producer and the consumer call for. -/
def smallInputs : List (Nat × Call) :=
  [(0, .registerProducer 1 1 []), (1, .registerConsumer 2 1 [] {}), (0, .nextWave)]

/-- What happens when they do. -/
def smallEvents : List (Event Fleet (Nat × Call) (Option (Result Reply))) :=
  record (step {} (fun _ => []) ⟨.connectionClosed, ""⟩) smallFleet smallInputs

/-- An operation that succeeds, and hands out nothing. -/
theorem answers_of_plain {limits : Limits} {call : Call} {result : Result Reply}
    (hok : result.isOk = true) (hplain : Reply.grants (fun _ => true) result = false)
    (hfits : Session.Fits limits (Service.answerTo limits call result).payload) :
    Answers limits call result where
  refusal e he := by
    rw [he] at hok
    cases hok
  plan plan hwave := by
    have hnone : plan.grants = [] := by
      rw [hwave] at hplain
      simpa [Reply.grants, List.eq_nil_iff_forall_not_mem] using hplain
    constructor <;> simp [hnone]
  fits := hfits

theorem smallEvents_proper : ∀ e ∈ smallEvents, Proper {} {0, 1} e := by
  obtain ⟨hidentity, hresults⟩ :
      (smallEvents.map fun e => (e.before.clients e.input.1).options.identity) =
        [⟨.producer, 1, 1, 0⟩, ⟨.consumer, 2, 1, 0⟩, ⟨.producer, 1, 1, 0⟩] ∧
      ∀ e ∈ smallEvents, (e.before.clients e.input.1).nextSequence.toNat + 1 < 2 ^ 64 ∧
        (e.before.server.hub.coordinator.perform e.input.2).1.isOk = true ∧
        Reply.grants (fun _ => true) (e.before.server.hub.coordinator.perform e.input.2).1 =
          false ∧
        Session.Fits {} (Service.answerTo {} e.input.2
          (e.before.server.hub.coordinator.perform e.input.2).1).payload := by
    decide +kernel
  have hregistration : ∀ kind id, Wire.RegistrationFits {} ⟨kind, id, 1, [], {}⟩ := fun kind id =>
    ⟨Nat.zero_le _, rfl, Nat.zero_le _, Nat.zero_le _⟩
  simp only [smallEvents, smallInputs, record, List.map_cons, List.map_nil, List.cons.injEq,
    and_true] at hidentity
  intro e he
  obtain ⟨hsequence, hok, hplain, hfits⟩ := hresults e he
  have hanswers := answers_of_plain hok hplain hfits
  simp only [smallEvents, smallInputs, record, List.mem_cons, List.not_mem_nil, or_false] at he
  rcases he with rfl | rfl | rfl
  · refine ⟨.inl rfl, ⟨?_, hregistration _ _, _, rfl, by decide +kernel, by decide +kernel⟩,
      hanswers, hsequence⟩
    rw [hidentity.1]
    exact ⟨rfl, rfl, rfl⟩
  · refine ⟨.inr rfl, ⟨?_, hregistration _ _, _, rfl, by decide +kernel, by decide +kernel⟩,
      hanswers, hsequence⟩
    rw [hidentity.2.1]
    exact ⟨rfl, rfl, rfl⟩
  · exact ⟨.inl rfl, ⟨trivial, trivial, [], rfl, by decide, by decide⟩, hanswers, hsequence⟩

end Fleet

end ShuffleFabric
