import ShuffleFabric.Lib.Run
import ShuffleFabric.Service.Pool

/-!
# ShuffleFabric.Service.Attribution

Who asks for what, over whole runs of a server.

A session is bound once, by a handshake, and the identity and the session identifier it is
given then never change; so every operation that reaches the coordinator can be traced to the
handshake of the session it came over.  Session identifiers are counted through, also when
the server is stopped and started again.
-/

namespace ShuffleFabric

open Lib

namespace CoordinatorServer

abbrev ServerEvent := Event CoordinatorServer ServerInput ServerOutput

/-- A handshake that was accepted: the session, the identifier it was given, and the identity
it presented. -/
structure Greeting where
  id : UInt64
  session : SessionId
  identity : SessionIdentity
  deriving DecidableEq

/-- An operation that was performed: the session it was asked for over, the identifier in the
header of the frame, and the operation. -/
structure Request where
  id : UInt64
  session : SessionId
  call : Call
  deriving DecidableEq

/-- The handshake a step accepts. -/
def greeting (e : ServerEvent) : Option Greeting :=
  (e.before.speaker e.input).bind fun peer =>
    (e.before.greets e.input).map fun identity =>
      ⟨peer.id, e.before.hub.nextWireSession, identity⟩

/-- The operation a step performs. -/
def request (e : ServerEvent) : Option Request :=
  match e.input with
  | .frame _ session _ =>
    (e.before.speaker e.input).bind fun peer =>
      (e.before.admits e.input).map fun call => ⟨peer.id, session, call⟩
  | _ => none

variable {walk : CompletionLedger → List FailureRecord}

/-! ## One frame -/

theorem greets_of_speaker {s : CoordinatorServer} {i : ServerInput} {identity : SessionIdentity}
    (h : s.greets i = some identity) :
    identity.valid = true ∧ ∃ peer, s.speaker i = some peer := by
  unfold greets at h
  split at h
  · obtain ⟨peer, hpeer, h⟩ := Option.bind_eq_some_iff.mp h
    split at h
    · exact ⟨Service.valid_of_bindIdentity (Service.of_binds h).2.2, peer, hpeer⟩
    · cases h
  · cases h

/-- An operation is asked for over a session that is bound, under the identifier that session
was given, by somebody who may. -/
theorem of_request {e : ServerEvent} {r : Request} (h : request e = some r) :
    e.before.admits e.input = some r.call ∧ ∃ peer, e.before.speaker e.input = some peer ∧
      r.id = peer.id ∧ peer.session.app.bound = true ∧ r.session = peer.session.app.wireId ∧
      Service.SpeaksFor peer.session.app.identity r.call := by
  obtain ⟨before, input, output, after⟩ := e
  unfold request at h
  split at h
  · next worker session arrival hinput =>
      obtain rfl : input = .frame worker session arrival := hinput
      obtain ⟨peer, hpeer, h⟩ := Option.bind_eq_some_iff.mp h
      obtain ⟨call, hcall, rfl⟩ := Option.map_eq_some_iff.mp h
      refine ⟨hcall, peer, hpeer, rfl, ?_⟩
      have hspeaker : before.peerOf worker = some peer := hpeer
      simp only [admits, hspeaker, Option.bind_some] at hcall
      split at hcall
      · obtain ⟨⟨-, hbound, -, hsession⟩, hrequested⟩ := Service.passes_of_admitted hcall
        exact ⟨hbound, hsession, Service.speaksFor_of_requested hrequested⟩
      · cases hcall
  · cases h

/-- The operations of a step. -/
theorem request_call (e : ServerEvent) :
    (request e).map (·.call) = e.before.admits e.input := by
  obtain ⟨before, input, output, after⟩ := e
  cases input with
  | frame worker session arrival =>
      simp only [request, speaker, admits]
      cases before.peerOf worker <;> simp [Option.map_map, Function.comp_def]
  | _ => rfl

/-! ## What is known of the sessions -/

/-- Every session that is bound was bound by one of these handshakes. -/
def Known (greetings : List Greeting) (s : CoordinatorServer) : Prop :=
  ∀ peer ∈ s.peers, peer.session.app.bound = true →
    ⟨peer.id, peer.session.app.wireId, peer.session.app.identity⟩ ∈ greetings

theorem known_make (options : ServerOptions) (c : Coordinator) : Known [] (make options c) := by
  intro peer hpeer
  simp [peers, make] at hpeer

/-- A step keeps the sessions known, if its own handshake is written down. -/
theorem Known.step {greetings : List Greeting} {s : CoordinatorServer} (h : Known greetings s)
    (i : ServerInput) :
    Known (greetings ++ (greeting (happen (step walk) s i)).toList) (step walk s i).2 := by
  intro peer hpeer hbound
  cases step_peers walk s i with
  | dropped gone hpeers =>
      have hold : peer ∈ s.peers := hpeers.mem_iff.mpr (List.mem_append_right _ hpeer)
      exact List.mem_append_left _ (h peer hold hbound)
  | admitted hpeers =>
      rcases List.mem_cons.mp (hpeers.mem_iff.mp hpeer) with rfl | hold
      · simp [newPeer] at hbound
      · exact List.mem_append_left _ (h peer hold hbound)
  | read old new others hspeaker hbefore hafter hid _ happ =>
      rcases List.mem_cons.mp (hafter.mem_iff.mp hpeer) with rfl | hother
      · cases hgreets : s.greets i with
        | none =>
            rw [happ, hgreets] at hbound
            have hold := h old (hbefore.mem_iff.mpr List.mem_cons_self) hbound
            rw [happ, hgreets, hid]
            exact List.mem_append_left _ hold
        | some identity =>
            rw [happ, hgreets, hid]
            refine List.mem_append_right _ ?_
            simp [greeting, happen, hspeaker, hgreets, Service.rebound]
      · have hold : peer ∈ s.peers := hbefore.mem_iff.mpr (List.mem_cons_of_mem _ hother)
        exact List.mem_append_left _ (h peer hold hbound)

theorem filterMap_snoc {α β : Type} (f : α → Option β) (xs : List α) (x : α) :
    (xs ++ [x]).filterMap f = xs.filterMap f ++ (f x).toList := by
  rw [List.filterMap_append]
  cases h : f x <;> simp [h]

theorem known_of_run {options : ServerOptions} {c : Coordinator} {events : List ServerEvent}
    {s : CoordinatorServer} (run : Run (step walk) (make options c) events s) :
    Known (events.filterMap greeting) s := by
  induction run with
  | nil => exact known_make options c
  | snoc run i ih =>
      rw [filterMap_snoc]
      exact ih.step i

/-- A worker serves one of the sessions. -/
theorem mem_peers_of_speaker {s : CoordinatorServer} {i : ServerInput} {peer : Peer}
    (h : s.speaker i = some peer) : peer ∈ s.peers := by
  unfold speaker at h
  split at h
  · exact List.mem_append_right _ (mem_reduceOption_of_slot (slot_of_peerOf h))
  · cases h

/-- The handshake behind an operation. -/
theorem exists_greeting {greetings : List Greeting} {e : ServerEvent}
    (h : Known greetings e.before) {r : Request} (hr : request e = some r) :
    ∃ g ∈ greetings, g.id = r.id ∧ g.session = r.session ∧
      Service.SpeaksFor g.identity r.call := by
  obtain ⟨-, peer, hpeer, hid, hbound, hsession, hspeaks⟩ := of_request hr
  exact ⟨_, h peer (mem_peers_of_speaker hpeer) hbound, hid.symm, hsession.symm, hspeaks⟩

/-! ## Attribution -/

/-- The coordinator is where the performed operations lead, in the order of the frames; and
each of them was asked for over a session whose handshake, earlier in the run, presented a
complete identity that may ask for it. -/
theorem requests_attributed {options : ServerOptions} {c : Coordinator}
    {events : List ServerEvent} {s : CoordinatorServer}
    (run : Run (step walk) (make options c) events s) :
    s.hub.coordinator =
        final Coordinator.perform c ((events.filterMap request).map (·.call)) ∧
      (∀ g ∈ events.filterMap greeting, g.identity.valid = true) ∧
      Along (fun earlier e => ∀ r, request e = some r →
        ∃ g ∈ earlier.filterMap greeting, g.id = r.id ∧ g.session = r.session ∧
          Service.SpeaksFor g.identity r.call) [] events := by
  induction run with
  | nil => exact ⟨rfl, by simp, trivial⟩
  | @snoc events s run i ih =>
      obtain ⟨hcoordinator, hvalid, halong⟩ := ih
      refine ⟨?_, ?_, (along_snoc _ _).mpr ⟨halong, fun r hr => ?_⟩⟩
      · have hcall := request_call (happen (step walk) s i)
        rw [step_coordinator, filterMap_snoc, List.map_append, hcoordinator]
        cases hr : request (happen (step walk) s i) with
        | none =>
            rw [hr, Option.map_none] at hcall
            rw [show s.admits i = none from hcall.symm]
            simp [Service.after]
        | some r =>
            rw [hr, Option.map_some] at hcall
            rw [show s.admits i = some r.call from hcall.symm]
            simp [Service.after, final]
      · intro g hg
        rw [filterMap_snoc, List.mem_append] at hg
        rcases hg with hg | hg
        · exact hvalid g hg
        · obtain ⟨peer, hpeer, hg⟩ := Option.bind_eq_some_iff.mp (Option.mem_toList.mp hg)
          obtain ⟨identity, hidentity, rfl⟩ := Option.map_eq_some_iff.mp hg
          exact (greets_of_speaker hidentity).1
      · exact exists_greeting (e := happen (step walk) s i) (known_of_run run) hr

/-- A server that one producer connects to: it presents itself, and registers. -/
def smallSession : List ServerInput :=
  [.start (.ok ()), .spawn (.ok ()), .accept, .spawn (.ok ()), .take 0,
    .frame 0 0 ⟨⟨.handshakeRequest, 1, Wire.writeHandshake ⟨1, 7, 3, 9⟩⟩, true⟩,
    .frame 0 1 ⟨⟨.registerParticipantRequest, 2,
      ((Wire.writeRegistration {} ⟨1, 7, 3, [0x68], {}⟩).toOption.getD [])⟩, true⟩]

/-- What happens to it, beginning without a shuffle. -/
def smallEvents : List ServerEvent :=
  record (step fun _ => []) (make {} (Coordinator.make {} none)) smallSession

/-- The coordinator has seen one operation, and the one handshake was complete. -/
theorem requests_attributed_small :
    (smallEvents.filterMap request).length = 1 ∧ (smallEvents.filterMap greeting).length = 1 ∧
      (final (step fun _ => []) (make {} (Coordinator.make {} none)) smallSession).hub.coordinator =
        final Coordinator.perform (Coordinator.make {} none)
          ((smallEvents.filterMap request).map (·.call)) ∧
      ∀ g ∈ smallEvents.filterMap greeting, g.identity.valid = true := by
  have h := requests_attributed
    (Run.of_inputs (step fun _ => []) (make {} (Coordinator.make {} none)) smallSession)
  obtain ⟨hrequests, hgreetings⟩ : (smallEvents.filterMap request).length = 1 ∧
      (smallEvents.filterMap greeting).length = 1 := by
    decide +kernel
  exact ⟨hrequests, hgreetings, h.1, h.2.1⟩

/-! ## Session identifiers -/

/-- The session identifiers given out so far are 1, 2, .. in this order. -/
def Counted (greetings : List Greeting) (s : CoordinatorServer) : Prop :=
  s.hub.nextWireSession = UInt64.ofNat (greetings.length + 1) ∧
    greetings.map (·.session.toNat) = List.range' 1 greetings.length

theorem step_nextWireSession (s : CoordinatorServer) (i : ServerInput) :
    (step walk s i).2.hub.nextWireSession =
      if (s.greets i).isSome then s.hub.nextWireSession + 1 else s.hub.nextWireSession := by
  cases i with
  | frame worker session arrival =>
      cases hpeer : s.peerOf worker with
      | none => simp [step, frame, greets, hpeer]
      | some peer =>
          obtain ⟨peer', stats, heq, -⟩ := frame_spec walk hpeer session arrival
          rw [step, heq]
  | _ =>
      rw [step_hub walk s (by simp)]
      rfl

/-- A step that accepts no handshake gives out no identifier. -/
theorem greeting_eq (s : CoordinatorServer) (i : ServerInput) :
    greeting (happen (step walk) s i) =
        (s.greets i).bind fun identity => (s.speaker i).map fun peer =>
          ⟨peer.id, s.hub.nextWireSession, identity⟩ := by
  simp only [greeting, happen]
  cases s.speaker i <;> cases s.greets i <;> rfl

theorem Counted.step {greetings : List Greeting} {s : CoordinatorServer} (h : Counted greetings s)
    (i : ServerInput)
    (hfew : (greetings ++ (greeting (happen (step walk) s i)).toList).length < 2 ^ 64) :
    Counted (greetings ++ (greeting (happen (step walk) s i)).toList) (step walk s i).2 := by
  obtain ⟨hnext, hsessions⟩ := h
  rw [greeting_eq] at hfew ⊢
  rw [Counted, step_nextWireSession]
  cases hgreets : s.greets i with
  | none => simp [hnext, hsessions]
  | some identity =>
      obtain ⟨-, peer, hspeaker⟩ := greets_of_speaker hgreets
      simp only [hgreets, hspeaker, Option.bind_some, Option.map_some, Option.toList_some,
        List.length_append, List.length_singleton] at hfew
      have hsum : s.hub.nextWireSession + 1 = UInt64.ofNat (greetings.length + 1 + 1) := by
        rw [hnext, UInt64.ofNat_add (greetings.length + 1) 1]
        rfl
      have hnumber : s.hub.nextWireSession.toNat = greetings.length + 1 := by
        rw [hnext, UInt64.toNat_ofNat', Nat.mod_eq_of_lt hfew]
      simp [hspeaker, hsum, hsessions, hnumber, List.range'_concat, Nat.add_comm]

theorem counted_of_run {options : ServerOptions} {c : Coordinator} {events : List ServerEvent}
    {s : CoordinatorServer} (run : Run (step walk) (make options c) events s)
    (hfew : (events.filterMap greeting).length < 2 ^ 64) :
    Counted (events.filterMap greeting) s := by
  induction run with
  | nil => exact ⟨rfl, rfl⟩
  | @snoc events s run i ih =>
      rw [filterMap_snoc] at hfew ⊢
      have hfewer : (events.filterMap greeting).length < 2 ^ 64 := by
        rw [List.length_append] at hfew
        omega
      exact (ih hfewer).step i hfew

/-- Every operation of a run has its handshake in the run. -/
theorem known_requests {options : ServerOptions} {c : Coordinator} {events : List ServerEvent}
    {s : CoordinatorServer} (run : Run (step walk) (make options c) events s) :
    ∀ r ∈ events.filterMap request, ∃ g ∈ events.filterMap greeting,
      g.id = r.id ∧ g.session = r.session ∧ Service.SpeaksFor g.identity r.call := by
  induction run with
  | nil => simp
  | @snoc events s run i ih =>
      intro r hr
      rw [filterMap_snoc, List.mem_append] at hr
      rw [filterMap_snoc]
      rcases hr with hr | hr
      · obtain ⟨g, hg, hfound⟩ := ih r hr
        exact ⟨g, List.mem_append_left _ hg, hfound⟩
      · obtain ⟨g, hg, hfound⟩ :=
          exists_greeting (e := happen (step walk) s i) (known_of_run run)
            (Option.mem_toList.mp hr)
        exact ⟨g, List.mem_append_left _ hg, hfound⟩

/-- As long as the counter has not gone round, a session identifier names one session and one
identity for the life of the server: whoever uses it, uses it over the session it was given
to. -/
theorem session_identifier_names_greeting {options : ServerOptions} {c : Coordinator}
    {events : List ServerEvent} {s : CoordinatorServer}
    (run : Run (step walk) (make options c) events s)
    (hfew : (events.filterMap greeting).length < 2 ^ 64) :
    ∀ r ∈ events.filterMap request, r.session ≠ 0 ∧
      ∃ g ∈ events.filterMap greeting, g.id = r.id ∧ Service.SpeaksFor g.identity r.call ∧
        ∀ g' ∈ events.filterMap greeting, g'.session = r.session ↔ g' = g := by
  intro r hr
  obtain ⟨g, hg, hid, hsession, hspeaks⟩ := known_requests run r hr
  have hnumbers := (counted_of_run run hfew).2
  have hnodup : ((events.filterMap greeting).map (·.session.toNat)).Nodup := by
    rw [hnumbers]
    exact List.nodup_range'
  refine ⟨fun hzero => ?_, g, hg, hid, hspeaks, fun g' hg' => ⟨fun hsame => ?_, ?_⟩⟩
  · have hmem : g.session.toNat ∈ (events.filterMap greeting).map (·.session.toNat) :=
      List.mem_map_of_mem hg
    rw [hnumbers, hsession, hzero, List.mem_range'_1] at hmem
    exact absurd hmem.1 (by decide)
  · exact List.inj_on_of_nodup_map hnodup hg' hg (by rw [hsame, hsession])
  · rintro rfl
    exact hsession

/-- The registration of the small session came under the identifier 1, which the producer 7
was given. -/
theorem session_identifier_names_greeting_small :
    (⟨1, 1, .registerProducer 7 3 [0x68]⟩ : Request) ∈ smallEvents.filterMap request ∧
      ∃ g ∈ smallEvents.filterMap greeting, g.id = 1 ∧
        Service.SpeaksFor g.identity (.registerProducer 7 3 [0x68]) ∧
        ∀ g' ∈ smallEvents.filterMap greeting, g'.session = 1 ↔ g' = g := by
  obtain ⟨hrequest, hfew⟩ :
      (⟨1, 1, .registerProducer 7 3 [0x68]⟩ : Request) ∈ smallEvents.filterMap request ∧
        (smallEvents.filterMap greeting).length < 2 ^ 64 := by
    decide +kernel
  have run := Run.of_inputs (step fun _ => []) (make {} (Coordinator.make {} none)) smallSession
  exact ⟨hrequest, (session_identifier_names_greeting run hfew _ hrequest).2⟩

end CoordinatorServer

end ShuffleFabric
