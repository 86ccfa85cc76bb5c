import ShuffleFabric.Lib.Slots
import ShuffleFabric.Service.Admission

/-!
# ShuffleFabric.Service.Pool

`CoordinatorServer` (`service.cpp`): the registry of sessions, the worker threads, and the
frames they serve, as one machine.

A step is what happens between two looks at the shared state: a thread is created, a
connection is accepted, a worker takes a session, reads one frame of it, or lets it go.  Only
`handle` enters the coordinator, and it enters it once, under the one mutex; so the frames of
different sessions may come in any order, and each of them is one step.

`start` and `stop` take several steps, in the order of the source, and the threads go on
meanwhile: `start` creates the accept thread before the workers, and `stop` clears the
registry before it joins the workers that still serve.  A second call waits for
`lifecycle_mutex_` until the first returns.
-/

namespace ShuffleFabric

open Lib

/-- `struct ServerOptions`, without the address to listen on. -/
structure ServerOptions where
  limits : Limits := {}
  maxSessions : UInt32 := 64
  workerThreads : UInt32 := 4
  acceptBacklog : UInt32 := 16
  deriving DecidableEq

/-- `struct ServerStats`. -/
structure ServerStats where
  acceptedSessions : UInt64 := 0
  refusedSessions : UInt64 := 0
  servedRequests : UInt64 := 0
  refusedRequests : UInt64 := 0
  duplicateRequests : UInt64 := 0
  replayedAnswers : UInt64 := 0
  activeSessions : UInt32 := 0
  peakSessions : UInt32 := 0
  deriving DecidableEq

namespace ServerStats

/-- `note_frame`. -/
def noteFrame (stats : ServerStats) (served : Bool) : ServerStats :=
  if served then { stats with servedRequests := stats.servedRequests + 1 }
  else { stats with refusedRequests := stats.refusedRequests + 1 }

/-- `note_duplicate`. -/
def noteDuplicate (stats : ServerStats) (replayed : Bool) : ServerStats :=
  { stats with
    duplicateRequests := stats.duplicateRequests + 1
    replayedAnswers := if replayed then stats.replayedAnswers + 1 else stats.replayedAnswers }

end ServerStats

/-- A session of the server, and the key it is registered under. -/
structure Peer where
  id : UInt64
  session : Session Service.Connection

/-- Whether a call holds `lifecycle_mutex_`, and how far it is. -/
inductive Lifecycle where
  | free
  /-- `start` creates the threads. -/
  | starting
  /-- The threads are joined; then `stop` returns, or `start` with the error. -/
  | joining (failed : Option Error)
  deriving DecidableEq

/-- `struct CoordinatorServer::Impl`.  `threads_` is the accept thread, once there is one, and
the workers; a worker that serves no session waits for one. -/
structure CoordinatorServer where
  options : ServerOptions
  hub : Service.Hub
  running : Bool := false
  lifecycle : Lifecycle := .free
  acceptor : Bool := false
  sessions : Finset UInt64 := ∅
  pending : List Peer := []
  threads : List (Option Peer) := []
  stats : ServerStats := {}
  nextSessionKey : UInt64 := 1
  maxSessions : UInt32 := 1
  workers : UInt32 := 1

/-- What happens to a server. -/
inductive ServerInput where
  /-- `start` is called; `listener` is what binding says. -/
  | start (listener : Status)
  /-- `start` creates a thread, or is told why it cannot. -/
  | spawn (created : Status)
  /-- `stop` is called. -/
  | stop
  /-- The threads have returned, and the call that waited for them returns. -/
  | join
  /-- A connection is accepted by the listener. -/
  | accept
  /-- A worker takes the first pending session. -/
  | take (worker : Nat)
  /-- A worker reads a frame of its session; the header names `session`. -/
  | frame (worker : Nat) (session : SessionId) (arrival : Arrival)
  /-- `serve` returns, and the worker finishes its session. -/
  | leave (worker : Nat)
  deriving DecidableEq

/-- What comes of it. -/
inductive ServerOutput where
  /-- `start` returns. -/
  | started (status : Status)
  /-- `stop` returns. -/
  | stopped
  | done
  | accepted (id : UInt64)
  /-- The session bound is reached; the refusal is sent if it can be framed. -/
  | refused (reply : Option Bytes)
  | served (id : UInt64) (what : Served) (reply : Option Bytes)
  /-- Nobody is there to do it. -/
  | idle
  deriving DecidableEq

namespace CoordinatorServer

/-- `kReplayWindow`. -/
def kReplayWindow : UInt64 := 1024

/-- `kMaxWorkerThreads`. -/
def kMaxWorkerThreads : UInt32 := 1024

/-- `kMaxListenBacklog`. -/
def kMaxListenBacklog : UInt32 := 512

/-- `std::clamp`, from 1 on. -/
def clamp (value high : UInt32) : UInt32 :=
  if value < 1 then 1 else if high < value then high else value

/-- The checks of `start`. -/
def checkStart (s : CoordinatorServer) (listener : Status) : Status := do
  refuseIf s.running .invalidState "the server is already running"
  s.options.limits.validate
  refuseIf (s.options.acceptBacklog = 0 ∨ s.options.acceptBacklog > kMaxListenBacklog)
    .invalidArgument "accept_backlog must be in [1, kMaxListenBacklog]"
  listener

/-- `start`, once it is allowed: the pool is to serve every session that is admitted. -/
def open_ (s : CoordinatorServer) : CoordinatorServer :=
  let maxSessions := clamp s.options.maxSessions kMaxWorkerThreads
  let workers := clamp
    (if s.options.workerThreads < maxSessions then maxSessions else s.options.workerThreads)
    kMaxWorkerThreads
  { s with
    maxSessions, workers, stats := {}, sessions := ∅, pending := []
    running := true, lifecycle := .starting }

/-- `start`, up to the first thread; the listener gives its port, or says why not. -/
def start (s : CoordinatorServer) (listener : Status) : ServerOutput × CoordinatorServer :=
  if s.lifecycle ≠ .free then (.idle, s)
  else match s.checkStart listener with
    | .error e => (.started (.error e), s)
    | .ok () => (.done, s.open_)

/-- The lambda `spawn` of `start`, for one thread: the accept thread comes first, and the last
worker lets `start` return.  Where a thread cannot be created the others are told to return;
what was admitted meanwhile stays in the registry. -/
def spawn (s : CoordinatorServer) (created : Status) : ServerOutput × CoordinatorServer :=
  if s.lifecycle ≠ .starting then (.idle, s)
  else match created with
    | .error e => (.done, { s with running := false, lifecycle := .joining (some e) })
    | .ok () =>
      if ¬s.acceptor then (.done, { s with acceptor := true })
      else if s.threads.length + 1 < s.workers.toNat then
        (.done, { s with threads := s.threads ++ [none] })
      else (.started (.ok ()), { s with threads := s.threads ++ [none], lifecycle := .free })

/-- `stop`, up to the joins. -/
def stop (s : CoordinatorServer) : ServerOutput × CoordinatorServer :=
  if s.lifecycle ≠ .free then (.idle, s)
  else (.done, { s with
    running := false, lifecycle := .joining none, sessions := ∅, pending := []
    stats := { s.stats with activeSessions := 0 } })

/-- The joins of `stop`, and of a `start` that fails: a worker returns when it serves nobody. -/
def join (s : CoordinatorServer) : ServerOutput × CoordinatorServer :=
  match s.lifecycle with
  | .joining failed =>
    if s.threads.reduceOption ≠ [] then (.idle, s)
    else (match failed with
        | none => .stopped
        | some e => .started (.error e),
      { s with threads := [], acceptor := false, lifecycle := .free })
  | _ => (.idle, s)

/-- The accept thread waits for connections. -/
def listens (s : CoordinatorServer) : Bool := s.running && s.acceptor

/-- The constructor of `Session`. -/
def newPeer (s : CoordinatorServer) : Peer where
  id := s.nextSessionKey
  session := { guard := ReplayGuard.make kReplayWindow, limits := s.options.limits, app := {} }

/-- `sessions_`, `pending_` and the statistics take in a session. -/
def enqueue (s : CoordinatorServer) (peer : Peer) : CoordinatorServer :=
  let active := s.stats.activeSessions + 1
  { s with
    nextSessionKey := s.nextSessionKey + 1
    sessions := insert peer.id s.sessions
    pending := s.pending ++ [peer]
    stats := { s.stats with
      acceptedSessions := s.stats.acceptedSessions + 1
      activeSessions := active
      peakSessions := if s.stats.peakSessions < active then active else s.stats.peakSessions } }

/-- The frame `refuse_socket` sends: no session, and the sequence of a first request. -/
def refusal (limits : Limits) : Option Bytes :=
  (encodeFrame (Session.answerHeader 0 .errorResponse 1)
    (Session.writeErrorEnvelope limits ⟨.queueFull, "the server session bound is reached"⟩)
    limits).toOption

/-- `accept_loop`, for a connection. -/
def accept (s : CoordinatorServer) : ServerOutput × CoordinatorServer :=
  if ¬s.listens then (.idle, s)
  else if s.sessions.card ≥ s.maxSessions.toNat then
    (.refused (refusal s.options.limits),
      { s with stats := { s.stats with refusedSessions := s.stats.refusedSessions + 1 } })
  else (.accepted s.nextSessionKey, s.enqueue s.newPeer)

/-- `worker_loop`, for a worker that waits. -/
def take (s : CoordinatorServer) (worker : Nat) : ServerOutput × CoordinatorServer :=
  if ¬s.running then (.idle, s)
  else match s.threads[worker]?, s.pending with
    | some none, peer :: pending =>
      (.done, { s with pending, threads := s.threads.set worker (some peer) })
    | _, _ => (.idle, s)

/-- The session a worker serves. -/
def peerOf (s : CoordinatorServer) (worker : Nat) : Option Peer := (s.threads[worker]?).join

/-- `finish_session`, and the worker waits again. -/
def leave (s : CoordinatorServer) (worker : Nat) : ServerOutput × CoordinatorServer :=
  match s.peerOf worker with
  | none => (.idle, s)
  | some peer =>
    (.done, { s with
      threads := s.threads.set worker none
      sessions := s.sessions.erase peer.id
      stats := if peer.id ∈ s.sessions ∧ s.stats.activeSessions > 0 then
          { s.stats with activeSessions := s.stats.activeSessions - 1 }
        else s.stats })

section Serve

variable (walk : CompletionLedger → List FailureRecord)

/-- `handle`, as `serve` calls it: a session, and what the sessions share. -/
def handle (limits : Limits) (session : SessionId) (app : Service.Connection × Service.Hub)
    (frame : Frame) : (MessageType × Bytes) × (Service.Connection × Service.Hub) :=
  let (answer, app) := Service.handle limits walk session app.1 app.2 frame
  ((answer.type, answer.payload), app)

/-- A session that sees the shared state, while it is served. -/
def joined (peer : Peer) (hub : Service.Hub) : Session (Service.Connection × Service.Hub) where
  guard := peer.session.guard
  limits := peer.session.limits
  app := (peer.session.app, hub)
  answers := peer.session.answers
  ended := peer.session.ended

/-- `serve`, for one frame. -/
def serveFrame (peer : Peer) (hub : Service.Hub) (session : SessionId) (arrival : Arrival) :
    Served × Session (Service.Connection × Service.Hub) :=
  (joined peer hub).serve (handle walk peer.session.limits session)
    (Session.frameAnswer peer.session.limits (·.1.wireId)) arrival

/-- The frame `serve` sends back. -/
def replyTo (peer : Peer) (hub : Service.Hub) (session : SessionId) (arrival : Arrival) :
    Option Bytes :=
  (joined peer hub).replyTo (handle walk peer.session.limits session)
    (Session.frameAnswer peer.session.limits (·.1.wireId)) arrival

/-- A session without the shared state. -/
def parted (id : UInt64) (s : Session (Service.Connection × Service.Hub)) : Peer where
  id := id
  session := {
    guard := s.guard, limits := s.limits, app := s.app.1, answers := s.answers, ended := s.ended }

/-- What `serve` notes of a frame. -/
def note (stats : ServerStats) (peer : Peer) (hub : Service.Hub) (session : SessionId)
    (frame : Frame) : Served → ServerStats
  | .applied => stats.noteFrame
      (Service.handle peer.session.limits walk session peer.session.app hub frame).1.served
  | .duplicate =>
    if (peer.session.cachedAnswer frame.sequence).isSome then stats.noteDuplicate true
    else (stats.noteDuplicate false).noteFrame false
  | .refused => stats.noteFrame false
  | .unread => stats

/-- A worker reads a frame of its session.  It looked at `running_` before: a frame may still
be served when `stop` has begun. -/
def frame (s : CoordinatorServer) (worker : Nat) (session : SessionId) (arrival : Arrival) :
    ServerOutput × CoordinatorServer :=
  match s.peerOf worker with
  | none => (.idle, s)
  | some peer =>
    let (what, after) := serveFrame walk peer s.hub session arrival
    (.served peer.id what (replyTo walk peer s.hub session arrival), { s with
      hub := after.app.2
      threads := s.threads.set worker (some (parted peer.id after))
      stats := note walk s.stats peer s.hub session arrival.frame what })

/-- One step of a server. -/
def step (s : CoordinatorServer) : ServerInput → ServerOutput × CoordinatorServer
  | .start listener => s.start listener
  | .spawn created => s.spawn created
  | .stop => s.stop
  | .join => s.join
  | .accept => s.accept
  | .take worker => s.take worker
  | .frame worker session arrival => s.frame walk worker session arrival
  | .leave worker => s.leave worker

end Serve

/-- The constructor. -/
def make (options : ServerOptions) (coordinator : Coordinator) : CoordinatorServer where
  options := options
  hub := { coordinator }

/-! ## What a frame is admitted for -/

/-- The guard lets the frame through to `handle`. -/
def Applies (peer : Peer) (arrival : Arrival) : Prop :=
  peer.session.ended = false ∧
    (peer.session.guard.accept arrival.frame.sequence).1 = .ok true

instance decidableApplies (peer : Peer) (arrival : Arrival) : Decidable (Applies peer arrival) :=
  inferInstanceAs (Decidable (_ ∧ _))

/-- The operation a step performs. -/
def admits (s : CoordinatorServer) : ServerInput → Option Call
  | .frame worker session arrival =>
    (s.peerOf worker).bind fun peer =>
      if Applies peer arrival then
        Service.admitted peer.session.limits session peer.session.app arrival.frame
      else none
  | _ => none

/-- The identity a step binds to a session. -/
def greets (s : CoordinatorServer) : ServerInput → Option SessionIdentity
  | .frame worker _ arrival =>
    (s.peerOf worker).bind fun peer =>
      if Applies peer arrival then
        Service.binds peer.session.limits peer.session.app arrival.frame
      else none
  | _ => none

/-- The session a step reads a frame of. -/
def speaker (s : CoordinatorServer) : ServerInput → Option Peer
  | .frame worker _ _ => s.peerOf worker
  | _ => none

section Frame

variable (walk : CompletionLedger → List FailureRecord)

/-- `handle` runs for the frames the guard lets through, and for no others. -/
theorem serveFrame_app (peer : Peer) (hub : Service.Hub) (session : SessionId)
    (arrival : Arrival) :
    (serveFrame walk peer hub session arrival).2.app =
      if Applies peer arrival then
        (Service.handle peer.session.limits walk session peer.session.app hub arrival.frame).2
      else (peer.session.app, hub) := by
  rw [serveFrame]
  by_cases hended : peer.session.ended = true
  · have hclosed : (joined peer hub).ended = true := hended
    rw [Session.serve_of_ended _ _ hclosed, if_neg fun h => absurd hended (by simp [h.1])]
    rfl
  · have hopen : (joined peer hub).ended = false := Bool.eq_false_iff.mpr hended
    rw [(Session.serve_spec _ _ _ arrival hopen).2.2]
    exact if_congr ⟨fun h => ⟨hopen, h⟩, fun h => h.2⟩ rfl rfl

theorem respond_limits {σ : Type} {encode : σ → MessageType → UInt64 → Bytes → Result Bytes}
    (s : Session σ) (a : Arrival) (type : MessageType) (answer : Bytes) :
    (s.respond encode a type answer).limits = s.limits := by
  rw [Session.respond_eq]
  cases s.framed encode a.frame.sequence type answer <;> rfl

/-- A session keeps its limits. -/
theorem serveFrame_limits (peer : Peer) (hub : Service.Hub) (session : SessionId)
    (arrival : Arrival) :
    (serveFrame walk peer hub session arrival).2.limits = peer.session.limits := by
  unfold serveFrame Session.serve
  split
  · rfl
  · split
    · exact respond_limits _ _ _ _
    · simp only
      split
      · exact respond_limits _ _ _ _
      · rfl
    · exact respond_limits _ _ _ _

/-- The statistics about sessions, which no frame changes. -/
structure SameSessions (stats stats' : ServerStats) : Prop where
  accepted : stats'.acceptedSessions = stats.acceptedSessions
  refused : stats'.refusedSessions = stats.refusedSessions
  active : stats'.activeSessions = stats.activeSessions
  peak : stats'.peakSessions = stats.peakSessions

theorem sameSessions_note (stats : ServerStats) (peer : Peer) (hub : Service.Hub)
    (session : SessionId) (frame : Frame) (what : Served) :
    SameSessions stats (note walk stats peer hub session frame what) := by
  unfold note ServerStats.noteFrame ServerStats.noteDuplicate
  cases what with
  | applied => constructor <;> simp only <;> split <;> rfl
  | duplicate => constructor <;> simp only <;> split <;> rfl
  | refused | unread => exact ⟨rfl, rfl, rfl, rfl⟩

/-- What a frame changes: the session it is read from, the coordinator if it is admitted, and
the next session identifier if it binds an identity. -/
theorem frame_spec {s : CoordinatorServer} {worker : Nat} {peer : Peer}
    (hpeer : s.peerOf worker = some peer) (session : SessionId) (arrival : Arrival) :
    ∃ peer' stats, (s.frame walk worker session arrival).2 = { s with
        hub := {
          coordinator := Service.after s.hub.coordinator (s.admits (.frame worker session arrival))
          nextWireSession :=
            if (s.greets (.frame worker session arrival)).isSome then s.hub.nextWireSession + 1
            else s.hub.nextWireSession }
        threads := s.threads.set worker (some peer'), stats } ∧
      peer'.id = peer.id ∧ peer'.session.limits = peer.session.limits ∧
      peer'.session.app = Service.rebound peer.session.app s.hub.nextWireSession
        (s.greets (.frame worker session arrival)) ∧
      SameSessions s.stats stats := by
  have happ := serveFrame_app walk peer s.hub session arrival
  refine ⟨parted peer.id (serveFrame walk peer s.hub session arrival).2, _, ?_, rfl,
    serveFrame_limits walk peer s.hub session arrival, ?_, sameSessions_note walk s.stats peer
      s.hub session arrival.frame (serveFrame walk peer s.hub session arrival).1⟩
  · simp only [frame, hpeer, admits, greets, Option.bind_some, happ]
    split
    · rw [Service.handle_eq]
    · rfl
  · simp only [parted, greets, hpeer, Option.bind_some, happ]
    split
    · rw [Service.handle_eq]
    · rfl

/-- Only a frame touches what the sessions share. -/
theorem step_hub (s : CoordinatorServer) {i : ServerInput}
    (h : ∀ worker session arrival, i ≠ .frame worker session arrival) :
    (step walk s i).2.hub = s.hub := by
  cases i with
  | start listener =>
      simp only [step, start]
      split
      · rfl
      · split <;> rfl
  | spawn created =>
      simp only [step, spawn]
      split
      · rfl
      · split
        · rfl
        · split
          · rfl
          · split <;> rfl
  | stop =>
      simp only [step, stop]
      split <;> rfl
  | join =>
      simp only [step, join]
      split
      · split <;> rfl
      · rfl
  | accept =>
      simp only [step, accept]
      split
      · rfl
      · split <;> rfl
  | take worker =>
      simp only [step, take]
      split
      · rfl
      · split <;> rfl
  | frame worker session arrival => exact absurd rfl (h worker session arrival)
  | leave worker =>
      simp only [step, leave]
      split <;> rfl

/-- A step enters the coordinator for the operation it admits, and for nothing else. -/
theorem step_coordinator (s : CoordinatorServer) (i : ServerInput) :
    (step walk s i).2.hub.coordinator = Service.after s.hub.coordinator (s.admits i) := by
  cases i with
  | frame worker session arrival =>
      cases hpeer : s.peerOf worker with
      | none => simp [step, frame, admits, hpeer, Service.after]
      | some peer =>
          obtain ⟨peer', stats, heq, -⟩ := frame_spec walk hpeer session arrival
          rw [step, heq]
  | _ =>
      rw [step_hub walk s (by simp)]
      rfl

/-! ## The sessions of a server -/

/-- The sessions that wait for a worker, and those that are served. -/
def peers (s : CoordinatorServer) : List Peer := s.pending ++ s.threads.reduceOption

theorem slot_of_peerOf {s : CoordinatorServer} {worker : Nat} {peer : Peer}
    (h : s.peerOf worker = some peer) : s.threads[worker]? = some (some peer) := by
  unfold peerOf at h
  cases hslot : s.threads[worker]? with
  | none => simp [hslot] at h
  | some slot =>
      rw [hslot, Option.join_some] at h
      rw [h]

/-- The ways a step changes the sessions. -/
inductive PeersStep (s s' : CoordinatorServer) (i : ServerInput) : Prop
  | dropped (gone : List Peer) (peers : s.peers.Perm (gone ++ s'.peers))
  | admitted (peers : s'.peers.Perm (s.newPeer :: s.peers))
  | read (peer peer' : Peer) (others : List Peer) (speaker : s.speaker i = some peer)
      (before : s.peers.Perm (peer :: others)) (after : s'.peers.Perm (peer' :: others))
      (id : peer'.id = peer.id) (limits : peer'.session.limits = peer.session.limits)
      (app : peer'.session.app =
        Service.rebound peer.session.app s.hub.nextWireSession (s.greets i))

/-- The sessions are those there were. -/
theorem PeersStep.same {s s' : CoordinatorServer} {i : ServerInput} (h : s'.peers = s.peers) :
    PeersStep s s' i :=
  .dropped [] (by rw [h]; rfl)

theorem spawn_peers (s : CoordinatorServer) (created : Status) :
    (s.spawn created).2.peers = s.peers := by
  have hnew : (s.threads ++ [none]).reduceOption = s.threads.reduceOption := by
    simp [List.reduceOption_append]
  unfold spawn
  split
  · rfl
  · split
    · rfl
    · split
      · rfl
      · split <;> simp only [peers, hnew]

/-- Where the threads are joined, none of them serves a session. -/
theorem join_peers (s : CoordinatorServer) : s.join.2.peers = s.peers := by
  unfold join
  split
  · split
    · rfl
    · next hidle => simp [peers, not_not.mp hidle]
  · rfl

theorem enqueue_peers (s : CoordinatorServer) (peer : Peer) :
    (s.enqueue peer).peers.Perm (peer :: s.peers) := by
  simp only [peers, enqueue, List.append_assoc, List.singleton_append]
  exact List.perm_middle

/-- What a thread serves is exchanged. -/
theorem set_peers {s s' : CoordinatorServer} {worker : Nat} {old : Option Peer}
    (hslot : s.threads[worker]? = some old) (new : Option Peer)
    (hthreads : s'.threads = s.threads.set worker new) (hpending : s'.pending = s.pending) :
    (old.toList ++ s'.peers).Perm (new.toList ++ s.peers) := by
  have hset := (reduceOption_set hslot new).append_left s.pending
  rw [peers, peers, hthreads, hpending]
  calc old.toList ++ (s.pending ++ (s.threads.set worker new).reduceOption)
    _ |>.Perm (s.pending ++ (old.toList ++ (s.threads.set worker new).reduceOption)) :=
        List.perm_append_comm_assoc ..
    _ |>.Perm (s.pending ++ (new.toList ++ s.threads.reduceOption)) := hset
    _ |>.Perm (new.toList ++ (s.pending ++ s.threads.reduceOption)) :=
        List.perm_append_comm_assoc ..

/-- A worker takes the session that has waited longest, or nobody takes any. -/
theorem take_cases (s : CoordinatorServer) (worker : Nat) :
    s.take worker = (.idle, s) ∨ ∃ peer pending, s.threads[worker]? = some none ∧
      s.pending = peer :: pending ∧
      s.take worker = (.done, { s with pending, threads := s.threads.set worker (some peer) }) := by
  unfold take
  split
  · exact .inl rfl
  · split
    · next peer pending hslot hpending => exact .inr ⟨peer, pending, hslot, hpending, rfl⟩
    · exact .inl rfl

/-- The first session that waits is served. -/
theorem taken_peers {s : CoordinatorServer} {worker : Nat} {peer : Peer} {pending : List Peer}
    (hslot : s.threads[worker]? = some none) (hpending : s.pending = peer :: pending) :
    ({ s with pending, threads := s.threads.set worker (some peer) } :
      CoordinatorServer).peers.Perm s.peers := by
  have hset := reduceOption_set hslot (some peer)
  simp only [peers, hpending]
  exact (hset.append_left pending).trans List.perm_middle

theorem leave_peers {s : CoordinatorServer} {worker : Nat} {peer : Peer}
    (hpeer : s.peerOf worker = some peer) : s.peers.Perm (peer :: (s.leave worker).2.peers) := by
  have hset : ((some peer).toList ++ (s.leave worker).2.peers).Perm s.peers := by
    refine set_peers (slot_of_peerOf hpeer) none ?_ ?_ <;> simp [leave, hpeer]
  exact hset.symm

theorem frame_peers {s : CoordinatorServer} {worker : Nat} {peer : Peer}
    (hpeer : s.peerOf worker = some peer) (session : SessionId) (arrival : Arrival) :
    PeersStep s (s.frame walk worker session arrival).2 (.frame worker session arrival) := by
  obtain ⟨peer', stats, heq, hid, hlimits, happ, -⟩ := frame_spec walk hpeer session arrival
  rw [heq]
  have hslot := slot_of_peerOf hpeer
  have hfree := reduceOption_set hslot none
  have hnone : (s.threads.set worker none)[worker]? = some none := by
    simp [(List.getElem?_eq_some_iff.mp hslot).1]
  have hset := reduceOption_set hnone (some peer')
  rw [List.set_set] at hset
  refine .read peer peer' (s.pending ++ (s.threads.set worker none).reduceOption) hpeer
    ?_ ?_ hid hlimits happ
  · exact (hfree.symm.append_left s.pending).trans List.perm_middle
  · exact (hset.append_left s.pending).trans List.perm_middle

theorem step_peers (s : CoordinatorServer) (i : ServerInput) :
    PeersStep s (step walk s i).2 i := by
  cases i with
  | start listener =>
      simp only [step, start]
      split
      · exact .same rfl
      · split
        · exact .same rfl
        · exact .dropped s.pending (.refl _)
  | spawn created => exact .same (s.spawn_peers created)
  | stop =>
      simp only [step, stop]
      split
      · exact .same rfl
      · exact .dropped s.pending (.refl _)
  | join => exact .same s.join_peers
  | accept =>
      simp only [step, accept]
      split
      · exact .same rfl
      · split
        · exact .same rfl
        · exact .admitted (s.enqueue_peers s.newPeer)
  | take worker =>
      rw [step]
      rcases s.take_cases worker with hidle | ⟨peer, pending, hslot, hpending, htake⟩
      · rw [hidle]
        exact .same rfl
      · rw [htake]
        exact .dropped [] (taken_peers hslot hpending).symm
  | frame worker session arrival =>
      cases hpeer : s.peerOf worker with
      | none =>
          simp only [step, frame, hpeer]
          exact .same rfl
      | some peer => exact frame_peers walk hpeer session arrival
  | leave worker =>
      rw [step]
      cases hpeer : s.peerOf worker with
      | none =>
          simp only [leave, hpeer]
          exact .same rfl
      | some peer => exact .dropped [peer] (leave_peers hpeer)

end Frame

end CoordinatorServer

end ShuffleFabric
