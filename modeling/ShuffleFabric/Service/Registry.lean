import ShuffleFabric.Service.Attribution

/-!
# ShuffleFabric.Service.Registry

The registry of sessions, the pool of workers and the statistics, over whole runs of a server.

The pool is as large as the session bound, so a session that was admitted never waits for a
worker that is not there, once `start` has returned; and what the statistics say is what
happened.  While the server starts the workers follow the first sessions, and while it stops
they outlive the registry, which is why `Registered` looks at how far `start` and `stop` are.
-/

namespace ShuffleFabric

open Lib

namespace CoordinatorServer

variable {walk : CompletionLedger → List FailureRecord}

/-- The keys of the sessions. -/
def ids (s : CoordinatorServer) : List UInt64 := s.peers.map (·.id)

/-- How far `start` and `stop` are shows in the threads. -/
structure Staged (s : CoordinatorServer) : Prop where
  sized : s.running = true → s.maxSessions ≤ s.workers
  full : s.running = true → s.lifecycle = .free → s.threads.length = s.workers.toNat
  starting : s.lifecycle = .starting → s.running = true ∧ s.threads.length < s.workers.toNat
  joining : ∀ failed, s.lifecycle = .joining failed → s.running = false
  stopping : s.lifecycle = .joining none → s.pending = []
  joined : s.running = false → s.lifecycle = .free → s.threads = []

/-- The registry, the sessions and the statistics agree, after so many sessions were accepted;
while `stop` joins the threads, some sessions are served that are no longer registered. -/
structure Registered (accepted : Nat) (s : CoordinatorServer) : Prop where
  key : s.nextSessionKey = UInt64.ofNat (accepted + 1)
  below : ∀ id ∈ s.ids, id.toNat ≤ accepted
  nodup : s.ids.Nodup
  present : ∀ id ∈ s.sessions, id ∈ s.ids
  registered : s.lifecycle ≠ .joining none → ∀ id ∈ s.ids, id ∈ s.sessions
  active : s.stats.activeSessions.toNat = s.sessions.card
  peak : s.stats.activeSessions ≤ s.stats.peakSessions
  bounded : s.stats.peakSessions ≤ s.maxSessions
  small : s.maxSessions ≤ kMaxWorkerThreads

/-- A new server has no threads. -/
theorem staged_make (options : ServerOptions) (c : Coordinator) : Staged (make options c) where
  sized h := by cases h
  full h := by cases h
  starting h := by cases h
  joining _ h := by cases h
  stopping h := by cases h
  joined _ _ := rfl

/-- A new server has no sessions. -/
theorem registered_make (options : ServerOptions) (c : Coordinator) :
    Registered 0 (make options c) where
  key := rfl
  below := by simp [ids, peers, make]
  nodup := by simp [ids, peers, make]
  present := by simp [make]
  registered := by simp [ids, peers, make]
  active := by simp [make]
  peak := by simp [make]
  bounded := by simp [make]
  small := by simp [make, kMaxWorkerThreads]

/-! ## The size of the pool -/

/-- `std::clamp` keeps its upper bound. -/
theorem clamp_le (value high : UInt32) (h : 1 ≤ high) : clamp value high ≤ high := by
  unfold clamp
  split
  · exact h
  · split
    · exact UInt32.le_refl _
    · exact UInt32.not_lt.mp ‹_›

/-- There are to be at least as many workers as sessions, and at least one. -/
theorem open_pool (s : CoordinatorServer) :
    s.open_.maxSessions ≤ kMaxWorkerThreads ∧ s.open_.maxSessions ≤ s.open_.workers ∧
      0 < s.open_.workers := by
  have hsmall : clamp s.options.maxSessions kMaxWorkerThreads ≤ kMaxWorkerThreads :=
    clamp_le _ _ (by decide)
  refine ⟨hsmall, ?_, ?_⟩
  · simp only [open_]
    grind [clamp]
  · simp only [open_]
    grind [clamp, kMaxWorkerThreads]

/-! ## The stages -/

section Step

variable {accepted : Nat} {s : CoordinatorServer}

/-- The threads and the sessions that wait are all a stage looks at. -/
theorem Staged.same {s' : CoordinatorServer} (h : s.Staged) (hrunning : s'.running = s.running)
    (hlifecycle : s'.lifecycle = s.lifecycle) (hmax : s'.maxSessions = s.maxSessions)
    (hworkers : s'.workers = s.workers) (hthreads : s'.threads.length = s.threads.length)
    (hpending : s.pending = [] → s.running = false → s'.pending = []) : s'.Staged where
  sized := by rw [hrunning, hmax, hworkers]; exact h.sized
  full := by rw [hrunning, hlifecycle, hthreads, hworkers]; exact h.full
  starting := by rw [hrunning, hlifecycle, hthreads, hworkers]; exact h.starting
  joining := by rw [hrunning, hlifecycle]; exact h.joining
  stopping hstopping := by
    rw [hlifecycle] at hstopping
    exact hpending (h.stopping hstopping) (h.joining _ hstopping)
  joined hstopped hfree := by
    rw [hrunning] at hstopped
    rw [hlifecycle] at hfree
    rw [← List.length_eq_zero_iff, hthreads, h.joined hstopped hfree, List.length_nil]

/-- `start` checks before it opens the pool. -/
theorem Staged.start (h : s.Staged) (listener : Status) : (s.start listener).2.Staged := by
  unfold CoordinatorServer.start
  split
  · exact h
  · next hfree =>
      split
      · exact h
      · next hcheck =>
          have hstopped : s.running = false := by
            simp only [checkStart, bind_eq_ok, refuseIf_eq_ok, exists_const] at hcheck
            exact Bool.eq_false_iff.mpr hcheck.1
          have hthreads : s.threads = [] := h.joined hstopped (not_not.mp hfree)
          obtain ⟨-, hsized, hworkers⟩ := s.open_pool
          refine ⟨fun _ => hsized, fun _ hfree => ?_, fun _ => ⟨rfl, ?_⟩, fun _ hjoining => ?_,
            fun hjoining => ?_, fun hstopped => ?_⟩
          · cases hfree
          · rw [show s.open_.threads = s.threads from rfl, hthreads, List.length_nil]
            exact UInt32.lt_iff_toNat_lt.mp hworkers
          · cases hjoining
          · cases hjoining
          · cases hstopped

/-- A thread more, the last of them, or none. -/
theorem Staged.spawn (h : s.Staged) (created : Status) : (s.spawn created).2.Staged := by
  unfold CoordinatorServer.spawn
  split
  · exact h
  · next hstarting =>
      have hstarting : s.lifecycle = .starting := not_not.mp hstarting
      obtain ⟨hrunning, hfew⟩ := h.starting hstarting
      split
      · next e =>
          refine ⟨fun hrun => ?_, fun hrun => ?_, fun hstart => ?_, fun _ _ => rfl,
            fun hjoining => ?_, fun _ hfree => ?_⟩
          · cases hrun
          · cases hrun
          · cases hstart
          · cases hjoining
          · cases hfree
      · split
        · exact h.same rfl rfl rfl rfl rfl fun hnone _ => hnone
        · split
          · next hmore =>
              refine ⟨h.sized, fun _ hfree => ?_, fun _ => ⟨hrunning, ?_⟩, fun _ hjoining => ?_,
                fun hjoining => ?_, fun _ hfree => ?_⟩
              · exact absurd (hstarting.symm.trans hfree) (by simp)
              · simpa using hmore
              · exact absurd (hstarting.symm.trans hjoining) (by simp)
              · exact absurd (hstarting.symm.trans hjoining) (by simp)
              · exact absurd (hstarting.symm.trans hfree) (by simp)
          · next hlast =>
              refine ⟨h.sized, fun _ _ => ?_, fun hstart => ?_, fun _ hjoining => ?_,
                fun hjoining => ?_, fun hstopped _ => ?_⟩
              · simp only [List.length_append, List.length_singleton]
                omega
              · cases hstart
              · cases hjoining
              · cases hjoining
              · exact absurd (hrunning.symm.trans hstopped) (by simp)

/-- `stop` takes the sessions from the workers that wait. -/
theorem Staged.stop (h : s.Staged) : s.stop.2.Staged := by
  unfold CoordinatorServer.stop
  split
  · exact h
  · refine ⟨fun hrun => ?_, fun hrun => ?_, fun hstart => ?_, fun _ _ => rfl, fun _ => rfl,
      fun _ hfree => ?_⟩
    · cases hrun
    · cases hrun
    · cases hstart
    · cases hfree

/-- The joins end with no thread left. -/
theorem Staged.join (h : s.Staged) : s.join.2.Staged := by
  unfold CoordinatorServer.join
  split
  · next failed hjoining =>
      split
      · exact h
      · have hstopped : s.running = false := h.joining failed hjoining
        refine ⟨fun hrun => ?_, fun hrun => ?_, fun hstart => ?_, fun _ hjoin => ?_,
          fun hjoin => ?_, fun _ _ => rfl⟩
        · exact absurd (hstopped.symm.trans hrun) (by simp)
        · exact absurd (hstopped.symm.trans hrun) (by simp)
        · cases hstart
        · cases hjoin
        · cases hjoin
  · exact h

/-- Whatever happens, the threads show how far `start` and `stop` are. -/
theorem Staged.step (h : s.Staged) (i : ServerInput) : (step walk s i).2.Staged := by
  cases i with
  | start listener => exact h.start listener
  | spawn created => exact h.spawn created
  | stop => exact h.stop
  | join => exact h.join
  | accept =>
      simp only [CoordinatorServer.step, CoordinatorServer.accept]
      split
      · exact h
      · next hlistens =>
          split
          · exact h.same rfl rfl rfl rfl rfl fun hnone _ => hnone
          · refine h.same rfl rfl rfl rfl rfl fun _ hstopped => ?_
            simp [listens, hstopped] at hlistens
  | take worker =>
      simp only [CoordinatorServer.step]
      rcases s.take_cases worker with hidle | ⟨peer, pending, hslot, hpending, htake⟩
      · rw [hidle]
        exact h
      · rw [htake]
        refine h.same rfl rfl rfl rfl (List.length_set ..) fun hnone => ?_
        rw [hpending] at hnone
        cases hnone
  | frame worker session arrival =>
      simp only [CoordinatorServer.step, CoordinatorServer.frame]
      split
      · exact h
      · exact h.same rfl rfl rfl rfl (List.length_set ..) fun hnone _ => hnone
  | leave worker =>
      simp only [CoordinatorServer.step, CoordinatorServer.leave]
      split
      · exact h
      · exact h.same rfl rfl rfl rfl (List.length_set ..) fun hnone _ => hnone

/-! ## The registry -/

/-- A thread more, or the end of the start, is nothing to the registry. -/
theorem spawn_registry (s : CoordinatorServer) (created : Status) :
    (s.spawn created).2.nextSessionKey = s.nextSessionKey ∧
      (s.spawn created).2.sessions = s.sessions ∧ (s.spawn created).2.stats = s.stats ∧
      (s.spawn created).2.maxSessions = s.maxSessions := by
  unfold CoordinatorServer.spawn
  split
  · exact ⟨rfl, rfl, rfl, rfl⟩
  · split
    · exact ⟨rfl, rfl, rfl, rfl⟩
    · split
      · exact ⟨rfl, rfl, rfl, rfl⟩
      · split <;> exact ⟨rfl, rfl, rfl, rfl⟩

/-- The joins are nothing to the registry either. -/
theorem join_registry (s : CoordinatorServer) :
    s.join.2.nextSessionKey = s.nextSessionKey ∧ s.join.2.sessions = s.sessions ∧
      s.join.2.stats = s.stats ∧ s.join.2.maxSessions = s.maxSessions := by
  unfold CoordinatorServer.join
  split
  · split <;> exact ⟨rfl, rfl, rfl, rfl⟩
  · exact ⟨rfl, rfl, rfl, rfl⟩

namespace Registered

/-- Outside of `stop`, as many sessions are registered as there are. -/
theorem card (h : Registered accepted s) (hstage : s.lifecycle ≠ .joining none) :
    s.sessions.card = s.ids.length := by
  have heq : s.sessions = s.ids.toFinset := Finset.ext fun id => by
    rw [List.mem_toFinset]
    exact ⟨h.present id, h.registered hstage id⟩
  rw [heq, List.toFinset_card_of_nodup h.nodup]

/-- Nothing that the registry speaks of has changed. -/
theorem same {s' : CoordinatorServer} (h : Registered accepted s)
    (hkey : s'.nextSessionKey = s.nextSessionKey) (hids : s'.ids.Perm s.ids)
    (hsessions : s'.sessions = s.sessions)
    (hactive : s'.stats.activeSessions = s.stats.activeSessions)
    (hpeak : s'.stats.peakSessions = s.stats.peakSessions) (hmax : s'.maxSessions = s.maxSessions)
    (hstage : s'.lifecycle ≠ .joining none → s.lifecycle ≠ .joining none) :
    Registered accepted s' where
  key := by rw [hkey, h.key]
  below id hid := h.below id (hids.mem_iff.mp hid)
  nodup := hids.nodup_iff.mpr h.nodup
  present id hid := hids.mem_iff.mpr (h.present id (hsessions ▸ hid))
  registered hnow id hid := by
    rw [hsessions]
    exact h.registered (hstage hnow) id (hids.mem_iff.mp hid)
  active := by rw [hactive, hsessions, h.active]
  peak := by
    rw [hactive, hpeak]
    exact h.peak
  bounded := by
    rw [hpeak, hmax]
    exact h.bounded
  small := by
    rw [hmax]
    exact h.small

/-- The registry is cleared, and nobody waits any more. -/
theorem cleared {s' : CoordinatorServer} (h : Registered accepted s)
    (hkey : s'.nextSessionKey = s.nextSessionKey) (hthreads : s'.threads = s.threads)
    (hpending : s'.pending = []) (hsessions : s'.sessions = ∅)
    (hserved : s'.lifecycle ≠ .joining none → s.threads = [])
    (hactive : s'.stats.activeSessions = 0) (hbounded : s'.stats.peakSessions ≤ s'.maxSessions)
    (hsmall : s'.maxSessions ≤ kMaxWorkerThreads) : Registered accepted s' := by
  have hids : s.ids = s.pending.map (·.id) ++ s'.ids := by
    simp [ids, peers, hthreads, hpending]
  have hnodup := h.nodup
  rw [hids] at hnodup
  exact {
    key := by rw [hkey, h.key]
    below := fun id hid => h.below id (by rw [hids]; exact List.mem_append_right _ hid)
    nodup := (List.nodup_append.mp hnodup).2.1
    present := by simp [hsessions]
    registered := fun hstage => by simp [ids, peers, hthreads, hpending, hserved hstage]
    active := by simp [hactive, hsessions]
    peak := by
      rw [hactive]
      exact UInt32.zero_le
    bounded := hbounded
    small := hsmall }

/-- `start` empties the registry; what a failed start has left goes with it. -/
theorem start (h : Registered accepted s) (hstage : s.Staged) (listener : Status) :
    Registered accepted (s.start listener).2 := by
  have hstaged := hstage.start listener
  unfold CoordinatorServer.start at hstaged ⊢
  split
  · exact h
  · next hfree =>
      split
      · exact h
      · next hcheck =>
          have hstopped : s.running = false := by
            simp only [checkStart, bind_eq_ok, refuseIf_eq_ok, exists_const] at hcheck
            exact Bool.eq_false_iff.mpr hcheck.1
          exact h.cleared rfl rfl rfl rfl (fun _ => hstage.joined hstopped (not_not.mp hfree)) rfl
            UInt32.zero_le s.open_pool.1

/-- A thread changes no session. -/
theorem spawn (h : Registered accepted s) (created : Status) :
    Registered accepted (s.spawn created).2 := by
  by_cases hstarting : s.lifecycle = .starting
  · have hids : (s.spawn created).2.ids = s.ids := by
      rw [ids, ids, s.spawn_peers created]
    obtain ⟨hkey, hsessions, hstats, hmax⟩ := s.spawn_registry created
    exact h.same hkey (.of_eq hids) hsessions (congrArg (·.activeSessions) hstats)
      (congrArg (·.peakSessions) hstats) hmax fun _ => by simp [hstarting]
  · unfold CoordinatorServer.spawn
    rw [if_pos hstarting]
    exact h

/-- `stop` forgets the sessions that wait, and those that are served are no longer registered. -/
theorem stop (h : Registered accepted s) : Registered accepted s.stop.2 := by
  unfold CoordinatorServer.stop
  split
  · exact h
  · exact h.cleared rfl rfl rfl rfl (fun hstage => absurd rfl hstage) rfl h.bounded h.small

/-- What `stop` joins has left the registry, and after the join nobody is served. -/
theorem join (h : Registered accepted s) (hstage : s.Staged) : Registered accepted s.join.2 := by
  have hids : s.join.2.ids = s.ids := by rw [ids, ids, s.join_peers]
  obtain ⟨hkey, hsessions, hstats, hmax⟩ := s.join_registry
  by_cases hjoining : s.lifecycle = .joining none
  · by_cases hidle : s.threads.reduceOption = []
    · have hnone : s.ids = [] := by simp [ids, peers, hstage.stopping hjoining, hidle]
      exact {
        key := by rw [hkey, h.key]
        below := by simp [hids, hnone]
        nodup := by simp [hids, hnone]
        present := fun id hid => by
          rw [hids]
          exact h.present id (hsessions ▸ hid)
        registered := by simp [hids, hnone]
        active := by rw [hstats, hsessions, h.active]
        peak := by
          rw [hstats]
          exact h.peak
        bounded := by
          rw [hstats, hmax]
          exact h.bounded
        small := by
          rw [hmax]
          exact h.small }
    · simp only [CoordinatorServer.join, hjoining, ne_eq, hidle, not_false_eq_true, if_true]
      exact h
  · exact h.same hkey (.of_eq hids) hsessions (congrArg (·.activeSessions) hstats)
      (congrArg (·.peakSessions) hstats) hmax fun _ => hjoining

/-- A session is admitted below the bound, under a key that no session has. -/
theorem enqueue (h : Registered accepted s) (hstage : s.lifecycle ≠ .joining none)
    (hbelow : s.sessions.card < s.maxSessions.toNat) (hfew : accepted + 1 < 2 ^ 64) :
    Registered (accepted + 1) (s.enqueue s.newPeer) := by
  have hids : (s.enqueue s.newPeer).ids.Perm (s.nextSessionKey :: s.ids) :=
    (s.enqueue_peers s.newPeer).map _
  have hkey : s.nextSessionKey.toNat = accepted + 1 := by
    rw [h.key, UInt64.toNat_ofNat', Nat.mod_eq_of_lt hfew]
  have hnew : s.nextSessionKey ∉ s.ids := fun hmem => by
    have := h.below _ hmem
    omega
  have hsmall : s.maxSessions.toNat ≤ 1024 := UInt32.le_iff_toNat_le.mp h.small
  have hactive : (s.stats.activeSessions + 1).toNat = s.sessions.card + 1 := by
    rw [UInt32.toNat_add, h.active, UInt32.toNat_one, Nat.mod_eq_of_lt (by omega)]
  constructor
  · rw [show (s.enqueue s.newPeer).nextSessionKey = s.nextSessionKey + 1 from rfl, h.key,
      UInt64.ofNat_add (accepted + 1) 1]
    rfl
  · intro id hid
    rcases List.mem_cons.mp (hids.mem_iff.mp hid) with rfl | hold
    · exact hkey.le
    · have := h.below id hold
      omega
  · exact hids.nodup_iff.mpr (List.nodup_cons.mpr ⟨hnew, h.nodup⟩)
  · intro id hid
    rw [hids.mem_iff, List.mem_cons]
    exact (Finset.mem_insert.mp hid).imp_right (h.present id)
  · intro _ id hid
    rw [hids.mem_iff, List.mem_cons] at hid
    exact Finset.mem_insert.mpr (hid.imp_right (h.registered hstage id))
  · rw [show (s.enqueue s.newPeer).sessions = insert s.nextSessionKey s.sessions from rfl,
      Finset.card_insert_of_notMem fun hmem => hnew (h.present _ hmem)]
    exact hactive
  · change s.stats.activeSessions + 1 ≤ if s.stats.peakSessions < s.stats.activeSessions + 1
      then s.stats.activeSessions + 1 else s.stats.peakSessions
    grind
  · change (if s.stats.peakSessions < s.stats.activeSessions + 1
      then s.stats.activeSessions + 1 else s.stats.peakSessions) ≤ s.maxSessions
    split
    · rw [UInt32.le_iff_toNat_le, hactive]
      exact hbelow
    · exact h.bounded
  · exact h.small

/-- A session that is taken is served instead of waiting. -/
theorem take (h : Registered accepted s) (worker : Nat) :
    Registered accepted (s.take worker).2 := by
  rcases s.take_cases worker with hidle | ⟨peer, pending, hslot, hpending, htake⟩
  · rw [hidle]
    exact h
  · rw [htake]
    exact h.same rfl ((taken_peers hslot hpending).map _) rfl rfl rfl rfl id

/-- A frame changes a session, and not its key. -/
theorem frame (h : Registered accepted s) (worker : Nat) (session : SessionId)
    (arrival : Arrival) : Registered accepted (s.frame walk worker session arrival).2 := by
  cases hpeer : s.peerOf worker with
  | none =>
      simp only [CoordinatorServer.frame, hpeer]
      exact h
  | some peer =>
      obtain ⟨peer', stats, heq, hid, -, -, hstats⟩ := frame_spec walk hpeer session arrival
      have hset : ((some peer).toList ++ (s.frame walk worker session arrival).2.peers).Perm
          ((some peer').toList ++ s.peers) :=
        set_peers (slot_of_peerOf hpeer) (some peer') (by rw [heq]) (by rw [heq])
      have hids : (s.frame walk worker session arrival).2.ids.Perm s.ids := by
        have hkeys := hset.map (·.id)
        simp only [Option.toList_some, List.singleton_append, List.map_cons, hid] at hkeys
        exact hkeys.cons_inv
      rw [heq] at hids ⊢
      exact h.same rfl hids rfl hstats.active hstats.peak rfl id

/-- The count of the sessions follows the one that ends, if it is still registered. -/
theorem leave_active (h : Registered accepted s) {worker : Nat} {peer : Peer}
    (hpeer : s.peerOf worker = some peer) :
    (s.leave worker).2.stats.activeSessions.toNat = (s.sessions.erase peer.id).card ∧
      (s.leave worker).2.stats.activeSessions ≤ s.stats.activeSessions ∧
      (s.leave worker).2.stats.peakSessions = s.stats.peakSessions := by
  by_cases hmem : peer.id ∈ s.sessions
  · have hpos : 0 < s.sessions.card := Finset.card_pos.mpr ⟨_, hmem⟩
    have hpositive : s.stats.activeSessions > 0 := by
      rw [gt_iff_lt, UInt32.lt_iff_toNat_lt, h.active]
      exact hpos
    have hone : (1 : UInt32) ≤ s.stats.activeSessions := by
      rw [UInt32.le_iff_toNat_le, h.active]
      exact hpos
    have hless : (s.stats.activeSessions - 1).toNat = s.sessions.card - 1 := by
      rw [UInt32.toNat_sub_of_le _ _ hone, h.active]
      rfl
    have hstats : (s.leave worker).2.stats =
        { s.stats with activeSessions := s.stats.activeSessions - 1 } := by
      simp only [CoordinatorServer.leave, hpeer, hmem, hpositive, and_self, if_true]
    rw [hstats, Finset.card_erase_of_mem hmem]
    refine ⟨hless, UInt32.le_iff_toNat_le.mpr ?_, rfl⟩
    rw [hless, h.active]
    exact Nat.sub_le _ _
  · have hstats : (s.leave worker).2.stats = s.stats := by
      simp only [CoordinatorServer.leave, hpeer, hmem, false_and, if_false]
    rw [hstats, Finset.erase_eq_of_notMem hmem]
    exact ⟨h.active, UInt32.le_refl _, rfl⟩

/-- A session ends: it leaves the registry, unless `stop` has cleared it. -/
theorem leave (h : Registered accepted s) (worker : Nat) :
    Registered accepted (s.leave worker).2 := by
  cases hpeer : s.peerOf worker with
  | none =>
      simp only [CoordinatorServer.leave, hpeer]
      exact h
  | some peer =>
      have hids : s.ids.Perm (peer.id :: (s.leave worker).2.ids) := (leave_peers hpeer).map _
      obtain ⟨hgone, hnodup⟩ := List.nodup_cons.mp (hids.nodup_iff.mp h.nodup)
      have hsessions : (s.leave worker).2.sessions = s.sessions.erase peer.id := by
        simp [CoordinatorServer.leave, hpeer]
      have hactive := h.leave_active hpeer
      have hframe : (s.leave worker).2.nextSessionKey = s.nextSessionKey ∧
          (s.leave worker).2.lifecycle = s.lifecycle ∧
          (s.leave worker).2.maxSessions = s.maxSessions := by
        simp [CoordinatorServer.leave, hpeer]
      obtain ⟨hkey, hlifecycle, hmax⟩ := hframe
      constructor
      · rw [hkey, h.key]
      · exact fun id hid => h.below id (hids.mem_iff.mpr (List.mem_cons_of_mem _ hid))
      · exact hnodup
      · intro id hid
        rw [hsessions, Finset.mem_erase] at hid
        exact (List.mem_cons.mp (hids.mem_iff.mp (h.present id hid.2))).resolve_left hid.1
      · intro hstage id hid
        rw [hsessions, Finset.mem_erase]
        exact ⟨fun hsame => hgone (hsame ▸ hid), h.registered (hlifecycle ▸ hstage) id
          (hids.mem_iff.mpr (List.mem_cons_of_mem _ hid))⟩
      · rw [hactive.1, hsessions]
      · rw [hactive.2.2]
        exact UInt32.le_trans hactive.2.1 h.peak
      · rw [hactive.2.2, hmax]
        exact h.bounded
      · rw [hmax]
        exact h.small

end Registered

/-- A connection finds the accept thread, and is below the session bound. -/
def accepts (s : CoordinatorServer) : ServerInput → Bool
  | .accept => s.listens && decide (s.sessions.card < s.maxSessions.toNat)
  | _ => false

/-- Whatever happens, the registry, the sessions and the statistics agree. -/
theorem Registered.step (h : Registered accepted s) (hstage : s.Staged) (i : ServerInput)
    (hfew : accepted + (s.accepts i).toNat < 2 ^ 64) :
    Registered (accepted + (s.accepts i).toNat) (step walk s i).2 := by
  cases i with
  | start listener => exact h.start hstage listener
  | spawn created => exact h.spawn created
  | stop => exact h.stop
  | join => exact h.join hstage
  | accept =>
      simp only [CoordinatorServer.step, CoordinatorServer.accept]
      split
      · next hstopped => simpa [accepts, hstopped] using h
      · next hlistens =>
          have hlistens : s.listens = true := not_not.mp hlistens
          split
          · next hfull =>
              rw [show s.accepts .accept = false by simp [accepts, not_lt.mpr hfull]]
              exact h.same rfl (.refl _) rfl rfl rfl rfl id
          · next hbelow =>
              have hrunning : s.running = true := (Bool.and_eq_true_iff.mp hlistens).1
              rw [show s.accepts .accept = true by simp [accepts, hlistens, not_le.mp hbelow]]
                at hfew ⊢
              refine h.enqueue (fun hjoining => ?_) (not_le.mp hbelow) hfew
              exact absurd (hrunning.symm.trans (hstage.joining _ hjoining)) (by simp)
  | take worker => exact h.take worker
  | frame worker session arrival => exact h.frame worker session arrival
  | leave worker => exact h.leave worker

end Step

/-! ## Whole runs -/

/-- How many sessions were accepted. -/
def acceptances (events : List ServerEvent) : Nat :=
  (events.map fun e => (e.before.accepts e.input).toNat).sum

/-- In every run the threads show how far `start` and `stop` are. -/
theorem staged_of_run {options : ServerOptions} {c : Coordinator} {events : List ServerEvent}
    {s : CoordinatorServer} (run : Run (step walk) (make options c) events s) : s.Staged := by
  induction run with
  | nil => exact staged_make options c
  | snoc run i ih => exact ih.step i

/-- In every run with fewer than 2^64 sessions the registry agrees with them. -/
theorem registered_of_run {options : ServerOptions} {c : Coordinator} {events : List ServerEvent}
    {s : CoordinatorServer} (run : Run (step walk) (make options c) events s)
    (hfew : acceptances events < 2 ^ 64) : Registered (acceptances events) s := by
  induction run with
  | nil => exact registered_make options c
  | @snoc events s run i ih =>
      have hsum : acceptances (events ++ [happen (CoordinatorServer.step walk) s i]) =
          acceptances events + (s.accepts i).toNat := by
        simp [acceptances, happen]
      rw [hsum] at hfew ⊢
      exact (ih (by omega)).step (staged_of_run run) i hfew

/-- A server that runs has no more sessions than workers, those included that `start` is still
to create. -/
theorem Registered.length_le {accepted : Nat} {s : CoordinatorServer} (h : Registered accepted s)
    (hstage : s.Staged) (hrunning : s.running = true) : s.ids.length ≤ s.workers.toNat := by
  have hopen : s.lifecycle ≠ .joining none := fun hjoining =>
    absurd (hrunning.symm.trans (hstage.joining _ hjoining)) (by simp)
  have hbound : s.sessions.card ≤ s.maxSessions.toNat := by
    rw [← h.active, ← UInt32.le_iff_toNat_le]
    exact UInt32.le_trans h.peak h.bounded
  rw [← h.card hopen]
  exact hbound.trans (UInt32.le_iff_toNat_le.mp (hstage.sized hrunning))

/-- Once `start` has returned, fewer than all workers are busy while a session waits. -/
theorem Registered.exists_idle {accepted : Nat} {s : CoordinatorServer}
    (h : Registered accepted s) (hstage : s.Staged) (hrunning : s.running = true)
    (hfree : s.lifecycle = .free) {peer : Peer} {pending : List Peer}
    (hpending : s.pending = peer :: pending) : ∃ worker : Nat, s.threads[worker]? = some none := by
  have hcount : s.ids.length = s.pending.length + s.threads.reduceOption.length := by
    simp [ids, peers]
  have hbound := h.length_le hstage hrunning
  have hpool := hstage.full hrunning hfree
  have hwaits : 0 < s.pending.length := by simp [hpending]
  exact exists_free_slot (by omega)

/-- In every state a server reaches, the registry holds sessions that wait or are served, each
under a key of its own, and unless `stop` is joining the threads it holds all of them; their
number is the one the statistics give, and is within the session bound.  A running server has
no more sessions than workers, those included that `start` is still to create; and once
`start` has returned the session that has waited longest finds a worker that is idle, which
takes it up.  (The counter of the keys has not gone round.) -/
theorem admitted_session_finds_worker {options : ServerOptions} {c : Coordinator}
    {events : List ServerEvent} {s : CoordinatorServer}
    (run : Run (step walk) (make options c) events s) (hfew : acceptances events < 2 ^ 64) :
    (s.peers.map (·.id)).Nodup ∧
      (∀ id ∈ s.sessions, ∃ peer ∈ s.peers, peer.id = id) ∧
      (s.lifecycle ≠ .joining none → (∀ peer ∈ s.peers, peer.id ∈ s.sessions) ∧
        s.stats.activeSessions.toNat = s.peers.length) ∧
      s.stats.activeSessions.toNat = s.sessions.card ∧
      s.stats.activeSessions ≤ s.stats.peakSessions ∧ s.stats.peakSessions ≤ s.maxSessions ∧
      (s.running = true → s.peers.length ≤ s.workers.toNat ∧
        (s.lifecycle = .starting ∧ s.threads.length < s.workers.toNat ∨
          s.lifecycle = .free ∧ s.threads.length = s.workers.toNat)) ∧
      (s.running = true → s.lifecycle = .free → ∀ peer pending, s.pending = peer :: pending →
        ∃ worker : Nat, s.peerOf worker = none ∧
          (step walk s (.take worker)).1 = .done ∧
          (step walk s (.take worker)).2.peerOf worker = some peer ∧
          (step walk s (.take worker)).2.pending = pending) := by
  have h := registered_of_run run hfew
  have hstage := staged_of_run run
  refine ⟨h.nodup, fun id hid => ?_, fun hnow => ⟨fun peer hpeer => ?_, ?_⟩, h.active, h.peak,
    h.bounded, fun hrunning => ⟨?_, ?_⟩, fun hrunning hfree peer pending hpending => ?_⟩
  · exact List.mem_map.mp (h.present id hid)
  · exact h.registered hnow _ (List.mem_map_of_mem hpeer)
  · rw [h.active, h.card hnow, ids, List.length_map]
  · have hbound := h.length_le hstage hrunning
    rwa [ids, List.length_map] at hbound
  · cases hlifecycle : s.lifecycle with
    | free => exact .inr ⟨rfl, hstage.full hrunning hlifecycle⟩
    | starting => exact .inl ⟨rfl, (hstage.starting hlifecycle).2⟩
    | joining failed =>
        exact absurd (hrunning.symm.trans (hstage.joining failed hlifecycle)) (by simp)
  · obtain ⟨worker, hidle⟩ := h.exists_idle hstage hrunning hfree hpending
    have hlt : worker < s.threads.length := (List.getElem?_eq_some_iff.mp hidle).1
    have htake : s.take worker =
        (.done, { s with pending, threads := s.threads.set worker (some peer) }) := by
      simp only [take, hrunning, not_true_eq_false, if_false, hidle, hpending]
    refine ⟨worker, ?_, ?_, ?_, ?_⟩
    · simp only [peerOf, hidle, Option.join_some]
    all_goals simp [step, htake, peerOf, hlt]

/-- A server with one worker, which a session finds when `start` has returned. -/
def smallStart : List ServerInput :=
  [.start (.ok ()), .spawn (.ok ()), .accept, .spawn (.ok ())]

/-- The session that was accepted before there was a worker finds the worker. -/
theorem admitted_session_finds_worker_small :
    let s := final (step fun _ => [])
      (make { maxSessions := 1, workerThreads := 1 } (Coordinator.make {} none)) smallStart
    s.pending.length = 1 ∧ s.stats.activeSessions.toNat = s.peers.length ∧
      ∀ peer pending, s.pending = peer :: pending →
        ∃ worker : Nat, (step (fun _ => []) s (.take worker)).2.peerOf worker = some peer := by
  have run := Run.of_inputs (step fun _ => [])
    (make { maxSessions := 1, workerThreads := 1 } (Coordinator.make {} none)) smallStart
  have h := admitted_session_finds_worker run (by decide +kernel)
  refine ⟨by decide +kernel, (h.2.2.1 (by decide +kernel)).2, fun peer pending hpending => ?_⟩
  obtain ⟨worker, -, -, htaken, -⟩ :=
    h.2.2.2.2.2.2.2 (by decide +kernel) (by decide +kernel) peer pending hpending
  exact ⟨worker, htaken⟩

/-! ## The statistics -/

/-- What there was to count since the server was last started: connections, and frames that
were read. -/
structure Tally where
  connections : UInt64 := 0
  frames : UInt64 := 0
  deriving DecidableEq

/-- The tally after a step. -/
def Tally.count (t : Tally) (e : ServerEvent) : Tally :=
  match e.input, e.output with
  | .start _, .done => {}
  | .accept, .accepted _ | .accept, .refused _ => { t with connections := t.connections + 1 }
  | .frame _ _ _, .served _ what _ =>
    if what = .unread then t else { t with frames := t.frames + 1 }
  | _, _ => t

/-- Each connection and each frame is counted once. -/
def Tally.Agrees (t : Tally) (stats : ServerStats) : Prop :=
  stats.acceptedSessions + stats.refusedSessions = t.connections ∧
    stats.servedRequests + stats.refusedRequests + stats.replayedAnswers = t.frames

/-- A frame that was read is counted once, as served, refused or replayed. -/
theorem note_counted (walk : CompletionLedger → List FailureRecord) (stats : ServerStats)
    (peer : Peer) (hub : Service.Hub) (session : SessionId) (frame : Frame) (what : Served) :
    let after := note walk stats peer hub session frame what
    after.servedRequests + after.refusedRequests + after.replayedAnswers =
      if what = .unread then stats.servedRequests + stats.refusedRequests + stats.replayedAnswers
      else stats.servedRequests + stats.refusedRequests + stats.replayedAnswers + 1 := by
  unfold note ServerStats.noteFrame ServerStats.noteDuplicate
  cases what with
  | applied => grind
  | duplicate => grind
  | refused => grind
  | unread => rfl

/-- `start` waits, answers with an error, or opens the server. -/
theorem start_cases (s : CoordinatorServer) (listener : Status) :
    s.start listener = (.idle, s) ∨ (∃ e, s.start listener = (.started (.error e), s)) ∨
      s.start listener = (.done, s.open_) := by
  unfold start
  split
  · exact .inl rfl
  · split
    · exact .inr (.inl ⟨_, rfl⟩)
    · exact .inr (.inr rfl)

/-- Whatever happens, it is counted once. -/
theorem Tally.Agrees.step {t : Tally} {s : CoordinatorServer} (h : t.Agrees s.stats)
    (i : ServerInput) :
    (t.count (happen (step walk) s i)).Agrees (step walk s i).2.stats := by
  obtain ⟨hconnections, hframes⟩ := h
  cases i with
  | start listener =>
      simp only [Tally.count, happen, CoordinatorServer.step]
      rcases s.start_cases listener with hidle | ⟨e, hrefused⟩ | hopen
      · rw [hidle]
        exact ⟨hconnections, hframes⟩
      · rw [hrefused]
        exact ⟨hconnections, hframes⟩
      · rw [hopen]
        exact ⟨rfl, rfl⟩
  | spawn created =>
      change t.Agrees (s.spawn created).2.stats
      rw [(s.spawn_registry created).2.2.1]
      exact ⟨hconnections, hframes⟩
  | stop =>
      change t.Agrees s.stop.2.stats
      unfold CoordinatorServer.stop
      split <;> exact ⟨hconnections, hframes⟩
  | join =>
      change t.Agrees s.join.2.stats
      rw [s.join_registry.2.2.1]
      exact ⟨hconnections, hframes⟩
  | accept =>
      simp only [Tally.count, happen, CoordinatorServer.step, CoordinatorServer.accept]
      grind [Tally.Agrees, CoordinatorServer.enqueue]
  | take worker =>
      simp only [Tally.count, happen, CoordinatorServer.step]
      rcases s.take_cases worker with hidle | ⟨peer, pending, -, -, htake⟩
      · rw [hidle]
        exact ⟨hconnections, hframes⟩
      · rw [htake]
        exact ⟨hconnections, hframes⟩
  | frame worker session arrival =>
      simp only [Tally.count, happen, CoordinatorServer.step, CoordinatorServer.frame]
      cases s.peerOf worker with
      | none => exact ⟨hconnections, hframes⟩
      | some peer =>
          simp only
          obtain ⟨what, reply⟩ := serveFrame walk peer s.hub session arrival
          have hcounted := note_counted walk s.stats peer s.hub session arrival.frame what
          have hsame := sameSessions_note walk s.stats peer s.hub session arrival.frame what
          refine ⟨?_, ?_⟩
          · rw [hsame.accepted, hsame.refused, hconnections]
            split <;> rfl
          · rw [hcounted, hframes]
            split <;> rfl
  | leave worker =>
      simp only [Tally.count, happen, CoordinatorServer.step, CoordinatorServer.leave]
      cases s.peerOf worker with
      | none => exact ⟨hconnections, hframes⟩
      | some peer =>
          simp only
          split <;> exact ⟨hconnections, hframes⟩

/-- What the statistics say is what happened since the server was last started: every
connection was accepted or refused, and every frame that was read was served, refused or
answered again from the cache. -/
theorem statistics_agree {options : ServerOptions} {c : Coordinator} {events : List ServerEvent}
    {s : CoordinatorServer} (run : Run (step walk) (make options c) events s) :
    (events.foldl Tally.count {}).Agrees s.stats := by
  induction run with
  | nil => exact ⟨rfl, rfl⟩
  | snoc run i ih =>
      rw [List.foldl_append]
      exact ih.step i

/-- One connection and two frames. -/
theorem statistics_agree_small :
    smallEvents.foldl Tally.count {} = ⟨1, 2⟩ ∧
      (smallEvents.foldl Tally.count {}).Agrees
        (final (step fun _ => []) (make {} (Coordinator.make {} none)) smallSession).stats := by
  have run := Run.of_inputs (step fun _ => []) (make {} (Coordinator.make {} none)) smallSession
  exact ⟨by decide +kernel, statistics_agree run⟩

end CoordinatorServer

end ShuffleFabric
