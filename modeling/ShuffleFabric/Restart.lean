import ShuffleFabric.Authority
import ShuffleFabric.Schedule.Wave

/-!
# ShuffleFabric.Restart

Authority across restarts.

A life of the coordinator ends when a fresh one recovers in its place.  The registry of
grants starts empty in every life, but so does the counter that names attempts: what
keeps an attempt of an earlier life out is only that its identifier is not handed out
again (`FreshIdentifiers`).
-/

namespace ShuffleFabric

open Lib Action

namespace Coordinator

/-! ## Lives -/

/-- The attempt identifiers handed out, in this life and in the lives before it. -/
structure Identifiers where
  current : List TransferAttemptId := []
  spent : List TransferAttemptId := []

def Identifiers.after (ids : Identifiers) (e : Event Coordinator Turn (Result Reply)) :
    Identifiers :=
  match e.input, e.output with
  | .call .nextWave, .ok (.wave plan) =>
    { ids with current := ids.current ++ plan.grants.map (·.attempt) }
  | .restart _ _ _, .ok _ => { current := [], spent := ids.spent ++ ids.current }
  | _, _ => ids

/-- The identifiers handed out in a run. -/
def identifiers (events : List (Event Coordinator Turn (Result Reply))) : Identifiers :=
  events.foldl Identifiers.after {}

theorem identifiers_snoc (events : List (Event Coordinator Turn (Result Reply)))
    (e : Event Coordinator Turn (Result Reply)) :
    identifiers (events ++ [e]) = (identifiers events).after e := by
  simp [identifiers]

/-- A wave that is asked for finds its counter above what earlier lives handed out: none
of the identifiers it can reach was used before. -/
def FreshIdentifiers (earlier : List (Event Coordinator Turn (Result Reply)))
    (e : Event Coordinator Turn (Result Reply)) : Prop :=
  e.input = .call .nextWave → ∀ a ∈ (identifiers earlier).spent,
    2 ^ 32 ≤ (a - e.before.scheduler.nextAttemptId).toNat

instance (earlier : List (Event Coordinator Turn (Result Reply)))
    (e : Event Coordinator Turn (Result Reply)) : Decidable (FreshIdentifiers earlier e) :=
  have : Decidable (∀ a ∈ (identifiers earlier).spent,
      2 ^ 32 ≤ (a - e.before.scheduler.nextAttemptId).toNat) := List.decidableBAll _ _
  inferInstanceAs (Decidable (_ → _))

/-! ## The registry of a life -/

/-- The counter survives a reconfiguration. -/
theorem ensureScheduler_nextAttemptId {c : Coordinator} {topology : Topology}
    {scheduler : WaveScheduler} (h : c.ensureScheduler topology = .ok scheduler) :
    scheduler.nextAttemptId = c.scheduler.nextAttemptId := by
  unfold ensureScheduler at h
  split at h
  · simp only [WaveScheduler.configure, bind_eq_ok, refuseIf_eq_ok, exists_const, pure_eq_ok] at h
    obtain ⟨u, -, -, rfl⟩ := h
    rfl
  · rw [Except.ok.inj h]

/-- The identifiers of a plan are the next ones of the counter. -/
theorem nextWave_attempts {c : Coordinator} {plan : WavePlan}
    (h : (c.perform .nextWave).1 = .ok (.wave plan)) {grant : DispatchGrant}
    (hgrant : grant ∈ plan.grants) :
    ∃ k < 2 ^ 32, grant.attempt = c.scheduler.nextAttemptId + UInt64.ofNat k := by
  obtain ⟨plan', hexec, hplan⟩ := exec_of_map_ok h
  obtain rfl : plan' = plan := by simpa using hplan
  cases hin : c.inside with
  | true =>
      rw [nextWave, exec_guarded_inside _ hin] at hexec
      cases hexec
  | false =>
      rcases nextWave_cases hin with ⟨-, hrun⟩ | ⟨e, hrun⟩ | ⟨topology, scheduler, e, -, -, -, hrun⟩ |
        ⟨topology, scheduler, issued, scheduler', -, hscheduler, hwave, hrun⟩
      · rw [hrun] at hexec
        obtain rfl : ({ allResolved := true } : WavePlan) = plan' := by
          simpa using congrArg Prod.fst hexec
        simp at hgrant
      · rw [hrun] at hexec
        cases hexec
      · rw [hrun] at hexec
        cases hexec
      · rw [hrun] at hexec
        obtain rfl : issued = plan' := by simpa using congrArg Prod.fst hexec
        obtain ⟨hlen, hattempt, -⟩ := WaveScheduler.nextWave_grants hwave
        obtain ⟨i, hi, hget⟩ := List.getElem_of_mem hgrant
        refine ⟨i, ?_, ?_⟩
        · have := scheduler.policy.waves.maxGrantsPerWave.toNat_lt
          omega
        · rw [hattempt i grant (by rw [List.getElem?_eq_getElem hi, hget]),
            ensureScheduler_nextAttemptId hscheduler]

/-- The registry of a coordinator that recovered is empty. -/
theorem recover_grants {limits : Limits} {sink : Option Sink} {snapshot : Bytes}
    {journal : List Bytes} {historyIncomplete : Bool} :
    ((recover snapshot journal historyIncomplete).exec (make limits sink)).2.grants = {} := by
  rcases moves_recover snapshot journal historyIncomplete (make limits sink) with h | h
  · exact grants_eq_empty rfl h.grants
  · exact h

theorem recover_inside {limits : Limits} {sink : Option Sink} {snapshot : Bytes}
    {journal : List Bytes} {historyIncomplete : Bool} :
    ((recover snapshot journal historyIncomplete).exec (make limits sink)).2.inside = false := by
  rw [recover, exec_guarded _ rfl]
  rfl

/-- What is known of the registry after a run. -/
structure Lived (events : List (Event Coordinator Turn (Result Reply))) (c : Coordinator) : Prop where
  inside : c.inside = false
  idle : c.Idle → c.grants = {}
  registry : ∀ (a : TransferAttemptId) (grant : DispatchGrant), c.grants[a]? = some grant →
    a ∈ (identifiers events).current
  disjoint : ∀ a ∈ (identifiers events).current, a ∉ (identifiers events).spent

/-- An operation within a life. -/
theorem Lived.call {events : List (Event Coordinator Turn (Result Reply))} {c : Coordinator}
    (h : Lived events c) {call : Call}
    (hfresh : FreshIdentifiers events (happen turn c (.call call))) :
    Lived (events ++ [happen turn c (.call call)]) (c.turn (.call call)).2 := by
  obtain ⟨hidle, htraced⟩ := traced h.idle (.call call)
  by_cases hwave : ∃ plan, call = .nextWave ∧ (c.perform call).1 = .ok (.wave plan)
  · obtain ⟨plan, rfl, hplan⟩ := hwave
    have hids : identifiers (events ++ [happen turn c (.call .nextWave)]) =
        { identifiers events with
          current := (identifiers events).current ++ plan.grants.map (·.attempt) } := by
      rw [identifiers_snoc]
      simp only [Identifiers.after, happen, turn, hplan]
    refine ⟨perform_inside h.inside _, hidle, fun a grant hget => ?_, fun a ha => ?_⟩
    · rw [hids]
      rcases htraced a grant hget with ⟨hold, -⟩ | ⟨plan', -, hplan', hmem, rfl⟩
      · exact List.mem_append_left _ (h.registry a grant hold)
      · obtain rfl : plan = plan' := by
          have heq : (.ok (.wave plan) : Result Reply) = .ok (.wave plan') := hplan.symm.trans hplan'
          simpa using heq
        exact List.mem_append_right _ (List.mem_map_of_mem hmem)
    · rw [hids] at ha ⊢
      rcases List.mem_append.mp ha with ha | ha
      · exact h.disjoint a ha
      · obtain ⟨grant, hmem, rfl⟩ := List.mem_map.mp ha
        obtain ⟨k, hk, hattempt⟩ := nextWave_attempts hplan hmem
        intro hspent
        have hfar := hfresh rfl _ hspent
        have hdiff : grant.attempt - c.scheduler.nextAttemptId = UInt64.ofNat k := by
          rw [hattempt, UInt64.add_comm, UInt64.add_sub_cancel]
        have hk' : (UInt64.ofNat k).toNat = k := by
          rw [UInt64.toNat_ofNat']
          exact Nat.mod_eq_of_lt (by omega)
        simp only [happen] at hfar
        rw [hdiff, hk'] at hfar
        omega
  · have hids : identifiers (events ++ [happen turn c (.call call)]) = identifiers events := by
      rw [identifiers_snoc]
      unfold Identifiers.after
      split
      · next plan hinput houtput =>
          exact absurd ⟨plan, by simpa [happen] using hinput, houtput⟩ hwave
      · next hinput houtput => simp [happen] at hinput
      · rfl
    refine ⟨perform_inside h.inside _, hidle, fun a grant hget => ?_, ?_⟩
    · rw [hids]
      rcases htraced a grant hget with ⟨hold, -⟩ | ⟨plan, hcall, hplan, -⟩
      · exact h.registry a grant hold
      · exact absurd ⟨plan, by simpa using hcall, hplan⟩ hwave
    · rw [hids]
      exact h.disjoint

/-- The turn of a life. -/
theorem Lived.restart {events : List (Event Coordinator Turn (Result Reply))} {c : Coordinator}
    (h : Lived events c) (snapshot : Bytes) (journal : List Bytes) (historyIncomplete : Bool) :
    Lived (events ++ [happen turn c (.restart snapshot journal historyIncomplete)])
      (c.turn (.restart snapshot journal historyIncomplete)).2 := by
  have hgrants : ((recover snapshot journal historyIncomplete).exec
      (make c.limits c.sink)).2.grants = {} := recover_grants
  have hinside : ((recover snapshot journal historyIncomplete).exec
      (make c.limits c.sink)).2.inside = false := recover_inside
  rcases hexec : (recover snapshot journal historyIncomplete).exec (make c.limits c.sink) with
    ⟨answer, recovered⟩
  rw [hexec] at hgrants hinside
  cases answer with
  | error e =>
      have hturn : c.turn (.restart snapshot journal historyIncomplete) =
          (.error e, { c with sink := recovered.sink }) := by
        simp only [turn, hexec]
      have hids : identifiers (events ++ [happen turn c
          (.restart snapshot journal historyIncomplete)]) = identifiers events := by
        rw [identifiers_snoc]
        simp only [Identifiers.after, happen, hturn]
      rw [hturn]
      exact ⟨h.inside, h.idle, hids ▸ h.registry, hids ▸ h.disjoint⟩
  | ok u =>
      have hturn : c.turn (.restart snapshot journal historyIncomplete) =
          (.ok .done, recovered) := by
        simp only [turn, hexec]
      have hids : identifiers (events ++ [happen turn c
          (.restart snapshot journal historyIncomplete)]) =
          { current := [], spent := (identifiers events).spent ++ (identifiers events).current } := by
        rw [identifiers_snoc]
        simp only [Identifiers.after, happen, hturn]
      rw [hturn]
      refine ⟨hinside, fun _ => hgrants, fun a grant hget => ?_, fun a ha => ?_⟩
      · have hgrants : recovered.grants = {} := hgrants
        simp [hgrants] at hget
      · rw [hids] at ha
        cases ha

theorem lived_of_run {limits : Limits} {sink : Option Sink}
    {events : List (Event Coordinator Turn (Result Reply))} {c : Coordinator}
    (run : Run turn (make limits sink) events c) (hfresh : Along FreshIdentifiers [] events) :
    Lived events c := by
  induction run with
  | nil => exact ⟨rfl, fun _ => rfl, fun a grant h => by simp [make] at h, by simp [identifiers]⟩
  | @snoc events c run t ih =>
      obtain ⟨hbefore, hlast⟩ := (along_snoc events _).mp hfresh
      cases t with
      | call call => exact (ih hbefore).call hlast
      | restart snapshot journal historyIncomplete =>
          exact (ih hbefore).restart snapshot journal historyIncomplete

/-! ## What a spent identifier is worth -/

theorem commitTransfer_refused {c : Coordinator} (hin : c.inside = false)
    {request : CommitRequest} (h : c.grants[request.attempt]? = none) :
    ∃ e, c.perform (.commitTransfer request) = (.error e, c) := by
  obtain ⟨e, he⟩ : ∃ e, (c.flagged true).checkCommit request = .error e := by
    cases hcheck : (c.flagged true).checkCommit request with
    | error e => exact ⟨e, rfl⟩
    | ok u =>
        obtain ⟨grant, -, -, hgrant, -⟩ := checkCommit_ok hcheck
        have hgrant : c.grants[request.attempt]? = some grant := hgrant
        rw [h] at hgrant
        cases hgrant
  refine ⟨e, ?_⟩
  show (Reply.committed <$> commitTransfer request).exec c = _
  rw [exec_map, commitTransfer, exec_guarded _ hin, exec_bind_of_ok (exec_get _), he,
    ← flagged_true_false hin]
  rfl

theorem reportFailure_refused {c : Coordinator} (hin : c.inside = false)
    {attempt : TransferAttemptId} (code : ErrorCode) (h : c.grants[attempt]? = none) :
    ∃ e, c.perform (.reportFailure attempt code) = (.error e, c) := by
  have h : (c.flagged true).grants[attempt]? = none := h
  obtain ⟨e, he⟩ : ∃ e, (c.flagged true).checkFailure attempt code = .error e := by
    cases hcheck : (c.flagged true).checkFailure attempt code with
    | error e => exact ⟨e, rfl⟩
    | ok u => simp [checkFailure, bind_eq_ok, h, makeFailure] at hcheck
  refine ⟨e, ?_⟩
  show (Reply.failed <$> reportFailure attempt code).exec c = _
  rw [exec_map, reportFailure, exec_guarded _ hin, exec_bind_of_ok (exec_get _), he,
    ← flagged_true_false hin]
  rfl

/-- As long as no wave reuses an identifier, an attempt of an earlier life can neither be
committed nor failed, and no identifier belongs to two lives. -/
theorem attempts_end_with_their_life {limits : Limits} {sink : Option Sink}
    {events : List (Event Coordinator Turn (Result Reply))} {c : Coordinator}
    (run : Run turn (make limits sink) events c) (hfresh : Along FreshIdentifiers [] events) :
    (∀ a ∈ (identifiers events).spent,
      (∀ request : CommitRequest, request.attempt = a →
        ∃ e, c.turn (.call (.commitTransfer request)) = (.error e, c)) ∧
      ∀ code, ∃ e, c.turn (.call (.reportFailure a code)) = (.error e, c)) ∧
    ∀ a ∈ (identifiers events).current, a ∉ (identifiers events).spent := by
  have h := lived_of_run run hfresh
  refine ⟨fun a ha => ?_, h.disjoint⟩
  have hnone : c.grants[a]? = none := by
    cases hget : c.grants[a]? with
    | none => rfl
    | some grant => exact absurd ha (h.disjoint a (h.registry a grant hget))
  refine ⟨?_, fun code => reportFailure_refused h.inside code hnone⟩
  rintro request rfl
  exact commitTransfer_refused h.inside hnone

/-- The small shuffle up to its first grant, and a restart from what it wrote. -/
def smallRestart : List Turn :=
  smallCalls.map .call ++
    [.restart [] (final perform (make {} (some acceptAll)) smallCalls).journal false]

/-- The grant of the small shuffle does not outlive the restart. -/
theorem attempts_end_with_their_life_small :
    1 ∈ (identifiers (record turn (make {} (some acceptAll)) smallRestart)).spent ∧
      ∃ e, (final turn (make {} (some acceptAll)) smallRestart).turn
          (.call (.reportFailure 1 .ambiguousOutcome)) =
        (.error e, final turn (make {} (some acceptAll)) smallRestart) := by
  have heval : 1 ∈ (identifiers (record turn (make {} (some acceptAll)) smallRestart)).spent ∧
      Along FreshIdentifiers [] (record turn (make {} (some acceptAll)) smallRestart) := by
    decide +kernel
  have h := attempts_end_with_their_life
    (Run.of_inputs turn (make {} (some acceptAll)) smallRestart) heval.2
  exact ⟨heval.1, (h.1 1 heval.1).2 .ambiguousOutcome⟩

/-- What the participants do after the restart: both return with a new incarnation, the
partition is produced again, and the next wave is asked for. -/
def smallReturn : List Turn :=
  [.call (.registerProducer 1 2 []), .call (.registerConsumer 2 2 [] {}),
    .call (.publishManifest { smallManifest 0 2 0 with producerIncarnation := 2 }),
    .call .nextWave]

/-- The first wave after a restart hands out the first identifier again, so a report that
was delayed from before the restart fails the new attempt. -/
theorem attempt_reused_after_restart :
    ¬∀ (limits : Limits) (sink : Option Sink)
      (events : List (Event Coordinator Turn (Result Reply))) (c : Coordinator),
      Run turn (make limits sink) events c →
      (∀ a ∈ (identifiers events).spent,
        (∀ request : CommitRequest, request.attempt = a →
          ∃ e, c.turn (.call (.commitTransfer request)) = (.error e, c)) ∧
        ∀ code, ∃ e, c.turn (.call (.reportFailure a code)) = (.error e, c)) ∧
      ∀ a ∈ (identifiers events).current, a ∉ (identifiers events).spent := by
  intro h
  have hrun := h {} (some acceptAll) _ _ (Run.of_inputs turn _ (smallRestart ++ smallReturn))
  have hreused : 1 ∈ (identifiers (record turn (make {} (some acceptAll))
        (smallRestart ++ smallReturn))).spent ∧
      1 ∈ (identifiers (record turn (make {} (some acceptAll))
        (smallRestart ++ smallReturn))).current := by
    decide +kernel
  exact hrun.2 1 hreused.2 hreused.1

end Coordinator

end ShuffleFabric
