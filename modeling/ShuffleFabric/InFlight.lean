import ShuffleFabric.Regular
import ShuffleFabric.Schedule.Flight

/-!
# ShuffleFabric.InFlight

The attempts in flight, over whole runs.

The registry of grants and the tables of the scheduler are changed together: by a wave,
by the end of one attempt, and by a cancellation, which ends them all.
-/

namespace ShuffleFabric

open Lib Action

namespace Coordinator

/-- The registry of grants and the tables of the scheduler agree, and the counters keep
to the policy the shuffle was opened with. -/
structure Tracked (c : Coordinator) : Prop where
  registry : ∀ a : TransferAttemptId, (c.grants[a]?).map DispatchGrant.parties =
    (c.scheduler.attempts[a]?).map AttemptRecord.parties
  accounted : c.scheduler.Accounted
  within : c.scheduler.Within c.request.policy.concurrency
  policy : c.scheduler.configured = true → c.scheduler.policy = c.request.policy
  closed : c.state = .closed → c.scheduler.configured = false ∧ c.scheduler.Grounded

theorem Tracked.congr {c c' : Coordinator} (h : c.Tracked) (hscheduler : c'.scheduler = c.scheduler)
    (hgrants : c'.grants = c.grants) (hrequest : c'.request = c.request)
    (hstate : c'.state = c.state) : c'.Tracked :=
  ⟨by rw [hgrants, hscheduler]; exact h.registry, hscheduler ▸ h.accounted,
    by rw [hscheduler, hrequest]; exact h.within, by rw [hscheduler, hrequest]; exact h.policy,
    by rw [hstate, hscheduler]; exact h.closed⟩

/-- A coordinator that has granted nothing yet. -/
theorem Tracked.of_grounded {c : Coordinator} (hscheduler : c.scheduler.Grounded)
    (hgrants : c.grants = {})
    (hpolicy : c.scheduler.configured = true → c.scheduler.policy = c.request.policy)
    (hclosed : c.state = .closed → c.scheduler.configured = false) : c.Tracked := by
  refine ⟨fun a => ?_, hscheduler.accounted, hscheduler.within _, hpolicy,
    fun hstate => ⟨hclosed hstate, hscheduler⟩⟩
  rw [hgrants, hscheduler.attempts]
  simp

/-- A lifecycle record other than an opening one. -/
theorem Tracked.entered {c : Coordinator} (h : c.Tracked) {record : ShuffleStateRecord}
    (hopen : record.state ≠ .open) (hclosed : record.state ≠ .closed) :
    (c.entered record).Tracked := by
  rw [entered_eq]
  simp only [if_neg hopen]
  by_cases hcancelled : record.state = .cancelled ∨ record.state = .cancelling
  · simp only [if_pos hcancelled]
    exact .of_grounded (WaveScheduler.grounded_abandonAll _) rfl h.policy
      fun hstate => absurd hstate hclosed
  · simp only [if_neg hcancelled]
    exact ⟨h.registry, h.accounted, h.within, h.policy, fun hstate => absurd hstate hclosed⟩

/-- The end of one attempt. -/
theorem Tracked.resolveAttempt {c : Coordinator} (h : c.Tracked) (hopen : c.state = .open)
    (attempt : TransferAttemptId) : (c.resolveAttempt attempt).Tracked := by
  have hclosed : (c.resolveAttempt attempt).state ≠ .closed := by
    show c.state ≠ .closed
    rw [hopen]
    simp
  cases hget : c.scheduler.attempts[attempt]? with
  | none =>
      have hresolve : (c.scheduler.resolve attempt).toOption.getD c.scheduler = c.scheduler := by
        simp [WaveScheduler.resolve, hget, makeFailure, Except.toOption]
      have hnone : c.grants[attempt]? = none := by simpa [hget] using h.registry attempt
      exact h.congr hresolve (erase_of_none hnone) rfl rfl
  | some record =>
      obtain ⟨s, hs⟩ : ∃ s, c.scheduler.resolve attempt = .ok s :=
        ⟨_, WaveScheduler.resolve_of_some hget⟩
      have hframe : s.attempts = c.scheduler.attempts.erase attempt ∧
          s.configured = c.scheduler.configured ∧ s.policy = c.scheduler.policy := by
        have heq := hs
        rw [WaveScheduler.resolve_of_some hget] at heq
        obtain rfl := Except.ok.inj heq
        exact ⟨rfl, rfl, rfl⟩
      obtain ⟨hattempts, hconfigured, hpolicy⟩ := hframe
      have hresolved : c.resolveAttempt attempt =
          { c with grants := c.grants.erase attempt, scheduler := s } := by
        rw [Coordinator.resolveAttempt, hs]
        rfl
      rw [hresolved] at hclosed ⊢
      refine ⟨fun a => ?_, h.accounted.resolve hs, h.within.resolve hs, ?_,
        fun hstate => absurd hstate hclosed⟩
      · simp only [hattempts, Std.ExtTreeMap.getElem?_erase]
        split
        · rfl
        · exact h.registry a
      · simp only [hconfigured, hpolicy]
        exact h.policy

theorem Noted.tracked {c c' : Coordinator} (h : Noted c c') (hc : c.Tracked) : c'.Tracked := by
  cases h with
  | incomplete => exact hc
  | unstored => exact hc.congr rfl rfl rfl rfl
  | completed =>
      have hpersisted : (c.persisted (DurableRecord.shuffleState c.completion).encode).Tracked :=
        hc.congr rfl rfl rfl rfl
      exact hpersisted.entered (by simp [completion, stateRecord]) (by simp [completion, stateRecord])

/-! ## Waves -/

/-- The registry after a plan was admitted; an identifier that is taken keeps its grant. -/
theorem grants_foldl_admitGrant (plan : List DispatchGrant) (c : Coordinator)
    (a : TransferAttemptId) : (plan.foldl admitGrant c).grants[a]? =
      (c.grants[a]?).or (plan.find? (·.attempt == a)) := by
  induction plan generalizing c with
  | nil => simp
  | cons grant plan ih =>
      rw [List.foldl_cons, ih, List.find?_cons]
      simp only [admitGrant, Std.ExtTreeMap.getElem?_insertIfNew, Std.compare_eq_iff_eq]
      by_cases hsame : grant.attempt = a
      · subst hsame
        cases hget : c.grants[grant.attempt]? with
        | none =>
            have hnew : grant.attempt ∉ c.grants := by
              rw [← Std.ExtTreeMap.isSome_getElem?_iff_mem, hget]
              exact Bool.false_ne_true
            simp [hnew]
        | some g =>
            have hold : grant.attempt ∈ c.grants := by
              rw [← Std.ExtTreeMap.isSome_getElem?_iff_mem, hget]
              rfl
            simp [hold]
      · have hne : (grant.attempt == a) = false := by simpa using hsame
        simp [hsame, hne]

/-- A scheduler that is brought in step with the topology names no attempt and ends none. -/
theorem ensureScheduler_kept {c : Coordinator} {t : Topology} {scheduler : WaveScheduler}
    (h : c.ensureScheduler t = .ok scheduler) :
    scheduler.nextAttemptId = c.scheduler.nextAttemptId ∧
      scheduler.attempts = c.scheduler.attempts ∧
      scheduler.edgeAttempts = c.scheduler.edgeAttempts ∧
      scheduler.globalInFlight = c.scheduler.globalInFlight ∧
      scheduler.producerInFlight = c.scheduler.producerInFlight ∧
      scheduler.consumerInFlight = c.scheduler.consumerInFlight ∧
      scheduler.producerPaused = c.scheduler.producerPaused ∧
      scheduler.consumerPaused = c.scheduler.consumerPaused := by
  unfold ensureScheduler at h
  split at h
  · simp only [WaveScheduler.configure, bind_eq_ok, refuseIf_eq_ok, exists_const, pure_eq_ok] at h
    obtain ⟨u, -, -, rfl⟩ := h
    exact ⟨rfl, rfl, rfl, rfl, rfl, rfl, rfl, rfl⟩
  · rw [Except.ok.inj h]
    exact ⟨rfl, rfl, rfl, rfl, rfl, rfl, rfl, rfl⟩

/-- The scheduler a wave is asked of works for the policy of the shuffle. -/
theorem ensureScheduler_ok {c : Coordinator} {t : Topology} {scheduler : WaveScheduler}
    (hpolicy : c.scheduler.configured = true → c.scheduler.policy = c.request.policy)
    (h : c.ensureScheduler t = .ok scheduler) :
    scheduler.configured = true ∧ scheduler.policy = c.request.policy ∧
      scheduler.attempts = c.scheduler.attempts ∧
      scheduler.edgeAttempts = c.scheduler.edgeAttempts ∧
      scheduler.globalInFlight = c.scheduler.globalInFlight ∧
      scheduler.producerInFlight = c.scheduler.producerInFlight ∧
      scheduler.consumerInFlight = c.scheduler.consumerInFlight ∧
      scheduler.producerPaused = c.scheduler.producerPaused ∧
      scheduler.consumerPaused = c.scheduler.consumerPaused := by
  have hkept := (ensureScheduler_kept h).2
  have hsetup : scheduler.configured = true ∧ scheduler.policy = c.request.policy := by
    unfold ensureScheduler at h
    split at h
    · simp only [WaveScheduler.configure, bind_eq_ok, refuseIf_eq_ok, exists_const, pure_eq_ok] at h
      obtain ⟨u, -, -, rfl⟩ := h
      exact ⟨rfl, rfl⟩
    · next hsetup =>
        obtain rfl := Except.ok.inj h
        have hconfigured : c.scheduler.configured = true := by
          have := not_or.mp hsetup
          simpa using this.1
        exact ⟨hconfigured, hpolicy hconfigured⟩
  exact ⟨hsetup.1, hsetup.2, hkept⟩

/-- Changing the configuration alone. -/
theorem Tracked.configured {c : Coordinator} (h : c.Tracked) {t : Topology}
    {scheduler : WaveScheduler} (hopen : c.state = .open)
    (hscheduler : c.ensureScheduler t = .ok scheduler) :
    ({ c with scheduler } : Coordinator).Tracked := by
  obtain ⟨-, hpolicy, hattempts, hedges, hglobal, hproducers, hconsumers, -, -⟩ :=
    ensureScheduler_ok h.policy hscheduler
  refine ⟨?_, ⟨?_, ?_, ?_, ?_⟩, ⟨?_, ?_, ?_⟩, fun _ => hpolicy, fun hstate => ?_⟩
  · simp only [hattempts]
    exact h.registry
  · simp only [hglobal, hattempts]
    exact h.accounted.global
  · simp only [hproducers, hattempts]
    exact h.accounted.producers
  · simp only [hconsumers, hattempts]
    exact h.accounted.consumers
  · simp only [hedges, hattempts]
    exact h.accounted.edges
  · simp only [hglobal]
    exact h.within.global
  · simp only [hproducers]
    exact h.within.producers
  · simp only [hconsumers]
    exact h.within.consumers
  · have hstate : c.state = .closed := hstate
    rw [hopen] at hstate
    cases hstate

/-- A wave that finds its identifiers free. -/
theorem Tracked.planned {c : Coordinator} (h : c.Tracked) {t : Topology}
    {scheduler scheduler' : WaveScheduler} {plan : WavePlan} (hopen : c.state = .open)
    (hconfigured : c.ensureScheduler t = .ok scheduler)
    (hwave : scheduler.nextWave (c.environment t) = .ok (plan, scheduler'))
    (hfresh : ∀ grant ∈ plan.grants, c.scheduler.attempts[grant.attempt]? = none) :
    (plan.grants.foldl admitGrant { c with scheduler := scheduler' }).Tracked := by
  obtain ⟨hset, hpolicy, hattempts, -⟩ := ensureScheduler_ok h.policy hconfigured
  have htracked := h.configured hopen hconfigured
  have hwithin : scheduler.Within scheduler.policy.concurrency := by
    rw [hpolicy]
    exact htracked.within
  obtain ⟨haccounted, hwithin'⟩ := WaveScheduler.nextWave_accounted hwave htracked.accounted hwithin
    (by rw [hattempts]; exact hfresh)
  obtain ⟨hset', hpolicy', -⟩ := WaveScheduler.nextWave_setup hwave
  have hlisted := WaveScheduler.nextWave_attempts_listed hwave
  have hgrants := grants_foldl_admitGrant plan.grants { c with scheduler := scheduler' }
  obtain ⟨grants, bytes, heq, -⟩ :=
    exists_foldl_admitGrant plan.grants { c with scheduler := scheduler' }
  rw [heq] at hgrants ⊢
  refine ⟨fun a => ?_, haccounted, hpolicy ▸ hwithin', fun _ => hpolicy'.trans hpolicy,
    fun hstate => ?_⟩
  · show (grants[a]?).map _ = (scheduler'.attempts[a]?).map _
    have hga : grants[a]? = (c.grants[a]?).or (plan.grants.find? (·.attempt == a)) := hgrants a
    rw [hlisted, hga, hattempts, Option.map_or, h.registry a]
  · have hstate : c.state = .closed := hstate
    rw [hopen] at hstate
    cases hstate

/-! ## Runs -/

/-- A wave hands out no identifier that is in flight. -/
def Untaken (c : Coordinator) (answer : Result Reply) : Prop :=
  ∀ plan, answer = .ok (.wave plan) → ∀ grant ∈ plan.grants,
    c.scheduler.attempts[grant.attempt]? = none

theorem Transition.tracked {c c' : Coordinator} {call : Call} {answer : Result Reply}
    (h : Transition c call answer c') (hc : c.Tracked) (hfresh : c.Untaken answer) :
    c'.Tracked := by
  cases h with
  | refused => exact hc
  | unstored => exact hc.congr rfl rfl rfl rfl
  | halfOpened request =>
      have hopening : c.opening.Tracked := by
        rw [opening, epochAdvanced_eq]
        exact hc.congr rfl rfl rfl rfl
      exact hopening.congr rfl rfl rfl rfl
  | opened request hcheck =>
      have hclosed : c.state = .closed := by
        simp only [checkOpen, bind_eq_ok, refuseIf_eq_ok, not_not, exists_const] at hcheck
        exact hcheck.1
      obtain ⟨hconfigured, hgrounded⟩ := hc.closed hclosed
      have hgrants : c.grants = {} := by
        apply Std.ExtTreeMap.ext_getElem?
        intro a
        have ha := hc.registry a
        rw [hgrounded.attempts] at ha
        simpa using ha
      rw [entered_eq, opening, epochAdvanced_eq]
      simp only [stateRecord, reduceCtorEq, or_self, if_false]
      refine .of_grounded hgrounded hgrants (fun hset => ?_) fun _ => hconfigured
      have hset : c.scheduler.configured = true := hset
      rw [hconfigured] at hset
      cases hset
  | cancelledBefore => exact hc
  | cancelled reason =>
      have hpersisted : (c.persisted (DurableRecord.shuffleState
          (stateRecord c.request .cancelled reason c.clock)).encode).Tracked :=
        hc.congr rfl rfl rfl rfl
      exact hpersisted.entered (by simp [stateRecord]) (by simp [stateRecord])
  | ticked => exact hc.congr rfl rfl rfl rfl
  | registered _ record t t' =>
      obtain ⟨producers, consumers, pending, heq⟩ := (c.persisted
        (DurableRecord.participant record).encode).joinedBy_eq t t' record
      rw [heq]
      exact hc.congr rfl rfl rfl rfl
  | stateSet kind id incarnation state t t' =>
      obtain ⟨producers, consumers, pending, heq⟩ := (c.persisted (DurableRecord.participant
        (c.stateChange t kind id incarnation state)).encode).joinedBy_eq t t'
        (c.stateChange t kind id incarnation state)
      rw [heq]
      exact hc.congr rfl rfl rfl rfl
  | published => exact hc.congr rfl rfl rfl rfl
  | unretired => exact hc.congr rfl rfl rfl rfl
  | nothingLeft => exact hc
  | unplanned t scheduler e hopen hconfigured =>
      exact hc.configured (ensureOpen_ok hopen).1 hconfigured
  | planned t scheduler scheduler' plan hopen hconfigured hwave =>
      exact hc.planned (ensureOpen_ok hopen).1 hconfigured hwave (hfresh plan rfl)
  | committed request receipt ledger _ hcheck hsink hcommit hnoted =>
      obtain ⟨grant, t, manifest, -, hopen, -⟩ := checkCommit_ok hcheck
      have hcredited : ((c.persisted (DurableRecord.commit ⟨request, c.clock⟩).encode).credited
          ledger).Tracked := hc.congr rfl rfl rfl rfl
      exact hnoted.tracked (hcredited.resolveAttempt (ensureOpen_ok hopen).1 _)
  | failed attempt code record ledger _ hcheck hsink hfailure hnoted =>
      have hopen : c.state = .open := by
        obtain ⟨grant, t, hgrant, hopen, -⟩ := checkFailure_ok hcheck
        exact (ensureOpen_ok hopen).1
      have hcharged : ((c.persisted (DurableRecord.failure record).encode).charged ledger
          record.readyAt).Tracked ∧ ((c.persisted (DurableRecord.failure record).encode).charged
          ledger record.readyAt).state = .open := by
        rw [charged, advanceClock_eq]
        exact ⟨hc.congr rfl rfl rfl rfl, hopen⟩
      exact hnoted.tracked (hcharged.1.resolveAttempt hcharged.2 _)
  | pressured intent =>
      have hframe : (c.recordPressure intent).scheduler = c.scheduler ∧
          (c.recordPressure intent).grants = c.grants ∧
          (c.recordPressure intent).request = c.request ∧
          (c.recordPressure intent).state = c.state := by
        unfold recordPressure
        simp only
        split <;> exact ⟨rfl, rfl, rfl, rfl⟩
      exact hc.congr hframe.1 hframe.2.1 hframe.2.2.1 hframe.2.2.2

/-- The scheduler of a coordinator that recovered has granted nothing. -/
theorem recover_scheduler {snapshot : Bytes} {journal : List Bytes} {historyIncomplete : Bool}
    {c c' : Coordinator} (hc : c.Regular)
    (h : (recover snapshot journal historyIncomplete).exec c = (.ok (), c')) :
    c'.scheduler.Grounded ∧ c'.scheduler.configured = false ∧ c'.grants = {} := by
  obtain ⟨replayed, scratch, hregular, ⟨hgrounded, hconfigured⟩, hdemote, -, rfl, -, -⟩ :=
    recover_rebuilt (P := fun d => d.scheduler.Grounded ∧ d.scheduler.configured = false) hc h
      ⟨⟨rfl, rfl, rfl, rfl, rfl⟩, rfl⟩
      (fun d d' _ record _ hd _ happlied => by
        cases happlied with
        | epoch => rw [epochAdvanced_eq]; exact hd
        | state record =>
            rw [entered_eq]
            simp only
            split
            · exact ⟨WaveScheduler.grounded_abandonAll _, hd.2⟩
            · exact hd
        | participant record t t' =>
            obtain ⟨producers, consumers, pending, heq⟩ := d.joinedBy_eq t t' record
            rw [heq]
            exact hd
        | manifest => exact hd
        | commit => rw [advanceClock_eq]; exact hd
        | failure => rw [charged, advanceClock_eq]; exact hd)
      fun d ledger hd => hd
  have hscheduler : (c.equipped scratch).opening.scheduler = replayed.scheduler := by
    obtain ⟨topology, producers, consumers, pending, rfl⟩ := demote_frame hregular hdemote
    rw [opening, epochAdvanced_eq]
    rfl
  refine ⟨?_, ?_, rfl⟩
  · show (c.equipped scratch).opening.scheduler.Grounded
    rw [hscheduler]
    exact hgrounded
  · show (c.equipped scratch).opening.scheduler.configured = false
    rw [hscheduler]
    exact hconfigured

theorem MoveStep.tracked {c c' : Coordinator} {m : Move} {answer : Result Reply}
    (h : MoveStep c m answer c') (hregular : c.Regular) (hc : c.Tracked)
    (hfresh : c.Untaken answer) : c'.Tracked := by
  cases h with
  | called call _ _ htransition => exact htransition.tracked hc hfresh
  | unrecovered => exact hc.congr rfl rfl rfl rfl
  | recovered snapshot journal historyIncomplete _ hrun =>
      obtain ⟨hgrounded, hconfigured, hgrants⟩ := recover_scheduler hregular hrun
      refine .of_grounded hgrounded hgrants (fun hset => ?_) fun _ => hconfigured
      rw [hconfigured] at hset
      cases hset

theorem tracked_of_run {limits : Limits} {sink : Option Sink}
    {events : List (Event Coordinator Move (Result Reply))} {c : Coordinator}
    (run : Run move (make limits sink) events c) (hfresh : ∀ e ∈ events, e.before.Untaken e.output) :
    c.Tracked := by
  induction run with
  | nil =>
      exact .of_grounded ⟨rfl, rfl, rfl, rfl, rfl⟩ rfl (fun h => by cases h) fun _ => rfl
  | @snoc events c run m ih =>
      have hlast := hfresh _ (List.mem_append_right _ List.mem_cons_self)
      exact (move_step (regular_of_run run) m).tracked (regular_of_run run)
        (ih fun e he => hfresh e (List.mem_append_left _ he)) hlast

end Coordinator

end ShuffleFabric
