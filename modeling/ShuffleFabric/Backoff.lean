import ShuffleFabric.Regular

/-!
# ShuffleFabric.Backoff

The wait between two attempts on an edge.

A retriable failure records the tick at which its edge is ready again, and a wave passes
over an edge whose tick lies ahead.  But `apply_failure`, which a replay and a live
report share, resumes the clock at that very tick: the report itself ends the wait it
asked for.
-/

namespace ShuffleFabric

open Lib Action

namespace Coordinator

/-! ## The clock behind a report -/

/-- Noting the completion does not move the clock. -/
theorem Noted.clock {c c' : Coordinator} (h : Noted c c') : c'.clock = c.clock := by
  cases h with
  | incomplete => rfl
  | unstored => rfl
  | completed =>
      rw [entered_eq]
      show (if c.clock > c.clock then c.clock else c.clock) = c.clock
      simp

/-- A report of a failure leaves the clock at the ready tick, if that lies ahead. -/
theorem reportFailure_clock {c : Coordinator} (hc : c.Regular) {attempt : TransferAttemptId}
    {code : ErrorCode} {outcome : FailureOutcome}
    (h : (c.move (.call (.reportFailure attempt code))).1 = .ok (.failed outcome)) :
    (c.move (.call (.reportFailure attempt code))).2.clock = c.clockAfter outcome.readyAt ∧
      ∃ grant, c.grants[attempt]? = some grant ∧
        outcome.permanent = (c.failureRecordFor grant code).permanent ∧
        outcome.readyAt = (c.failureRecordFor grant code).readyAt := by
  have htransition := perform_transition hc.inside hc.consistent (.reportFailure attempt code)
  rw [show c.move (.call (.reportFailure attempt code)) =
    c.perform (.reportFailure attempt code) from rfl] at h ⊢
  generalize (c.perform (.reportFailure attempt code)).1 = answer at h htransition
  generalize (c.perform (.reportFailure attempt code)).2 = c' at htransition ⊢
  cases htransition with
  | refused => cases h
  | unstored => cases h
  | registered _ record t t' hregistration => cases hregistration
  | failed _ _ record ledger c' hcheck hsink hfailure hnoted =>
      obtain ⟨grant, t, hgrant, -, -, -, hrecord⟩ := checkFailure_ok hcheck
      cases h
      refine ⟨?_, grant, hgrant, by rw [hrecord], by rw [hrecord]⟩
      rw [hnoted.clock]
      show (advanceClock _ _).clock = _
      rw [advanceClock_eq]
      rfl

/-! ## Waiting -/

/-- Did the call advance the clock? -/
def ticked (e : Event Coordinator Move (Result Reply)) : Bool :=
  e.input = .call .advanceTick ∧ e.output.isOk

/-- Whatever is done from here on, no wave issues the edge before so many ticks. -/
def Waits (c : Coordinator) (key : EdgeKey) (ticks : Nat) : Prop :=
  ∀ (events : List (Event Coordinator Move (Result Reply))) (d : Coordinator) (plan : WavePlan),
    Run move c events d → (d.move (.call .nextWave)).1 = .ok (.wave plan) →
    (∃ grant ∈ plan.grants, grant.key = key) → ticks ≤ events.countP ticked

/-- The back-off of a failure is respected: the report leaves the clock alone, and the edge
waits. -/
def BacksOff (c c' : Coordinator) (key : EdgeKey) : Prop :=
  c'.clock = c.clock ∧ c'.Waits key c.request.policy.retry.minTicksBetweenAttempts.toNat

/-- The ready tick of a retriable failure, and the clock behind its report. -/
theorem clockAfter_readyAt (c : Coordinator) {grant : DispatchGrant} {code : ErrorCode}
    (hretriable : (c.failureRecordFor grant code).permanent = false) :
    (c.failureRecordFor grant code).readyAt =
      c.clock + c.request.policy.retry.minTicksBetweenAttempts.toUInt64 := by
  unfold failureRecordFor at hretriable ⊢
  simp only at hretriable ⊢
  rw [if_neg (by simpa using hretriable)]

/-- Without a wait to respect, a retriable failure is respected; with one, the report moves
the clock, unless the tick number overflows. -/
theorem failure_backs_off {limits : Limits} {sink : Option Sink}
    {events : List (Event Coordinator Move (Result Reply))} {c : Coordinator}
    (run : Run move (make limits sink) events c) {attempt : TransferAttemptId} {code : ErrorCode}
    {outcome : FailureOutcome}
    (h : (c.move (.call (.reportFailure attempt code))).1 = .ok (.failed outcome))
    (hretriable : outcome.permanent = false) :
    ∃ grant, c.grants[attempt]? = some grant ∧
      (c.request.policy.retry.minTicksBetweenAttempts = 0 →
        BacksOff c (c.move (.call (.reportFailure attempt code))).2 grant.key) ∧
      (BacksOff c (c.move (.call (.reportFailure attempt code))).2 grant.key →
        c.request.policy.retry.minTicksBetweenAttempts = 0 ∨
          2 ^ 64 ≤ c.clock.toNat + c.request.policy.retry.minTicksBetweenAttempts.toNat) := by
  obtain ⟨hclock, grant, hgrant, hpermanent, hready⟩ := reportFailure_clock (regular_of_run run) h
  rw [hretriable] at hpermanent
  rw [clockAfter_readyAt c hpermanent.symm] at hready
  rw [hready] at hclock
  refine ⟨grant, hgrant, fun hzero => ⟨?_, ?_⟩, fun hbacks => ?_⟩
  · rw [hclock, hzero, clockAfter]
    show (if c.clock + 0 > c.clock then c.clock + 0 else c.clock) = c.clock
    rw [UInt64.add_zero, ite_self]
  · intro later d plan _ _ _
    rw [hzero]
    exact Nat.zero_le _
  · have hsame := hbacks.1
    by_contra hno
    rw [not_or, not_le] at hno
    obtain ⟨hpositive, hfits⟩ := hno
    have hsum : (c.clock + c.request.policy.retry.minTicksBetweenAttempts.toUInt64).toNat =
        c.clock.toNat + c.request.policy.retry.minTicksBetweenAttempts.toNat := by
      rw [UInt64.toNat_add, UInt32.toNat_toUInt64, Nat.mod_eq_of_lt hfits]
    have hpositive : 0 < c.request.policy.retry.minTicksBetweenAttempts.toNat :=
      Nat.pos_of_ne_zero fun hzero => hpositive (UInt32.toNat_inj.mp hzero)
    have hahead : c.clock + c.request.policy.retry.minTicksBetweenAttempts.toUInt64 > c.clock := by
      rw [gt_iff_lt, UInt64.lt_iff_toNat_lt, hsum]
      omega
    rw [hsame, clockAfter, if_pos hahead] at hclock
    have := congrArg UInt64.toNat hclock
    omega

/-- One partition and one consumer, with five ticks between two attempts. -/
def patientOpen (ticks : UInt32) : ShuffleOpenRequest :=
  { smallOpen 1 with
    policy := { (smallOpen 1).policy with retry := { minTicksBetweenAttempts := ticks } } }

/-- Up to the first grant. -/
def patientCalls (ticks : UInt32) : List Move :=
  .call (.openShuffle (patientOpen ticks)) :: smallCalls.tail.map .call

/-- A failed connection, with no wait between two attempts. -/
theorem failure_backs_off_small :
    let c := final move (make {} (some acceptAll)) (patientCalls 0)
    ∃ grant, c.grants[(1 : UInt64)]? = some grant ∧
      (c.request.policy.retry.minTicksBetweenAttempts = 0 →
        BacksOff c (c.move (.call (.reportFailure 1 .connectionFailure))).2 grant.key) ∧
      (BacksOff c (c.move (.call (.reportFailure 1 .connectionFailure))).2 grant.key →
        c.request.policy.retry.minTicksBetweenAttempts = 0 ∨
          2 ^ 64 ≤ c.clock.toNat + c.request.policy.retry.minTicksBetweenAttempts.toNat) := by
  intro c
  have hanswer : (c.move (.call (.reportFailure 1 .connectionFailure))).1 =
      .ok (.failed ⟨false, 1, 0⟩) := by
    decide +kernel
  exact failure_backs_off (Run.of_inputs move (make {} (some acceptAll)) (patientCalls 0)) hanswer rfl

/-- With five ticks between two attempts the report moves the clock by five, and the second
wave after it issues the edge again before anything ticked. -/
theorem failure_ends_its_wait :
    ¬∀ (limits : Limits) (sink : Option Sink)
      (events : List (Event Coordinator Move (Result Reply))) (c : Coordinator),
      Run move (make limits sink) events c → ∀ attempt code outcome grant,
      (c.move (.call (.reportFailure attempt code))).1 = .ok (.failed outcome) →
      outcome.permanent = false → c.grants[attempt]? = some grant →
      BacksOff c (c.move (.call (.reportFailure attempt code))).2 grant.key := by
  intro h
  have hrun := Run.of_inputs move (make {} (some acceptAll)) (patientCalls 5)
  obtain ⟨c, hc, hanswer, hkey, hfive, hwave⟩ : ∃ c,
      final move (make {} (some acceptAll)) (patientCalls 5) = c ∧
      (c.move (.call (.reportFailure 1 .connectionFailure))).1 = .ok (.failed ⟨false, 1, 5⟩) ∧
      (c.grants[(1 : UInt64)]?).map (·.key) = some ⟨0, 1, 2⟩ ∧
      c.request.policy.retry.minTicksBetweenAttempts.toNat = 5 ∧
      Reply.grants (·.key == ⟨0, 1, 2⟩) (((c.move (.call (.reportFailure 1
          .connectionFailure))).2.move (.call .nextWave)).2.move (.call .nextWave)).1 = true :=
    ⟨_, rfl, by decide +kernel⟩
  rw [hc] at hrun
  obtain ⟨grant, hgrant, hkey⟩ := Option.map_eq_some_iff.mp hkey
  have hwaits := (h {} (some acceptAll) _ _ hrun 1 .connectionFailure _ grant hanswer rfl hgrant).2
  obtain ⟨plan, hplan, issued, hissued, hsame⟩ := Reply.grants_iff.mp hwave
  have hsooner := hwaits _ _ plan (Run.nil.snoc (.call .nextWave)) hplan
    ⟨issued, hissued, by rw [hkey]; exact beq_iff_eq.mp hsame⟩
  rw [hfive] at hsooner
  exact absurd hsooner (by simp [ticked, happen])

end Coordinator

end ShuffleFabric
