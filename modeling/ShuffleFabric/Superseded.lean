import ShuffleFabric.Dispatch

/-!
# ShuffleFabric.Superseded

Attempts that carry an incarnation which has been replaced.

A registration leaves the attempts in flight alone: `configure` preserves them, and an attempt
ends when somebody reports it.  Until then it holds its edge and its slots (`Occupied`,
`Holding`), whoever has come back in the meantime.
-/

namespace ShuffleFabric

open Lib Action

/-- One slot less than a number that is not zero. -/
theorem toNat_pred {count : UInt32} {n : Nat} (h : n < count.toNat) :
    0 < count ∧ (count - 1).toNat + 1 = count.toNat := by
  have hone : 1 ≤ count := UInt32.le_iff_toNat_le.mpr (Nat.one_le_of_lt h)
  refine ⟨UInt32.lt_iff_toNat_lt.mpr (Nat.one_le_of_lt h), ?_⟩
  rw [UInt32.toNat_sub_of_le _ _ hone, UInt32.toNat_one]
  omega

namespace WaveScheduler

/-! ## Edges and slots -/

/-- Every attempt in flight has its edge to itself, and a slot in every counter; also where the
counter of the attempts has gone round. -/
structure Occupied (s : WaveScheduler) : Prop where
  edges : ∀ (a : TransferAttemptId) (record : AttemptRecord), s.attempts[a]? = some record →
    s.edgeAttempts[record.key]? = some a
  global : s.attempts.size ≤ s.globalInFlight.toNat
  producers : ∀ id, tally s.attempts (·.producer == id) ≤ (s.producerInFlight.getD id 0).toNat
  consumers : ∀ id, tally s.attempts (·.consumer == id) ≤ (s.consumerInFlight.getD id 0).toNat

theorem Grounded.occupied {s : WaveScheduler} (h : s.Grounded) : s.Occupied := by
  refine ⟨fun a record hrecord => ?_, ?_, fun id => ?_, fun id => ?_⟩
  · simp [h.attempts] at hrecord
  · rw [h.attempts]
    exact Nat.zero_le _
  all_goals simp [h.attempts]

theorem Occupied.congr {s s' : WaveScheduler} (h : s.Occupied) (hattempts : s'.attempts = s.attempts)
    (hedges : s'.edgeAttempts = s.edgeAttempts) (hglobal : s'.globalInFlight = s.globalInFlight)
    (hproducers : ∀ id, s'.producerInFlight.getD id 0 = s.producerInFlight.getD id 0)
    (hconsumers : ∀ id, s'.consumerInFlight.getD id 0 = s.consumerInFlight.getD id 0) :
    s'.Occupied :=
  ⟨by rw [hattempts, hedges]; exact h.edges, by rw [hattempts, hglobal]; exact h.global,
    fun id => by rw [hattempts, hproducers]; exact h.producers id,
    fun id => by rw [hattempts, hconsumers]; exact h.consumers id⟩

/-- A counter that covers the entries of a table covers them when it loses one with an entry. -/
theorem tally_le_release {m : Std.ExtTreeMap UInt64 AttemptRecord} {attempt : UInt64}
    {record : AttemptRecord} (hget : m[attempt]? = some record) (owner : AttemptRecord → UInt64)
    {inFlight : Std.ExtTreeMap UInt64 UInt32}
    (h : ∀ id, tally m (owner · == id) ≤ (inFlight.getD id 0).toNat) (id : UInt64) :
    tally (m.erase attempt) (owner · == id) ≤ ((release inFlight (owner record)).getD id 0).toNat := by
  have herase := tally_erase hget (owner · == id)
  have hcovered := h id
  rw [getD_release]
  split
  · next hsame =>
      obtain ⟨rfl, hpos⟩ := hsame
      have hone : (1 : UInt32) ≤ inFlight.getD (owner record) 0 := UInt32.le_iff_toNat_le.mpr
        (Nat.succ_le_of_lt (UInt32.lt_iff_toNat_lt.mp hpos))
      rw [UInt32.toNat_sub_of_le _ _ hone, UInt32.toNat_one]
      simp only [beq_self_eq_true, if_true] at herase
      omega
  · omega

theorem Occupied.resolve {s s' : WaveScheduler} (h : s.Occupied) {attempt : TransferAttemptId}
    (hresolve : s.resolve attempt = .ok s') : s'.Occupied := by
  cases hget : s.attempts[attempt]? with
  | none => simp [WaveScheduler.resolve, hget, makeFailure] at hresolve
  | some record =>
      rw [resolve_of_some hget] at hresolve
      obtain rfl := Except.ok.inj hresolve
      refine ⟨fun a r hr => ?_, ?_, fun id => tally_le_release hget (·.producer) h.producers id,
        fun id => tally_le_release hget (·.consumer) h.consumers id⟩
      · simp only [Std.ExtTreeMap.getElem?_erase, Std.compare_eq_iff_eq] at hr ⊢
        split at hr
        · cases hr
        · next hother =>
            have hedge := h.edges a r hr
            rw [if_neg]
            · exact hedge
            · intro hkey
              rw [← hkey, h.edges attempt record hget] at hedge
              exact hother (Option.some.inj hedge)
      · have hsize := tally_erase hget fun _ => true
        simp only [tally_true, if_true] at hsize
        have hglobal := h.global
        show (s.attempts.erase attempt).size ≤
          (if s.globalInFlight > 0 then s.globalInFlight - 1 else s.globalInFlight).toNat
        split
        · next hpos =>
            have hone := (toNat_pred (UInt32.lt_iff_toNat_lt.mp hpos)).2
            omega
        · omega

namespace WaveLoop

/-- A grant takes a slot whether its identifier was free or not. -/
theorem tally_insertIfNew_le (m : Std.ExtTreeMap UInt64 AttemptRecord) (attempt : UInt64)
    (record : AttemptRecord) (p : AttemptRecord → Bool) :
    tally (m.insertIfNew attempt record) p ≤ tally m p + if p record then 1 else 0 := by
  cases hget : m[attempt]? with
  | none => rw [insertIfNew_of_none hget, tally_insert hget]
  | some old =>
      rw [insertIfNew_of_some hget]
      exact Nat.le_add_right _ _

/-- A counter that covers the entries of a table grows with the table. -/
theorem tally_le_insert {m : Std.ExtTreeMap UInt64 AttemptRecord} (attempt : UInt64)
    (record : AttemptRecord) (owner : AttemptRecord → UInt64)
    {inFlight : Std.ExtTreeMap UInt64 UInt32} {bound : UInt32}
    (hroom : inFlight.getD (owner record) 0 < bound)
    (h : ∀ id, tally m (owner · == id) ≤ (inFlight.getD id 0).toNat) (id : UInt64) :
    tally (m.insertIfNew attempt record) (owner · == id) ≤
      ((inFlight.insert (owner record) (inFlight.getD (owner record) 0 + 1)).getD id 0).toNat := by
  have hgrown := tally_insertIfNew_le m attempt record (owner · == id)
  have hcovered := h id
  rw [Std.ExtTreeMap.getD_insert]
  by_cases hsame : owner record = id
  · subst hsame
    simp only [beq_self_eq_true, if_true] at hgrown
    rw [if_pos Std.compare_self, (toNat_succ_of_lt hroom).1]
    omega
  · have hne : (owner record == id) = false := by simpa using hsame
    simp only [hne, Bool.false_eq_true, if_false] at hgrown
    rw [if_neg (fun hcmp => hsame (Std.LawfulEqOrd.eq_of_compare hcmp))]
    omega

theorem Still.occupied {env : SchedulingEnvironment} {w w' : WaveLoop} (h : Still env w w')
    (hw : w.scheduler.Occupied) : w'.scheduler.Occupied :=
  hw.congr h.attempts h.edgeAttempts h.globalInFlight h.producerInFlight h.consumerInFlight

theorem Issues.occupied {env : SchedulingEnvironment} {w w' : WaveLoop} {grant : DispatchGrant}
    (h : Issues env w w' grant) (hw : w.scheduler.Occupied) : w'.scheduler.Occupied := by
  obtain ⟨w₁, hstill, rfl⟩ := h.issue
  have hw₁ := hstill.occupied hw
  have hsource := hstill.producerInFlight grant.producer ▸ h.source
  have hdestination := hstill.consumerInFlight grant.consumer ▸ h.destination
  have hglobal := hstill.globalInFlight ▸ h.global
  have hfree : w₁.scheduler.edgeAttempts[grant.key]? = none :=
    hstill.edgeAttempts ▸ h.eligible.notInFlight
  let record : AttemptRecord :=
    ⟨grant.key, w₁.plan.id, grant.attemptOrdinal, grant.producer, grant.consumer⟩
  refine ⟨fun a r hr => ?_, ?_,
    fun id => tally_le_insert grant.attempt record (·.producer) hsource hw₁.producers id,
    fun id => tally_le_insert grant.attempt record (·.consumer) hdestination hw₁.consumers id⟩
  · have hr : (w₁.scheduler.attempts.insertIfNew grant.attempt record)[a]? = some r := hr
    show (w₁.scheduler.edgeAttempts.insertIfNew grant.key grant.attempt)[r.key]? = some a
    rw [insertIfNew_of_none hfree, Std.ExtTreeMap.getElem?_insert]
    rw [Std.ExtTreeMap.getElem?_insertIfNew] at hr
    split at hr
    · next hnew =>
        obtain rfl := Option.some.inj hr
        rw [if_pos Std.compare_self, Std.LawfulEqOrd.eq_of_compare hnew.1]
    · have hedge := hw₁.edges a r hr
      rw [if_neg]
      · exact hedge
      · intro hkey
        rw [← Std.LawfulEqOrd.eq_of_compare hkey, hfree] at hedge
        cases hedge
  · have hgrown := tally_insertIfNew_le w₁.scheduler.attempts grant.attempt record fun _ => true
    have hcovered := hw₁.global
    simp only [tally_true, if_true] at hgrown
    show (w₁.scheduler.attempts.insertIfNew grant.attempt record).size ≤
      (w₁.scheduler.globalInFlight + 1).toNat
    rw [(toNat_succ_of_lt hglobal).1]
    omega

end WaveLoop

/-- A wave leaves every attempt its edge and its slots. -/
theorem Occupied.nextWave {s s' : WaveScheduler} (h : s.Occupied) {env : SchedulingEnvironment}
    {plan : WavePlan} (hwave : s.nextWave env = .ok (plan, s')) : s'.Occupied := by
  rcases nextWave_ok hwave with ⟨-, -, rfl⟩ | ⟨-, -, ⟨nextWaveId, rfl⟩, -⟩
  · exact h
  · have hloop : (s.waveLoop env).scheduler.Occupied :=
      WaveLoop.run_induction (P := fun w => w.scheduler.Occupied) (fun w _ hw => by
        rcases WaveLoop.turned env w with hstill | ⟨grant, hissue⟩
        · exact hstill.occupied hw
        · exact hissue.occupied hw) _ h
    exact hloop.congr rfl rfl rfl (fun _ => rfl) fun _ => rfl

end WaveScheduler

namespace Coordinator

/-! ## The registry of grants -/

/-- Every grant of the registry is an attempt in flight, with its edge and its slots. -/
structure Holding (c : Coordinator) : Prop where
  registry : ∀ a : TransferAttemptId, (c.grants[a]?).map DispatchGrant.parties =
    (c.scheduler.attempts[a]?).map AttemptRecord.parties
  occupied : c.scheduler.Occupied

theorem Holding.congr {c c' : Coordinator} (h : c.Holding) (hscheduler : c'.scheduler = c.scheduler)
    (hgrants : c'.grants = c.grants) : c'.Holding :=
  ⟨by rw [hgrants, hscheduler]; exact h.registry, hscheduler ▸ h.occupied⟩

theorem Holding.of_grounded {c : Coordinator} (hscheduler : c.scheduler.Grounded)
    (hgrants : c.grants = {}) : c.Holding :=
  ⟨fun a => by rw [hgrants, hscheduler.attempts]; simp, hscheduler.occupied⟩

/-- The end of one attempt. -/
theorem Holding.resolveAttempt {c : Coordinator} (h : c.Holding) (attempt : TransferAttemptId) :
    (c.resolveAttempt attempt).Holding := by
  cases hget : c.scheduler.attempts[attempt]? with
  | none =>
      have hresolve : (c.resolveAttempt attempt).scheduler = c.scheduler := by
        simp [Coordinator.resolveAttempt, WaveScheduler.resolve, hget, makeFailure, Except.toOption]
      have hnone : c.grants[attempt]? = none := by simpa [hget] using h.registry attempt
      exact h.congr hresolve (erase_of_none hnone)
  | some record =>
      have hresolve := WaveScheduler.resolve_of_some hget
      have hscheduler : (c.resolveAttempt attempt).scheduler =
          (c.scheduler.resolve attempt).toOption.getD c.scheduler := rfl
      rw [hresolve] at hscheduler
      refine ⟨fun a => ?_, ?_⟩
      · rw [hscheduler]
        show ((c.grants.erase attempt)[a]?).map _ = ((c.scheduler.attempts.erase attempt)[a]?).map _
        rw [Std.ExtTreeMap.getElem?_erase, Std.ExtTreeMap.getElem?_erase]
        split
        · rfl
        · exact h.registry a
      · rw [hscheduler]
        exact h.occupied.resolve hresolve

theorem configured_occupied {c : Coordinator} (h : c.scheduler.Occupied) {t : Topology}
    {scheduler : WaveScheduler} (hconfigured : c.ensureScheduler t = .ok scheduler) :
    scheduler.attempts = c.scheduler.attempts ∧ scheduler.Occupied := by
  obtain ⟨-, hattempts, hedges, hglobal, hproducers, hconsumers, -, -⟩ :=
    ensureScheduler_kept hconfigured
  exact ⟨hattempts, h.congr hattempts hedges hglobal (fun id => by rw [hproducers])
    fun id => by rw [hconsumers]⟩

/-- A wave. -/
theorem Holding.planned {c : Coordinator} (h : c.Holding) {t : Topology}
    {scheduler scheduler' : WaveScheduler} {plan : WavePlan}
    (hconfigured : c.ensureScheduler t = .ok scheduler)
    (hwave : scheduler.nextWave (c.environment t) = .ok (plan, scheduler')) :
    (plan.grants.foldl admitGrant { c with scheduler := scheduler' }).Holding := by
  obtain ⟨hattempts, hoccupied⟩ := configured_occupied h.occupied hconfigured
  have hlisted := WaveScheduler.nextWave_attempts_listed hwave
  have hgrants := grants_foldl_admitGrant plan.grants { c with scheduler := scheduler' }
  obtain ⟨grants, bytes, heq, -⟩ :=
    exists_foldl_admitGrant plan.grants { c with scheduler := scheduler' }
  rw [heq] at hgrants ⊢
  refine ⟨fun a => ?_, hoccupied.nextWave hwave⟩
  show (grants[a]?).map _ = (scheduler'.attempts[a]?).map _
  have hga : grants[a]? = (c.grants[a]?).or (plan.grants.find? (·.attempt == a)) := hgrants a
  rw [hlisted, hga, hattempts, Option.map_or, h.registry a]

theorem Noted.grants {c c' : Coordinator} (h : Noted c c') : c'.grants = c.grants := by
  cases h with
  | incomplete | unstored => rfl
  | completed =>
      rw [entered_eq]
      simp only [completion, stateRecord, reduceCtorEq, or_self, if_false]
      rfl

theorem Transition.holding {c c' : Coordinator} {call : Call} {answer : Result Reply}
    (h : Transition c call answer c') (hc : c.Holding) : c'.Holding := by
  cases h with
  | refused | cancelledBefore | nothingLeft => exact hc
  | unstored | ticked | published | unretired => exact hc.congr rfl rfl
  | halfOpened request =>
      refine hc.congr ?_ ?_
      all_goals
        rw [opening, epochAdvanced_eq]
        rfl
  | opened request =>
      rw [entered_eq, opening, epochAdvanced_eq]
      simp only [stateRecord, reduceCtorEq, or_self, if_false]
      exact hc.congr rfl rfl
  | cancelled reason =>
      rw [entered_eq]
      simp only [stateRecord, reduceCtorEq, true_or, if_true, if_false]
      exact .of_grounded (WaveScheduler.grounded_abandonAll _) rfl
  | registered _ record t t' =>
      obtain ⟨producers, consumers, pending, heq⟩ := (c.persisted
        (DurableRecord.participant record).encode).joinedBy_eq t t' record
      rw [heq]
      exact hc.congr rfl rfl
  | stateSet kind id incarnation state t t' =>
      obtain ⟨producers, consumers, pending, heq⟩ := (c.persisted (DurableRecord.participant
        (c.stateChange t kind id incarnation state)).encode).joinedBy_eq t t'
        (c.stateChange t kind id incarnation state)
      rw [heq]
      exact hc.congr rfl rfl
  | unplanned t scheduler e _ hconfigured =>
      obtain ⟨hattempts, hoccupied⟩ := configured_occupied hc.occupied hconfigured
      exact ⟨fun a => by simp only [hattempts]; exact hc.registry a, hoccupied⟩
  | planned t scheduler scheduler' plan _ hconfigured hwave => exact hc.planned hconfigured hwave
  | committed request receipt ledger _ _ _ _ hnoted =>
      have hcredited : ((c.persisted (DurableRecord.commit ⟨request, c.clock⟩).encode).credited
          ledger).Holding := hc.congr rfl rfl
      exact (hcredited.resolveAttempt _).congr hnoted.scheduler hnoted.grants
  | failed attempt code record ledger _ _ _ _ hnoted =>
      have hcharged : ((c.persisted (DurableRecord.failure record).encode).charged ledger
          record.readyAt).Holding := by
        rw [charged, advanceClock_eq]
        exact hc.congr rfl rfl
      exact (hcharged.resolveAttempt _).congr hnoted.scheduler hnoted.grants
  | pressured intent =>
      refine hc.congr ?_ ?_
      all_goals
        unfold recordPressure
        simp only
        split <;> rfl

theorem holding_of_run {limits : Limits} {sink : Option Sink}
    {events : List (Event Coordinator Move (Result Reply))} {c : Coordinator}
    (run : Run move (make limits sink) events c) : c.Holding := by
  induction run with
  | nil => exact .of_grounded ⟨rfl, rfl, rfl, rfl, rfl⟩ rfl
  | @snoc events c run m ih =>
      have hregular := regular_of_run run
      have hstep := move_step hregular m
      generalize (c.move m).1 = answer at hstep
      generalize (c.move m).2 = c' at hstep
      cases hstep with
      | called call _ _ htransition => exact htransition.holding ih
      | unrecovered => exact ih.congr rfl rfl
      | recovered snapshot journal historyIncomplete _ hrun =>
          obtain ⟨hgrounded, -, hgrants⟩ := recover_scheduler hregular hrun
          exact .of_grounded hgrounded hgrants

/-! ## An attempt nobody can complete -/

/-- The grant is for the content its partition has now. -/
def Current (c : Coordinator) (grant : DispatchGrant) : Prop :=
  (c.manifests[grant.partition]?).map (·.partitionGeneration) = some grant.partitionGeneration

/-- One of the parties of the grant has come back under another incarnation. -/
def Orphaned (c : Coordinator) (grant : DispatchGrant) : Prop :=
  ∃ kind m, c.roster kind (grant.participant kind) = some m ∧ m.incarnation ≠ grant.incarnation kind

/-- The attempt neither withholds its edge from the waves nor takes up a slot: the counters
are covered by the other grants. -/
def Unheld (c : Coordinator) (a : TransferAttemptId) (grant : DispatchGrant) : Prop :=
  c.scheduler.edgeAttempts[grant.key]? ≠ some a ∧
    c.scheduler.globalInFlight.toNat ≤ (c.grants.erase a).size ∧
    (c.scheduler.producerInFlight.getD grant.producer 0).toNat ≤
      tally (c.grants.erase a) (·.producer == grant.producer) ∧
    (c.scheduler.consumerInFlight.getD grant.consumer 0).toNat ≤
      tally (c.grants.erase a) (·.consumer == grant.consumer)

/-- The attempt has its edge to itself, so that no wave grants it, and takes up a slot of its
own everywhere. -/
structure Withheld (c : Coordinator) (a : TransferAttemptId) (grant : DispatchGrant) : Prop where
  edge : c.scheduler.edgeAttempts[grant.key]? = some a
  skipped : ∀ plan, (c.move (.call .nextWave)).1 = .ok (.wave plan) →
    ∀ granted ∈ plan.grants, granted.key ≠ grant.key
  global : (c.grants.erase a).size < c.scheduler.globalInFlight.toNat
  source : tally (c.grants.erase a) (·.producer == grant.producer) <
    (c.scheduler.producerInFlight.getD grant.producer 0).toNat
  destination : tally (c.grants.erase a) (·.consumer == grant.consumer) <
    (c.scheduler.consumerInFlight.getD grant.consumer 0).toNat

/-- The attempt is gone, its edge is free and so are its slots. -/
structure LetGo (c c' : Coordinator) (a : TransferAttemptId) (grant : DispatchGrant) : Prop where
  registry : c'.grants = c.grants.erase a
  edge : c'.scheduler.edgeAttempts[grant.key]? = none
  global : c'.scheduler.globalInFlight.toNat + 1 = c.scheduler.globalInFlight.toNat
  source : (c'.scheduler.producerInFlight.getD grant.producer 0).toNat + 1 =
    (c.scheduler.producerInFlight.getD grant.producer 0).toNat
  destination : (c'.scheduler.consumerInFlight.getD grant.consumer 0).toNat + 1 =
    (c.scheduler.consumerInFlight.getD grant.consumer 0).toNat

/-- A grant of the registry is in flight under its own parties. -/
theorem Holding.attempt {c : Coordinator} (h : c.Holding) {a : TransferAttemptId}
    {grant : DispatchGrant} (hgrant : c.grants[a]? = some grant) :
    ∃ record, c.scheduler.attempts[a]? = some record ∧ record.key = grant.key ∧
      record.producer = grant.producer ∧ record.consumer = grant.consumer := by
  have hparties := h.registry a
  rw [hgrant, Option.map_some] at hparties
  obtain ⟨record, hrecord, hboth⟩ := Option.map_eq_some_iff.mp hparties.symm
  exact ⟨record, hrecord, congrArg Prod.fst hboth, congrArg (·.2.1) hboth, congrArg (·.2.2) hboth⟩

/-- A counter covers the other grants and one more. -/
theorem Holding.tally_lt {c : Coordinator} (h : c.Holding) {a : TransferAttemptId}
    {grant : DispatchGrant} (hgrant : c.grants[a]? = some grant)
    {q : EdgeKey × ProducerId × ConsumerId → Bool} (hq : q grant.parties = true) {count : Nat}
    (hcount : tally c.scheduler.attempts (fun record => q record.parties) ≤ count) :
    tally (c.grants.erase a) (fun grant => q grant.parties) < count := by
  have hsame : tally c.grants (fun grant => q grant.parties) =
      tally c.scheduler.attempts fun record => q record.parties := by
    refine tally_congr fun k => ?_
    have hk := congrArg (Option.map q) (h.registry k)
    rwa [Option.map_map, Option.map_map] at hk
  have herase := tally_erase hgrant fun grant => q grant.parties
  rw [if_pos hq, hsame] at herase
  omega

/-- An edge that an attempt is in flight for is in no wave. -/
theorem skipped_of_edge {c : Coordinator} (hregular : c.Regular)
    {a : TransferAttemptId} {key : EdgeKey} (hedge : c.scheduler.edgeAttempts[key]? = some a)
    {plan : WavePlan} (hwave : (c.move (.call .nextWave)).1 = .ok (.wave plan)) :
    ∀ granted ∈ plan.grants, granted.key ≠ key := by
  intro granted hgranted hkey
  have hnaming := (perform_transition hregular.inside hregular.consistent .nextWave).naming
  rw [show (c.perform .nextWave).1 = .ok (.wave plan) from hwave] at hnaming
  cases hnaming with
  | kept _ _ hidle => simp [hidle plan rfl] at hgranted
  | waved t scheduler plan' hopen hconfigured hplanned hregistry hanswer =>
      cases hanswer
      have hfree := ((WaveScheduler.nextWave_cleared hplanned).1 granted hgranted).eligible.notInFlight
      obtain ⟨-, -, hedges, -⟩ := ensureScheduler_kept hconfigured
      rw [hedges, hkey, hedge] at hfree
      cases hfree

theorem Holding.withheld {c : Coordinator} (h : c.Holding) (hregular : c.Regular)
    {a : TransferAttemptId} {grant : DispatchGrant} (hgrant : c.grants[a]? = some grant) :
    c.Withheld a grant := by
  obtain ⟨record, hrecord, hkey, -⟩ := h.attempt hgrant
  have hedge : c.scheduler.edgeAttempts[grant.key]? = some a :=
    hkey ▸ h.occupied.edges a record hrecord
  have hglobal := h.tally_lt hgrant (q := fun _ => true) rfl
    ((tally_true c.scheduler.attempts).trans_le h.occupied.global)
  rw [tally_true] at hglobal
  exact ⟨hedge, fun plan hplan => skipped_of_edge hregular hedge hplan, hglobal,
    h.tally_lt hgrant (q := fun parties => parties.2.1 == grant.producer) (beq_self_eq_true _)
      (h.occupied.producers grant.producer),
    h.tally_lt hgrant (q := fun parties => parties.2.2 == grant.consumer) (beq_self_eq_true _)
      (h.occupied.consumers grant.consumer)⟩

/-- The end of an attempt sets its edge and its slots free. -/
theorem Withheld.released {c c' : Coordinator} {a : TransferAttemptId} {grant : DispatchGrant}
    (h : c.Withheld a grant) (hholding : c.Holding) (hgrant : c.grants[a]? = some grant)
    (hgrants : c'.grants = c.grants.erase a)
    (hscheduler : c'.scheduler = (c.scheduler.resolve a).toOption.getD c.scheduler) :
    LetGo c c' a grant := by
  obtain ⟨record, hrecord, hkey, hproducer, hconsumer⟩ := hholding.attempt hgrant
  rw [WaveScheduler.resolve_of_some hrecord, hkey, hproducer, hconsumer] at hscheduler
  obtain ⟨hglobal, hone⟩ := toNat_pred h.global
  obtain ⟨hsource, hless⟩ := toNat_pred h.source
  obtain ⟨hdestination, hfewer⟩ := toNat_pred h.destination
  refine ⟨hgrants, ?_, ?_, ?_, ?_⟩
  all_goals simp only [hscheduler, Except.toOption, Option.getD_some]
  · simp
  · rw [if_pos hglobal, hone]
  · rw [WaveScheduler.getD_release, if_pos ⟨rfl, hsource⟩, hless]
  · rw [WaveScheduler.getD_release, if_pos ⟨rfl, hdestination⟩, hfewer]

/-- A report that is answered ends its attempt. -/
theorem reported {c : Coordinator} (hregular : c.Regular) {a : TransferAttemptId} {code : ErrorCode}
    {reply : Reply} (h : (c.move (.call (.reportFailure a code))).1 = .ok reply) :
    (c.move (.call (.reportFailure a code))).2.grants = c.grants.erase a ∧
      (c.move (.call (.reportFailure a code))).2.scheduler =
        (c.scheduler.resolve a).toOption.getD c.scheduler := by
  have htransition := perform_transition hregular.inside hregular.consistent (.reportFailure a code)
  rw [show c.move (.call (.reportFailure a code)) = c.perform (.reportFailure a code) from rfl] at h ⊢
  generalize (c.perform (.reportFailure a code)).1 = answer at h htransition
  generalize (c.perform (.reportFailure a code)).2 = c' at htransition ⊢
  cases htransition with
  | refused => cases h
  | unstored => cases h
  | registered _ record t t' hregistration => cases hregistration
  | failed _ _ record ledger _ _ _ _ hnoted =>
      rw [hnoted.grants, hnoted.scheduler, charged, advanceClock_eq]
      exact ⟨rfl, rfl⟩

/-- No completion of the attempt is accepted while one of its parties is registered under
another incarnation. -/
theorem Orphaned.refused {c : Coordinator} {grant : DispatchGrant} (h : c.Orphaned grant)
    (hregular : c.Regular) {request : CommitRequest}
    (hgrant : c.grants[request.attempt]? = some grant) :
    ∃ e, (c.move (.call (.commitTransfer request))).1 = .error e := by
  have htransition := perform_transition hregular.inside hregular.consistent (.commitTransfer request)
  show ∃ e, (c.perform (.commitTransfer request)).1 = .error e
  generalize (c.perform (.commitTransfer request)).1 = answer at htransition ⊢
  generalize (c.perform (.commitTransfer request)).2 = c' at htransition
  cases answer with
  | error e => exact ⟨e, rfl⟩
  | ok reply =>
      obtain ⟨kind, m, hm, hother⟩ := h
      have hacts (hcarries : Carries kind (grant.participant kind) (grant.incarnation kind)
          (.commitTransfer request)) := htransition.acts hcarries
      cases htransition with
      | registered _ record t t' hregistration => cases hregistration
      | committed _ receipt ledger _ hcheck =>
          obtain ⟨issued, t, manifest, hissued, -, hmatches, -⟩ := checkCommit_ok hcheck
          obtain rfl := Option.some.inj (hgrant.symm.trans hissued)
          obtain ⟨-, -, -, hconsumer, -, hproducer, hsource, hdestination, -⟩ :=
            checkGrant_ok hmatches
          obtain ⟨m', hm', hsame⟩ := hacts (by
            cases kind with
            | producer => exact .inr ⟨rfl, hproducer, hsource⟩
            | consumer => exact .inl ⟨rfl, hconsumer, hdestination⟩)
          obtain rfl := Option.some.inj (hm.symm.trans hm')
          exact absurd hsame hother

/-- Consumer 2 comes back while the attempt of its first incarnation is in flight. -/
def smallReturned : List Move :=
  smallCalls.map .call ++ [.call (.registerConsumer 2 2 [] {})]

/-- The attempt of the first incarnation keeps the edge and its slots after consumer 2 came
back. -/
theorem superseded_attempt_withholds_edge :
    ¬∀ (limits : Limits) (sink : Option Sink)
      (events : List (Event Coordinator Move (Result Reply))) (c : Coordinator),
      Run move (make limits sink) events c → c.state = .open →
      ∀ (a : TransferAttemptId) (grant : DispatchGrant), c.grants[a]? = some grant →
        c.Requires grant.partition grant.consumer → c.Current grant → c.Orphaned grant →
        c.Unheld a grant := by
  intro h
  have run := Run.of_inputs move (make {} (some acceptAll)) smallReturned
  obtain ⟨c, hc, hopen, hgrant, hmanifest, hmember, hrecord, hheld⟩ : ∃ c,
      final move (make {} (some acceptAll)) smallReturned = c ∧ c.state = .open ∧
      (c.grants[(1 : TransferAttemptId)]?).any (fun grant => grant.key = ⟨0, 1, 2⟩ ∧
        grant.participant .consumer = 2 ∧ grant.incarnation .consumer = 1) ∧
      (c.manifests[(0 : PartitionId)]?).map (·.partitionGeneration) = some 1 ∧
      c.roster .consumer 2 = some ⟨2, .active, [], ({} : PartitionSelection).canonicalKey⟩ ∧
      (c.topology.bind fun t => (t.findConsumer 2).map fun record =>
        (countsTowardRequirement record.state, (t.pattern record.pattern).covers 0)) =
          some (true, true) ∧
      c.scheduler.edgeAttempts[(⟨0, 1, 2⟩ : EdgeKey)]? = some 1 :=
    ⟨_, rfl, by decide +kernel⟩
  rw [hc] at run
  obtain ⟨grant, hgrant, hparts⟩ := (Option.any_eq_true _ _).mp hgrant
  obtain ⟨hkey, hparty, hincarnation⟩ := of_decide_eq_true hparts
  have hpartition : grant.partition = 0 := congrArg EdgeKey.partition hkey
  have hgeneration : grant.partitionGeneration = 1 := congrArg EdgeKey.partitionGeneration hkey
  have hconsumer : grant.consumer = 2 := congrArg EdgeKey.consumer hkey
  have hcurrent : c.Current grant := by
    rw [Current, hpartition, hgeneration]
    exact hmanifest
  have horphaned : c.Orphaned grant := by
    refine ⟨.consumer, _, by rw [hparty]; exact hmember, ?_⟩
    rw [hincarnation]
    decide
  have hrequired : c.Requires grant.partition grant.consumer := by
    obtain ⟨t, ht, hrecord⟩ := Option.bind_eq_some_iff.mp hrecord
    obtain ⟨record, hfind, hpair⟩ := Option.map_eq_some_iff.mp hrecord
    rw [hpartition, hconsumer]
    exact ⟨t, record, ht, hfind, congrArg Prod.fst hpair, congrArg Prod.snd hpair⟩
  have hunheld := h {} (some acceptAll) _ c run hopen 1 grant hgrant hrequired hcurrent horphaned
  exact hunheld.1 (hkey ▸ hheld)

/-- An attempt whose producer or consumer has come back under another incarnation can no longer
be completed, and it keeps its edge from the waves and its slots taken, in every state in which
it is in flight; the report about it that is answered sets the edge and the slots free. -/
theorem superseded_attempt_held_until_reported {limits : Limits} {sink : Option Sink}
    {events : List (Event Coordinator Move (Result Reply))} {c : Coordinator}
    (run : Run move (make limits sink) events c) {a : TransferAttemptId} {grant : DispatchGrant}
    (hgrant : c.grants[a]? = some grant) (horphaned : c.Orphaned grant) :
    (∀ request, request.attempt = a →
      ∃ e, (c.move (.call (.commitTransfer request))).1 = .error e) ∧
    c.Withheld a grant ∧
    ∀ code reply, (c.move (.call (.reportFailure a code))).1 = .ok reply →
      LetGo c (c.move (.call (.reportFailure a code))).2 a grant := by
  have hregular := regular_of_run run
  have hholding := holding_of_run run
  have hwithheld := hholding.withheld hregular hgrant
  refine ⟨fun request hattempt => ?_, hwithheld, fun code reply hreply => ?_⟩
  · subst hattempt
    exact horphaned.refused hregular hgrant
  · obtain ⟨hgrants, hscheduler⟩ := reported hregular hreply
    exact hwithheld.released hholding hgrant hgrants hscheduler

/-- Consumer 2 came back; its old attempt is reported superseded. -/
theorem superseded_attempt_held_until_reported_small :
    ∃ c grant, final move (make {} (some acceptAll)) smallReturned = c ∧
      c.grants[(1 : TransferAttemptId)]? = some grant ∧ c.Orphaned grant ∧ c.Withheld 1 grant ∧
      LetGo c (c.move (.call (.reportFailure 1 .attemptSuperseded))).2 1 grant := by
  have run := Run.of_inputs move (make {} (some acceptAll)) smallReturned
  obtain ⟨c, hc, hgrant, hmember, hreported⟩ : ∃ c,
      final move (make {} (some acceptAll)) smallReturned = c ∧
      (c.grants[(1 : TransferAttemptId)]?).any (fun grant =>
        grant.participant .consumer = 2 ∧ grant.incarnation .consumer = 1) ∧
      (c.roster .consumer 2).map (·.incarnation) = some 2 ∧
      (c.move (.call (.reportFailure 1 .attemptSuperseded))).1.toOption.isSome :=
    ⟨_, rfl, by decide +kernel⟩
  rw [hc] at run
  obtain ⟨grant, hgrant, hparts⟩ := (Option.any_eq_true _ _).mp hgrant
  obtain ⟨hparty, hincarnation⟩ := of_decide_eq_true hparts
  obtain ⟨m, hm, htwo⟩ := Option.map_eq_some_iff.mp hmember
  have horphaned : c.Orphaned grant :=
    ⟨.consumer, m, by rw [hparty]; exact hm, by rw [htwo, hincarnation]; decide⟩
  obtain ⟨-, hwithheld, hreleased⟩ := superseded_attempt_held_until_reported run hgrant horphaned
  cases hreply : (c.move (.call (.reportFailure 1 .attemptSuperseded))).1 with
  | error e =>
      rw [hreply] at hreported
      cases hreported
  | ok reply =>
      exact ⟨c, grant, hc, hgrant, horphaned, hwithheld, hreleased .attemptSuperseded reply hreply⟩

end Coordinator

end ShuffleFabric
