import ShuffleFabric.Schedule.Wave

/-!
# ShuffleFabric.Schedule.Flight

The attempts in flight.

The scheduler keeps one record for each attempt in flight, an index from edges to
attempts, and three counters.  `Accounted` says that they agree; a grant under a free
identifier, the end of an attempt and the end of all of them keep it.
-/

namespace ShuffleFabric

open Lib

/-- Whose attempt it is, and on which edge. -/
def AttemptRecord.parties (record : AttemptRecord) : EdgeKey × ProducerId × ConsumerId :=
  (record.key, record.producer, record.consumer)

/-- Whose grant it is, and on which edge. -/
def DispatchGrant.parties (grant : DispatchGrant) : EdgeKey × ProducerId × ConsumerId :=
  (grant.key, grant.producer, grant.consumer)

namespace WaveScheduler

/-- The counters count the attempts in flight, and the index names the attempt of every
edge that has one. -/
structure Accounted (s : WaveScheduler) : Prop where
  global : s.globalInFlight.toNat = s.attempts.size
  producers : ∀ id, (s.producerInFlight.getD id 0).toNat = tally s.attempts (·.producer == id)
  consumers : ∀ id, (s.consumerInFlight.getD id 0).toNat = tally s.attempts (·.consumer == id)
  edges : ∀ (key : EdgeKey) (attempt : TransferAttemptId), s.edgeAttempts[key]? = some attempt ↔
    ∃ record, s.attempts[attempt]? = some record ∧ record.key = key

/-- The counters respect a concurrency policy. -/
structure Within (s : WaveScheduler) (concurrency : ConcurrencyLimits) : Prop where
  global : s.globalInFlight ≤ concurrency.global
  producers : ∀ id, s.producerInFlight.getD id 0 ≤ concurrency.perSource
  consumers : ∀ id, s.consumerInFlight.getD id 0 ≤ concurrency.perDestination

/-! ## The end of an attempt -/

/-- One attempt less, for one participant. -/
theorem getD_release (inFlight : Std.ExtTreeMap UInt64 UInt32) (id id' : UInt64) :
    (release inFlight id).getD id' 0 =
      if id' = id ∧ inFlight.getD id 0 > 0 then inFlight.getD id 0 - 1 else inFlight.getD id' 0 := by
  unfold release
  cases hget : inFlight[id]? with
  | none =>
      have hzero : inFlight.getD id 0 = 0 := by
        rw [Std.ExtTreeMap.getD_eq_getD_getElem?, hget]
        rfl
      simp [hzero]
  | some count =>
      have hcount : inFlight.getD id 0 = count := by
        rw [Std.ExtTreeMap.getD_eq_getD_getElem?, hget]
        rfl
      rw [hcount]
      by_cases hsame : id' = id
      · subst hsame
        by_cases hpos : count > 0
        · simp only [hpos, if_true]
          split
          · next hzero => simp [hzero]
          · simp
        · have hzero : count = 0 := by
            rw [gt_iff_lt, UInt32.not_lt] at hpos
            exact UInt32.le_zero_iff.mp hpos
          simp [hzero, hcount]
      · have hne : ¬compare id id' = .eq := by
          rw [Std.compare_eq_iff_eq]
          exact fun h => hsame h.symm
        have hkept : ∀ count', (if count' = 0 then inFlight.erase id
            else inFlight.insert id count').getD id' 0 = inFlight.getD id' 0 := by
          intro count'
          split
          · rw [Std.ExtTreeMap.getD_erase, if_neg hne]
          · rw [Std.ExtTreeMap.getD_insert, if_neg hne]
        simp only [hsame, false_and, if_false]
        exact hkept _

/-- A counter that counts the entries of a table loses one with the entry. -/
theorem toNat_release {m : Std.ExtTreeMap UInt64 AttemptRecord} {attempt : UInt64}
    {record : AttemptRecord} (hget : m[attempt]? = some record) (owner : AttemptRecord → UInt64)
    {inFlight : Std.ExtTreeMap UInt64 UInt32}
    (h : ∀ id, (inFlight.getD id 0).toNat = tally m (owner · == id)) (id : UInt64) :
    ((release inFlight (owner record)).getD id 0).toNat = tally (m.erase attempt) (owner · == id) := by
  have herase := tally_erase hget (owner · == id)
  rw [getD_release]
  by_cases hsame : id = owner record
  · subst hsame
    have hcount := h (owner record)
    simp only [beq_self_eq_true, if_true] at herase
    have hpos : inFlight.getD (owner record) 0 > 0 := by
      rw [gt_iff_lt, UInt32.lt_iff_toNat_lt, hcount, ← herase]
      exact Nat.succ_pos _
    rw [if_pos ⟨rfl, hpos⟩, UInt32.toNat_sub_of_le _ _ hpos, hcount, ← herase]
    simp
  · have hne : (owner record == id) = false := by simpa using fun heq => hsame heq.symm
    simp only [hne, Bool.false_eq_true, if_false] at herase
    rw [if_neg (fun hboth => hsame hboth.1), h id, ← herase]
    rfl

/-- What `resolve` does to an attempt in flight. -/
theorem resolve_of_some {s : WaveScheduler} {attempt : TransferAttemptId} {record : AttemptRecord}
    (h : s.attempts[attempt]? = some record) :
    s.resolve attempt = .ok { s with
      attempts := s.attempts.erase attempt
      edgeAttempts := s.edgeAttempts.erase record.key
      producerInFlight := release s.producerInFlight record.producer
      consumerInFlight := release s.consumerInFlight record.consumer
      globalInFlight := if s.globalInFlight > 0 then s.globalInFlight - 1 else s.globalInFlight } := by
  simp only [resolve, h]

theorem Accounted.resolve {s s' : WaveScheduler} (h : s.Accounted) {attempt : TransferAttemptId}
    (hresolve : s.resolve attempt = .ok s') : s'.Accounted := by
  cases hget : s.attempts[attempt]? with
  | none => simp [WaveScheduler.resolve, hget, makeFailure] at hresolve
  | some record =>
      rw [resolve_of_some hget] at hresolve
      obtain rfl := Except.ok.inj hresolve
      refine ⟨?_, fun id => toNat_release hget (·.producer) h.producers id,
        fun id => toNat_release hget (·.consumer) h.consumers id, fun key a => ?_⟩
      · have hsize := tally_erase hget fun _ => true
        simp only [tally_true, if_true] at hsize
        have hpos : s.globalInFlight > 0 := by
          rw [gt_iff_lt, UInt32.lt_iff_toNat_lt, h.global, ← hsize]
          exact Nat.succ_pos _
        simp only [if_pos hpos]
        rw [UInt32.toNat_sub_of_le _ _ hpos, h.global, ← hsize]
        simp
      · simp only [Std.ExtTreeMap.getElem?_erase, Std.compare_eq_iff_eq]
        constructor
        · intro hedge
          split at hedge
          · cases hedge
          · next hkey =>
              obtain ⟨r, hr, hrkey⟩ := (h.edges key a).mp hedge
              refine ⟨r, ?_, hrkey⟩
              rw [if_neg]
              · exact hr
              · rintro rfl
                rw [hget] at hr
                obtain rfl := Option.some.inj hr
                exact hkey hrkey
        · rintro ⟨r, hr, rfl⟩
          split at hr
          · cases hr
          · next hattempt =>
              rw [if_neg]
              · exact (h.edges r.key a).mpr ⟨r, hr, rfl⟩
              · intro hkey
                have hboth := (h.edges record.key attempt).mpr ⟨record, hget, rfl⟩
                rw [hkey, (h.edges r.key a).mpr ⟨r, hr, rfl⟩] at hboth
                exact hattempt (Option.some.inj hboth).symm

/-- The end of an attempt makes room. -/
theorem Within.resolve {s s' : WaveScheduler} {concurrency : ConcurrencyLimits}
    (h : s.Within concurrency) {attempt : TransferAttemptId}
    (hresolve : s.resolve attempt = .ok s') : s'.Within concurrency := by
  have hless : ∀ count : UInt32, count > 0 → count - 1 ≤ count := by
    intro count hpos
    rw [UInt32.le_iff_toNat_le, UInt32.toNat_sub_of_le _ _ hpos]
    exact Nat.sub_le _ _
  have hreleased : ∀ (inFlight : Std.ExtTreeMap UInt64 UInt32) (id id' : UInt64),
      (release inFlight id).getD id' 0 ≤ inFlight.getD id' 0 := by
    intro inFlight id id'
    rw [getD_release]
    split
    · next hsame =>
        rw [hsame.1]
        exact hless _ hsame.2
    · exact UInt32.le_refl _
  cases hget : s.attempts[attempt]? with
  | none => simp [WaveScheduler.resolve, hget, makeFailure] at hresolve
  | some record =>
      rw [resolve_of_some hget] at hresolve
      obtain rfl := Except.ok.inj hresolve
      refine ⟨?_, fun id => UInt32.le_trans (hreleased _ _ _) (h.producers id),
        fun id => UInt32.le_trans (hreleased _ _ _) (h.consumers id)⟩
      show (if s.globalInFlight > 0 then s.globalInFlight - 1 else s.globalInFlight) ≤ _
      split
      · next hpos => exact UInt32.le_trans (hless _ hpos) h.global
      · exact h.global

/-- Nothing is in flight. -/
structure Grounded (s : WaveScheduler) : Prop where
  global : s.globalInFlight = 0
  producers : s.producerInFlight = {}
  consumers : s.consumerInFlight = {}
  attempts : s.attempts = {}
  edges : s.edgeAttempts = {}

theorem grounded_abandonAll (s : WaveScheduler) : s.abandonAll.Grounded := ⟨rfl, rfl, rfl, rfl, rfl⟩

theorem Grounded.accounted {s : WaveScheduler} (h : s.Grounded) : s.Accounted := by
  refine ⟨?_, fun id => ?_, fun id => ?_, fun key attempt => ?_⟩
  · rw [h.global, h.attempts]
    rfl
  · rw [h.producers, h.attempts]
    simp
  · rw [h.consumers, h.attempts]
    simp
  · rw [h.edges, h.attempts]
    simp

theorem Grounded.within {s : WaveScheduler} (h : s.Grounded) (concurrency : ConcurrencyLimits) :
    s.Within concurrency := by
  have hzero : ∀ bound : UInt32, 0 ≤ bound := fun bound => by
    rw [UInt32.le_iff_toNat_le]
    exact Nat.zero_le _
  refine ⟨h.global ▸ hzero _, fun id => ?_, fun id => ?_⟩
  · rw [h.producers]
    exact hzero _
  · rw [h.consumers]
    exact hzero _

namespace WaveLoop

/-! ## A grant -/

theorem Still.accounted {env : SchedulingEnvironment} {w w' : WaveLoop} (h : Still env w w')
    (hw : w.scheduler.Accounted) : w'.scheduler.Accounted :=
  ⟨by rw [h.globalInFlight, h.attempts]; exact hw.global,
    fun id => by rw [h.producerInFlight, h.attempts]; exact hw.producers id,
    fun id => by rw [h.consumerInFlight, h.attempts]; exact hw.consumers id,
    fun key attempt => by rw [h.edgeAttempts, h.attempts]; exact hw.edges key attempt⟩

theorem Still.within {env : SchedulingEnvironment} {w w' : WaveLoop} (h : Still env w w')
    {concurrency : ConcurrencyLimits} (hw : w.scheduler.Within concurrency) :
    w'.scheduler.Within concurrency :=
  ⟨h.globalInFlight ▸ hw.global, fun id => h.producerInFlight id ▸ hw.producers id,
    fun id => h.consumerInFlight id ▸ hw.consumers id⟩

/-- A counter below a bound has room for one more. -/
theorem toNat_succ_of_lt {count bound : UInt32} (h : count < bound) :
    (count + 1).toNat = count.toNat + 1 ∧ count + 1 ≤ bound := by
  rw [UInt32.lt_iff_toNat_lt] at h
  have hbound := bound.toNat_lt
  have hsucc : (count + 1).toNat = count.toNat + 1 := by
    rw [UInt32.toNat_add]
    exact Nat.mod_eq_of_lt (by simp; omega)
  exact ⟨hsucc, by rw [UInt32.le_iff_toNat_le, hsucc]; omega⟩

/-- A counter of the entries of a table grows with the table. -/
theorem toNat_insert {m : Std.ExtTreeMap UInt64 AttemptRecord} {attempt : UInt64}
    (hnew : m[attempt]? = none) (record : AttemptRecord) (owner : AttemptRecord → UInt64)
    {inFlight : Std.ExtTreeMap UInt64 UInt32} {bound : UInt32}
    (hroom : inFlight.getD (owner record) 0 < bound)
    (h : ∀ id, (inFlight.getD id 0).toNat = tally m (owner · == id)) (id : UInt64) :
    ((inFlight.insert (owner record) (inFlight.getD (owner record) 0 + 1)).getD id 0).toNat =
      tally (m.insertIfNew attempt record) (owner · == id) := by
  rw [insertIfNew_of_none hnew, tally_insert hnew, Std.ExtTreeMap.getD_insert]
  by_cases hsame : owner record = id
  · subst hsame
    rw [if_pos Std.compare_self, (toNat_succ_of_lt hroom).1, h]
    simp
  · have hne : (owner record == id) = false := by simpa using hsame
    rw [if_neg (fun hcmp => hsame (Std.LawfulEqOrd.eq_of_compare hcmp)), h, hne]
    rfl

theorem Issues.accounted {env : SchedulingEnvironment} {w w' : WaveLoop} {grant : DispatchGrant}
    (h : Issues env w w' grant) (hw : w.scheduler.Accounted)
    (hfresh : w.scheduler.attempts[grant.attempt]? = none) : w'.scheduler.Accounted := by
  obtain ⟨w₁, hstill, rfl⟩ := h.issue
  have hw₁ := hstill.accounted hw
  have hnew : w₁.scheduler.attempts[grant.attempt]? = none := hstill.attempts ▸ hfresh
  have hsource := hstill.producerInFlight grant.producer ▸ h.source
  have hdestination := hstill.consumerInFlight grant.consumer ▸ h.destination
  have hglobal := hstill.globalInFlight ▸ h.global
  have hfree : w₁.scheduler.edgeAttempts[grant.key]? = none :=
    hstill.edgeAttempts ▸ h.eligible.notInFlight
  let record : AttemptRecord :=
    ⟨grant.key, w₁.plan.id, grant.attemptOrdinal, grant.producer, grant.consumer⟩
  refine ⟨?_, fun id => toNat_insert hnew record (·.producer) hsource hw₁.producers id,
    fun id => toNat_insert hnew record (·.consumer) hdestination hw₁.consumers id,
    fun key attempt => ?_⟩
  · show (w₁.scheduler.globalInFlight + 1).toNat = (w₁.scheduler.attempts.insertIfNew _ _).size
    rw [insertIfNew_of_none hnew, ← tally_true, tally_insert hnew, tally_true,
      (toNat_succ_of_lt hglobal).1, hw₁.global]
    rfl
  · show (w₁.scheduler.edgeAttempts.insertIfNew _ _)[key]? = _ ↔
      ∃ record, (w₁.scheduler.attempts.insertIfNew _ _)[attempt]? = _ ∧ _
    rw [insertIfNew_of_none hnew, insertIfNew_of_none hfree]
    simp only [Std.ExtTreeMap.getElem?_insert, Std.compare_eq_iff_eq]
    constructor
    · intro hedge
      split at hedge
      · next hkey =>
          obtain rfl := Option.some.inj hedge
          exact ⟨_, if_pos rfl, hkey⟩
      · obtain ⟨record, hrecord, hkey⟩ := (hw₁.edges key attempt).mp hedge
        refine ⟨record, ?_, hkey⟩
        rw [if_neg]
        · exact hrecord
        · rintro rfl
          rw [hnew] at hrecord
          cases hrecord
    · rintro ⟨record, hrecord, rfl⟩
      split at hrecord
      · next hattempt =>
          obtain rfl := Option.some.inj hrecord
          rw [if_pos rfl, hattempt]
      · have hedge := (hw₁.edges record.key attempt).mpr ⟨record, hrecord, rfl⟩
        rw [if_neg]
        · exact hedge
        · intro hkey
          rw [← hkey, hfree] at hedge
          cases hedge

theorem Issues.within {env : SchedulingEnvironment} {w w' : WaveLoop} {grant : DispatchGrant}
    (h : Issues env w w' grant) (hw : w.scheduler.Within w.scheduler.policy.concurrency) :
    w'.scheduler.Within w.scheduler.policy.concurrency := by
  obtain ⟨w₁, hstill, rfl⟩ := h.issue
  have hw₁ := hstill.within hw
  have hsource := hstill.producerInFlight grant.producer ▸ h.source
  have hdestination := hstill.consumerInFlight grant.consumer ▸ h.destination
  have hglobal := hstill.globalInFlight ▸ h.global
  have hcounted : ∀ {inFlight : Std.ExtTreeMap UInt64 UInt32} {owner : UInt64} {bound : UInt32},
      inFlight.getD owner 0 < bound → (∀ id, inFlight.getD id 0 ≤ bound) →
      ∀ id, (inFlight.insert owner (inFlight.getD owner 0 + 1)).getD id 0 ≤ bound := by
    intro inFlight owner bound hroom hle id
    rw [Std.ExtTreeMap.getD_insert]
    split
    · exact (toNat_succ_of_lt hroom).2
    · exact hle id
  exact ⟨(toNat_succ_of_lt hglobal).2, hcounted hsource hw₁.producers,
    hcounted hdestination hw₁.consumers⟩

/-! ## The loop -/

/-- What a turn keeps while there may be more grants, the loop keeps. -/
theorem run_induction {env : SchedulingEnvironment} {target : Nat} {P : WaveLoop → Prop}
    (hturn : ∀ w, w.plan.grants.length < target → P w → P (w.turn env)) (budget : Nat)
    {w : WaveLoop} (h : P w) : P (run env target budget w) := by
  induction budget generalizing w with
  | zero => exact h
  | succ budget ih =>
      unfold WaveLoop.run
      split
      · next hmore => exact ih (hturn w hmore.1 h)
      · exact h

/-- A plan only grows. -/
theorem grants_run (env : SchedulingEnvironment) (target budget : Nat) (w : WaveLoop) :
    w.plan.grants <+: (run env target budget w).plan.grants := by
  refine run_induction (P := fun w' => w.plan.grants <+: w'.plan.grants) (fun w' _ h => ?_) budget
    (List.prefix_refl _)
  rcases turn_cases env w' with hq | ⟨grant, hg⟩
  · rw [hq.grants]
    exact h
  · rw [hg.grants]
    exact h.trans (List.prefix_append _ _)

/-- The attempts in flight are those from before the wave and those of the plan; an
identifier that is taken keeps its attempt. -/
def Listed (s : WaveScheduler) (w : WaveLoop) : Prop :=
  ∀ a : TransferAttemptId, (w.scheduler.attempts[a]?).map AttemptRecord.parties =
    ((s.attempts[a]?).map AttemptRecord.parties).or
      ((w.plan.grants.find? (·.attempt == a)).map DispatchGrant.parties)

theorem Listed.turn {s : WaveScheduler} {w : WaveLoop} (h : Listed s w)
    (env : SchedulingEnvironment) : Listed s (w.turn env) := by
  intro a
  rcases turn_cases env w with hq | ⟨grant, hg⟩
  · rw [hq.attempts, hq.grants]
    exact h a
  · rw [hg.attempts, hg.grants, List.find?_append, Std.ExtTreeMap.getElem?_insertIfNew]
    have ha := h a
    by_cases hsame : grant.attempt = a
    · subst hsame
      cases hget : w.scheduler.attempts[grant.attempt]? with
      | none =>
          have hnew : grant.attempt ∉ w.scheduler.attempts := by
            rw [← Std.ExtTreeMap.isSome_getElem?_iff_mem, hget]
            exact Bool.false_ne_true
          rw [hget] at ha
          obtain ⟨hs, hplan⟩ := Option.or_eq_none_iff.mp ha.symm
          rw [if_pos ⟨Std.compare_self, hnew⟩, hs, Option.map_eq_none_iff.mp hplan]
          simp [AttemptRecord.parties, DispatchGrant.parties]
      | some record =>
          have hold : grant.attempt ∈ w.scheduler.attempts := by
            rw [← Std.ExtTreeMap.isSome_getElem?_iff_mem, hget]
            rfl
          rw [if_neg (fun hboth => hboth.2 hold), ← hget, ha]
          rw [hget] at ha
          cases hs : (s.attempts[grant.attempt]?).map AttemptRecord.parties with
          | some parties => rfl
          | none =>
              rw [hs, Option.none_or] at ha
              cases hfind : w.plan.grants.find? (·.attempt == grant.attempt) with
              | some g => rfl
              | none =>
                  rw [hfind] at ha
                  cases ha
    · have hne : ¬(compare grant.attempt a = .eq ∧ ¬grant.attempt ∈ w.scheduler.attempts) :=
        fun hboth => hsame (Std.LawfulEqOrd.eq_of_compare hboth.1)
      rw [if_neg hne, ha]
      simp [hsame]

/-- The counters after some turns of a wave that found its identifiers free. -/
structure Flown (s : WaveScheduler) (w : WaveLoop) : Prop where
  accounted : w.scheduler.Accounted
  within : w.scheduler.Within s.policy.concurrency

/-- The identifiers of one plan are different. -/
theorem Progress.attempt_ne {env : SchedulingEnvironment} {s : WaveScheduler} {w : WaveLoop}
    (h : Progress env s w) (hlen : w.plan.grants.length < 2 ^ 32) {grant : DispatchGrant}
    (hgrant : grant ∈ w.plan.grants) : grant.attempt ≠ w.scheduler.nextAttemptId := by
  obtain ⟨i, hi, hget⟩ := List.getElem_of_mem hgrant
  have hattempt := h.attempt i grant (by rw [List.getElem?_eq_getElem hi, hget])
  rw [hattempt, h.nextAttemptId]
  intro heq
  have heq := congrArg UInt64.toNat (add_left_cancel heq)
  rw [UInt64.toNat_ofNat', UInt64.toNat_ofNat', Nat.mod_eq_of_lt (by omega),
    Nat.mod_eq_of_lt (by omega)] at heq
  omega

theorem Flown.run {env : SchedulingEnvironment} {s : WaveScheduler} {target : Nat}
    (htarget : target < 2 ^ 32) (budget : Nat) {w : WaveLoop} (h : Flown s w)
    (hprogress : Progress env s w) (hlisted : Listed s w)
    (hfresh : ∀ grant ∈ (WaveLoop.run env target budget w).plan.grants,
      s.attempts[grant.attempt]? = none) : Flown s (WaveLoop.run env target budget w) := by
  induction budget generalizing w with
  | zero => exact h
  | succ budget ih =>
      have hgrow := grants_run env target budget (w.turn env)
      unfold WaveLoop.run at hfresh ⊢
      split
      · next hmore =>
          rw [if_pos hmore] at hfresh
          refine ih ?_ hprogress.turn (hlisted.turn env) hfresh
          rcases turned env w with hstill | ⟨grant, hissue⟩
          · exact ⟨hstill.accounted h.accounted, hstill.within h.within⟩
          · have hmem : grant ∈ (w.turn env).plan.grants := by
              rw [hissue.grants.grants]
              exact List.mem_append_right _ List.mem_cons_self
            have hold := hfresh grant (hgrow.subset hmem)
            have hfree : w.scheduler.attempts[grant.attempt]? = none := by
              have ha := hlisted grant.attempt
              rw [hold, Option.map_none, Option.none_or] at ha
              cases hfind : w.plan.grants.find? (·.attempt == grant.attempt) with
              | none => simpa [hfind] using ha
              | some g =>
                  have hattempt : g.attempt = grant.attempt := by
                    simpa using List.find?_some hfind
                  exact absurd (hattempt.trans hissue.attempt) (hprogress.attempt_ne (by omega)
                    (List.mem_of_find?_eq_some hfind))
            have hwithin := h.within
            rw [← hprogress.policy] at hwithin
            exact ⟨hissue.accounted h.accounted hfree, hprogress.policy ▸ hissue.within hwithin⟩
      · exact h

/-! ## Gates -/

/-- Everything a grant of a plan had to pass, seen from the start of the wave. -/
structure Cleared (env : SchedulingEnvironment) (s : WaveScheduler) (grant : DispatchGrant) :
    Prop where
  eligible : Eligible env s.policy s.edgeAttempts grant
  totalBytes : grant.totalBytes = (env.partitionFacts grant.partition).totalBytes
  incarnation :
    grant.producerIncarnation = (env.partitionFacts grant.partition).producerIncarnation
  sourceFree : Unpaused s.policy.congestion (env.producerPressure grant.producer)
    (s.producerPaused.getD grant.producer false)
  destinationFree : Unpaused s.policy.congestion (env.consumerPressure grant.consumer)
    (s.consumerPaused.getD grant.consumer false)

/-- The plan so far: every grant is cleared and has its edge to itself. -/
structure Gated (env : SchedulingEnvironment) (s : WaveScheduler) (w : WaveLoop) : Prop where
  policy : w.scheduler.policy = s.policy
  sources : ∀ id, Unpaused s.policy.congestion (env.producerPressure id)
      (w.scheduler.producerPaused.getD id false) ↔
    Unpaused s.policy.congestion (env.producerPressure id) (s.producerPaused.getD id false)
  destinations : ∀ id, Unpaused s.policy.congestion (env.consumerPressure id)
      (w.scheduler.consumerPaused.getD id false) ↔
    Unpaused s.policy.congestion (env.consumerPressure id) (s.consumerPaused.getD id false)
  inFlight : ∀ key : EdgeKey, s.edgeAttempts[key]?.isSome → w.scheduler.edgeAttempts[key]?.isSome
  taken : ∀ grant ∈ w.plan.grants, w.scheduler.edgeAttempts[grant.key]?.isSome
  cleared : ∀ grant ∈ w.plan.grants, Cleared env s grant
  nodup : (w.plan.grants.map (·.key)).Nodup

theorem Gated.start (env : SchedulingEnvironment) (s : WaveScheduler) (id : WaveId) :
    Gated env s { scheduler := s, plan := { id } } :=
  ⟨rfl, fun _ => .rfl, fun _ => .rfl, fun _ h => h, by simp, by simp, by simp⟩

theorem Gated.turn {env : SchedulingEnvironment} {s : WaveScheduler} {w : WaveLoop}
    (h : Gated env s w) : Gated env s (w.turn env) := by
  rcases turned env w with hstill | ⟨grant, hissue⟩
  · have hsources := hstill.producerPaused
    have hdestinations := hstill.consumerPaused
    rw [h.policy] at hsources hdestinations
    exact ⟨hstill.policy.trans h.policy, fun id => (hsources id).trans (h.sources id),
      fun id => (hdestinations id).trans (h.destinations id),
      fun key hkey => hstill.edgeAttempts ▸ h.inFlight key hkey,
      hstill.grants ▸ hstill.edgeAttempts ▸ h.taken, hstill.grants ▸ h.cleared,
      hstill.grants ▸ h.nodup⟩
  · obtain ⟨w₁, hstill, heq⟩ := hissue.issue
    have hsources := hstill.producerPaused
    have hdestinations := hstill.consumerPaused
    have hsourceFree := hissue.sourceFree
    have hdestinationFree := hissue.destinationFree
    have heligible := hissue.eligible
    rw [h.policy] at hsources hdestinations hsourceFree hdestinationFree heligible
    have hgrants := hissue.grants
    have hkept : ∀ key : EdgeKey, w.scheduler.edgeAttempts[key]?.isSome →
        (w.turn env).scheduler.edgeAttempts[key]?.isSome := by
      intro key hkey
      rw [hgrants.edgeAttempts, Std.ExtTreeMap.getElem?_insertIfNew]
      split
      · rfl
      · exact hkey
    have hkey : (w.turn env).scheduler.edgeAttempts[grant.key]?.isSome := by
      rw [hgrants.edgeAttempts, insertIfNew_of_none heligible.notInFlight]
      simp
    have hnew : s.edgeAttempts[grant.key]? = none := by
      by_contra hsome
      have hin := h.inFlight grant.key (Option.isSome_iff_ne_none.mpr hsome)
      rw [heligible.notInFlight] at hin
      cases hin
    have hcleared : Cleared env s grant :=
      ⟨⟨heligible.produced, heligible.generation, heligible.digest, heligible.owner,
        heligible.producer, heligible.consumer, heligible.required, heligible.unresolved,
        heligible.ordinal, heligible.budget, hnew, heligible.ready⟩, hissue.totalBytes,
        hissue.incarnation, (h.sources _).mp hsourceFree, (h.destinations _).mp hdestinationFree⟩
    refine ⟨hgrants.policy.trans h.policy, fun id => ?_, fun id => ?_,
      fun key hin => hkept key (h.inFlight key hin), fun g hg => ?_, fun g hg => ?_, ?_⟩
    · rw [heq]
      exact (hsources id).trans (h.sources id)
    · rw [heq]
      exact (hdestinations id).trans (h.destinations id)
    · rw [hgrants.grants] at hg
      rcases List.mem_append.mp hg with hg | hg
      · exact hkept _ (h.taken g hg)
      · rw [List.mem_singleton.mp hg]
        exact hkey
    · rw [hgrants.grants] at hg
      rcases List.mem_append.mp hg with hg | hg
      · exact h.cleared g hg
      · rw [List.mem_singleton.mp hg]
        exact hcleared
    · rw [hgrants.grants, List.map_append, List.nodup_append]
      refine ⟨h.nodup, by simp, ?_⟩
      rintro key hmem _ hlast rfl
      obtain ⟨g, hg, rfl⟩ := List.mem_map.mp hmem
      have htaken := h.taken g hg
      have hsame : g.key = grant.key := by simpa using hlast
      rw [hsame, heligible.notInFlight] at htaken
      cases htaken

/-- A wave works under the setup it found. -/
theorem setup_run (env : SchedulingEnvironment) (target budget : Nat) (w : WaveLoop) :
    (run env target budget w).scheduler.setup = w.scheduler.setup ∧
      (run env target budget w).scheduler.policy = w.scheduler.policy ∧
      (run env target budget w).scheduler.partitionCount = w.scheduler.partitionCount := by
  refine run_induction (P := fun w' => w'.scheduler.setup = w.scheduler.setup ∧
    w'.scheduler.policy = w.scheduler.policy ∧
    w'.scheduler.partitionCount = w.scheduler.partitionCount) (fun w' _ h => ?_) budget
    ⟨rfl, rfl, rfl⟩
  rcases turned env w' with hstill | ⟨grant, hissue⟩
  · exact ⟨hstill.setup.trans h.1, hstill.policy.trans h.2.1, hstill.partitionCount.trans h.2.2⟩
  · obtain ⟨w₁, hstill, heq⟩ := hissue.issue
    rw [heq]
    exact ⟨hstill.setup.trans h.1, hstill.policy.trans h.2.1, hstill.partitionCount.trans h.2.2⟩

end WaveLoop

/-! ## A wave -/

/-- The loop behind a plan. -/
def waveLoop (s : WaveScheduler) (env : SchedulingEnvironment) : WaveLoop :=
  WaveLoop.run env s.policy.waves.maxGrantsPerWave.toNat
    s.policy.waves.maxEdgesExaminedPerWave.toNat { scheduler := s, plan := { id := s.nextWaveId } }

/-- A plan comes from the loop, unless there is nothing to walk. -/
theorem nextWave_ok {s s' : WaveScheduler} {env : SchedulingEnvironment} {plan : WavePlan}
    (h : s.nextWave env = .ok (plan, s')) :
    ((s.partitionCount = 0 ∨ env.topology.patternOrder = []) ∧
      plan = { id := s.nextWaveId, allResolved := true } ∧ s' = s) ∨
    (¬(s.partitionCount = 0 ∨ env.topology.patternOrder = []) ∧
      plan.grants = (s.waveLoop env).plan.grants ∧
      (∃ nextWaveId, s' = { (s.waveLoop env).scheduler with nextWaveId }) ∧
      plan.allResolved = ((s.waveLoop env).plan.grants.isEmpty && (s.waveLoop env).wrapped &&
        (s.waveLoop env).plan.deferredLimits == 0 &&
        (s.waveLoop env).plan.deferredSourcePressure == 0 &&
        (s.waveLoop env).plan.deferredDestinationPressure == 0 &&
        (s.waveLoop env).plan.deferredUnknownPressure == 0 &&
        (s.waveLoop env).plan.deferredRetryWait == 0 &&
        (s.waveLoop env).plan.skippedInFlight == 0 &&
        (s.waveLoop env).plan.skippedUnproduced == 0)) := by
  simp only [nextWave, bind_eq_ok, refuseIf_eq_ok, exists_const] at h
  obtain ⟨-, -, -, h⟩ := h
  split at h
  · next hempty =>
      obtain ⟨rfl, rfl⟩ := Prod.mk.inj (pure_eq_ok.mp h)
      exact .inl ⟨hempty, rfl, rfl⟩
  · next hsome =>
      obtain ⟨rfl, rfl⟩ := Prod.mk.inj (pure_eq_ok.mp h)
      exact .inr ⟨hsome, rfl, ⟨_, rfl⟩, rfl⟩

/-- Every grant of a plan passed every gate, and no edge is granted twice. -/
theorem nextWave_cleared {s s' : WaveScheduler} {env : SchedulingEnvironment} {plan : WavePlan}
    (h : s.nextWave env = .ok (plan, s')) :
    (∀ grant ∈ plan.grants, WaveLoop.Cleared env s grant) ∧ (plan.grants.map (·.key)).Nodup := by
  rcases nextWave_ok h with ⟨-, rfl, -⟩ | ⟨-, hgrants, -⟩
  · simp
  · have hgated : WaveLoop.Gated env s (s.waveLoop env) :=
      WaveLoop.run_induction (fun w _ hw => hw.turn) _ (WaveLoop.Gated.start env s s.nextWaveId)
    rw [hgrants]
    exact ⟨hgated.cleared, hgated.nodup⟩

/-- The attempts in flight behind a wave. -/
theorem nextWave_attempts_listed {s s' : WaveScheduler} {env : SchedulingEnvironment}
    {plan : WavePlan} (h : s.nextWave env = .ok (plan, s')) (a : TransferAttemptId) :
    (s'.attempts[a]?).map AttemptRecord.parties =
      ((s.attempts[a]?).map AttemptRecord.parties).or
        ((plan.grants.find? (·.attempt == a)).map DispatchGrant.parties) := by
  rcases nextWave_ok h with ⟨-, rfl, rfl⟩ | ⟨-, hgrants, ⟨nextWaveId, rfl⟩, -⟩
  · simp
  · have hlisted : WaveLoop.Listed s (s.waveLoop env) :=
      WaveLoop.run_induction (P := WaveLoop.Listed s) (fun w _ hw => hw.turn env) _
        (fun a => by simp)
    rw [hgrants]
    exact hlisted a

/-- A wave that finds the identifiers it hands out free keeps the accounts. -/
theorem nextWave_accounted {s s' : WaveScheduler} {env : SchedulingEnvironment} {plan : WavePlan}
    (h : s.nextWave env = .ok (plan, s')) (haccounted : s.Accounted)
    (hwithin : s.Within s.policy.concurrency)
    (hfresh : ∀ grant ∈ plan.grants, s.attempts[grant.attempt]? = none) :
    s'.Accounted ∧ s'.Within s.policy.concurrency := by
  rcases nextWave_ok h with ⟨-, -, rfl⟩ | ⟨-, hgrants, ⟨nextWaveId, rfl⟩, -⟩
  · exact ⟨haccounted, hwithin⟩
  · have hstart : WaveLoop.Progress env s { scheduler := s, plan := { id := s.nextWaveId } } :=
      ⟨by simp, rfl, by simp, by simp, fun _ hkey => hkey⟩
    have hlisted : WaveLoop.Listed s { scheduler := s, plan := { id := s.nextWaveId } } :=
      fun a => by simp
    have hflown := WaveLoop.Flown.run s.policy.waves.maxGrantsPerWave.toNat_lt
      s.policy.waves.maxEdgesExaminedPerWave.toNat ⟨haccounted, hwithin⟩ hstart hlisted
      (hgrants ▸ hfresh)
    exact ⟨⟨hflown.accounted.global, hflown.accounted.producers, hflown.accounted.consumers,
      hflown.accounted.edges⟩, ⟨hflown.within.global, hflown.within.producers,
      hflown.within.consumers⟩⟩

/-- A wave moves pause flags, but opens and closes no gate. -/
theorem nextWave_gates {s s' : WaveScheduler} {env : SchedulingEnvironment} {plan : WavePlan}
    (h : s.nextWave env = .ok (plan, s')) (id : UInt64) :
    (Unpaused s.policy.congestion (env.producerPressure id) (s'.producerPaused.getD id false) ↔
      Unpaused s.policy.congestion (env.producerPressure id) (s.producerPaused.getD id false)) ∧
    (Unpaused s.policy.congestion (env.consumerPressure id) (s'.consumerPaused.getD id false) ↔
      Unpaused s.policy.congestion (env.consumerPressure id)
        (s.consumerPaused.getD id false)) := by
  rcases nextWave_ok h with ⟨-, -, rfl⟩ | ⟨-, -, ⟨nextWaveId, rfl⟩, -⟩
  · exact ⟨.rfl, .rfl⟩
  · have hgated : WaveLoop.Gated env s (s.waveLoop env) :=
      WaveLoop.run_induction (fun w _ hw => hw.turn) _ (WaveLoop.Gated.start env s s.nextWaveId)
    exact ⟨hgated.sources id, hgated.destinations id⟩

theorem nextWave_setup {s s' : WaveScheduler} {env : SchedulingEnvironment} {plan : WavePlan}
    (h : s.nextWave env = .ok (plan, s')) :
    s'.configured = s.configured ∧ s'.policy = s.policy ∧ s'.partitionCount = s.partitionCount ∧
      s'.topologyGeneration = s.topologyGeneration ∧ s'.policyGeneration = s.policyGeneration ∧
      s'.shuffle = s.shuffle ∧ s'.shuffleGeneration = s.shuffleGeneration := by
  rcases nextWave_ok h with ⟨-, -, rfl⟩ | ⟨-, -, ⟨nextWaveId, rfl⟩, -⟩
  · exact ⟨rfl, rfl, rfl, rfl, rfl, rfl, rfl⟩
  · obtain ⟨hsetup, hpolicy, hcount⟩ := WaveLoop.setup_run env
      s.policy.waves.maxGrantsPerWave.toNat s.policy.waves.maxEdgesExaminedPerWave.toNat
      { scheduler := s, plan := { id := s.nextWaveId } }
    simp only [setup, Prod.mk.injEq] at hsetup
    obtain ⟨hconfigured, hshuffle, hgeneration, htopology, hpolicyGeneration, -⟩ := hsetup
    exact ⟨hconfigured, hpolicy, hcount, htopology, hpolicyGeneration, hshuffle, hgeneration⟩

end WaveScheduler

end ShuffleFabric
