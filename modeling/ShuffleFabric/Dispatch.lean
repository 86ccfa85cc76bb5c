import ShuffleFabric.Hysteresis

/-!
# ShuffleFabric.Dispatch

What a wave hands out, over whole runs.

The counter that names attempts never goes round in a run that is short enough, so a wave
finds its identifiers free and the tables of the attempts in flight stay in step
(`flight_tracked`).  Every grant has everything behind it that the shuffle asks for
(`grants_vouched`): the accepted manifest, the registered participants, an edge that is
still open, and two open gates.
-/

namespace ShuffleFabric

open Lib Action

namespace WaveScheduler

/-! ## The counter of attempts -/

/-- Every identifier in flight lies below the counter, which has named at most so many
waves of attempts. -/
structure Numbered (waves : Nat) (s : WaveScheduler) : Prop where
  next : s.nextAttemptId.toNat ≤ waves * (2 ^ 32 - 1) + 1
  below : ∀ (a : TransferAttemptId) (record : AttemptRecord), s.attempts[a]? = some record →
    a < s.nextAttemptId

/-- The counter stays, and nothing new is in flight. -/
theorem Numbered.kept {waves : Nat} {s s' : WaveScheduler} (h : s.Numbered waves)
    (hnext : s'.nextAttemptId = s.nextAttemptId)
    (hattempts : ∀ a : TransferAttemptId, s.attempts[a]? = none → s'.attempts[a]? = none) :
    s'.Numbered (waves + 1) where
  next := by
    rw [hnext]
    exact Nat.le_trans h.next (by omega)
  below a record hrecord := by
    rw [hnext]
    cases hold : s.attempts[a]? with
    | none => simp [hattempts a hold] at hrecord
    | some old => exact h.below a old hold

theorem Numbered.congr {waves : Nat} {s s' : WaveScheduler} (h : s.Numbered waves)
    (hnext : s'.nextAttemptId = s.nextAttemptId) (hattempts : s'.attempts = s.attempts) :
    s'.Numbered waves :=
  ⟨hnext ▸ h.next, by rw [hnext, hattempts]; exact h.below⟩

/-- The identifiers of a plan, as numbers. -/
theorem Numbered.toNat_add {waves : Nat} {s : WaveScheduler} (h : s.Numbered waves)
    (hwaves : waves < 2 ^ 32) {i : Nat} (hi : i < 2 ^ 32) :
    (s.nextAttemptId + UInt64.ofNat i).toNat = s.nextAttemptId.toNat + i := by
  have hnext := h.next
  rw [UInt64.toNat_add, UInt64.toNat_ofNat', Nat.mod_eq_of_lt (by omega : i < 2 ^ 64),
    Nat.mod_eq_of_lt (by omega)]

/-- The counter behind a wave. -/
theorem nextWave_nextAttemptId {s s' : WaveScheduler} {env : SchedulingEnvironment}
    {plan : WavePlan} (h : s.nextWave env = .ok (plan, s')) :
    s'.nextAttemptId = s.nextAttemptId + UInt64.ofNat plan.grants.length := by
  rcases nextWave_ok h with ⟨-, rfl, rfl⟩ | ⟨-, hgrants, ⟨nextWaveId, rfl⟩, -⟩
  · simp
  · have hstart : WaveLoop.Progress env s { scheduler := s, plan := { id := s.nextWaveId } } :=
      ⟨by simp, rfl, by simp, by simp, fun _ hkey => hkey⟩
    rw [hgrants]
    exact (hstart.run s.policy.waves.maxEdgesExaminedPerWave.toNat
      (Nat.zero_le s.policy.waves.maxGrantsPerWave.toNat)).1.nextAttemptId

/-- A wave names its attempts with identifiers that are free and differ. -/
theorem Numbered.nextWave {waves : Nat} {s s' : WaveScheduler} (h : s.Numbered waves)
    (hwaves : waves < 2 ^ 32) {env : SchedulingEnvironment} {plan : WavePlan}
    (hwave : s.nextWave env = .ok (plan, s')) :
    s'.Numbered (waves + 1) ∧ (∀ grant ∈ plan.grants, s.attempts[grant.attempt]? = none) ∧
      (plan.grants.map (·.attempt)).Nodup := by
  obtain ⟨hlength, hattempt, -⟩ := nextWave_grants hwave
  have hbound := s.policy.waves.maxGrantsPerWave.toNat_lt
  have hnumber : ∀ (i : Nat) (grant : DispatchGrant), plan.grants[i]? = some grant →
      i < plan.grants.length ∧ grant.attempt.toNat = s.nextAttemptId.toNat + i := by
    intro i grant hget
    obtain ⟨hi, -⟩ := List.getElem?_eq_some_iff.mp hget
    rw [hattempt i grant hget]
    exact ⟨hi, h.toNat_add hwaves (by omega)⟩
  have hnext : s'.nextAttemptId.toNat = s.nextAttemptId.toNat + plan.grants.length := by
    rw [nextWave_nextAttemptId hwave]
    exact h.toNat_add hwaves (by omega)
  refine ⟨⟨?_, fun a record hrecord => ?_⟩, fun grant hgrant => ?_, ?_⟩
  · have := h.next
    omega
  · have hlisted := nextWave_attempts_listed hwave a
    rw [hrecord, Option.map_some] at hlisted
    rw [UInt64.lt_iff_toNat_lt, hnext]
    cases hold : s.attempts[a]? with
    | some old =>
        have hbelow := UInt64.lt_iff_toNat_lt.mp (h.below a old hold)
        omega
    | none =>
        rw [hold, Option.map_none, Option.none_or] at hlisted
        obtain ⟨grant, hfind, -⟩ := Option.map_eq_some_iff.mp hlisted.symm
        obtain ⟨i, hget⟩ := List.getElem?_of_mem (List.mem_of_find?_eq_some hfind)
        have hsame : grant.attempt = a := by simpa using List.find?_some hfind
        obtain ⟨hi, hvalue⟩ := hnumber i grant hget
        rw [← hsame]
        omega
  · obtain ⟨i, hget⟩ := List.getElem?_of_mem hgrant
    cases hold : s.attempts[grant.attempt]? with
    | none => rfl
    | some old =>
        have hbelow := UInt64.lt_iff_toNat_lt.mp (h.below _ old hold)
        have hvalue := (hnumber i grant hget).2
        omega
  · refine List.nodup_iff_getElem?_ne_getElem?.mpr fun i j hij hj heq => ?_
    rw [List.length_map] at hj
    rw [List.getElem?_map, List.getElem?_map, List.getElem?_eq_getElem hj,
      List.getElem?_eq_getElem (by omega)] at heq
    have hi' := (hnumber i _ (List.getElem?_eq_getElem (by omega))).2
    have hj' := (hnumber j _ (List.getElem?_eq_getElem hj)).2
    have hsame : (plan.grants[i]).attempt = (plan.grants[j]).attempt := Option.some.inj heq
    rw [hsame] at hi'
    omega

end WaveScheduler

namespace Coordinator

/-! ## What a move does to the counter -/

/-- A move names no attempt, or it is a wave. -/
inductive NamingStep (c : Coordinator) (answer : Result Reply) (c' : Coordinator) : Prop
  | kept (next : c'.scheduler.nextAttemptId = c.scheduler.nextAttemptId)
      (attempts : ∀ a : TransferAttemptId, c.scheduler.attempts[a]? = none →
        c'.scheduler.attempts[a]? = none)
      (idle : ∀ plan, answer = .ok (.wave plan) → plan.grants = [])
  | waved (t : Topology) (scheduler : WaveScheduler) (plan : WavePlan)
      (open_ : c.ensureOpen = .ok t) (configured : c.ensureScheduler t = .ok scheduler)
      (wave : scheduler.nextWave (c.environment t) = .ok (plan, c'.scheduler))
      (registry : ∀ a : TransferAttemptId, c'.grants[a]? =
        (c.grants[a]?).or (plan.grants.find? (·.attempt == a)))
      (answer : answer = .ok (.wave plan))

/-- A scheduler that is left alone. -/
theorem NamingStep.of_scheduler {c c' : Coordinator} {answer : Result Reply}
    (hscheduler : c'.scheduler = c.scheduler)
    (hidle : ∀ plan, answer = .ok (.wave plan) → plan.grants = []) : NamingStep c answer c' :=
  .kept (by rw [hscheduler]) (by rw [hscheduler]; exact fun _ h => h) hidle

theorem Noted.scheduler {c c' : Coordinator} (h : Noted c c') : c'.scheduler = c.scheduler := by
  cases h with
  | incomplete => rfl
  | unstored => rfl
  | completed =>
      rw [entered_eq]
      simp only [completion, stateRecord, reduceCtorEq, or_self, if_false]
      rfl

/-- The end of an attempt leaves the counter alone. -/
theorem naming_of_resolveAttempt {c c₁ c' : Coordinator} {attempt : TransferAttemptId}
    {answer : Result Reply} (hnoted : Noted (c₁.resolveAttempt attempt) c')
    (hscheduler : c₁.scheduler = c.scheduler)
    (hidle : ∀ plan, answer = .ok (.wave plan) → plan.grants = []) : NamingStep c answer c' := by
  have hresolved : c'.scheduler = (c.scheduler.resolve attempt).toOption.getD c.scheduler := by
    rw [hnoted.scheduler, ← hscheduler]
    rfl
  cases hget : c.scheduler.attempts[attempt]? with
  | none =>
      refine .of_scheduler ?_ hidle
      rw [hresolved]
      simp [WaveScheduler.resolve, hget, makeFailure, Except.toOption]
  | some record =>
      rw [WaveScheduler.resolve_of_some hget] at hresolved
      refine .kept (by rw [hresolved]; rfl) (fun a ha => ?_) hidle
      have herased : c'.scheduler.attempts = c.scheduler.attempts.erase attempt := by
        rw [hresolved]
        rfl
      rw [herased, Std.ExtTreeMap.getElem?_erase, ha, ite_self]

theorem Transition.naming {c c' : Coordinator} {call : Call} {answer : Result Reply}
    (h : Transition c call answer c') : NamingStep c answer c' := by
  cases h with
  | refused => exact .of_scheduler rfl (by simp)
  | unstored => exact .of_scheduler rfl (by simp)
  | halfOpened request =>
      refine .of_scheduler ?_ (by simp)
      rw [opening, epochAdvanced_eq]
      rfl
  | opened request =>
      refine .of_scheduler ?_ (by simp)
      rw [entered_eq, opening, epochAdvanced_eq]
      simp only [stateRecord, reduceCtorEq, or_self, if_false]
      rfl
  | cancelledBefore => exact .of_scheduler rfl (by simp)
  | cancelled reason =>
      rw [entered_eq]
      simp only [stateRecord, reduceCtorEq, true_or, if_true, if_false]
      exact .kept rfl (fun a _ => by simp [WaveScheduler.abandonAll]) (by simp)
  | ticked => exact .of_scheduler rfl (by simp)
  | registered _ record t t' =>
      obtain ⟨producers, consumers, pending, heq⟩ := (c.persisted
        (DurableRecord.participant record).encode).joinedBy_eq t t' record
      rw [heq]
      exact .of_scheduler rfl (by simp)
  | stateSet kind id incarnation state t t' =>
      obtain ⟨producers, consumers, pending, heq⟩ := (c.persisted (DurableRecord.participant
        (c.stateChange t kind id incarnation state)).encode).joinedBy_eq t t'
        (c.stateChange t kind id incarnation state)
      rw [heq]
      exact .of_scheduler rfl (by simp)
  | published => exact .of_scheduler rfl (by simp)
  | unretired => exact .of_scheduler rfl (by simp)
  | nothingLeft =>
      refine .of_scheduler rfl fun plan hplan => ?_
      cases hplan
      rfl
  | unplanned t scheduler e hopen hconfigured =>
      obtain ⟨hnext, hattempts, -⟩ := ensureScheduler_kept hconfigured
      exact .kept hnext (fun a ha => (congrArg (·[a]?) hattempts).trans ha) (by simp)
  | planned t scheduler scheduler' plan hopen hconfigured hwave =>
      obtain ⟨grants, bytes, heq, -⟩ :=
        exists_foldl_admitGrant plan.grants { c with scheduler := scheduler' }
      have hregistry := grants_foldl_admitGrant plan.grants { c with scheduler := scheduler' }
      rw [heq] at hregistry ⊢
      exact .waved t scheduler plan hopen hconfigured hwave hregistry rfl
  | committed request receipt ledger _ _ _ _ hnoted =>
      exact naming_of_resolveAttempt hnoted rfl (by simp)
  | failed attempt code record ledger _ _ _ _ hnoted =>
      refine naming_of_resolveAttempt hnoted ?_ (by simp)
      rw [charged, advanceClock_eq]
      rfl
  | pressured intent =>
      exact .of_scheduler (c.recordPressure_gates intent).1 (by simp)

/-- The counter of a coordinator that recovered starts again. -/
theorem recover_nextAttemptId {snapshot : Bytes} {journal : List Bytes} {historyIncomplete : Bool}
    {c c' : Coordinator} (hc : c.Regular)
    (h : (recover snapshot journal historyIncomplete).exec c = (.ok (), c')) :
    c'.scheduler.nextAttemptId = 1 := by
  obtain ⟨replayed, scratch, hregular, hnext, hdemote, -, rfl, -, -⟩ :=
    recover_rebuilt (P := fun d => d.scheduler.nextAttemptId = 1) hc h rfl
      (fun d d' _ record _ hd _ happlied => by
        cases happlied with
        | epoch => rw [epochAdvanced_eq]; exact hd
        | state record =>
            rw [entered_eq]
            simp only
            split
            · exact hd
            · exact hd
        | participant record t t' =>
            obtain ⟨producers, consumers, pending, heq⟩ := d.joinedBy_eq t t' record
            rw [heq]
            exact hd
        | manifest => exact hd
        | commit => rw [advanceClock_eq]; exact hd
        | failure => rw [charged, advanceClock_eq]; exact hd)
      fun d ledger hd => hd
  obtain ⟨topology, producers, consumers, pending, rfl⟩ := demote_frame hregular hdemote
  rw [opening, epochAdvanced_eq]
  exact hnext

/-! ## Short runs -/

theorem MoveStep.numbered {waves : Nat} {c c' : Coordinator} {m : Move} {answer : Result Reply}
    (h : MoveStep c m answer c') (hregular : c.Regular) (hc : c.scheduler.Numbered waves)
    (hwaves : waves < 2 ^ 32) : c'.scheduler.Numbered (waves + 1) ∧ c.Untaken answer := by
  cases h with
  | called call _ _ htransition =>
      cases htransition.naming with
      | kept hnext hattempts hidle =>
          exact ⟨hc.kept hnext hattempts, fun plan hplan => by simp [hidle plan hplan]⟩
      | waved t scheduler plan _ hconfigured hwave _ hanswer =>
          obtain ⟨hnext, hattempts, -⟩ := ensureScheduler_kept hconfigured
          obtain ⟨hafter, hfree, -⟩ := (hc.congr hnext hattempts).nextWave hwaves hwave
          refine ⟨hafter, fun plan' hplan' => ?_⟩
          rw [hanswer] at hplan'
          cases hplan'
          rw [← hattempts]
          exact hfree
  | unrecovered => exact ⟨hc.kept rfl fun _ h => h, by simp [Untaken]⟩
  | recovered snapshot journal historyIncomplete _ hrun =>
      obtain ⟨hgrounded, -, -⟩ := recover_scheduler hregular hrun
      refine ⟨⟨?_, ?_⟩, by simp [Untaken]⟩
      · rw [recover_nextAttemptId hregular hrun]
        simp
      · simp [hgrounded.attempts]

theorem numbered_of_run {limits : Limits} {sink : Option Sink}
    {events : List (Event Coordinator Move (Result Reply))} {c : Coordinator}
    (run : Run move (make limits sink) events c) (hshort : events.length ≤ 2 ^ 32) :
    c.scheduler.Numbered events.length ∧ ∀ e ∈ events, e.before.Untaken e.output := by
  induction run with
  | nil => exact ⟨⟨by simp [make], by simp [make]⟩, by simp⟩
  | @snoc events c run m ih =>
      rw [List.length_append, List.length_singleton] at hshort ⊢
      obtain ⟨hnumbered, huntaken⟩ := ih (by omega)
      have hregular := regular_of_run run
      obtain ⟨hafter, hlast⟩ := (move_step hregular m).numbered hregular hnumbered (by omega)
      refine ⟨hafter, fun e he => ?_⟩
      rcases List.mem_append.mp he with he | he
      · exact huntaken e he
      · obtain rfl := List.mem_singleton.mp he
        exact hlast

/-- In a run of at most `2 ^ 32` moves the registry of grants, the tables of the scheduler and
its counters say the same, the counters keep to the policy, and every wave handed out
identifiers that were free. -/
theorem flight_tracked {limits : Limits} {sink : Option Sink}
    {events : List (Event Coordinator Move (Result Reply))} {c : Coordinator}
    (run : Run move (make limits sink) events c) (hshort : events.length ≤ 2 ^ 32) :
    c.Tracked ∧ ∀ e ∈ events, e.before.Untaken e.output := by
  have huntaken := (numbered_of_run run hshort).2
  exact ⟨tracked_of_run run huntaken, huntaken⟩

/-- The small shuffle with its attempt in flight. -/
theorem flight_tracked_small :
    (final move (make {} (some acceptAll)) (smallCalls.map .call)).scheduler.globalInFlight = 1 ∧
      (final move (make {} (some acceptAll)) (smallCalls.map .call)).Tracked ∧
      ∀ e ∈ record move (make {} (some acceptAll)) (smallCalls.map .call),
        e.before.Untaken e.output :=
  ⟨by decide +kernel, flight_tracked
    (Run.of_inputs move (make {} (some acceptAll)) (smallCalls.map .call)) (by decide +kernel)⟩

/-! ## What stands behind a grant -/

end Coordinator

/-- The grant is for the content that a manifest describes. -/
structure DispatchGrant.Delivers (grant : DispatchGrant) (manifest : PartitionManifest) : Prop where
  generation : grant.partitionGeneration = manifest.partitionGeneration
  digest : grant.manifestDigest = computeManifestDigest manifest
  totalBytes : grant.totalBytes = manifest.totalBytes
  incarnation : grant.producerIncarnation = manifest.producerIncarnation

namespace Coordinator

/-- Everything that stands behind a grant when it is handed out. -/
structure Vouches (c : Coordinator) (grant : DispatchGrant) : Prop where
  content : ∃ manifest, c.manifests[grant.partition]? = some manifest ∧ grant.Delivers manifest
  owner : ∃ t, c.topology = some t ∧ t.ownerOf grant.partition = .ok grant.producer
  parties : ∀ kind, ∃ m, c.roster kind (grant.participant kind) = some m ∧ m.state = .active ∧
    m.incarnation = grant.incarnation kind
  required : c.Requires grant.partition grant.consumer
  unresolved : (c.ledger.edgeStatus grant.key).phase ≠ .completed ∧
    (c.ledger.edgeStatus grant.key).phase ≠ .failed ∧
    (c.ledger.edgeStatus grant.key).phase ≠ .purged
  ordinal : grant.attemptOrdinal = (c.ledger.edgeStatus grant.key).attempts + 1
  budget : (c.ledger.edgeStatus grant.key).attempts < c.request.policy.retry.maxAttempts
  ready : (c.ledger.edgeStatus grant.key).readyAt ≤ c.clock
  alone : ∀ (a : TransferAttemptId) (other : DispatchGrant), c.grants[a]? = some other →
    other.key ≠ grant.key
  gates : ∀ kind, c.gate kind (grant.participant kind) = .allow

/-- An edge that the walk over the patterns reaches is required. -/
theorem requires_of_listed {c : Coordinator} {t : Topology} (ht : c.topology = some t)
    (hconsistent : t.Consistent) {partition : PartitionId} {consumer : ConsumerId}
    (h : ∃ index ∈ t.patternOrder, (t.pattern index).covers partition ∧
      consumer ∈ t.consumersOfPattern index) : c.Requires partition consumer := by
  obtain ⟨index, -, hcovers, hlisted⟩ := h
  obtain ⟨record, hmem, hid, hpattern, hcounts⟩ := (hconsistent.listed index consumer).mp hlisted
  exact ⟨t, record, ht, (search_eq_some_iff hconsistent.consumers_sorted).mpr ⟨hmem, hid⟩, hcounts,
    hpattern ▸ hcovers⟩

theorem vouches_of_wave {c : Coordinator} (hregular : c.Regular) (hdescribed : c.Described)
    (htracked : c.Tracked) {t : Topology} {scheduler scheduler' : WaveScheduler} {plan : WavePlan}
    (hopen : c.ensureOpen = .ok t) (hconfigured : c.ensureScheduler t = .ok scheduler)
    (hwave : scheduler.nextWave (c.environment t) = .ok (plan, scheduler'))
    {grant : DispatchGrant} (hgrant : grant ∈ plan.grants)
    (hgates : ∀ kind, c.gate kind (grant.participant kind) = .allow) : c.Vouches grant := by
  obtain ⟨-, ht⟩ := ensureOpen_ok hopen
  obtain ⟨-, hpolicy, -, hedges, -⟩ := ensureScheduler_ok htracked.policy hconfigured
  have hcleared := (WaveScheduler.nextWave_cleared hwave).1 grant hgrant
  have heligible := hcleared.eligible
  have hbudget := heligible.budget
  have hfree := heligible.notInFlight
  rw [hpolicy] at hbudget
  rw [hedges] at hfree
  have hfacts : (c.environment t).partitionFacts grant.partition =
      (c.facts[grant.partition]?).getD {} := by
    show c.facts.getD grant.partition {} = _
    rw [Std.ExtTreeMap.getD_eq_getD_getElem?]
  rw [hdescribed] at hfacts
  refine ⟨?_, ⟨t, ht, heligible.owner⟩, fun kind => ?_,
    requires_of_listed ht (hregular.consistent t ht) heligible.required, heligible.unresolved,
    heligible.ordinal, hbudget, heligible.ready, fun a other hother hsame => ?_, hgates⟩
  · have hproduced := heligible.produced
    have hgeneration := heligible.generation
    have hdigest := heligible.digest
    have hbytes := hcleared.totalBytes
    have hincarnation := hcleared.incarnation
    cases hmanifest : c.manifests[grant.partition]? with
    | none => simp [hfacts, hmanifest] at hproduced
    | some manifest =>
        rw [hfacts, hmanifest] at hgeneration hdigest hbytes hincarnation
        exact ⟨manifest, rfl, hgeneration, hdigest, hbytes, hincarnation⟩
  · rw [roster_of_topology ht]
    cases kind with
    | producer =>
        obtain ⟨record, hfind, hactive, hincarnation⟩ := heligible.producer
        have hfind : t.findProducer grant.producer = some record := hfind
        exact ⟨_, by simp only [Topology.roster, DispatchGrant.participant, hfind]; rfl, hactive,
          hincarnation⟩
    | consumer =>
        obtain ⟨record, hfind, hactive, hincarnation⟩ := heligible.consumer
        have hfind : t.findConsumer grant.consumer = some record := hfind
        exact ⟨_, by simp only [Topology.roster, DispatchGrant.participant, hfind]; rfl, hactive,
          hincarnation⟩
  · have hparties := htracked.registry a
    rw [hother, Option.map_some] at hparties
    obtain ⟨record, hrecord, hboth⟩ := Option.map_eq_some_iff.mp hparties.symm
    have hkey : record.key = grant.key := (congrArg Prod.fst hboth).trans hsame
    have htaken := (htracked.accounted.edges grant.key a).mpr ⟨record, hrecord, hkey⟩
    rw [hfree] at htaken
    cases htaken

/-- Among grants with different identifiers each is found under its own. -/
theorem find?_attempt {plan : List DispatchGrant} (hnodup : (plan.map (·.attempt)).Nodup)
    {grant : DispatchGrant} (hgrant : grant ∈ plan) :
    plan.find? (·.attempt == grant.attempt) = some grant := by
  induction plan with
  | nil => cases hgrant
  | cons first plan ih =>
      rw [List.map_cons, List.nodup_cons] at hnodup
      rcases List.mem_cons.mp hgrant with rfl | hgrant
      · simp
      · have hne : first.attempt ≠ grant.attempt := fun hsame =>
          hnodup.1 (hsame ▸ List.mem_map_of_mem hgrant)
        rw [List.find?_cons_of_neg (by simpa using hne), ih hnodup.2 hgrant]

/-- Whatever the coordinator went through before, every grant of a wave has the accepted
manifest, its registered participants, an open edge and two open gates behind it; no edge is
granted twice, and the registry knows the grant from then on. -/
theorem grants_vouched {limits : Limits} {sink : Option Sink}
    {events : List (Event Coordinator Move (Result Reply))} {c : Coordinator}
    (run : Run move (make limits sink) events c) (hshort : events.length < 2 ^ 32)
    {plan : WavePlan} (h : (c.move (.call .nextWave)).1 = .ok (.wave plan)) :
    (plan.grants.map (·.key)).Nodup ∧ ∀ grant ∈ plan.grants, c.Vouches grant ∧
      (c.move (.call .nextWave)).2.grants[grant.attempt]? = some grant := by
  have hregular := regular_of_run run
  have htracked := tracked_of_run run (numbered_of_run run (Nat.le_of_lt hshort)).2
  have hgates := gates_of_move hregular (.call .nextWave)
  rw [h] at hgates
  have hgate := fun (grant : DispatchGrant) (hgrant : grant ∈ plan.grants) =>
    gate_of_grant hgates (guided_of_run run).2 hgrant
  have hnaming := (perform_transition hregular.inside hregular.consistent .nextWave).naming
  rw [show c.move (.call .nextWave) = c.perform .nextWave from rfl] at h ⊢
  rw [h] at hnaming
  cases hnaming with
  | kept _ _ hidle => simp [hidle plan rfl]
  | waved t scheduler plan' hopen hconfigured hwave hregistry hanswer =>
      cases hanswer
      obtain ⟨hnext, hattempts, -⟩ := ensureScheduler_kept hconfigured
      obtain ⟨-, hfree, hnodup⟩ := ((numbered_of_run run (Nat.le_of_lt hshort)).1.congr hnext
        hattempts).nextWave hshort hwave
      refine ⟨(WaveScheduler.nextWave_cleared hwave).2, fun grant hgrant => ⟨?_, ?_⟩⟩
      · exact vouches_of_wave hregular (described_of_run run) htracked hopen hconfigured hwave
          hgrant (hgate grant hgrant)
      · have hnew : c.grants[grant.attempt]? = none := by
          have hparties := htracked.registry grant.attempt
          rw [← hattempts, hfree grant hgrant] at hparties
          simpa using hparties
        rw [hregistry, hnew, Option.none_or, find?_attempt hnodup hgrant]

/-- The small shuffle before its first wave. -/
def smallReady : List Move := (smallCalls.take 4).map .call

/-- Its only edge is handed out. -/
theorem grants_vouched_small : ∃ plan,
    ((final move (make {} (some acceptAll)) smallReady).move (.call .nextWave)).1 =
      .ok (.wave plan) ∧ (∃ grant ∈ plan.grants, (grant.key == ⟨0, 1, 2⟩) = true) ∧
    (plan.grants.map (·.key)).Nodup ∧ ∀ grant ∈ plan.grants,
      (final move (make {} (some acceptAll)) smallReady).Vouches grant ∧
      ((final move (make {} (some acceptAll)) smallReady).move
        (.call .nextWave)).2.grants[grant.attempt]? = some grant := by
  have hgrants : Reply.grants (·.key == ⟨0, 1, 2⟩) ((final move (make {} (some acceptAll))
      smallReady).move (.call .nextWave)).1 = true := by
    decide +kernel
  obtain ⟨plan, hplan, hgrant⟩ := Reply.grants_iff.mp hgrants
  exact ⟨plan, hplan, hgrant, grants_vouched
    (Run.of_inputs move (make {} (some acceptAll)) smallReady) (by decide +kernel) hplan⟩

end Coordinator

end ShuffleFabric
