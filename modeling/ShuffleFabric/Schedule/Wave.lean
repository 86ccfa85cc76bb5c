import ShuffleFabric.Lib.Table
import ShuffleFabric.Schedule

/-!
# ShuffleFabric.Schedule.Wave

What a wave hands out.

One turn of the loop of `next_wave` either moves cursors and counters, or issues the
grant of exactly one edge that passed every check (`turned`).  What holds of every
grant of a plan follows by induction over the turns (`nextWave_grants`).
-/

namespace ShuffleFabric

open Lib

namespace WaveScheduler

/-! ## Pressure -/

/-- An endpoint that was paused or not, and whose pressure reads so, may be used. -/
def Unpaused (policy : CongestionPolicy) (reading : PressureReading) (paused : Bool) : Prop :=
  if reading.observed ∧ reading.fresh then
    reading.level < policy.pauseThreshold ∧ (paused → reading.level ≤ policy.resumeThreshold)
  else policy.requireFreshEvidence = false ∧ paused = false

/-- A participant is allowed exactly if its reading leaves it unpaused. -/
theorem decide_allow_iff (policy : CongestionPolicy) (id : UInt64) (reading : PressureReading)
    (pausedMap : Std.ExtTreeMap UInt64 Bool) :
    (decide policy id reading pausedMap).1 = .allow ↔
      Unpaused policy reading (pausedMap.getD id false) := by
  unfold decide Unpaused
  simp only [getD_insertIfNew_default]
  cases pausedMap.getD id false <;> grind

/-- Asking about an endpoint moves its pause flag, and no other. -/
theorem getD_decide (policy : CongestionPolicy) (id id' : UInt64) (reading : PressureReading)
    (pausedMap : Std.ExtTreeMap UInt64 Bool) :
    (decide policy id reading pausedMap).2.getD id' false =
      if id' = id ∧ reading.observed = true ∧ reading.fresh = true ∧
          reading.level ≥ policy.pauseThreshold then true
      else if id' = id ∧ reading.observed = true ∧ reading.fresh = true ∧
          reading.level ≤ policy.resumeThreshold then false
      else if id' = id ∧ ¬(reading.observed = true ∧ reading.fresh = true) ∧
          policy.requireFreshEvidence = true then true
      else pausedMap.getD id' false := by
  have hset : ∀ value : Bool, ((pausedMap.insertIfNew id false).insert id value).getD id' false =
      if id' = id then value else pausedMap.getD id' false := by
    intro value
    rw [Std.ExtTreeMap.getD_insert, getD_insertIfNew_default]
    simp only [Std.compare_eq_iff_eq, eq_comm (a := id)]
  unfold decide
  simp only
  split
  · split
    · rw [hset]
      grind
    · rw [getD_insertIfNew_default]
      grind
  · split
    · rw [hset]
      grind
    · split
      · rw [hset]
        grind
      · rw [getD_insertIfNew_default]
        grind

/-- Asking again gives the same answer. -/
theorem unpaused_decide (policy : CongestionPolicy) (id id' : UInt64)
    (readings : UInt64 → PressureReading) (pausedMap : Std.ExtTreeMap UInt64 Bool) :
    Unpaused policy (readings id') ((decide policy id (readings id) pausedMap).2.getD id' false) ↔
      Unpaused policy (readings id') (pausedMap.getD id' false) := by
  rw [getD_decide]
  unfold Unpaused
  by_cases hsame : id' = id
  · subst hsame
    cases pausedMap.getD id' false <;> grind
  · simp [hsame]

/-- What a scheduler was configured for, and the wave it is in. -/
def setup (s : WaveScheduler) :
    Bool × ShuffleId × ShuffleGeneration × TopologyGeneration × PolicyGeneration × WaveId :=
  (s.configured, s.shuffle, s.shuffleGeneration, s.topologyGeneration, s.policyGeneration,
    s.nextWaveId)

namespace WaveLoop

/-! ## Turns that grant nothing -/

/-- Nothing was handed out: only cursors, counters and pause flags may differ. -/
structure Quiet (w w' : WaveLoop) : Prop where
  id : w'.plan.id = w.plan.id
  grants : w'.plan.grants = w.plan.grants
  nextAttemptId : w'.scheduler.nextAttemptId = w.scheduler.nextAttemptId
  attempts : w'.scheduler.attempts = w.scheduler.attempts
  edgeAttempts : w'.scheduler.edgeAttempts = w.scheduler.edgeAttempts
  policy : w'.scheduler.policy = w.scheduler.policy
  partitionCount : w'.scheduler.partitionCount = w.scheduler.partitionCount

/-- Nothing was granted. -/
theorem Quiet.refl (w : WaveLoop) : Quiet w w := ⟨rfl, rfl, rfl, rfl, rfl, rfl, rfl⟩

/-- Nothing was granted in two steps. -/
theorem Quiet.trans {w₁ w₂ w₃ : WaveLoop} (h : Quiet w₁ w₂) (h' : Quiet w₂ w₃) : Quiet w₁ w₃ :=
  ⟨h'.id.trans h.id, h'.grants.trans h.grants, h'.nextAttemptId.trans h.nextAttemptId,
    h'.attempts.trans h.attempts, h'.edgeAttempts.trans h.edgeAttempts,
    h'.policy.trans h.policy, h'.partitionCount.trans h.partitionCount⟩

/-! ## The grant of one edge -/

/-- Everything that was checked before a grant was issued under a policy, while certain
edges were in flight. -/
structure Eligible (env : SchedulingEnvironment) (policy : PolicyEnvelope)
    (inFlight : Std.ExtTreeMap EdgeKey TransferAttemptId) (grant : DispatchGrant) : Prop where
  produced : (env.partitionFacts grant.partition).produced = true
  generation :
    grant.partitionGeneration = (env.partitionFacts grant.partition).partitionGeneration
  digest : grant.manifestDigest = (env.partitionFacts grant.partition).manifestDigest
  owner : env.topology.ownerOf grant.partition = .ok grant.producer
  producer : ∃ record, env.topology.findProducer grant.producer = some record ∧
    record.state = .active ∧ record.incarnation = grant.producerIncarnation
  consumer : ∃ record, env.topology.findConsumer grant.consumer = some record ∧
    record.state = .active ∧ record.incarnation = grant.consumerIncarnation
  required : ∃ index ∈ env.topology.patternOrder,
    (env.topology.pattern index).covers grant.partition ∧
    grant.consumer ∈ env.topology.consumersOfPattern index
  unresolved : (env.edgeStatus grant.key).phase ≠ .completed ∧
    (env.edgeStatus grant.key).phase ≠ .failed ∧ (env.edgeStatus grant.key).phase ≠ .purged
  ordinal : grant.attemptOrdinal = (env.edgeStatus grant.key).attempts + 1
  budget : (env.edgeStatus grant.key).attempts < policy.retry.maxAttempts
  notInFlight : inFlight[grant.key]? = none
  ready : (env.edgeStatus grant.key).readyAt ≤ env.now

/-- A turn that is not quiet issues one grant, under the next identifier. -/
structure Grants (env : SchedulingEnvironment) (w w' : WaveLoop) (grant : DispatchGrant) :
    Prop where
  id : w'.plan.id = w.plan.id
  grants : w'.plan.grants = w.plan.grants ++ [grant]
  attempt : grant.attempt = w.scheduler.nextAttemptId
  nextAttemptId : w'.scheduler.nextAttemptId = w.scheduler.nextAttemptId + 1
  attempts : w'.scheduler.attempts = w.scheduler.attempts.insertIfNew grant.attempt
    ⟨grant.key, w.plan.id, grant.attemptOrdinal, grant.producer, grant.consumer⟩
  edgeAttempts : w'.scheduler.edgeAttempts =
    w.scheduler.edgeAttempts.insertIfNew grant.key grant.attempt
  policy : w'.scheduler.policy = w.scheduler.policy
  partitionCount : w'.scheduler.partitionCount = w.scheduler.partitionCount
  eligible : Eligible env w.scheduler.policy w.scheduler.edgeAttempts grant

/-- What a turn does to what was handed out. -/
def Turns (env : SchedulingEnvironment) (w w' : WaveLoop) : Prop :=
  Quiet w w' ∨ ∃ grant, Grants env w w' grant

/-! ## One turn in detail -/

/-- Nobody's number of attempts in flight changed, and asking for the pressure of an
endpoint still gives the same answer. -/
structure Still (env : SchedulingEnvironment) (w w' : WaveLoop) : Prop extends Quiet w w' where
  setup : w'.scheduler.setup = w.scheduler.setup
  globalInFlight : w'.scheduler.globalInFlight = w.scheduler.globalInFlight
  producerInFlight : ∀ id, w'.scheduler.producerInFlight.getD id 0 =
    w.scheduler.producerInFlight.getD id 0
  consumerInFlight : ∀ id, w'.scheduler.consumerInFlight.getD id 0 =
    w.scheduler.consumerInFlight.getD id 0
  producerPaused : ∀ id, Unpaused w.scheduler.policy.congestion (env.producerPressure id)
      (w'.scheduler.producerPaused.getD id false) ↔
    Unpaused w.scheduler.policy.congestion (env.producerPressure id)
      (w.scheduler.producerPaused.getD id false)
  consumerPaused : ∀ id, Unpaused w.scheduler.policy.congestion (env.consumerPressure id)
      (w'.scheduler.consumerPaused.getD id false) ↔
    Unpaused w.scheduler.policy.congestion (env.consumerPressure id)
      (w.scheduler.consumerPaused.getD id false)

section Still

variable {env : SchedulingEnvironment} {w w' : WaveLoop}

/-- Cursors and counters alone. -/
theorem Still.of_eq (hq : Quiet w w') (hsetup : w'.scheduler.setup = w.scheduler.setup)
    (hglobal : w'.scheduler.globalInFlight = w.scheduler.globalInFlight)
    (hproducers : w'.scheduler.producerInFlight = w.scheduler.producerInFlight)
    (hconsumers : w'.scheduler.consumerInFlight = w.scheduler.consumerInFlight)
    (hsources : w'.scheduler.producerPaused = w.scheduler.producerPaused)
    (hdestinations : w'.scheduler.consumerPaused = w.scheduler.consumerPaused) : Still env w w' :=
  ⟨hq, hsetup, hglobal, fun _ => by rw [hproducers], fun _ => by rw [hconsumers],
    fun _ => by rw [hsources], fun _ => by rw [hdestinations]⟩

/-- Two steps that move the cursor or the flags only. -/
theorem Still.trans {w₁ w₂ w₃ : WaveLoop} (h : Still env w₁ w₂) (h' : Still env w₂ w₃) :
    Still env w₁ w₃ := by
  have hsources := h'.producerPaused
  have hdestinations := h'.consumerPaused
  rw [h.policy] at hsources hdestinations
  exact ⟨h.toQuiet.trans h'.toQuiet, h'.setup.trans h.setup, h'.globalInFlight.trans h.globalInFlight,
    fun id => (h'.producerInFlight id).trans (h.producerInFlight id),
    fun id => (h'.consumerInFlight id).trans (h.consumerInFlight id),
    fun id => (hsources id).trans (h.producerPaused id),
    fun id => (hdestinations id).trans (h.consumerPaused id)⟩

/-- A partition cursor at the end goes back to the first. -/
theorem still_wrapPartition (w : WaveLoop) : Still env w w.wrapPartition := by
  unfold wrapPartition
  split
  · exact .of_eq ⟨rfl, rfl, rfl, rfl, rfl, rfl, rfl⟩ rfl rfl rfl rfl rfl rfl
  · exact .of_eq (.refl w) rfl rfl rfl rfl rfl rfl

/-- The next partition is a cursor. -/
theorem still_nextPartition (w : WaveLoop) : Still env w w.nextPartition := by
  unfold nextPartition
  refine Still.trans ?_ (still_wrapPartition _)
  exact .of_eq ⟨rfl, rfl, rfl, rfl, rfl, rfl, rfl⟩ rfl rfl rfl rfl rfl rfl

/-- The next pattern is a cursor. -/
theorem still_nextPattern (w : WaveLoop) : Still env w w.nextPattern :=
  .of_eq ⟨rfl, rfl, rfl, rfl, rfl, rfl, rfl⟩ rfl rfl rfl rfl rfl rfl

/-- A partition that is not produced is counted and passed over. -/
theorem still_skipUnproduced (w : WaveLoop) : Still env w w.skipUnproduced :=
  .of_eq ⟨rfl, rfl, rfl, rfl, rfl, rfl, rfl⟩ rfl rfl rfl rfl rfl rfl

end Still

/-- A turn that issues a grant: there was room for it, neither end was paused, and the
edge passed every check. -/
structure Issues (env : SchedulingEnvironment) (w w' : WaveLoop) (grant : DispatchGrant) :
    Prop where
  issue : ∃ w₁, Still env w w₁ ∧ w' = w₁.issue grant
  attempt : grant.attempt = w.scheduler.nextAttemptId
  eligible : Eligible env w.scheduler.policy w.scheduler.edgeAttempts grant
  totalBytes : grant.totalBytes = (env.partitionFacts grant.partition).totalBytes
  incarnation :
    grant.producerIncarnation = (env.partitionFacts grant.partition).producerIncarnation
  global : w.scheduler.globalInFlight < w.scheduler.policy.concurrency.global
  source : w.scheduler.producerInFlight.getD grant.producer 0 <
    w.scheduler.policy.concurrency.perSource
  destination : w.scheduler.consumerInFlight.getD grant.consumer 0 <
    w.scheduler.policy.concurrency.perDestination
  sourceFree : Unpaused w.scheduler.policy.congestion (env.producerPressure grant.producer)
    (w.scheduler.producerPaused.getD grant.producer false)
  destinationFree : Unpaused w.scheduler.policy.congestion (env.consumerPressure grant.consumer)
    (w.scheduler.consumerPaused.getD grant.consumer false)

/-- What a piece of the loop does. -/
def Turned (env : SchedulingEnvironment) (w w' : WaveLoop) : Prop :=
  Still env w w' ∨ ∃ grant, Issues env w w' grant

/-- A turn that first moves the cursor. -/
theorem Still.turned {env : SchedulingEnvironment} {w w₁ w' : WaveLoop} (h : Still env w w₁)
    (h' : Turned env w₁ w') : Turned env w w' := by
  rcases h' with h' | ⟨grant, h'⟩
  · exact .inl (h.trans h')
  · obtain ⟨w₂, hstill, rfl⟩ := h'.issue
    have hsource := h'.source
    have hdestination := h'.destination
    have hsourceFree := h'.sourceFree
    have hdestinationFree := h'.destinationFree
    have heligible := h'.eligible
    rw [h.policy, h.producerInFlight] at hsource
    rw [h.policy, h.consumerInFlight] at hdestination
    rw [h.policy, h.producerPaused] at hsourceFree
    rw [h.policy, h.consumerPaused] at hdestinationFree
    rw [h.policy, h.edgeAttempts] at heligible
    exact .inr ⟨grant, ⟨w₂, h.trans hstill, rfl⟩, h'.attempt.trans h.nextAttemptId, heligible,
      h'.totalBytes, h'.incarnation, h.policy ▸ h.globalInFlight ▸ h'.global, hsource, hdestination,
      hsourceFree, hdestinationFree⟩

/-- The checks made before the limits and the pressure of an edge are looked at. -/
structure Examined (env : SchedulingEnvironment) (w : WaveLoop) (key : EdgeKey) : Prop where
  produced : (env.partitionFacts key.partition).produced = true
  generation : key.partitionGeneration = (env.partitionFacts key.partition).partitionGeneration
  owner : env.topology.ownerOf key.partition = .ok (env.partitionFacts key.partition).producer
  producer : ∃ record,
    env.topology.findProducer (env.partitionFacts key.partition).producer = some record ∧
    record.state = .active ∧
    record.incarnation = (env.partitionFacts key.partition).producerIncarnation
  required : ∃ index ∈ env.topology.patternOrder,
    (env.topology.pattern index).covers key.partition ∧
    key.consumer ∈ env.topology.consumersOfPattern index

/-- The checks on the edge itself. -/
structure Dispatchable (env : SchedulingEnvironment) (w : WaveLoop) (key : EdgeKey) : Prop
    extends Examined env w key where
  unresolved : (env.edgeStatus key).phase ≠ .completed ∧ (env.edgeStatus key).phase ≠ .failed ∧
    (env.edgeStatus key).phase ≠ .purged
  budget : (env.edgeStatus key).attempts < w.scheduler.policy.retry.maxAttempts
  notInFlight : w.scheduler.edgeAttempts[key]? = none
  ready : (env.edgeStatus key).readyAt ≤ env.now

/-- What may be dispatched may still be dispatched if nothing was granted. -/
theorem Dispatchable.quiet {env : SchedulingEnvironment} {w w' : WaveLoop} {key : EdgeKey}
    (h : Dispatchable env w key) (hq : Quiet w w') : Dispatchable env w' key :=
  ⟨⟨h.produced, h.generation, h.owner, h.producer, h.required⟩, h.unresolved,
    hq.policy ▸ h.budget, hq.edgeAttempts ▸ h.notInFlight, h.ready⟩

/-- A consumer that is looked up is found. -/
theorem findConsumer_of_consumer {t : Topology} {id : ConsumerId} {record : ConsumerRecord}
    (h : t.consumer id = .ok record) : t.findConsumer id = some record := by
  unfold Topology.consumer at h
  split at h
  · next r hr => rw [hr]; simpa using h
  · cases h

/-- A producer that is looked up is found. -/
theorem findProducer_of_producer {t : Topology} {id : ProducerId} {record : ProducerRecord}
    (h : t.producer id = .ok record) : t.findProducer id = some record := by
  unfold Topology.producer at h
  split at h
  · next r hr => rw [hr]; simpa using h
  · cases h

/-- The last check, once there is room for the grant and neither end is paused. -/
theorem turned_grantEdge {env : SchedulingEnvironment} {w : WaveLoop} {key : EdgeKey}
    (h : Dispatchable env w key)
    (hglobal : w.scheduler.globalInFlight < w.scheduler.policy.concurrency.global)
    (hsource : w.scheduler.producerInFlight.getD (env.partitionFacts key.partition).producer 0 <
      w.scheduler.policy.concurrency.perSource)
    (hdestination : w.scheduler.consumerInFlight.getD key.consumer 0 <
      w.scheduler.policy.concurrency.perDestination)
    (hsourceFree : Unpaused w.scheduler.policy.congestion
      (env.producerPressure (env.partitionFacts key.partition).producer)
      (w.scheduler.producerPaused.getD (env.partitionFacts key.partition).producer false))
    (hdestinationFree : Unpaused w.scheduler.policy.congestion (env.consumerPressure key.consumer)
      (w.scheduler.consumerPaused.getD key.consumer false))
    (producerRecord : ProducerRecord) :
    Turned env w (w.grantEdge env (env.partitionFacts key.partition) producerRecord key
      (env.edgeStatus key)) := by
  unfold grantEdge
  split
  · exact .inl (still_skipUnproduced w)
  · next consumerRecord hconsumer =>
      split
      · exact .inl (still_skipUnproduced w)
      · next hactive =>
          have hstate : consumerRecord.state = .active := by simpa [holdsAuthority] using hactive
          have heligible : Eligible env w.scheduler.policy w.scheduler.edgeAttempts
              (w.grantFor env (env.partitionFacts key.partition) producerRecord consumerRecord key
                (env.edgeStatus key)) :=
            ⟨h.produced, h.generation, rfl, h.owner, h.producer,
              ⟨consumerRecord, findConsumer_of_consumer hconsumer, hstate, rfl⟩, h.required,
              h.unresolved, rfl, h.budget, h.notInFlight, h.ready⟩
          exact .inr ⟨_, ⟨w, .of_eq (.refl w) rfl rfl rfl rfl rfl rfl, rfl⟩, rfl, heligible, rfl, rfl,
            hglobal, hsource, hdestination, hsourceFree, hdestinationFree⟩

/-- An edge whose checks have passed is granted, if its slots and gates allow it. -/
theorem turned_dispatchEdge {env : SchedulingEnvironment} {w : WaveLoop} {key : EdgeKey}
    (h : Dispatchable env w key)
    (hglobal : w.scheduler.globalInFlight < w.scheduler.policy.concurrency.global)
    (producerRecord : ProducerRecord) :
    Turned env w (w.dispatchEdge env (env.partitionFacts key.partition) producerRecord key
      (env.edgeStatus key)) := by
  unfold dispatchEdge
  simp only [getD_insertIfNew_default]
  -- every step up to the grant leaves a loop in the same standing
  have hstill : ∀ (plan : WavePlan) {producers consumers : Std.ExtTreeMap UInt64 Bool},
      plan.id = w.plan.id → plan.grants = w.plan.grants →
      (∀ id, Unpaused w.scheduler.policy.congestion (env.producerPressure id)
          (producers.getD id false) ↔ Unpaused w.scheduler.policy.congestion
          (env.producerPressure id) (w.scheduler.producerPaused.getD id false)) →
      (∀ id, Unpaused w.scheduler.policy.congestion (env.consumerPressure id)
          (consumers.getD id false) ↔ Unpaused w.scheduler.policy.congestion
          (env.consumerPressure id) (w.scheduler.consumerPaused.getD id false)) →
      Still env w { w with
        plan
        scheduler := { w.scheduler with
          producerInFlight := w.scheduler.producerInFlight.insertIfNew
            (env.partitionFacts key.partition).producer 0
          consumerInFlight := w.scheduler.consumerInFlight.insertIfNew key.consumer 0
          producerPaused := producers, consumerPaused := consumers } } :=
    fun plan _ _ hid hgrants hproducers hconsumers =>
      ⟨⟨hid, hgrants, rfl, rfl, rfl, rfl, rfl⟩, rfl, rfl, fun _ => getD_insertIfNew_default _ _ _ _,
        fun _ => getD_insertIfNew_default _ _ _ _, hproducers, hconsumers⟩
  have hasked := unpaused_decide w.scheduler.policy.congestion
    (env.partitionFacts key.partition).producer
  have hanswered := unpaused_decide w.scheduler.policy.congestion key.consumer
  split
  · exact .inl (hstill _ rfl rfl (fun _ => .rfl) fun _ => .rfl)
  next hroom =>
  obtain ⟨hsource, hdestination⟩ := not_or.mp hroom
  split
  · exact .inl (hstill _ rfl rfl (fun id => hasked id env.producerPressure _) fun _ => .rfl)
  · exact .inl (hstill _ rfl rfl (fun id => hasked id env.producerPressure _) fun _ => .rfl)
  next hallow =>
  split
  · exact .inl (hstill _ rfl rfl (fun id => hasked id env.producerPressure _)
      fun id => hanswered id env.consumerPressure _)
  · exact .inl (hstill _ rfl rfl (fun id => hasked id env.producerPressure _)
      fun id => hanswered id env.consumerPressure _)
  next hallow' =>
  have hnow := hstill w.plan rfl rfl (fun id => hasked id env.producerPressure _)
    fun id => hanswered id env.consumerPressure _
  refine hnow.turned (turned_grantEdge (h.quiet hnow.toQuiet) hglobal ?_ ?_ ?_ ?_ producerRecord)
  · rw [hnow.producerInFlight]
    exact UInt32.not_le.mp hsource
  · rw [hnow.consumerInFlight]
    exact UInt32.not_le.mp hdestination
  · exact (hasked _ env.producerPressure _).mpr ((decide_allow_iff _ _ _ _).mp hallow)
  · exact (hanswered _ env.consumerPressure _).mpr ((decide_allow_iff _ _ _ _).mp hallow')

/-- An edge is dispatched, or its state keeps it back. -/
theorem turned_examineEdge {env : SchedulingEnvironment} {w : WaveLoop} {key : EdgeKey}
    (h : Examined env w key) (producerRecord : ProducerRecord) :
    Turned env w (w.examineEdge env (env.partitionFacts key.partition) producerRecord key) := by
  have hcounted : ∀ {plan : WavePlan} {stop : Bool}, plan.id = w.plan.id →
      plan.grants = w.plan.grants → Still env w { w with plan, stop } :=
    fun hid hgrants => .of_eq ⟨hid, hgrants, rfl, rfl, rfl, rfl, rfl⟩ rfl rfl rfl rfl rfl rfl
  unfold examineEdge
  simp only
  split
  · exact .inl (hcounted rfl rfl)
  next hcompleted =>
  split
  · exact .inl (hcounted rfl rfl)
  next hresolved =>
  split
  · exact .inl (hcounted rfl rfl)
  next hbudget =>
  split
  · exact .inl (hcounted rfl rfl)
  next hflight =>
  split
  · exact .inl (hcounted rfl rfl)
  next hready =>
  split
  · exact .inl (hcounted rfl rfl)
  next hglobal =>
  obtain ⟨hfailed, hpurged⟩ := not_or.mp hresolved
  exact turned_dispatchEdge ⟨h, ⟨hcompleted, hfailed, hpurged⟩, UInt32.not_le.mp hbudget,
    by simpa using hflight, not_lt.mp hready⟩ (UInt32.not_le.mp hglobal) producerRecord

/-- An edge is examined if its participants are registered and active. -/
theorem turned_examinePartition {env : SchedulingEnvironment} {w : WaveLoop}
    {partition : PartitionId} {consumer : ConsumerId}
    (h : ∃ index ∈ env.topology.patternOrder, (env.topology.pattern index).covers partition ∧
      consumer ∈ env.topology.consumersOfPattern index) :
    Turned env w (w.examinePartition env partition consumer) := by
  unfold examinePartition
  simp only
  split
  · exact .inl (still_skipUnproduced w)
  next hproduced =>
  split
  · exact .inl (still_skipUnproduced w)
  next owner howner =>
  split
  · exact .inl (still_skipUnproduced w)
  next hsame =>
  split
  · exact .inl (still_skipUnproduced w)
  next producerRecord hproducer =>
  split
  · exact .inl (still_skipUnproduced w)
  next hcurrent =>
  obtain ⟨hactive, hincarnation⟩ := not_or.mp hcurrent
  obtain rfl := not_not.mp hsame
  have hstate : producerRecord.state = .active := by simpa [holdsAuthority] using hactive
  exact turned_examineEdge ⟨by simpa using hproduced, rfl, howner,
    ⟨producerRecord, findProducer_of_producer hproducer, hstate, not_not.mp hincarnation⟩, h⟩
    producerRecord

/-- One turn of the loop. -/
theorem turned (env : SchedulingEnvironment) (w : WaveLoop) : Turned env w (w.turn env) := by
  unfold turn
  simp only
  have hcounted : Still env w { w with examined := w.examined + 1 } :=
    .of_eq ⟨rfl, rfl, rfl, rfl, rfl, rfl, rfl⟩ rfl rfl rfl rfl rfl rfl
  have hstart := hcounted.trans (still_wrapPartition _)
  generalize ({ w with examined := w.examined + 1 }).wrapPartition = w₀ at hstart ⊢
  split
  · exact .inl (hstart.trans (still_nextPartition w₀))
  next index hindex =>
  split
  · exact .inl (hstart.trans (still_nextPattern w₀))
  next hcovers =>
  split
  · exact .inl (hstart.trans (still_nextPattern w₀))
  next consumer hconsumer =>
  refine (hstart.trans ?_).turned (turned_examinePartition
    ⟨index, List.mem_of_getElem? hindex, by simpa using hcovers, List.mem_of_getElem? hconsumer⟩)
  exact .of_eq ⟨rfl, rfl, rfl, rfl, rfl, rfl, rfl⟩ rfl rfl rfl rfl rfl rfl

/-- A turn that issues a grant registers it under the next identifier. -/
theorem Issues.grants {env : SchedulingEnvironment} {w w' : WaveLoop} {grant : DispatchGrant}
    (h : Issues env w w' grant) : Grants env w w' grant := by
  obtain ⟨w₁, hstill, rfl⟩ := h.issue
  refine ⟨hstill.id, ?_, h.attempt, ?_, ?_, ?_, hstill.policy, hstill.partitionCount, h.eligible⟩
  · simp only [WaveLoop.issue, hstill.grants]
  · simp only [WaveLoop.issue, hstill.nextAttemptId]
  · simp only [WaveLoop.issue, hstill.attempts, hstill.id]
  · simp only [WaveLoop.issue, hstill.edgeAttempts]

/-- One turn, as far as it concerns what was handed out. -/
theorem turn_cases (env : SchedulingEnvironment) (w : WaveLoop) : Turns env w (w.turn env) := by
  rcases turned env w with h | ⟨grant, h⟩
  · exact .inl h.toQuiet
  · exact .inr ⟨grant, h.grants⟩

/-! ## The loop -/

/-- The grants issued since the loop started: consecutive identifiers, and every edge
at most once. -/
structure Progress (env : SchedulingEnvironment) (s : WaveScheduler) (w : WaveLoop) : Prop where
  nextAttemptId :
    w.scheduler.nextAttemptId = s.nextAttemptId + UInt64.ofNat w.plan.grants.length
  policy : w.scheduler.policy = s.policy
  attempt : ∀ (i : Nat) (grant : DispatchGrant), w.plan.grants[i]? = some grant →
    grant.attempt = s.nextAttemptId + UInt64.ofNat i
  eligible : ∀ grant ∈ w.plan.grants, Eligible env s.policy s.edgeAttempts grant
  inFlight : ∀ key : EdgeKey, s.edgeAttempts[key]?.isSome → w.scheduler.edgeAttempts[key]?.isSome

/-- One turn keeps what is known of the loop. -/
theorem Progress.turn {env : SchedulingEnvironment} {s : WaveScheduler} {w : WaveLoop}
    (h : Progress env s w) : Progress env s (w.turn env) := by
  rcases turn_cases env w with hq | ⟨grant, hg⟩
  · exact ⟨by rw [hq.nextAttemptId, hq.grants, h.nextAttemptId], hq.policy.trans h.policy,
      fun i g hi => h.attempt i g (hq.grants ▸ hi), fun g hmem => h.eligible g (hq.grants ▸ hmem),
      fun key hkey => hq.edgeAttempts ▸ h.inFlight key hkey⟩
  · refine ⟨?_, hg.policy.trans h.policy, fun i g hi => ?_, fun g hmem => ?_, fun key hkey => ?_⟩
    · rw [hg.nextAttemptId, hg.grants, h.nextAttemptId, List.length_append, List.length_singleton,
        UInt64.ofNat_add, ← add_assoc]
      rfl
    · rw [hg.grants, List.getElem?_append] at hi
      split at hi
      · exact h.attempt i g hi
      · next hlen =>
          have hi' : i - w.plan.grants.length = 0 := by
            by_contra hne
            rw [List.getElem?_singleton, if_neg hne] at hi
            cases hi
          rw [hi'] at hi
          obtain rfl : grant = g := by simpa using hi
          rw [hg.attempt, h.nextAttemptId]
          congr 2
          omega
    · rw [hg.grants] at hmem
      rcases List.mem_append.mp hmem with hmem | hmem
      · exact h.eligible g hmem
      · obtain rfl := List.mem_singleton.mp hmem
        have hel := hg.eligible
        rw [h.policy] at hel
        refine ⟨hel.produced, hel.generation, hel.digest, hel.owner, hel.producer, hel.consumer,
          hel.required, hel.unresolved, hel.ordinal, hel.budget, ?_, hel.ready⟩
        by_contra hsome
        have hin := h.inFlight g.key (Option.isSome_iff_ne_none.mpr hsome)
        rw [hel.notInFlight] at hin
        cases hin
    · have hin := h.inFlight key hkey
      rw [hg.edgeAttempts, Std.ExtTreeMap.getElem?_insertIfNew]
      split
      · rfl
      · exact hin

/-- The loop, by induction over its budget. -/
theorem Progress.run {env : SchedulingEnvironment} {s : WaveScheduler} {target : Nat} (budget : Nat)
    {w : WaveLoop} (h : Progress env s w) (hlen : w.plan.grants.length ≤ target) :
    Progress env s (run env target budget w) ∧
      (WaveLoop.run env target budget w).plan.grants.length ≤ target := by
  induction budget generalizing w with
  | zero => exact ⟨h, hlen⟩
  | succ budget ih =>
      unfold WaveLoop.run
      split
      · next hmore =>
          refine ih h.turn ?_
          rcases turn_cases env w with hq | ⟨grant, hg⟩
          · rw [hq.grants]
            exact hlen
          · rw [hg.grants, List.length_append, List.length_singleton]
            exact hmore.1
      · exact ⟨h, hlen⟩

end WaveLoop

/-- Every grant of a plan carries the next free identifier in its turn, and its edge
passed every check. -/
theorem nextWave_grants {s s' : WaveScheduler} {env : SchedulingEnvironment} {plan : WavePlan}
    (h : s.nextWave env = .ok (plan, s')) :
    plan.grants.length ≤ s.policy.waves.maxGrantsPerWave.toNat ∧
      (∀ (i : Nat) (grant : DispatchGrant), plan.grants[i]? = some grant →
        grant.attempt = s.nextAttemptId + UInt64.ofNat i) ∧
      ∀ grant ∈ plan.grants, WaveLoop.Eligible env s.policy s.edgeAttempts grant := by
  simp only [nextWave, bind_eq_ok, refuseIf_eq_ok, exists_const] at h
  obtain ⟨-, -, -, h⟩ := h
  split at h
  · obtain ⟨rfl, rfl⟩ := Prod.mk.inj (pure_eq_ok.mp h)
    simp
  · obtain ⟨hplan, -⟩ := Prod.mk.inj (pure_eq_ok.mp h)
    have hstart : WaveLoop.Progress env s { scheduler := s, plan := { id := s.nextWaveId } } :=
      ⟨by simp, rfl, by simp, by simp, fun _ hkey => hkey⟩
    obtain ⟨hprogress, hlen⟩ := hstart.run s.policy.waves.maxEdgesExaminedPerWave.toNat
      (Nat.zero_le s.policy.waves.maxGrantsPerWave.toNat)
    rw [← hplan]
    exact ⟨hlen, hprogress.attempt, hprogress.eligible⟩

end WaveScheduler

end ShuffleFabric
