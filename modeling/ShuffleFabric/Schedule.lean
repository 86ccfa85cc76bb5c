import ShuffleFabric.Ledger
import ShuffleFabric.Lib.Distinct
import ShuffleFabric.Policy
import ShuffleFabric.Topology

/-!
# ShuffleFabric.Schedule

The wave scheduler: bounded batches of dispatch grants over the required edges,
and the registry of the attempts in flight (`schedule.hpp`, `schedule.cpp`).

The cursors are `Nat`: each is compared with the size of the table it walks before
it moves, so the source's 32-bit cursors never wrap.  `SchedulerStats` is written
by the scheduler and read by none of its functions; it is left out.
-/

namespace ShuffleFabric

open Lib

/-! ## Grants and plans -/

/-- The evidence that authority existed at planning time. -/
structure DispatchGrant where
  attempt : TransferAttemptId
  wave : WaveId
  shuffle : ShuffleId
  shuffleGeneration : ShuffleGeneration
  partition : PartitionId
  partitionGeneration : PartitionGeneration
  producer : ProducerId
  producerIncarnation : IncarnationId
  producerEndpoint : Bytes
  consumer : ConsumerId
  consumerIncarnation : IncarnationId
  topologyGeneration : TopologyGeneration
  policyGeneration : PolicyGeneration
  manifestDigest : Digest
  totalBytes : UInt64
  attemptOrdinal : UInt32
  issuedAt : TickId
  deriving DecidableEq

/-- The edge a grant dispatches. -/
def DispatchGrant.key (grant : DispatchGrant) : EdgeKey :=
  ⟨grant.partition, grant.partitionGeneration, grant.consumer⟩

structure WavePlan where
  id : WaveId := 0
  grants : List DispatchGrant := []
  examined : UInt32 := 0
  skippedCompleted : UInt32 := 0
  skippedFailed : UInt32 := 0
  skippedInFlight : UInt32 := 0
  skippedUnproduced : UInt32 := 0
  deferredLimits : UInt32 := 0
  deferredSourcePressure : UInt32 := 0
  deferredDestinationPressure : UInt32 := 0
  deferredUnknownPressure : UInt32 := 0
  deferredRetryWait : UInt32 := 0
  cursorWrapped : Bool := false
  allResolved : Bool := false
  deriving DecidableEq

/-- What the scheduler may look at: the topology and the three read-only views. -/
structure SchedulingEnvironment where
  topology : Topology
  edgeStatus : EdgeKey → EdgeStatus
  partitionFacts : PartitionId → PartitionFacts
  producerPressure : ProducerId → PressureReading
  consumerPressure : ConsumerId → PressureReading
  now : TickId

structure AttemptRecord where
  key : EdgeKey
  wave : WaveId
  ordinal : UInt32
  producer : ProducerId
  consumer : ConsumerId
  deriving DecidableEq

/-- `class WaveScheduler`. -/
structure WaveScheduler where
  limits : Limits
  policy : PolicyEnvelope := {}
  configured : Bool := false
  shuffle : ShuffleId := 0
  shuffleGeneration : ShuffleGeneration := 0
  topologyGeneration : TopologyGeneration := 0
  policyGeneration : PolicyGeneration := 0
  partitionCount : UInt32 := 0
  partitionCursor : Nat := 0
  patternCursor : Nat := 0
  consumerCursor : Nat := 0
  nextWaveId : WaveId := 1
  nextAttemptId : TransferAttemptId := 1
  globalInFlight : UInt32 := 0
  producerInFlight : Std.ExtTreeMap UInt64 UInt32 := {}
  consumerInFlight : Std.ExtTreeMap UInt64 UInt32 := {}
  attempts : Std.ExtTreeMap UInt64 AttemptRecord := {}
  edgeAttempts : Std.ExtTreeMap EdgeKey TransferAttemptId := {}
  producerPaused : Std.ExtTreeMap UInt64 Bool := {}
  consumerPaused : Std.ExtTreeMap UInt64 Bool := {}

namespace WaveScheduler

/-- `WaveScheduler::configure`.  The cursor restarts; attempts in flight are
preserved, a topology change must not strand work that holds authority. -/
def configure (s : WaveScheduler) (policy : PolicyEnvelope) (topology : Topology) :
    Result WaveScheduler := do
  validatePolicy policy
  refuseIf (policy.shuffle ≠ topology.shuffle ∨ policy.shuffleGeneration ≠
      topology.shuffleGeneration) .policyMismatch
    "policy envelope does not belong to this shuffle generation"
  pure { s with
    policy, limits := policy.limits
    shuffle := topology.shuffle
    shuffleGeneration := topology.shuffleGeneration
    topologyGeneration := topology.generation
    policyGeneration := policy.generation
    partitionCount := topology.partitionCount
    partitionCursor := 0, patternCursor := 0, consumerCursor := 0
    configured := true }

/-! ## Pressure -/

/-- Pressure decisions are tri-state; absent evidence is not positive evidence. -/
inductive PressureDecision where
  | allow
  | paused
  | unknown
  deriving DecidableEq

/-- The lambda `decide` of `next_wave`: the decision, and the paused flag it leaves
in the map (`paused_map[id]` inserts a missing one). -/
def decide (policy : CongestionPolicy) (id : UInt64) (reading : PressureReading)
    (pausedMap : Std.ExtTreeMap UInt64 Bool) :
    PressureDecision × Std.ExtTreeMap UInt64 Bool :=
  let pausedMap := pausedMap.insertIfNew id false
  let keep := if pausedMap.getD id false then PressureDecision.paused else .allow
  if ¬reading.observed ∨ ¬reading.fresh then
    if policy.requireFreshEvidence then (.unknown, pausedMap.insert id true)
    else (keep, pausedMap)
  else if reading.level ≥ policy.pauseThreshold then (.paused, pausedMap.insert id true)
  else if reading.level ≤ policy.resumeThreshold then (.allow, pausedMap.insert id false)
  else (keep, pausedMap)

/-! ## One wave -/

/-- The locals of `next_wave` that its loop updates. -/
structure WaveLoop where
  scheduler : WaveScheduler
  plan : WavePlan
  examined : UInt32 := 0
  wrapped : Bool := false
  stop : Bool := false
  grantsAtLastWrap : Nat := 0

namespace WaveLoop

/-- The lambda `note_wrap`: a full pass that added no grant stops the wave. -/
def noteWrap (w : WaveLoop) : WaveLoop :=
  { w with
    stop := w.stop || w.plan.grants.length == w.grantsAtLastWrap
    grantsAtLastWrap := w.plan.grants.length
    wrapped := true }

/-- Back to the first partition once the cursor is past the last one. -/
def wrapPartition (w : WaveLoop) : WaveLoop :=
  if w.scheduler.partitionCursor ≥ w.scheduler.partitionCount.toNat then
    ({ w with scheduler := { w.scheduler with partitionCursor := 0 } }).noteWrap
  else w

/-- Every pattern of this partition was walked: on to the next partition. -/
def nextPartition (w : WaveLoop) : WaveLoop :=
  ({ w with scheduler := { w.scheduler with
      patternCursor := 0, consumerCursor := 0
      partitionCursor := w.scheduler.partitionCursor + 1 } }).wrapPartition

/-- On to the next pattern of this partition. -/
def nextPattern (w : WaveLoop) : WaveLoop :=
  { w with scheduler := { w.scheduler with
      consumerCursor := 0, patternCursor := w.scheduler.patternCursor + 1 } }

def skipUnproduced (w : WaveLoop) : WaveLoop :=
  { w with plan := { w.plan with skippedUnproduced := w.plan.skippedUnproduced + 1 } }

def deferLimits (w : WaveLoop) : WaveLoop :=
  { w with plan := { w.plan with deferredLimits := w.plan.deferredLimits + 1 } }

/-- Issue the grant and register the attempt. -/
def issue (w : WaveLoop) (grant : DispatchGrant) : WaveLoop :=
  let s := w.scheduler
  { w with
    plan := { w.plan with grants := w.plan.grants ++ [grant] }
    scheduler := { s with
      nextAttemptId := s.nextAttemptId + 1
      attempts := s.attempts.insertIfNew grant.attempt
        ⟨grant.key, w.plan.id, grant.attemptOrdinal, grant.producer, grant.consumer⟩
      edgeAttempts := s.edgeAttempts.insertIfNew grant.key grant.attempt
      producerInFlight := s.producerInFlight.insert grant.producer
        (s.producerInFlight.getD grant.producer 0 + 1)
      consumerInFlight := s.consumerInFlight.insert grant.consumer
        (s.consumerInFlight.getD grant.consumer 0 + 1)
      globalInFlight := s.globalInFlight + 1 } }

/-- The grant for an edge that passed every check. -/
def grantFor (w : WaveLoop) (env : SchedulingEnvironment) (facts : PartitionFacts)
    (producerRecord : ProducerRecord) (consumerRecord : ConsumerRecord) (key : EdgeKey)
    (status : EdgeStatus) : DispatchGrant where
  attempt := w.scheduler.nextAttemptId
  wave := w.plan.id
  shuffle := w.scheduler.shuffle
  shuffleGeneration := w.scheduler.shuffleGeneration
  partition := key.partition
  partitionGeneration := key.partitionGeneration
  producer := facts.producer
  producerIncarnation := facts.producerIncarnation
  producerEndpoint := producerRecord.endpoint
  consumer := key.consumer
  consumerIncarnation := consumerRecord.incarnation
  topologyGeneration := w.scheduler.topologyGeneration
  policyGeneration := w.scheduler.policyGeneration
  manifestDigest := facts.manifestDigest
  totalBytes := facts.totalBytes
  attemptOrdinal := status.attempts + 1
  issuedAt := env.now

/-- The last check, and the grant. -/
def grantEdge (w : WaveLoop) (env : SchedulingEnvironment) (facts : PartitionFacts)
    (producerRecord : ProducerRecord) (key : EdgeKey) (status : EdgeStatus) : WaveLoop :=
  match env.topology.consumer key.consumer with
  | .error _ => w.skipUnproduced
  | .ok consumerRecord =>
    if ¬holdsAuthority consumerRecord.state then w.skipUnproduced
    else w.issue (w.grantFor env facts producerRecord consumerRecord key status)

/-- The concurrency limits and the pressure of both ends.  `source_count` and
`destination_count` are references into the maps, so a missing entry is created. -/
def dispatchEdge (w : WaveLoop) (env : SchedulingEnvironment) (facts : PartitionFacts)
    (producerRecord : ProducerRecord) (key : EdgeKey) (status : EdgeStatus) : WaveLoop :=
  let policy := w.scheduler.policy
  let producer := facts.producer
  let w := { w with scheduler := { w.scheduler with
    producerInFlight := w.scheduler.producerInFlight.insertIfNew producer 0
    consumerInFlight := w.scheduler.consumerInFlight.insertIfNew key.consumer 0 } }
  if w.scheduler.producerInFlight.getD producer 0 ≥ policy.concurrency.perSource ∨
      w.scheduler.consumerInFlight.getD key.consumer 0 ≥ policy.concurrency.perDestination then
    w.deferLimits
  else
    let (source, producerPaused) := WaveScheduler.decide policy.congestion producer
      (env.producerPressure producer) w.scheduler.producerPaused
    let w := { w with scheduler := { w.scheduler with producerPaused } }
    match source with
    | .paused => { w with plan := { w.plan with
        deferredSourcePressure := w.plan.deferredSourcePressure + 1 } }
    | .unknown => { w with plan := { w.plan with
        deferredUnknownPressure := w.plan.deferredUnknownPressure + 1 } }
    | .allow =>
      let (destination, consumerPaused) := WaveScheduler.decide policy.congestion key.consumer
        (env.consumerPressure key.consumer) w.scheduler.consumerPaused
      let w := { w with scheduler := { w.scheduler with consumerPaused } }
      match destination with
      | .paused => { w with plan := { w.plan with
          deferredDestinationPressure := w.plan.deferredDestinationPressure + 1 } }
      | .unknown => { w with plan := { w.plan with
          deferredUnknownPressure := w.plan.deferredUnknownPressure + 1 } }
      | .allow => w.grantEdge env facts producerRecord key status

/-- The state of the edge itself: resolved, in flight, waiting for a retry, or
dispatchable. -/
def examineEdge (w : WaveLoop) (env : SchedulingEnvironment) (facts : PartitionFacts)
    (producerRecord : ProducerRecord) (key : EdgeKey) : WaveLoop :=
  let status := env.edgeStatus key
  if status.phase = .completed then
    { w with plan := { w.plan with skippedCompleted := w.plan.skippedCompleted + 1 } }
  else if status.phase = .failed ∨ status.phase = .purged then
    { w with plan := { w.plan with skippedFailed := w.plan.skippedFailed + 1 } }
  else if status.attempts ≥ w.scheduler.policy.retry.maxAttempts then
    { w with plan := { w.plan with skippedFailed := w.plan.skippedFailed + 1 } }
  else if w.scheduler.edgeAttempts[key]?.isSome then
    { w with plan := { w.plan with skippedInFlight := w.plan.skippedInFlight + 1 } }
  else if status.readyAt > env.now then
    { w with plan := { w.plan with deferredRetryWait := w.plan.deferredRetryWait + 1 } }
  else if w.scheduler.globalInFlight ≥ w.scheduler.policy.concurrency.global then
    { w.deferLimits with stop := true }
  else w.dispatchEdge env facts producerRecord key status

/-- The state of the partition: produced by its current owner's current
incarnation, or in need of (re)production. -/
def examinePartition (w : WaveLoop) (env : SchedulingEnvironment) (partition : PartitionId)
    (consumer : ConsumerId) : WaveLoop :=
  let facts := env.partitionFacts partition
  if ¬facts.produced then w.skipUnproduced
  else
    match env.topology.ownerOf partition with
    | .error _ => w.skipUnproduced
    | .ok owner =>
      if owner ≠ facts.producer then w.skipUnproduced
      else
        match env.topology.producer owner with
        | .error _ => w.skipUnproduced
        | .ok producerRecord =>
          if ¬holdsAuthority producerRecord.state ∨
              producerRecord.incarnation ≠ facts.producerIncarnation then w.skipUnproduced
          else
            w.examineEdge env facts producerRecord ⟨partition, facts.partitionGeneration, consumer⟩

/-- One turn of the loop of `next_wave`: one cursor step. -/
def turn (w : WaveLoop) (env : SchedulingEnvironment) : WaveLoop :=
  let w := ({ w with examined := w.examined + 1 }).wrapPartition
  let partition := UInt64.ofNat w.scheduler.partitionCursor
  match env.topology.patternOrder[w.scheduler.patternCursor]? with
  | none => w.nextPartition
  | some patternIndex =>
    -- A pattern only contributes edges for partitions it actually selects.
    if ¬(env.topology.pattern patternIndex).covers partition then w.nextPattern
    else
      match (env.topology.consumersOfPattern patternIndex)[w.scheduler.consumerCursor]? with
      | none => w.nextPattern
      | some consumer =>
        let w := { w with scheduler := { w.scheduler with
          consumerCursor := w.scheduler.consumerCursor + 1 } }
        w.examinePartition env partition consumer

/-- `while (examined < budget && plan.grants.size() < grant_target && !stop)`; every
turn examines one edge, so the budget is the number of turns. -/
def run (env : SchedulingEnvironment) (grantTarget : Nat) : Nat → WaveLoop → WaveLoop
  | 0, w => w
  | budget + 1, w =>
    if w.plan.grants.length < grantTarget ∧ ¬w.stop then
      run env grantTarget budget (w.turn env)
    else w

end WaveLoop

/-- `WaveScheduler::next_wave`. -/
def nextWave (s : WaveScheduler) (env : SchedulingEnvironment) :
    Result (WavePlan × WaveScheduler) := do
  refuseIf (¬s.configured) .invalidState "scheduler has no shuffle configured"
  refuseIf (env.topology.shuffle ≠ s.shuffle ∨ env.topology.shuffleGeneration ≠
      s.shuffleGeneration) .policyMismatch
    "environment belongs to another shuffle generation"
  refuseIf (env.topology.generation ≠ s.topologyGeneration) .staleTopology
    "topology advanced since this plan was configured"
  let plan : WavePlan := { id := s.nextWaveId }
  if s.partitionCount = 0 ∨ env.topology.patternOrder = [] then
    pure ({ plan with allResolved := true }, s)
  else
    let w := WaveLoop.run env s.policy.waves.maxGrantsPerWave.toNat
      s.policy.waves.maxEdgesExaminedPerWave.toNat { scheduler := s, plan }
    let plan := { w.plan with
      examined := w.examined
      cursorWrapped := w.wrapped
      allResolved := w.plan.grants.isEmpty && w.wrapped && w.plan.deferredLimits == 0 &&
        w.plan.deferredSourcePressure == 0 && w.plan.deferredDestinationPressure == 0 &&
        w.plan.deferredUnknownPressure == 0 && w.plan.deferredRetryWait == 0 &&
        w.plan.skippedInFlight == 0 && w.plan.skippedUnproduced == 0 }
    let nextWaveId :=
      if plan.grants.isEmpty then w.scheduler.nextWaveId else w.scheduler.nextWaveId + 1
    pure (plan, { w.scheduler with nextWaveId })

/-! ## Outcomes -/

/-- One attempt less in flight for a participant; an entry that reaches zero is
erased. -/
def release (inFlight : Std.ExtTreeMap UInt64 UInt32) (id : UInt64) :
    Std.ExtTreeMap UInt64 UInt32 :=
  match inFlight[id]? with
  | none => inFlight
  | some count =>
    let count := if count > 0 then count - 1 else count
    if count = 0 then inFlight.erase id else inFlight.insert id count

/-- `WaveScheduler::resolve`; the outcome only feeds statistics. -/
def resolve (s : WaveScheduler) (attempt : TransferAttemptId) : Result WaveScheduler :=
  match s.attempts[attempt]? with
  | none => makeFailure .staleAttempt
      s!"attempt {attempt} is not in flight and carries no authority"
  | some record => .ok { s with
      attempts := s.attempts.erase attempt
      edgeAttempts := s.edgeAttempts.erase record.key
      producerInFlight := release s.producerInFlight record.producer
      consumerInFlight := release s.consumerInFlight record.consumer
      globalInFlight := if s.globalInFlight > 0 then s.globalInFlight - 1 else s.globalInFlight }

/-- `WaveScheduler::abandon_all`: every in-flight grant loses authority. -/
def abandonAll (s : WaveScheduler) : WaveScheduler :=
  { s with
    attempts := {}, edgeAttempts := {}, producerInFlight := {}, consumerInFlight := {}
    globalInFlight := 0 }

end WaveScheduler

end ShuffleFabric
