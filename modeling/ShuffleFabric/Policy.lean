import ShuffleFabric.Codec
import ShuffleFabric.Identity

/-!
# ShuffleFabric.Policy

The policy envelope, its structural validation and its canonical encoding
(`policy.hpp`, `policy.cpp`).
-/

namespace ShuffleFabric

open ByteReader

structure FanBounds where
  maxFanOut : UInt32 := 64
  maxFanIn : UInt32 := 64
  deriving DecidableEq, Repr

structure ConcurrencyLimits where
  global : UInt32 := 64
  perSource : UInt32 := 8
  perDestination : UInt32 := 8
  deriving DecidableEq, Repr

structure WaveLimits where
  maxGrantsPerWave : UInt32 := 256
  maxEdgesExaminedPerWave : UInt32 := 8192
  deriving DecidableEq, Repr

structure RetryPolicy where
  maxAttempts : UInt32 := 3
  minTicksBetweenAttempts : UInt32 := 0
  deriving DecidableEq, Repr

structure CongestionPolicy where
  pauseThreshold : UInt32 := 80
  resumeThreshold : UInt32 := 40
  requireFreshEvidence : Bool := false
  evidenceValidityTicks : UInt32 := 20
  deriving DecidableEq, Repr

structure PolicyEnvelope where
  shuffle : ShuffleId := 0
  shuffleGeneration : ShuffleGeneration := 0
  generation : PolicyGeneration := 0
  fan : FanBounds := {}
  concurrency : ConcurrencyLimits := {}
  waves : WaveLimits := {}
  retry : RetryPolicy := {}
  congestion : CongestionPolicy := {}
  limits : Limits := {}
  deriving DecidableEq, Repr

/-- `validate_policy`. -/
def validatePolicy (policy : PolicyEnvelope) : Status := do
  refuseIf (policy.shuffle = 0) .invalidArgument "policy envelope has no shuffle identity"
  refuseIf (policy.fan.maxFanOut = 0 ∨ policy.fan.maxFanIn = 0) .invalidArgument
    "fan bounds must be positive"
  refuseIf (policy.concurrency.global = 0 ∨ policy.concurrency.perSource = 0 ∨
      policy.concurrency.perDestination = 0) .invalidArgument
    "concurrency limits must be positive"
  refuseIf (policy.concurrency.perSource > policy.concurrency.global ∨
      policy.concurrency.perDestination > policy.concurrency.global) .invalidArgument
    "per-source/per-destination limits exceed the global limit"
  refuseIf (policy.waves.maxGrantsPerWave = 0 ∨ policy.waves.maxGrantsPerWave >
      policy.limits.maxWaveGrants) .invalidArgument
    "max_grants_per_wave is zero or exceeds max_wave_grants"
  refuseIf (policy.waves.maxEdgesExaminedPerWave < policy.waves.maxGrantsPerWave) .invalidArgument
    "max_edges_examined_per_wave is below max_grants_per_wave"
  refuseIf (policy.retry.maxAttempts = 0 ∨ policy.retry.maxAttempts > 64) .invalidArgument
    "retry.max_attempts must be in [1, 64]"
  refuseIf (policy.congestion.pauseThreshold > 100) .invalidArgument "pause_threshold exceeds 100"
  refuseIf (policy.congestion.resumeThreshold > policy.congestion.pauseThreshold) .invalidArgument
    "resume_threshold exceeds pause_threshold"
  refuseIf (policy.congestion.requireFreshEvidence ∧ policy.congestion.evidenceValidityTicks = 0)
    .invalidArgument "fresh evidence required but validity window is zero"
  policy.limits.validate

/-! ## Canonical encoding -/

/-- `encode_limits`: every bound as 64 bits. -/
def encodeLimits (l : Limits) : Bytes :=
  putU64 l.maxFramePayloadBytes ++ putU64 l.maxMessagePayloadBytes ++
  putU64 l.maxAllocationBytes ++ putU64 l.maxStringBytes.toUInt64 ++
  putU64 l.maxEndpointBytes.toUInt64 ++ putU64 l.maxCollectionItems.toUInt64 ++
  putU64 l.maxChunksPerPartition ++ putU64 l.maxPartitions.toUInt64 ++
  putU64 l.maxParticipants.toUInt64 ++ putU64 l.maxSelectionPatterns.toUInt64 ++
  putU64 l.maxSelectionItems ++ putU64 l.maxPlannedEdges ++ putU64 l.maxTrackedEdges ++
  putU64 l.maxTrackedPartitions ++ putU64 l.maxStateBytes ++ putU64 l.maxJournalRecordBytes ++
  putU64 l.maxRetainedGenerations.toUInt64 ++ putU64 l.maxAttemptRecordsPerShuffle.toUInt64 ++
  putU64 l.maxPendingRetries.toUInt64 ++ putU64 l.maxWaveGrants.toUInt64

/-- `decode_limits`: the 32-bit bounds are cast from the 64-bit values. -/
def decodeLimits : Read Limits := do
  let maxFramePayloadBytes ← u64
  let maxMessagePayloadBytes ← u64
  let maxAllocationBytes ← u64
  let maxStringBytes ← u64
  let maxEndpointBytes ← u64
  let maxCollectionItems ← u64
  let maxChunksPerPartition ← u64
  let maxPartitions ← u64
  let maxParticipants ← u64
  let maxSelectionPatterns ← u64
  let maxSelectionItems ← u64
  let maxPlannedEdges ← u64
  let maxTrackedEdges ← u64
  let maxTrackedPartitions ← u64
  let maxStateBytes ← u64
  let maxJournalRecordBytes ← u64
  let maxRetainedGenerations ← u64
  let maxAttemptRecordsPerShuffle ← u64
  let maxPendingRetries ← u64
  let maxWaveGrants ← u64
  pure {
    maxFramePayloadBytes, maxMessagePayloadBytes, maxAllocationBytes
    maxStringBytes := maxStringBytes.toUInt32
    maxEndpointBytes := maxEndpointBytes.toUInt32
    maxCollectionItems := maxCollectionItems.toUInt32
    maxChunksPerPartition
    maxPartitions := maxPartitions.toUInt32
    maxParticipants := maxParticipants.toUInt32
    maxSelectionPatterns := maxSelectionPatterns.toUInt32
    maxSelectionItems, maxPlannedEdges, maxTrackedEdges, maxTrackedPartitions, maxStateBytes
    maxJournalRecordBytes
    maxRetainedGenerations := maxRetainedGenerations.toUInt32
    maxAttemptRecordsPerShuffle := maxAttemptRecordsPerShuffle.toUInt32
    maxPendingRetries := maxPendingRetries.toUInt32
    maxWaveGrants := maxWaveGrants.toUInt32 }

/-- `encode_policy`. -/
def encodePolicy (policy : PolicyEnvelope) : Bytes :=
  putU64 policy.shuffle ++ putU64 policy.shuffleGeneration ++ putU64 policy.generation ++
  putU32 policy.fan.maxFanOut ++ putU32 policy.fan.maxFanIn ++
  putU32 policy.concurrency.global ++ putU32 policy.concurrency.perSource ++
  putU32 policy.concurrency.perDestination ++
  putU32 policy.waves.maxGrantsPerWave ++ putU32 policy.waves.maxEdgesExaminedPerWave ++
  putU32 policy.retry.maxAttempts ++ putU32 policy.retry.minTicksBetweenAttempts ++
  putU32 policy.congestion.pauseThreshold ++ putU32 policy.congestion.resumeThreshold ++
  putBool policy.congestion.requireFreshEvidence ++
  putU32 policy.congestion.evidenceValidityTicks ++
  encodeLimits policy.limits

/-- `decode_policy`. -/
def decodePolicy : Read PolicyEnvelope := do
  let shuffle ← u64
  let shuffleGeneration ← u64
  let generation ← u64
  let maxFanOut ← u32
  let maxFanIn ← u32
  let global ← u32
  let perSource ← u32
  let perDestination ← u32
  let maxGrantsPerWave ← u32
  let maxEdgesExaminedPerWave ← u32
  let maxAttempts ← u32
  let minTicksBetweenAttempts ← u32
  let pauseThreshold ← u32
  let resumeThreshold ← u32
  let requireFreshEvidence ← boolean
  let evidenceValidityTicks ← u32
  let limits ← decodeLimits
  checkOk
  let policy : PolicyEnvelope := {
    shuffle, shuffleGeneration, generation
    fan := { maxFanOut, maxFanIn }
    concurrency := { global, perSource, perDestination }
    waves := { maxGrantsPerWave, maxEdgesExaminedPerWave }
    retry := { maxAttempts, minTicksBetweenAttempts }
    congestion := {
      pauseThreshold, resumeThreshold, requireFreshEvidence, evidenceValidityTicks }
    limits }
  validatePolicy policy
  pure policy

end ShuffleFabric
