import ShuffleFabric.Hash
import ShuffleFabric.Identity

/-!
# ShuffleFabric.Edge

Edge identity and the values the scheduler reads about an edge, a partition and a
participant's pressure (`edge.hpp`).
-/

namespace ShuffleFabric

/-! ## Edge identity -/

/-- `struct EdgeKey`: one required delivery of a partition generation to a consumer. -/
structure EdgeKey where
  partition : PartitionId
  partitionGeneration : PartitionGeneration
  consumer : ConsumerId
  deriving DecidableEq, Repr

namespace EdgeKey

/-- The defaulted `operator<=>`: member by member. -/
def cmp (a b : EdgeKey) : Ordering :=
  compareLex (compareOn EdgeKey.partition)
    (compareLex (compareOn EdgeKey.partitionGeneration) (compareOn EdgeKey.consumer)) a b

instance : Ord EdgeKey := ⟨cmp⟩

instance : Std.TransOrd EdgeKey :=
  inferInstanceAs (Std.TransCmp (compareLex (compareOn EdgeKey.partition)
    (compareLex (compareOn EdgeKey.partitionGeneration) (compareOn EdgeKey.consumer))))

instance : Std.LawfulEqOrd EdgeKey where
  eq_of_compare := by
    rintro ⟨p, g, c⟩ ⟨p', g', c'⟩ h
    have h : cmp ⟨p, g, c⟩ ⟨p', g', c'⟩ = .eq := h
    simp only [cmp, compareLex, compareOn, Ordering.then_eq_eq, Std.compare_eq_iff_eq] at h
    obtain ⟨rfl, rfl, rfl⟩ := h
    rfl

end EdgeKey

/-! ## What is known about an edge -/

inductive EdgePhase where
  /-- Not part of the required edge set. -/
  | unknown
  /-- Required, not yet authoritatively completed. -/
  | pending
  /-- An attempt is in flight. -/
  | dispatched
  /-- Authoritatively committed. -/
  | completed
  /-- Permanently failed; explicitly recorded. -/
  | failed
  /-- The partition generation is older than retained history. -/
  | purged
  deriving DecidableEq, Repr

structure EdgeStatus where
  phase : EdgePhase := .unknown
  reason : ErrorCode := .unknownPartition
  attempts : UInt32 := 0
  readyAt : TickId := 0
  producerIncarnation : IncarnationId := 0
  manifestDigest : Digest := .zero
  bytes : UInt64 := 0
  /-- Set only for `completed`: a durable commit exists. -/
  authoritative : Bool := false
  deriving DecidableEq

/-- Pressure is evidence, never authority: it can only defer a dispatch. -/
structure PressureReading where
  level : UInt32 := 0
  observed : Bool := false
  fresh : Bool := false
  observedAt : TickId := 0
  reporter : IncarnationId := 0
  policyGeneration : PolicyGeneration := 0
  deriving DecidableEq, Repr

/-- Facts about the currently produced generation of a partition. -/
structure PartitionFacts where
  produced : Bool := false
  partitionGeneration : PartitionGeneration := 0
  manifestDigest : Digest := .zero
  totalBytes : UInt64 := 0
  producerIncarnation : IncarnationId := 0
  producer : ProducerId := 0
  deriving DecidableEq

end ShuffleFabric
