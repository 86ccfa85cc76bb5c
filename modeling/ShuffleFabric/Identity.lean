import ShuffleFabric.Error
import ShuffleFabric.Hash

/-!
# ShuffleFabric.Identity

Identities and generations (`identity.hpp`).

Every identity is a 64-bit value.  The source tags each kind so that two kinds
cannot be compared by mistake; the tags have no run-time content, and the model
keeps the kinds apart by name only.
-/

namespace ShuffleFabric

abbrev ShuffleId := UInt64
abbrev ShuffleGeneration := UInt64
abbrev TopologyGeneration := UInt64
abbrev PolicyGeneration := UInt64
abbrev PartitionId := UInt64
abbrev PartitionGeneration := UInt64
abbrev ChunkId := UInt64
abbrev ProducerId := UInt64
abbrev ConsumerId := UInt64
abbrev WaveId := UInt64
abbrev TransferAttemptId := UInt64
abbrev IncarnationId := UInt64
abbrev CommitSequence := UInt64
abbrev TickId := UInt64

namespace Identity

/-- `std::to_string`. -/
def decimalText (value : Nat) : Bytes :=
  (Nat.toDigits 10 value).map fun ch => UInt8.ofNat ch.toNat

/-- `Id::to_string`. -/
protected def toString (id : UInt64) : Bytes := decimalText id.toNat

end Identity

end ShuffleFabric
