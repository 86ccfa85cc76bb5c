import ShuffleFabric.Error

/-!
# ShuffleFabric.Bytes

Checked 64-bit arithmetic and the resource bounds every externally influenced
size passes through (`bytes.hpp`, `bytes.cpp`).
-/

namespace ShuffleFabric

/-! ## Checked arithmetic -/

def addOverflows (a b : UInt64) : Bool := a > UInt64.ofNat (UInt64.size - 1) - b

def mulOverflows (a b : UInt64) : Bool := b != 0 && a > UInt64.ofNat (UInt64.size - 1) / b

def checkedAdd (a b : UInt64) : Result UInt64 :=
  if addOverflows a b then makeFailure .integerOverflow "checked_add overflow" else .ok (a + b)

def checkedMul (a b : UInt64) : Result UInt64 :=
  if mulOverflows a b then makeFailure .integerOverflow "checked_mul overflow" else .ok (a * b)

/-- A checked sum is the sum of the numbers. -/
theorem toNat_of_checkedAdd {a b c : UInt64} (h : checkedAdd a b = .ok c) :
    c.toNat = a.toNat + b.toNat := by
  unfold checkedAdd at h
  split at h
  · cases h
  · next hno =>
      have hc : a + b = c := by simpa using h
      have hle : a ≤ UInt64.ofNat (UInt64.size - 1) - b := by
        simpa [addOverflows] using hno
      have hb : b ≤ UInt64.ofNat (UInt64.size - 1) := by
        rw [UInt64.le_iff_toNat_le]
        have := b.toNat_lt
        simp only [UInt64.toNat_ofNat', UInt64.size]
        omega
      rw [UInt64.le_iff_toNat_le, UInt64.toNat_sub_of_le _ _ hb] at hle
      have := b.toNat_lt
      rw [← hc, UInt64.toNat_add, Nat.mod_eq_of_lt]
      simp only [UInt64.toNat_ofNat', UInt64.size] at hle
      omega

/-- A checked product is the product of the numbers. -/
theorem toNat_of_checkedMul {a b c : UInt64} (h : checkedMul a b = .ok c) :
    c.toNat = a.toNat * b.toNat := by
  unfold checkedMul at h
  split at h
  · cases h
  · next hno =>
      have hc : a * b = c := by simpa using h
      rw [← hc, UInt64.toNat_mul]
      apply Nat.mod_eq_of_lt
      by_cases hb : b = 0
      · simp [hb]
      · have hle : a ≤ UInt64.ofNat (UInt64.size - 1) / b := by
          simpa [mulOverflows, hb] using hno
        rw [UInt64.le_iff_toNat_le, UInt64.toNat_div] at hle
        have hmul := Nat.mul_le_of_le_div _ _ _ hle
        simp only [UInt64.toNat_ofNat', UInt64.size] at hmul
        omega

/-- A sum is found exactly if it is a 64-bit number. -/
theorem checkedAdd_eq_ok {a b c : UInt64} :
    checkedAdd a b = .ok c ↔ c.toNat = a.toNat + b.toNat := by
  refine ⟨toNat_of_checkedAdd, fun h => ?_⟩
  have hc := c.toNat_lt
  have hb := b.toNat_lt
  have hbound : b ≤ UInt64.ofNat (UInt64.size - 1) := by
    rw [UInt64.le_iff_toNat_le]
    simp only [UInt64.toNat_ofNat', UInt64.size]
    omega
  have hno : ¬addOverflows a b = true := by
    simp only [addOverflows, decide_eq_true_eq, gt_iff_lt, UInt64.not_lt, UInt64.le_iff_toNat_le]
    rw [UInt64.toNat_sub_of_le _ _ hbound]
    simp only [UInt64.toNat_ofNat', UInt64.size]
    omega
  rw [checkedAdd, if_neg hno]
  congr 1
  apply UInt64.toNat_inj.mp
  rw [UInt64.toNat_add, Nat.mod_eq_of_lt (by omega), h]

/-- A product is found exactly if it is a 64-bit number. -/
theorem checkedMul_eq_ok {a b c : UInt64} :
    checkedMul a b = .ok c ↔ c.toNat = a.toNat * b.toNat := by
  refine ⟨toNat_of_checkedMul, fun h => ?_⟩
  have hc := c.toNat_lt
  have hno : ¬mulOverflows a b = true := by
    simp only [mulOverflows, Bool.and_eq_true, bne_iff_ne, decide_eq_true_eq, not_and, gt_iff_lt,
      UInt64.not_lt, UInt64.le_iff_toNat_le, UInt64.toNat_div]
    intro hb
    have hb : 0 < b.toNat := UInt64.pos_iff_ne_zero.mpr hb |> UInt64.lt_iff_toNat_lt.mp
    rw [Nat.le_div_iff_mul_le hb]
    simp only [UInt64.toNat_ofNat', UInt64.size]
    omega
  rw [checkedMul, if_neg hno]
  congr 1
  apply UInt64.toNat_inj.mp
  rw [UInt64.toNat_mul, Nat.mod_eq_of_lt (by omega), h]

/-! ## Limits -/

/-- `struct Limits`.  A value of 0 means "nothing of this kind is accepted". -/
structure Limits where
  maxFramePayloadBytes : UInt64 := 0x100000
  maxMessagePayloadBytes : UInt64 := 0x800000
  maxAllocationBytes : UInt64 := 0x800000
  maxStringBytes : UInt32 := 4096
  maxEndpointBytes : UInt32 := 256
  maxCollectionItems : UInt32 := 0x40000
  maxChunksPerPartition : UInt64 := 0x100000
  maxPartitions : UInt32 := 0x400000
  maxParticipants : UInt32 := 0x100000
  maxSelectionPatterns : UInt32 := 0x10000
  maxSelectionItems : UInt64 := 0x400000
  maxPlannedEdges : UInt64 := 0x100000000
  maxTrackedEdges : UInt64 := 0x4000000
  maxTrackedPartitions : UInt64 := 0x400000
  maxStateBytes : UInt64 := 0x10000000
  maxJournalRecordBytes : UInt64 := 0x100000
  maxRetainedGenerations : UInt32 := 8
  maxAttemptRecordsPerShuffle : UInt32 := 0x100000
  maxPendingRetries : UInt32 := 0x10000
  maxWaveGrants : UInt32 := 0x4000
  deriving DecidableEq, Repr

/-- `Limits::validate`: structural consistency of the bound set itself. -/
def Limits.validate (l : Limits) : Status := do
  refuseIf (l.maxFramePayloadBytes = 0 ∨ l.maxFramePayloadBytes > l.maxMessagePayloadBytes)
    .invalidArgument "max_frame_payload_bytes must be in (0, max_message_payload_bytes]"
  refuseIf (l.maxAllocationBytes = 0 ∨ l.maxAllocationBytes > l.maxMessagePayloadBytes)
    .invalidArgument "max_allocation_bytes must be in (0, max_message_payload_bytes]"
  refuseIf (l.maxStringBytes = 0 ∨ l.maxStringBytes.toUInt64 > l.maxAllocationBytes)
    .invalidArgument "max_string_bytes must be in (0, max_allocation_bytes]"
  refuseIf (l.maxEndpointBytes = 0 ∨ l.maxEndpointBytes > l.maxStringBytes) .invalidArgument
    "max_endpoint_bytes must be in (0, max_string_bytes]"
  refuseIf (l.maxCollectionItems = 0) .invalidArgument "max_collection_items must be positive"
  refuseIf (l.maxChunksPerPartition = 0) .invalidArgument
    "max_chunks_per_partition must be positive"
  refuseIf (l.maxPartitions = 0 ∨ l.maxParticipants = 0) .invalidArgument
    "max_partitions and max_participants must be positive"
  refuseIf (l.maxSelectionPatterns = 0 ∨ l.maxSelectionItems = 0) .invalidArgument
    "selection bounds must be positive"
  refuseIf (l.maxPlannedEdges = 0 ∨ l.maxTrackedEdges = 0 ∨ l.maxTrackedPartitions = 0)
    .invalidArgument "edge and partition tracking bounds must be positive"
  refuseIf (l.maxTrackedPartitions > l.maxPartitions.toUInt64) .invalidArgument
    "max_tracked_partitions exceeds max_partitions"
  refuseIf (l.maxStateBytes = 0 ∨ l.maxJournalRecordBytes = 0 ∨ l.maxJournalRecordBytes >
      l.maxStateBytes) .invalidArgument
    "durable state bounds are inconsistent"
  refuseIf (l.maxRetainedGenerations = 0) .invalidArgument
    "max_retained_generations must be positive"
  refuseIf (l.maxWaveGrants = 0 ∨ l.maxWaveGrants.toUInt64 > l.maxTrackedEdges) .invalidArgument
    "max_wave_grants is inconsistent with tracked edges"

/-- The default bound set passes its own check. -/
example : Limits.validate {} = .ok () := by decide +kernel

end ShuffleFabric
