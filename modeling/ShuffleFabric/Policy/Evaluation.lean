import ShuffleFabric.Enrolment
import ShuffleFabric.Lib.Survey

/-!
# ShuffleFabric.Policy.Evaluation

A policy envelope, held against a topology.

The evaluation answers from closed forms and reports a bounded sample.  Its verdict and its
maxima are those of the edges themselves: the pairs of a partition and a consumer that
requires it, counted from both ends.
-/

namespace ShuffleFabric

open Lib Action

/-! ## The function -/

/-- `struct PolicyViolation`. -/
structure PolicyViolation where
  code : ErrorCode
  subject : String
  detail : String
  deriving DecidableEq, Repr

/-- `struct PolicyEvaluation`. -/
structure PolicyEvaluation where
  plannedEdges : UInt64 := 0
  maxFanOut : UInt32 := 0
  maxFanIn : UInt32 := 0
  violations : List PolicyViolation := []
  deriving DecidableEq, Repr

/-- `PolicyEvaluation::acceptable`. -/
def PolicyEvaluation.acceptable (evaluation : PolicyEvaluation) : Bool :=
  evaluation.violations.isEmpty

/-- `kMaxViolationsPerCategory`. -/
def maxViolationsPerCategory : Nat := 8

/-- The violation of the edge ceiling, if there is one. -/
def edgeViolations (policy : PolicyEnvelope) (plannedEdges : UInt64) : List PolicyViolation :=
  if plannedEdges > policy.limits.maxPlannedEdges then
    [⟨.limitExceeded, "shuffle", s!"planned edge count {plannedEdges} exceeds max_planned_edges"⟩]
  else []

/-- The violation of a partition with too many consumers. -/
def fanOutViolation (policy : PolicyEnvelope) (partition : PartitionId) (fanOut : UInt32) :
    PolicyViolation :=
  ⟨.fanOutCeilingExceeded, s!"partition {partition}",
    s!"fan-out {fanOut} exceeds max_fan_out {policy.fan.maxFanOut}"⟩

/-- The violation of a consumer with too many sources. -/
def fanInViolation (policy : PolicyEnvelope) (record : ConsumerRecord) (fanIn : UInt32) :
    PolicyViolation :=
  ⟨.fanInCeilingExceeded, s!"consumer {record.id}",
    s!"fan-in {fanIn} exceeds max_fan_in {policy.fan.maxFanIn}"⟩

/-- The order of the report: by code, then by subject. -/
def PolicyViolation.Before (lhs rhs : PolicyViolation) : Prop :=
  lhs.code.value < rhs.code.value ∨ lhs.code.value = rhs.code.value ∧ lhs.subject ≤ rhs.subject

instance : DecidableRel PolicyViolation.Before := fun _ _ =>
  inferInstanceAs (Decidable (_ ∨ _))

/-- The partitions of the shuffle, in the order of the loop. -/
def Topology.partitions (t : Topology) : List PartitionId :=
  (List.range t.partitionCount.toNat).map UInt64.ofNat

/-- `evaluate_policy`. -/
def evaluatePolicy (t : Topology) (policy : PolicyEnvelope) : Result PolicyEvaluation := do
  validatePolicy policy
  refuseIf (policy.shuffle ≠ t.shuffle ∨ policy.shuffleGeneration ≠ t.shuffleGeneration)
    .policyMismatch "policy envelope belongs to another shuffle generation"
  let plannedEdges ← t.plannedEdgeCount
  let fanOut ← Survey.run maxViolationsPerCategory t.fanOut policy.fan.maxFanOut
    (fanOutViolation policy) { peak := 0 } t.partitions
  let fanIn ← Survey.run maxViolationsPerCategory (fun record => t.fanIn record.id)
    policy.fan.maxFanIn (fanInViolation policy) { peak := 0 } t.consumers
  pure {
    plannedEdges
    maxFanOut := fanOut.peak
    maxFanIn := fanIn.peak
    violations := (edgeViolations policy plannedEdges ++ fanOut.reports ++ fanIn.reports).insertionSort
      PolicyViolation.Before }

/-! ## What is counted -/

namespace Topology

/-- The consumers a partition is delivered to. -/
def deliveries (t : Topology) (partition : PartitionId) : Nat := (t.requiring partition).length

/-- The producers a consumer receives from. -/
noncomputable def origins (t : Topology) (record : ConsumerRecord) : Nat :=
  (t.sources (t.pattern record.pattern)).ncard

/-- The partitions of a topology lie below its count. -/
theorem lt_of_mem_partitions {t : Topology} {partition : PartitionId}
    (h : partition ∈ t.partitions) : partition < t.partitionCount.toUInt64 := by
  obtain ⟨p, hp, rfl⟩ := List.mem_map.mp h
  have hlt := List.mem_range.mp hp
  rw [UInt64.lt_iff_toNat_lt, toNat_ofNat_of_mem_range hlt]
  exact hlt

/-- A registered consumer is found under its identifier. -/
theorem findConsumer_of_mem {t : Topology} (ht : t.Consistent) {record : ConsumerRecord}
    (h : record ∈ t.consumers) : t.findConsumer record.id = some record :=
  (search_eq_some_iff ht.consumers_sorted).mpr ⟨h, rfl⟩

/-- There are not as many edges as 64 bits count. -/
theorem requiredEdges_lt {t : Topology} (ht : t.Sound) : t.requiredEdges < 2 ^ 64 := by
  have hcount := t.partitionCount.toNat_lt
  have hmax := t.limits.maxParticipants.toNat_lt
  have hrow : ∀ p ∈ Finset.range t.partitionCount.toNat,
      (t.requiring (UInt64.ofNat p)).length ≤ 2 ^ 32 - 1 := fun p _ => by
    have hconsumers := (t.length_requiring_le (UInt64.ofNat p)).trans ht.tallied.consumers
    omega
  have hsum := Finset.sum_le_card_nsmul _ _ _ hrow
  rw [Finset.card_range, smul_eq_mul, ← requiredEdges_eq ht] at hsum
  calc t.requiredEdges ≤ t.partitionCount.toNat * (2 ^ 32 - 1) := hsum
    _ ≤ (2 ^ 32 - 1) * (2 ^ 32 - 1) := Nat.mul_le_mul_right _ (by omega)
    _ < 2 ^ 64 := by decide

/-- Every partition can be measured. -/
theorem fanOut_of_mem {t : Topology} (ht : t.Sound) {partition : PartitionId}
    (h : partition ∈ t.partitions) :
    t.fanOut partition = .ok (UInt32.ofNat (t.deliveries partition)) ∧
      (UInt32.ofNat (t.deliveries partition)).toNat = t.deliveries partition := by
  obtain ⟨fan, hfan, hnat⟩ := fanOut_eq ht (lt_of_mem_partitions h)
  have hofNat : UInt32.ofNat (t.deliveries partition) = fan := by
    rw [deliveries, ← hnat, UInt32.ofNat_toNat]
  rw [hofNat]
  exact ⟨hfan, hnat⟩

/-- Every consumer can be measured. -/
theorem fanIn_of_mem {t : Topology} (ht : t.Sound) {record : ConsumerRecord}
    (h : record ∈ t.consumers) :
    t.fanIn record.id = .ok (UInt32.ofNat (t.origins record)) ∧
      (UInt32.ofNat (t.origins record)).toNat = t.origins record := by
  obtain ⟨fan, hfan, hnat⟩ := fanIn_eq ht (findConsumer_of_mem ht.consistent h)
  have hofNat : UInt32.ofNat (t.origins record) = fan := by
    rw [origins, ← hnat, UInt32.ofNat_toNat]
  rw [hofNat]
  exact ⟨hfan, hnat⟩

end Topology

/-! ## The verdict -/

/-- The partitions delivered to more consumers than the policy allows. -/
def crowded (t : Topology) (policy : PolicyEnvelope) : List PartitionId :=
  Survey.above t.deliveries policy.fan.maxFanOut.toNat t.partitions

/-- The consumers that receive from more producers than the policy allows. -/
noncomputable def overfed (t : Topology) (policy : PolicyEnvelope) : List ConsumerRecord :=
  Survey.above t.origins policy.fan.maxFanIn.toNat t.consumers

/-- What an evaluation says is so. -/
structure PolicyEvaluation.Exact (evaluation : PolicyEvaluation) (t : Topology)
    (policy : PolicyEnvelope) : Prop where
  plannedEdges : evaluation.plannedEdges.toNat = t.requiredEdges
  maxFanOut : ∀ bound, evaluation.maxFanOut.toNat ≤ bound ↔
    ∀ partition ∈ t.partitions, t.deliveries partition ≤ bound
  maxFanIn : ∀ bound, evaluation.maxFanIn.toNat ≤ bound ↔
    ∀ record ∈ t.consumers, t.origins record ≤ bound
  acceptable : evaluation.acceptable = true ↔
    t.requiredEdges ≤ policy.limits.maxPlannedEdges.toNat ∧
      (∀ partition ∈ t.partitions, t.deliveries partition ≤ policy.fan.maxFanOut.toNat) ∧
      ∀ record ∈ t.consumers, t.origins record ≤ policy.fan.maxFanIn.toNat
  violations : evaluation.violations.Perm (edgeViolations policy evaluation.plannedEdges ++
    ((crowded t policy).take 8).map (fun partition =>
      fanOutViolation policy partition (UInt32.ofNat (t.deliveries partition))) ++
    ((overfed t policy).take 8).map fun record =>
      fanInViolation policy record (UInt32.ofNat (t.origins record)))
  sorted : evaluation.violations.Pairwise PolicyViolation.Before

instance : IsTrans PolicyViolation PolicyViolation.Before where
  trans a b c := by
    rintro (hab | ⟨hab, hsubject⟩) (hbc | ⟨hbc, hsubject'⟩)
    · exact .inl (UInt16.lt_trans hab hbc)
    · exact .inl (hbc ▸ hab)
    · exact .inl (hab ▸ hbc)
    · exact .inr ⟨hab.trans hbc, le_trans hsubject hsubject'⟩

instance : Std.Total PolicyViolation.Before where
  total a b := by
    by_cases hab : a.code.value < b.code.value
    · exact .inl (.inl hab)
    · by_cases hba : b.code.value < a.code.value
      · exact .inr (.inl hba)
      · have hcode : a.code.value = b.code.value :=
          UInt16.le_antisymm (UInt16.not_lt.mp hba) (UInt16.not_lt.mp hab)
        rcases le_total a.subject b.subject with hsubject | hsubject
        · exact .inl (.inr ⟨hcode, hsubject⟩)
        · exact .inr (.inr ⟨hcode.symm, hsubject⟩)

/-- Numbers are compared as they are counted. -/
theorem monotone_toNat : Monotone UInt32.toNat := fun _ _ h => UInt32.le_iff_toNat_le.mp h

/-- There is no violation of the edges exactly if they are within their ceiling. -/
theorem edgeViolations_eq_nil {policy : PolicyEnvelope} {plannedEdges : UInt64} :
    edgeViolations policy plannedEdges = [] ↔
      plannedEdges.toNat ≤ policy.limits.maxPlannedEdges.toNat := by
  unfold edgeViolations
  rw [← UInt64.le_iff_toNat_le]
  split
  · next h => simpa using h
  · next h => simpa using h

/-- The survey of the partitions finds the crowded ones. -/
theorem above_deliveries {t : Topology} (ht : t.Sound) (policy : PolicyEnvelope) :
    Survey.above (fun partition => UInt32.ofNat (t.deliveries partition)) policy.fan.maxFanOut
      t.partitions = crowded t policy := by
  refine List.filter_congr fun partition hpartition => ?_
  simp only [gt_iff_lt, UInt32.lt_iff_toNat_lt, (Topology.fanOut_of_mem ht hpartition).2]

/-- The survey of the consumers finds the overfed ones. -/
theorem above_origins {t : Topology} (ht : t.Sound) (policy : PolicyEnvelope) :
    Survey.above (fun record => UInt32.ofNat (t.origins record)) policy.fan.maxFanIn
      t.consumers = overfed t policy := by
  refine List.filter_congr fun record hrecord => ?_
  simp only [gt_iff_lt, UInt32.lt_iff_toNat_lt, (Topology.fanIn_of_mem ht hrecord).2]

/-- `evaluate_policy` on a sound topology. -/
theorem evaluatePolicy_exact {t : Topology} (ht : t.Sound) {policy : PolicyEnvelope}
    (hvalid : validatePolicy policy = .ok ()) (hshuffle : policy.shuffle = t.shuffle)
    (hgeneration : policy.shuffleGeneration = t.shuffleGeneration) :
    ∃ evaluation, evaluatePolicy t policy = .ok evaluation ∧ evaluation.Exact t policy := by
  have hedges := Nat.mod_eq_of_lt (Topology.requiredEdges_lt ht)
  have hplanned : t.plannedEdgeCount = .ok (UInt64.ofNat t.requiredEdges) := by
    rw [Topology.plannedEdgeCount_eq_ok ht.consistent, UInt64.toNat_ofNat', hedges]
  have hfanOut : Survey.run maxViolationsPerCategory t.fanOut policy.fan.maxFanOut
      (fanOutViolation policy) { peak := 0 } t.partitions = .ok {
        peak := Survey.top (fun partition => UInt32.ofNat (t.deliveries partition)) 0 t.partitions
        reports := ((crowded t policy).take maxViolationsPerCategory).map fun partition =>
          fanOutViolation policy partition (UInt32.ofNat (t.deliveries partition))
        exceeding := (crowded t policy).length } := by
    rw [← above_deliveries ht]
    exact Survey.run_eq (fun p hp => (Topology.fanOut_of_mem ht hp).1) 0
  have hfanIn : Survey.run maxViolationsPerCategory (fun record => t.fanIn record.id)
      policy.fan.maxFanIn (fanInViolation policy) { peak := 0 } t.consumers = .ok {
        peak := Survey.top (fun record => UInt32.ofNat (t.origins record)) 0 t.consumers
        reports := ((overfed t policy).take maxViolationsPerCategory).map fun record =>
          fanInViolation policy record (UInt32.ofNat (t.origins record))
        exceeding := (overfed t policy).length } := by
    rw [← above_origins ht]
    exact Survey.run_eq (fun r hr => (Topology.fanIn_of_mem ht hr).1) 0
  let found : List PolicyViolation := edgeViolations policy (UInt64.ofNat t.requiredEdges) ++
    ((crowded t policy).take 8).map (fun partition =>
      fanOutViolation policy partition (UInt32.ofNat (t.deliveries partition))) ++
    ((overfed t policy).take 8).map fun record =>
      fanInViolation policy record (UInt32.ofNat (t.origins record))
  refine ⟨{
      plannedEdges := UInt64.ofNat t.requiredEdges
      maxFanOut := Survey.top (fun partition => UInt32.ofNat (t.deliveries partition)) 0 t.partitions
      maxFanIn := Survey.top (fun record => UInt32.ofNat (t.origins record)) 0 t.consumers
      violations := found.insertionSort PolicyViolation.Before }, ?_, ?_⟩
  · simp only [evaluatePolicy, bind_eq_ok, refuseIf_eq_ok, exists_const]
    exact ⟨(), hvalid, by simp [hshuffle, hgeneration], _, hplanned, _, hfanOut, _, hfanIn, rfl⟩
  · have hperm := List.perm_insertionSort PolicyViolation.Before found
    have hempty : found.insertionSort PolicyViolation.Before = [] ↔ found = [] :=
      ⟨fun h => (h ▸ hperm).nil_eq.symm, fun h => by rw [h]; rfl⟩
    have hfound : found = [] ↔ edgeViolations policy (UInt64.ofNat t.requiredEdges) = [] ∧
        (crowded t policy).take 8 = [] ∧ (overfed t policy).take 8 = [] := by
      simp only [found, List.append_eq_nil_iff, List.map_eq_nil_iff, and_assoc]
    have htoNat : (UInt64.ofNat t.requiredEdges).toNat = t.requiredEdges := by
      rw [UInt64.toNat_ofNat', hedges]
    refine ⟨htoNat, fun bound => ?_, fun bound => ?_, ?_, hperm,
      List.pairwise_insertionSort PolicyViolation.Before found⟩
    · rw [Survey.top_le_iff monotone_toNat, UInt32.toNat_zero,
        and_iff_right (Nat.zero_le bound)]
      exact forall₂_congr fun p hp => by rw [(Topology.fanOut_of_mem ht hp).2]
    · rw [Survey.top_le_iff monotone_toNat, UInt32.toNat_zero,
        and_iff_right (Nat.zero_le bound)]
      exact forall₂_congr fun r hr => by rw [(Topology.fanIn_of_mem ht hr).2]
    · rw [PolicyEvaluation.acceptable, List.isEmpty_iff, hempty, hfound, edgeViolations_eq_nil,
        htoNat, crowded, overfed, Survey.take_above_eq_nil (by decide),
        Survey.take_above_eq_nil (by decide)]

/-- The policy of a small shuffle, with a ceiling below its six edges. -/
def tightPolicy : PolicyEnvelope :=
  { (smallOpen 4).policy with limits := { maxPlannedEdges := 5 } }

end ShuffleFabric
