import ShuffleFabric.Lib.Distinct
import ShuffleFabric.Topology.Built
import ShuffleFabric.Topology.Requirement

/-!
# ShuffleFabric.Topology.Fan

The edges of a topology, counted from both ends: the consumers that cover a partition, and
the producers a consumer receives from.

The source counts in closed form, by the kind of a selection, and enumerates only to schedule.
On a topology that was built both agree with the pairs of a partition and a consumer that
requires it.
-/

namespace ShuffleFabric

open Lib

namespace Topology

/-! ## The functions -/

/-- `Topology::covering_consumers`. -/
def coveringConsumers (t : Topology) (partition : PartitionId) : List ConsumerId :=
  if partition ≥ t.partitionCount.toUInt64 then []
  else t.patternOrder.foldl (fun covering index =>
    if t.consumersOfPattern index = [] ∨ ¬(t.pattern index).covers partition then covering
    else covering ++ t.consumersOfPattern index) []

/-- `Topology::covering_consumer_count`. -/
def coveringConsumerCount (t : Topology) (partition : PartitionId) : Nat :=
  if partition ≥ t.partitionCount.toUInt64 then 0
  else t.patternOrder.foldl (fun count index =>
    if (t.pattern index).covers partition then count + (t.consumersOfPattern index).length
    else count) 0

/-- The loop of `fan_out`. -/
def countFanOut (t : Topology) (partition : PartitionId) : UInt64 :=
  t.patterns.foldl (fun count entry =>
    if entry.selection.covers partition then count + UInt64.ofNat entry.consumers.length
    else count) 0

/-- `Topology::fan_out`. -/
def fanOut (t : Topology) (partition : PartitionId) : Result UInt32 := do
  refuseIf (partition ≥ t.partitionCount.toUInt64) .unknownPartition
    "partition is outside the shuffle"
  let count := t.countFanOut partition
  refuseIf (count > 0xffffffff) .integerOverflow "fan-out exceeds the representable range"
  pure count.toUInt32

/-- Distinct ownership residues among the listed partitions. -/
def residues (list : List PartitionId) (producerCount : UInt32) : List UInt32 :=
  unique ((list.map fun p => (p % producerCount.toUInt64).toUInt32).insertionSort (· ≤ ·))

/-- The `switch` of `fan_in` over the selection kind. -/
def countOwners (t : Topology) (selection : PartitionSelection) (producerCount : UInt32) :
    Result UInt32 :=
  match selection.kind with
  | .all => .ok (min producerCount t.partitionCount)
  | .range =>
    .ok (min (selection.selectedCount t.partitionCount) producerCount.toUInt64).toUInt32
  | .list => do
    let residues := residues selection.list producerCount
    refuseIf (residues.length > 0xffffffff) .integerOverflow
      "fan-in exceeds the representable range"
    pure (UInt32.ofNat residues.length)

/-- `Topology::fan_in`. -/
def fanIn (t : Topology) (id : ConsumerId) : Result UInt32 :=
  match t.findConsumer id with
  | none => makeFailure .unknownParticipant "consumer is not registered"
  | some record =>
    let producerCount := UInt32.ofNat t.activeProducers.length
    if producerCount = 0 then .ok 0
    else t.countOwners (t.pattern record.pattern) producerCount

/-! ## What a selection covers -/

/-- The partitions of a shuffle that a selection covers. -/
def covered (selection : PartitionSelection) (count : UInt32) : Finset Nat :=
  (Finset.range count.toNat).filter fun p => selection.covers (UInt64.ofNat p)

/-- A partition below the count is a 64 bit number. -/
theorem toNat_ofNat_of_mem_range {count : UInt32} {p : Nat} (h : p < count.toNat) :
    (UInt64.ofNat p).toNat = p := by
  have hcount := count.toNat_lt
  rw [UInt64.toNat_ofNat', Nat.mod_eq_of_lt (by omega)]

/-- All covers every partition. -/
theorem covered_all {selection : PartitionSelection} (h : selection.kind = .all) (count : UInt32) :
    covered selection count = Finset.Ico 0 (0 + count.toNat) := by
  ext p
  simp [covered, PartitionSelection.covers, h]

/-- The lesser of two numbers. -/
theorem toNat_min (a b : UInt64) : (min a b).toNat = min a.toNat b.toNat := by
  rcases le_total a b with h | h
  · rw [min_eq_left h, min_eq_left (UInt64.le_iff_toNat_le.mp h)]
  · rw [min_eq_right h, min_eq_right (UInt64.le_iff_toNat_le.mp h)]

/-- The clipping of a range, without its case distinction. -/
theorem toNat_selectedCount_range {selection : PartitionSelection} (h : selection.kind = .range)
    (count : UInt32) : (selection.selectedCount count).toNat =
      min selection.last.toNat count.toNat - selection.first.toNat := by
  have hbound : count.toUInt64.toNat = count.toNat := rfl
  simp only [PartitionSelection.selectedCount, h, ge_iff_le, UInt64.le_iff_toNat_le, hbound]
  split
  · rw [UInt64.toNat_zero]
    omega
  · have hle : selection.first ≤ min selection.last count.toUInt64 := by
      rw [UInt64.le_iff_toNat_le, toNat_min, hbound]
      omega
    rw [UInt64.toNat_sub_of_le _ _ hle, toNat_min, hbound]

/-- What a range covers are consecutive partitions. -/
theorem covered_range {selection : PartitionSelection} (h : selection.kind = .range)
    (count : UInt32) :
    covered selection count = Finset.Ico selection.first.toNat
      (selection.first.toNat + (selection.selectedCount count).toNat) := by
  ext p
  rw [toNat_selectedCount_range h, covered, Finset.mem_filter, Finset.mem_range, Finset.mem_Ico]
  by_cases hp : p < count.toNat
  · simp only [PartitionSelection.covers, h, Bool.and_eq_true, decide_eq_true_eq, ge_iff_le,
      UInt64.le_iff_toNat_le, UInt64.lt_iff_toNat_lt, toNat_ofNat_of_mem_range hp]
    omega
  · omega

/-- Up to a bound, a sorted vector is what lies below the bound. -/
theorem takeWhile_eq_filter {l : List PartitionId} (h : Sorted (fun p => p) l)
    (bound : PartitionId) : l.takeWhile (· < bound) = l.filter (· < bound) := by
  induction l with
  | nil => rfl
  | cons p l ih =>
      by_cases hp : p < bound
      · simp [hp, ih h.tail]
      · have hrest : l.filter (· < bound) = [] := by
          rw [List.filter_eq_nil_iff]
          intro q hq
          have hle : bound ≤ q := le_trans (not_lt.mp hp) (le_of_lt (h.head_lt hq))
          simpa using hle
        simp [hp, hrest]

/-- What a list covers are its entries inside the shuffle. -/
theorem covered_list {selection : PartitionSelection} (h : selection.kind = .list)
    (hsorted : Sorted (fun p => p) selection.list) (count : UInt32) :
    covered selection count =
      ((selection.list.filter (· < count.toUInt64)).map UInt64.toNat).toFinset := by
  ext p
  have hsearch : ∀ q, (search (fun p => p) selection.list q).isSome ↔ q ∈ selection.list := by
    intro q
    rw [Option.isSome_iff_exists]
    simp [search_eq_some_iff hsorted]
  simp only [covered, Finset.mem_filter, Finset.mem_range, PartitionSelection.covers, h, hsearch,
    List.mem_toFinset, List.mem_map, List.mem_filter, decide_eq_true_eq, UInt64.lt_iff_toNat_lt]
  constructor
  · rintro ⟨hp, hmem⟩
    have hnat := toNat_ofNat_of_mem_range hp
    exact ⟨UInt64.ofNat p, ⟨hmem, by rw [hnat]; exact hp⟩, hnat⟩
  · rintro ⟨q, ⟨hmem, hlt⟩, rfl⟩
    exact ⟨hlt, by rwa [UInt64.ofNat_toNat]⟩

/-- A list covers its members below the count. -/
theorem card_covered_list {selection : PartitionSelection} (h : selection.kind = .list)
    (hsorted : Sorted (fun p => p) selection.list) (count : UInt32) :
    (covered selection count).card = (selection.list.takeWhile (· < count.toUInt64)).length := by
  have hinj : Function.Injective UInt64.toNat := fun _ _ => UInt64.toNat_inj.mp
  have hnodup : (selection.list.filter (· < count.toUInt64)).Nodup := by
    have hlist := hsorted.nodup_keys
    rw [List.map_id'] at hlist
    exact hlist.filter _
  rw [covered_list h hsorted, List.toFinset_card_of_nodup (hnodup.map hinj), List.length_map,
    takeWhile_eq_filter hsorted]

/-- The closed form counts what a selection covers. -/
theorem toNat_selectedCount {selection : PartitionSelection} (h : selection.Canonical)
    (count : UInt32) : (selection.selectedCount count).toNat = (covered selection count).card := by
  cases hkind : selection.kind with
  | all =>
      rw [covered_all hkind, Nat.card_Ico]
      simp [PartitionSelection.selectedCount, hkind]
  | range =>
      rw [covered_range hkind, Nat.card_Ico]
      omega
  | list =>
      obtain ⟨-, hsorted⟩ : selection.list ≠ [] ∧ Sorted (fun p => p) selection.list := by
        simpa [PartitionSelection.Canonical, hkind] using h
      have hcard := card_covered_list hkind hsorted count
      have hle : (covered selection count).card ≤ count.toNat := by
        simpa [covered] using Finset.card_filter_le (Finset.range count.toNat) _
      have hcount := count.toNat_lt
      simp only [PartitionSelection.selectedCount, hkind]
      rw [UInt64.toNat_ofNat', ← hcard, Nat.mod_eq_of_lt (by omega)]

/-! ## The consumers of a partition -/

/-- The consumers that require a partition. -/
def requiring (t : Topology) (partition : PartitionId) : List ConsumerRecord :=
  t.counting.filter fun c => (t.pattern c.pattern).covers partition

/-- A loop that appends, and skips what contributes nothing. -/
theorem foldl_append {α β : Type} (f : α → List β) (skip : α → Prop) [DecidablePred skip]
    (hskip : ∀ a, skip a → f a = []) (l : List α) (start : List β) :
    l.foldl (fun out a => if skip a then out else out ++ f a) start = start ++ l.flatMap f := by
  induction l generalizing start with
  | nil => simp
  | cons a l ih =>
      rw [List.foldl_cons, ih, List.flatMap_cons]
      split
      · next h => rw [hskip a h, List.nil_append]
      · rw [List.append_assoc]

/-- A loop that adds up, and skips what contributes nothing. -/
theorem foldl_add {α : Type} (f : α → Nat) (p : α → Prop) [DecidablePred p] (l : List α)
    (start : Nat) : l.foldl (fun count a => if p a then count + f a else count) start =
      start + (l.map fun a => if p a then f a else 0).sum := by
  induction l generalizing start with
  | nil => simp
  | cons a l ih =>
      rw [List.foldl_cons, ih, List.map_cons, List.sum_cons]
      split <;> omega

/-- The consumers a pattern contributes to a partition. -/
def contribution (t : Topology) (partition : PartitionId) (index : Nat) : List ConsumerId :=
  if (t.pattern index).covers partition then t.consumersOfPattern index else []

/-- `covering_consumers` is what the patterns contribute, in their order. -/
theorem coveringConsumers_eq (t : Topology) {partition : PartitionId}
    (h : partition < t.partitionCount.toUInt64) :
    t.coveringConsumers partition = t.patternOrder.flatMap (t.contribution partition) := by
  rw [coveringConsumers, if_neg (not_le.mpr h)]
  have hfold := foldl_append (t.contribution partition)
    (fun index => t.consumersOfPattern index = [] ∨ ¬(t.pattern index).covers partition)
    (fun index hskip => by
      unfold contribution
      rcases hskip with hempty | hother
      · rw [hempty, ite_self]
      · rw [if_neg hother]) t.patternOrder []
  rw [List.nil_append] at hfold
  rw [← hfold]
  refine List.foldl_ext _ _ _ fun out index _ => ?_
  split
  · rfl
  · next hused =>
      rw [contribution, if_pos (not_not.mp (not_or.mp hused).2)]

/-- Pattern by pattern, the requiring consumers are counted once. -/
theorem sum_contribution {t : Topology} (ht : t.Consistent) (partition : PartitionId) :
    ∑ i ∈ Finset.range t.patterns.length, (t.contribution partition i).length =
      (t.requiring partition).length := by
  have hpatterns : ∀ c ∈ t.counting, c.pattern < t.patterns.length := by
    intro c hc
    obtain ⟨-, -, -, hlt⟩ := ht.consumers c (List.mem_of_mem_filter hc)
    rwa [selections, List.length_map] at hlt
  have hsum := sum_countP_mul (fun c : ConsumerRecord => c.pattern)
    (fun i => if (t.pattern i).covers partition then 1 else 0) hpatterns
  have hterm : ∀ i, (t.contribution partition i).length =
      t.counting.countP (·.pattern == i) * if (t.pattern i).covers partition then 1 else 0 := by
    intro i
    rw [contribution, ← length_consumersOfPattern ht]
    split <;> simp
  simp only [hterm]
  rw [hsum, requiring, length_filter_eq_sum]

/-- In whichever order the patterns are taken. -/
theorem sum_patternOrder {t : Topology} (ht : t.Consistent) (partition : PartitionId) :
    (t.patternOrder.map fun i => (t.contribution partition i).length).sum =
      (t.requiring partition).length := by
  have hlength : t.selections.length = t.patterns.length := List.length_map _
  rw [(ht.order.map _).sum_eq, hlength, ← sum_contribution ht]
  rfl

/-- `covering_consumers` finds every consumer that requires the partition once. -/
theorem length_coveringConsumers {t : Topology} (ht : t.Consistent) {partition : PartitionId}
    (h : partition < t.partitionCount.toUInt64) :
    (t.coveringConsumers partition).length = (t.requiring partition).length := by
  rw [coveringConsumers_eq t h, List.length_flatMap]
  exact sum_patternOrder ht partition

/-- `covering_consumer_count` counts the consumers that require the partition. -/
theorem coveringConsumerCount_eq {t : Topology} (ht : t.Consistent) {partition : PartitionId}
    (h : partition < t.partitionCount.toUInt64) :
    t.coveringConsumerCount partition = (t.requiring partition).length := by
  rw [coveringConsumerCount, if_neg (not_le.mpr h), foldl_add, Nat.zero_add,
    ← sum_patternOrder ht]
  congr 2
  funext i
  unfold contribution
  split <;> rfl

/-- A consumer is under one pattern, and a pattern is taken once. -/
theorem nodup_coveringConsumers {t : Topology} (ht : t.Consistent) (partition : PartitionId) :
    (t.coveringConsumers partition).Nodup := by
  by_cases h : partition < t.partitionCount.toUInt64
  · rw [coveringConsumers_eq t h, List.nodup_flatMap]
    have hmem : ∀ {i : Nat} {id : ConsumerId}, id ∈ t.contribution partition i →
        id ∈ t.consumersOfPattern i := by
      intro i id hid
      unfold contribution at hid
      split at hid
      · exact hid
      · cases hid
    refine ⟨fun i _ => ?_, ?_⟩
    · unfold contribution
      split
      · have hlist := (ht.lists i).nodup_keys
        rwa [List.map_id'] at hlist
      · exact List.nodup_nil
    · have hnodup : t.patternOrder.Nodup := ht.order.nodup_iff.mpr List.nodup_range
      refine hnodup.imp fun {i j} hne id hi hj => ?_
      obtain ⟨record, hrecord, rfl, hpattern, -⟩ := (ht.listed i id).mp (hmem hi)
      exact hne (hpattern.symm.trans (ht.pattern_of_listed hrecord (hmem hj)).1)
  · rw [coveringConsumers, if_pos (not_lt.mp h)]
    exact List.nodup_nil

/-- A 64-bit counter that does not overflow. -/
theorem toNat_foldl_add {α : Type} (f : α → Nat) (p : α → Prop) [DecidablePred p] (l : List α)
    (start : UInt64) (hlt : start.toNat + (l.map fun a => if p a then f a else 0).sum < 2 ^ 64) :
    (l.foldl (fun (count : UInt64) a => if p a then count + UInt64.ofNat (f a) else count)
      start).toNat = start.toNat + (l.map fun a => if p a then f a else 0).sum := by
  induction l generalizing start with
  | nil => simp
  | cons a l ih =>
      rw [List.map_cons, List.sum_cons] at hlt ⊢
      rw [List.foldl_cons]
      split
      · next ha =>
          rw [if_pos ha] at hlt
          have hstart : (start + UInt64.ofNat (f a)).toNat = start.toNat + f a := by
            rw [UInt64.toNat_add, UInt64.toNat_ofNat', Nat.mod_eq_of_lt (a := f a) (by omega),
              Nat.mod_eq_of_lt (by omega)]
          rw [ih _ (by rw [hstart]; omega), hstart]
          omega
      · next ha =>
          rw [if_neg ha] at hlt
          rw [ih _ (by omega)]
          omega

/-- The consumers of a partition, counted by their patterns. -/
theorem sum_patterns {t : Topology} (ht : t.Consistent) (partition : PartitionId) :
    (t.patterns.map fun entry => if entry.selection.covers partition then entry.consumers.length
      else 0).sum = (t.requiring partition).length := by
  have hmap : (t.patterns.map fun entry =>
      if entry.selection.covers partition then entry.consumers.length else 0) =
      (List.range t.patterns.length).map fun i => (t.contribution partition i).length := by
    refine List.ext_getElem? fun i => ?_
    rw [List.getElem?_map, List.getElem?_map]
    cases hentry : t.patterns[i]? with
    | none =>
        have hle := List.getElem?_eq_none_iff.mp hentry
        rw [List.getElem?_eq_none (by rwa [List.length_range])]
        rfl
    | some entry =>
        have hlt : i < t.patterns.length := (List.getElem?_eq_some_iff.mp hentry).choose
        rw [List.getElem?_range hlt]
        simp only [Option.map_some, contribution, pattern, consumersOfPattern, hentry]
        split <;> rfl
  rw [hmap, ← sum_contribution ht]
  rfl

/-- No partition has more consumers than there are. -/
theorem length_requiring_le (t : Topology) (partition : PartitionId) :
    (t.requiring partition).length ≤ t.consumers.length :=
  (List.length_filter_le _ _).trans (List.length_filter_le _ _)

/-- No fan-out is too large to be reported: there are not as many consumers. -/
theorem fanOut_eq {t : Topology} (ht : t.Sound) {partition : PartitionId}
    (h : partition < t.partitionCount.toUInt64) :
    ∃ fan, t.fanOut partition = .ok fan ∧ fan.toNat = (t.requiring partition).length := by
  have hmax := t.limits.maxParticipants.toNat_lt
  have hbound := (t.length_requiring_le partition).trans ht.tallied.consumers
  have hsum := sum_patterns ht.consistent partition
  have hcount := toNat_foldl_add (fun entry : PatternEntry => entry.consumers.length)
    (fun entry => entry.selection.covers partition) t.patterns 0
    (by rw [hsum, UInt64.toNat_zero]; omega)
  rw [hsum, UInt64.toNat_zero, Nat.zero_add] at hcount
  have hcount : (t.countFanOut partition).toNat = (t.requiring partition).length := hcount
  refine ⟨(t.countFanOut partition).toUInt32, ?_, ?_⟩
  · simp only [fanOut, bind_eq_ok, refuseIf_eq_ok, exists_const, pure_eq_ok]
    refine ⟨not_le.mpr h, ?_, trivial⟩
    rw [gt_iff_lt, UInt64.not_lt, UInt64.le_iff_toNat_le, hcount]
    exact Nat.le_trans (by omega) (Nat.le_refl 0xffffffff)
  · rw [UInt64.toNat_toUInt32, hcount, Nat.mod_eq_of_lt (by omega)]

/-! ## Planned edges -/

/-- The required edges, partition by partition. -/
theorem requiredEdges_eq {t : Topology} (ht : t.Sound) :
    t.requiredEdges = ∑ p ∈ Finset.range t.partitionCount.toNat,
      (t.requiring (UInt64.ofNat p)).length := by
  have hsum := sum_length_filter (Finset.range t.partitionCount.toNat) t.counting
    fun p c => (t.pattern c.pattern).covers (UInt64.ofNat p)
  rw [requiredEdges]
  refine Eq.trans ?_ hsum.symm
  refine congrArg List.sum (List.map_congr_left fun c hc => ?_)
  obtain ⟨-, -, -, hlt⟩ := ht.consistent.consumers c (List.mem_of_mem_filter hc)
  have hentry := List.getElem?_eq_getElem hlt
  have hcanonical : (t.pattern c.pattern).Canonical := by
    rw [pattern_eq, hentry]
    exact ht.canonical _ (List.getElem_mem hlt)
  rw [requirement, toNat_selectedCount hcanonical]
  rfl

/-! ## The producers of a consumer -/

/-- The active producers can be counted in 32 bits. -/
theorem length_activeProducers_lt {t : Topology} (ht : t.Sound) :
    t.activeProducers.length < 2 ^ 32 := by
  have hmax := t.limits.maxParticipants.toNat_lt
  have hle : t.activeProducers.length ≤ t.producers.length := by
    rw [ht.consistent.active, List.length_map]
    exact List.length_filter_le _ _
  have hproducers := ht.tallied.producers
  omega

/-- The owners of what a selection covers. -/
def sources (t : Topology) (selection : PartitionSelection) : Set ProducerId :=
  {owner | ∃ p, selection.covers p = true ∧ t.ownerOf p = .ok owner}

/-- Where nobody owns a partition nothing is received. -/
theorem sources_of_no_producer {t : Topology} (h : t.activeProducers = [])
    (selection : PartitionSelection) : t.sources selection = ∅ := by
  refine Set.eq_empty_iff_forall_notMem.mpr ?_
  rintro owner ⟨p, -, howner⟩
  obtain ⟨index, hindex, -⟩ := bind_eq_ok.mp howner
  simp only [ownerIndexOf, bind_eq_ok, refuseIf_eq_ok] at hindex
  obtain ⟨-, -, -, hsome, -⟩ := hindex
  exact hsome h

/-- Partitions of one residue have one owner, and those of different residues different ones. -/
theorem ncard_sources {t : Topology} (ht : t.Consistent) (h : t.activeProducers ≠ [])
    (selection : PartitionSelection) : (t.sources selection).ncard =
      ((covered selection t.partitionCount).image (· % t.activeProducers.length)).card := by
  have hpos : 0 < t.activeProducers.length := List.length_pos_iff.mpr h
  have hnodup : t.activeProducers.Nodup := by
    have hsorted : Sorted (fun id => id) t.activeProducers := by
      rw [ht.active]
      exact List.pairwise_map.mpr (ht.producers_sorted.sublist List.filter_sublist)
    have hkeys := hsorted.nodup_keys
    rwa [List.map_id'] at hkeys
  have hset : t.sources selection = (((covered selection t.partitionCount).image
      (· % t.activeProducers.length)).image (t.activeProducers.getD · 0) : Finset ProducerId) := by
    ext owner
    simp only [sources, Set.mem_ofPred_eq, Finset.coe_image, Set.mem_image, covered,
      Finset.coe_filter, Finset.mem_range, ownerOf, ownerIndexOf, bind_eq_ok, refuseIf_eq_ok,
      pure_eq_ok, exists_const, not_le, UInt64.lt_iff_toNat_lt, ge_iff_le]
    constructor
    · rintro ⟨p, hcovers, index, ⟨hp, -, rfl⟩, rfl⟩
      exact ⟨_, ⟨p.toNat, ⟨hp, by rwa [UInt64.ofNat_toNat]⟩, rfl⟩, rfl⟩
    · rintro ⟨-, ⟨p, ⟨hp, hcovers⟩, rfl⟩, rfl⟩
      have hnat := toNat_ofNat_of_mem_range hp
      exact ⟨UInt64.ofNat p, hcovers, p % t.activeProducers.length,
        ⟨by rw [hnat]; exact hp, h, by rw [hnat]⟩, rfl⟩
  rw [hset, Set.ncard_coe_finset]
  refine Finset.card_image_of_injOn fun i hi j hj hij => ?_
  have hlt : ∀ r ∈ ((covered selection t.partitionCount).image (· % t.activeProducers.length)),
      r < t.activeProducers.length := by
    intro r hr
    obtain ⟨p, -, rfl⟩ := Finset.mem_image.mp hr
    exact Nat.mod_lt p hpos
  have hi := hlt i hi
  have hj := hlt j hj
  simp only [List.getD_eq_getElem _ _ hi, List.getD_eq_getElem _ _ hj] at hij
  exact (hnodup.getElem_inj_iff).mp hij

/-- The residues of a list, as they are counted. -/
theorem card_image_covered_list {selection : PartitionSelection} (h : selection.kind = .list)
    (hsorted : Sorted (fun p => p) selection.list) {count : UInt32}
    (hinside : ∀ p ∈ selection.list, p < count.toUInt64) {producerCount : UInt32}
    (hpos : 0 < producerCount.toNat) :
    ((covered selection count).image (· % producerCount.toNat)).card =
      (residues selection.list producerCount).length := by
  have hinj : Function.Injective UInt32.toNat := fun _ _ => UInt32.toNat_inj.mp
  have hresidue : ∀ p : UInt64, (p % producerCount.toUInt64).toUInt32.toNat =
      p.toNat % producerCount.toNat := by
    intro p
    have hcount := producerCount.toNat_lt
    have hlt := Nat.mod_lt p.toNat hpos
    rw [UInt64.toNat_toUInt32, UInt64.toNat_mod, UInt32.toNat_toUInt64]
    exact Nat.mod_eq_of_lt (by omega)
  have hall : selection.list.filter (· < count.toUInt64) = selection.list := by
    rw [List.filter_eq_self]
    intro p hp
    simpa using hinside p hp
  rw [residues, length_unique_insertionSort, ← Finset.card_image_of_injective _ hinj,
    covered_list h hsorted, hall]
  congr 1
  ext r
  simp only [Finset.mem_image, List.mem_toFinset, List.mem_map, exists_exists_and_eq_and, hresidue]

/-- There are no more residues than the modulus. -/
theorem card_image_mod_le (s : Finset Nat) {k : Nat} (hk : 0 < k) :
    (s.image (· % k)).card ≤ k := by
  have hsub : s.image (· % k) ⊆ Finset.range k := by
    intro r hr
    obtain ⟨p, -, rfl⟩ := Finset.mem_image.mp hr
    exact Finset.mem_range.mpr (Nat.mod_lt p hk)
  simpa using Finset.card_le_card hsub

/-- The `switch` of `fan_in` counts the residues of what is covered. -/
theorem countOwners_eq {t : Topology} {selection : PartitionSelection}
    (hcanonical : selection.Canonical) (hvalid : t.checkSelection selection = .ok ())
    {producerCount : UInt32} (hpos : 0 < producerCount.toNat) :
    ∃ fan, t.countOwners selection producerCount = .ok fan ∧
      fan.toNat = ((covered selection t.partitionCount).image (· % producerCount.toNat)).card := by
  have hlt := producerCount.toNat_lt
  cases hkind : selection.kind with
  | all =>
      refine ⟨min producerCount t.partitionCount, by simp only [countOwners, hkind], ?_⟩
      rw [covered_all hkind, card_image_mod_Ico _ _ hpos, Nat.min_comm]
      rcases le_total producerCount t.partitionCount with h | h
      · rw [min_eq_left h, min_eq_left (UInt32.le_iff_toNat_le.mp h)]
      · rw [min_eq_right h, min_eq_right (UInt32.le_iff_toNat_le.mp h)]
  | range =>
      refine ⟨_, by simp only [countOwners, hkind]; rfl, ?_⟩
      rw [covered_range hkind, card_image_mod_Ico _ _ hpos, UInt64.toNat_toUInt32, toNat_min,
        UInt32.toNat_toUInt64]
      exact Nat.mod_eq_of_lt (by omega)
  | list =>
      obtain ⟨-, hsorted⟩ : selection.list ≠ [] ∧ Sorted (fun p => p) selection.list := by
        simpa [PartitionSelection.Canonical, hkind] using hcanonical
      have hinside : ∀ p ∈ selection.list, p < t.partitionCount.toUInt64 := by
        simp only [checkSelection, hkind, bind_eq_ok, refuseIf_eq_ok] at hvalid
        obtain ⟨-, -, hinside⟩ := hvalid
        simpa using hinside
      have hcard := card_image_covered_list hkind hsorted hinside hpos
      have hle := card_image_mod_le (covered selection t.partitionCount) hpos
      rw [hcard] at hle ⊢
      refine ⟨UInt32.ofNat (residues selection.list producerCount).length, ?_, ?_⟩
      · simp only [countOwners, hkind, bind_eq_ok, refuseIf_eq_ok, exists_const, pure_eq_ok]
        exact ⟨by omega, trivial⟩
      · rw [UInt32.toNat_ofNat', Nat.mod_eq_of_lt (by omega)]

/-- The closed form counts the owners a registered consumer receives from. -/
theorem fanIn_eq {t : Topology} (ht : t.Sound) {id : ConsumerId} {record : ConsumerRecord}
    (hfind : t.findConsumer id = some record) :
    ∃ fan, t.fanIn id = .ok fan ∧ fan.toNat = (t.sources (t.pattern record.pattern)).ncard := by
  have hlength := length_activeProducers_lt ht
  have hcount : (UInt32.ofNat t.activeProducers.length).toNat = t.activeProducers.length := by
    rw [UInt32.toNat_ofNat', Nat.mod_eq_of_lt hlength]
  unfold fanIn
  rw [hfind]
  simp only
  by_cases hnone : t.activeProducers = []
  · refine ⟨0, if_pos (by rw [hnone]; rfl), ?_⟩
    rw [sources_of_no_producer hnone, Set.ncard_empty]
    rfl
  · have hpos : 0 < t.activeProducers.length := List.length_pos_iff.mpr hnone
    have hsome : ¬UInt32.ofNat t.activeProducers.length = 0 := by
      intro hzero
      rw [hzero] at hcount
      exact absurd hcount (by simpa using hpos.ne)
    obtain ⟨-, -, -, hlt⟩ := ht.consistent.consumers record (mem_of_findConsumer hfind)
    have hentry := List.getElem?_eq_getElem hlt
    have hmem := List.getElem_mem hlt
    have hpattern : t.pattern record.pattern = t.selections[record.pattern].1 := by
      rw [pattern_eq, hentry]
      rfl
    have hpositive : 0 < (UInt32.ofNat t.activeProducers.length).toNat := by
      rw [hcount]
      exact hpos
    obtain ⟨fan, hfan, hcard⟩ :=
      countOwners_eq (ht.canonical _ hmem) (ht.consistent.valid _ hmem) hpositive
    rw [if_neg hsome, ncard_sources ht.consistent hnone, hpattern]
    rw [hcount] at hcard
    exact ⟨fan, hfan, hcard⟩

end Topology

end ShuffleFabric
