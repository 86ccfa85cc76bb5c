import ShuffleFabric.Lib.Count
import ShuffleFabric.Topology.Consistent

/-!
# ShuffleFabric.Topology.Requirement

What the registered participants imply: how many edges a shuffle requires, and who owns a
partition.

A topology answers these from tables it maintains on the side (the lists of the patterns,
the active producers).  Here each answer is defined from the records alone, and the
tables of a consistent topology are shown to give it.
-/

namespace ShuffleFabric

open Lib

namespace Topology

/-! ## From the records alone -/

/-- The partitions one consumer requires. -/
def requirement (t : Topology) (pattern : Nat) : Nat :=
  ((t.pattern pattern).selectedCount t.partitionCount).toNat

/-- The consumers that count toward the requirement. -/
def counting (t : Topology) : List ConsumerRecord :=
  t.consumers.filter (countsTowardRequirement ·.state)

/-- Every counting consumer requires each partition of its selection once. -/
def requiredEdges (t : Topology) : Nat := (t.counting.map fun c => t.requirement c.pattern).sum

/-- The producers that hold authority, in the order of their identifiers. -/
def owners (t : Topology) : List ProducerId :=
  (t.producers.filter (holdsAuthority ·.state)).map (·.id)

/-- The owner the records imply: none outside the shuffle, none without a producer. -/
def impliedOwner (t : Topology) (p : PartitionId) : Option ProducerId :=
  if p.toNat < t.partitionCount.toNat then t.owners[p.toNat % t.owners.length]? else none

/-! ## Planned edges -/

theorem toNat_ofNat_consumersOfPattern {t : Topology} (ht : t.Consistent) (i : Nat) :
    (UInt64.ofNat (t.consumersOfPattern i).length).toNat = (t.consumersOfPattern i).length := by
  have hlt := (ht.lists i).length_lt fun id hid => by
    obtain ⟨record, hrecord, rfl, -⟩ := (ht.listed i id).mp hid
    exact (ht.consumers record hrecord).1
  rw [UInt64.toNat_ofNat', Nat.mod_eq_of_lt hlt]

/-- One turn of the loop adds the edges of one pattern. -/
theorem addPlannedEdges_eq_ok {t : Topology} (ht : t.Consistent) {i : Nat} {entry : PatternEntry}
    (hentry : t.patterns[i]? = some entry) {total edges : UInt64} :
    t.addPlannedEdges total entry = .ok edges ↔
      edges.toNat = total.toNat + (t.consumersOfPattern i).length * t.requirement i := by
  have hconsumers : t.consumersOfPattern i = entry.consumers := by simp [consumersOfPattern, hentry]
  have hrequirement : t.requirement i =
      (entry.selection.selectedCount t.partitionCount).toNat := by
    simp [requirement, pattern, hentry]
  have hlength := hconsumers ▸ toNat_ofNat_consumersOfPattern ht i
  unfold addPlannedEdges
  rw [hconsumers, hrequirement]
  by_cases hempty : entry.consumers = []
  · simp [hempty, eq_comm, ← UInt64.toNat_inj]
  · rw [if_neg hempty]
    simp only [bind_eq_ok, checkedMul_eq_ok, checkedAdd_eq_ok, hlength]
    constructor
    · rintro ⟨product, hproduct, hsum⟩
      rw [hsum, hproduct]
    · intro hsum
      have hlt := edges.toNat_lt
      refine ⟨UInt64.ofNat (entry.consumers.length *
        (entry.selection.selectedCount t.partitionCount).toNat), ?_, ?_⟩ <;>
      rw [UInt64.toNat_ofNat', Nat.mod_eq_of_lt (by omega)]
      exact hsum

theorem foldlM_addPlannedEdges {t : Topology} (ht : t.Consistent) {entries : List PatternEntry}
    {start : Nat} (hentries : ∀ (i : Nat) (entry : PatternEntry), entries[i]? = some entry →
      t.patterns[start + i]? = some entry) {total edges : UInt64} :
    entries.foldlM t.addPlannedEdges total = .ok edges ↔
      edges.toNat = total.toNat + ∑ i ∈ Finset.range entries.length,
        (t.consumersOfPattern (start + i)).length * t.requirement (start + i) := by
  induction entries generalizing start total with
  | nil => simp [pure, Except.pure, eq_comm, ← UInt64.toNat_inj]
  | cons entry entries ih =>
      have hfirst : ∀ edges, t.addPlannedEdges total entry = .ok edges ↔ _ :=
        fun edges => addPlannedEdges_eq_ok ht (hentries 0 entry rfl)
      have hrest : ∀ total, entries.foldlM t.addPlannedEdges total = .ok edges ↔ _ :=
        fun total => @ih (start + 1) (fun i e he => by
          rw [show start + 1 + i = start + (i + 1) by omega]
          exact hentries (i + 1) e (by simpa using he)) total
      rw [List.foldlM_cons, bind_eq_ok, List.length_cons, Finset.sum_range_succ']
      simp only [hfirst, hrest, show ∀ i, start + 1 + i = start + (i + 1) by omega]
      constructor
      · rintro ⟨next, hnext, hedges⟩
        omega
      · intro hedges
        have hlt := edges.toNat_lt
        refine ⟨UInt64.ofNat (total.toNat + (t.consumersOfPattern (start + 0)).length *
          t.requirement (start + 0)), ?_, ?_⟩ <;>
        rw [UInt64.toNat_ofNat', Nat.mod_eq_of_lt (by omega)]
        omega

/-- As many consumers are listed under a pattern as count and select by it. -/
theorem length_consumersOfPattern {t : Topology} (ht : t.Consistent) (i : Nat) :
    (t.consumersOfPattern i).length = t.counting.countP (·.pattern == i) := by
  let selecting := t.counting.filter (·.pattern == i)
  have hsorted : Sorted (fun id => id) (selecting.map (·.id)) := by
    have hsub : selecting.Sublist t.consumers :=
      List.filter_sublist.trans List.filter_sublist
    exact List.pairwise_map.mpr (ht.consumers_sorted.sublist hsub)
  have hmem : ∀ id, id ∈ t.consumersOfPattern i ↔ id ∈ selecting.map (·.id) := by
    intro id
    rw [ht.listed]
    simp only [selecting, counting, List.mem_map, List.mem_filter, beq_iff_eq]
    constructor
    · rintro ⟨record, hmem, hid, hpattern, hcounts⟩
      exact ⟨record, ⟨⟨hmem, hcounts⟩, hpattern⟩, hid⟩
    · rintro ⟨record, ⟨⟨hmem, hcounts⟩, hpattern⟩, hid⟩
      exact ⟨record, hmem, hid, hpattern, hcounts⟩
  rw [(ht.lists i).length_congr hsorted hmem, List.length_map, List.countP_eq_length_filter]

/-- The planned edges are the required edges, as far as 64 bits hold them. -/
theorem plannedEdgeCount_eq_ok {t : Topology} (ht : t.Consistent) {edges : UInt64} :
    t.plannedEdgeCount = .ok edges ↔ edges.toNat = t.requiredEdges := by
  have hpatterns : ∀ c ∈ t.counting, c.pattern < t.patterns.length := by
    intro c hc
    obtain ⟨-, -, -, hlt⟩ := ht.consumers c (List.mem_of_mem_filter hc)
    rwa [selections, List.length_map] at hlt
  have hsum := sum_countP_mul (fun c : ConsumerRecord => c.pattern) t.requirement hpatterns
  have hentries : ∀ (i : Nat) (entry : PatternEntry), t.patterns[i]? = some entry →
      t.patterns[0 + i]? = some entry := fun i entry hentry => by rwa [Nat.zero_add]
  rw [plannedEdgeCount, foldlM_addPlannedEdges ht hentries]
  simp only [Nat.zero_add, length_consumersOfPattern ht, UInt64.toNat_zero]
  rw [hsum, requiredEdges]

/-! ## Owners -/

/-- A consistent topology finds the owner its records imply. -/
theorem ownerOf_eq_ok {t : Topology} (ht : t.Consistent) {p : PartitionId} {id : ProducerId} :
    t.ownerOf p = .ok id ↔ t.impliedOwner p = some id := by
  have howners : t.activeProducers = t.owners := ht.active
  unfold impliedOwner
  simp only [ownerOf, ownerIndexOf, howners, bind_eq_ok, refuseIf_eq_ok, pure_eq_ok, exists_const,
    ge_iff_le, UInt64.not_le, UInt64.lt_iff_toNat_lt]
  rw [show t.partitionCount.toUInt64.toNat = t.partitionCount.toNat from rfl]
  by_cases hp : p.toNat < t.partitionCount.toNat
  · rw [if_pos hp]
    cases hempty : t.owners with
    | nil => simp
    | cons first rest =>
        have hlt : p.toNat % (first :: rest).length < (first :: rest).length :=
          Nat.mod_lt _ (by simp)
        obtain ⟨owner, howner⟩ : ∃ owner,
            (first :: rest)[p.toNat % (first :: rest).length]? = some owner :=
          ⟨_, List.getElem?_eq_getElem hlt⟩
        rw [howner]
        rw [List.length_cons] at howner
        simp [hp, List.getD_eq_getElem?_getD, howner]
  · rw [if_neg hp]
    simp [hp]

end Topology

end ShuffleFabric
