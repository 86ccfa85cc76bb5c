import ShuffleFabric.Ledger.Step
import ShuffleFabric.Lib.Weight

/-!
# ShuffleFabric.Ledger.History

How much a ledger stores: its commit records by partition, and its tracked edges.

The bounds are checked against counters of the current generations and enforced by an index
of the keys that were added since the ledger was created or decoded.  They bound what is
stored as far as the counters and the index cover it.
-/

namespace ShuffleFabric

open Lib Action

namespace CompletionLedger

/-! ## What is stored -/

/-- The commit records stored for a partition, one for each generation. -/
def generationsOf (l : CompletionLedger) (partition : PartitionId) : Nat :=
  tally l.partitions (·.anchor.partition == partition)

/-- The completed consumers of all commit records, and the failure records. -/
def storedEdges (l : CompletionLedger) : Nat :=
  weigh l.partitions (·.completedConsumers.length) + l.failures.size

/-- What is stored keeps to the bounds. -/
structure HistoryBounded (l : CompletionLedger) : Prop where
  generations : ∀ partition,
    l.generationsOf partition ≤ l.limits.maxRetainedGenerations.toNat
  partitions : l.partitions.size ≤ l.limits.maxTrackedPartitions.toNat
  edges : l.storedEdges ≤ l.limits.maxTrackedEdges.toNat

/-- Tables as they were, whatever the counters. -/
theorem HistoryBounded.of_tables {l l' : CompletionLedger} (h : l.HistoryBounded)
    (hlimits : l'.limits = l.limits) (hpartitions : l'.partitions = l.partitions)
    (hfailures : l'.failures = l.failures) : l'.HistoryBounded := by
  refine ⟨fun partition => ?_, ?_, ?_⟩
  · rw [generationsOf, hpartitions, hlimits]
    exact h.generations partition
  · rw [hpartitions, hlimits]
    exact h.partitions
  · rw [storedEdges, hpartitions, hfailures, hlimits]
    exact h.edges

/-! ## What the checks see -/

/-- The index of retained keys lists every record of a partition. -/
def Indexed (l : CompletionLedger) (partition : PartitionId) : Prop :=
  ∀ entry ∈ l.partitions.toList, entry.2.anchor.partition = partition →
    entry.1 ∈ l.retainedKeys.getD partition []

instance (l : CompletionLedger) (partition : PartitionId) : Decidable (l.Indexed partition) :=
  inferInstanceAs (Decidable (∀ entry ∈ l.partitions.toList, _))

/-- The sum that is compared with the bound covers every edge that is stored, or the bound
leaves room for one more besides all of them. -/
def RoomForEdge (l : CompletionLedger) : Prop :=
  l.storedEdges < (l.completedEdges + l.failureRecords + 1).toNat ∨
    l.storedEdges < l.limits.maxTrackedEdges.toNat

instance (l : CompletionLedger) : Decidable l.RoomForEdge :=
  inferInstanceAs (Decidable (_ ∨ _))

/-- There is room for what a commit adds. -/
structure RoomForCommit (l : CompletionLedger) (request : CommitRequest) : Prop where
  record : (l.recordOf request.edge.partition request.edge.partitionGeneration).isNone →
    l.Indexed request.edge.partition ∨
      l.generationsOf request.edge.partition < l.limits.maxRetainedGenerations.toNat
  edge : ¬(l.recordOf request.edge.partition request.edge.partitionGeneration).any
    (·.hasCompleted request.consumer) → l.RoomForEdge

instance (l : CompletionLedger) (request : CommitRequest) : Decidable (l.RoomForCommit request) :=
  decidable_of_iff (_ ∧ _) ⟨fun h => ⟨h.1, h.2⟩, fun h => ⟨h.record, h.edge⟩⟩

/-- There is room for what a failure adds. -/
def RoomForFailure (l : CompletionLedger) (key : EdgeKey) : Prop :=
  l.failures[key]?.isNone → l.RoomForEdge

instance (l : CompletionLedger) (key : EdgeKey) : Decidable (l.RoomForFailure key) :=
  inferInstanceAs (Decidable (_ → _))

/-- An edge that the check lets through is within the bound. -/
theorem RoomForEdge.lt {l : CompletionLedger} (h : l.RoomForEdge) (hfree : ¬l.trackedEdgesFull) :
    l.storedEdges < l.limits.maxTrackedEdges.toNat := by
  rcases h with hcounted | hroom
  · have hsum := UInt64.le_iff_toNat_le.mp (UInt64.not_lt.mp hfree)
    omega
  · exact hroom

/-! ## Purging -/

/-- Some commit records went away, and nothing else that is stored changed. -/
structure Shrinks (l l' : CompletionLedger) : Prop where
  limits : l'.limits = l.limits
  failures : l'.failures = l.failures
  records : ∀ (k : UInt64) (r : PartitionCommitRecord), l'.partitions[k]? = some r →
    l.partitions[k]? = some r
  size : l'.partitions.size ≤ l.partitions.size
  generations : ∀ partition, l'.generationsOf partition ≤ l.generationsOf partition
  edges : l'.storedEdges ≤ l.storedEdges

/-- Nothing went away. -/
theorem Shrinks.refl (l : CompletionLedger) : Shrinks l l :=
  ⟨rfl, rfl, fun _ _ h => h, le_rfl, fun _ => le_rfl, le_rfl⟩

/-- What went away in two steps. -/
theorem Shrinks.trans {l l' l'' : CompletionLedger} (h : Shrinks l l') (h' : Shrinks l' l'') :
    Shrinks l l'' :=
  ⟨h'.limits.trans h.limits, h'.failures.trans h.failures,
    fun k r hr => h.records k r (h'.records k r hr), h'.size.trans h.size,
    fun partition => (h'.generations partition).trans (h.generations partition),
    h'.edges.trans h.edges⟩

/-- A purge takes at most one record away. -/
theorem shrinks_purge (l : CompletionLedger) (oldest : UInt64) : Shrinks l (l.purge oldest) := by
  unfold purge
  cases hpurged : l.partitions[oldest]? with
  | none => exact .refl l
  | some purged =>
      refine ⟨rfl, rfl, fun k r hr => ?_, Std.ExtTreeMap.size_erase_le, fun partition => ?_, ?_⟩
      · simp only [Std.ExtTreeMap.getElem?_erase] at hr
        split at hr
        · cases hr
        · exact hr
      · have htally := tally_erase hpurged (·.anchor.partition == partition)
        unfold generationsOf
        simp only
        omega
      · have hweight := weigh_erase hpurged (·.completedConsumers.length)
        unfold storedEdges
        simp only
        omega

/-- A key that is purged has no record. -/
theorem getElem?_purge_self (l : CompletionLedger) (oldest : UInt64) :
    (l.purge oldest).partitions[oldest]? = none := by
  unfold purge
  split
  · simp
  · assumption

/-- What is left of an index after purging: few keys, and all that still have a record. -/
theorem purgeRetained_spec (bound : Nat) (retained : List UInt64) (l : CompletionLedger) :
    Shrinks l (purgeRetained bound retained l).2 ∧
      (purgeRetained bound retained l).1.length ≤ bound ∧
      ∀ k ∈ retained, ((purgeRetained bound retained l).2.partitions[k]?).isSome →
        k ∈ (purgeRetained bound retained l).1 := by
  induction retained generalizing l with
  | nil => exact ⟨.refl l, Nat.zero_le _, fun k hk => (by cases hk)⟩
  | cons oldest retained ih =>
      unfold purgeRetained
      split
      · obtain ⟨hshrinks, hlength, hkept⟩ := ih (l.purge oldest)
        refine ⟨(shrinks_purge l oldest).trans hshrinks, hlength, fun k hk hsome => ?_⟩
        rcases List.mem_cons.mp hk with rfl | hk
        · obtain ⟨r, hr⟩ := Option.isSome_iff_exists.mp hsome
          have hpurged := hshrinks.records _ r hr
          rw [getElem?_purge_self] at hpurged
          cases hpurged
        · exact hkept k hk hsome
      · next hfew => exact ⟨.refl l, by simp only [List.length_cons]; omega, fun k hk _ => hk⟩

/-! ## Commits -/

/-- The tables of what is stored, and the index of retained keys, are as they were. -/
structure SameTables (l l' : CompletionLedger) : Prop where
  limits : l'.limits = l.limits
  partitions : l'.partitions = l.partitions
  failures : l'.failures = l.failures
  retainedKeys : l'.retainedKeys = l.retainedKeys

/-- Nothing stored has changed. -/
theorem SameTables.refl (l : CompletionLedger) : SameTables l l := ⟨rfl, rfl, rfl, rfl⟩

/-- Nothing stored has changed in two steps. -/
theorem SameTables.trans {l l' l'' : CompletionLedger} (h : SameTables l l')
    (h' : SameTables l' l'') : SameTables l l'' :=
  ⟨h'.limits.trans h.limits, h'.partitions.trans h.partitions, h'.failures.trans h.failures,
    h'.retainedKeys.trans h.retainedKeys⟩

/-- A generation that takes over changes counters only. -/
theorem sameTables_advanceGeneration (l : CompletionLedger) (partition : PartitionId)
    (generation : PartitionGeneration) :
    SameTables l (l.advanceGeneration partition generation) := by
  have hretired : ∀ latest, SameTables l (l.retirePrevious partition latest) := by
    intro latest
    unfold retirePrevious
    simp only
    cases l.recordOf partition latest <;> simp only <;> split <;> exact ⟨rfl, rfl, rfl, rfl⟩
  unfold advanceGeneration
  cases l.latestGeneration[partition]? with
  | none => exact ⟨rfl, rfl, rfl, rfl⟩
  | some latest =>
      obtain ⟨hlimits, hpartitions, hfailures, hretained⟩ := hretired latest
      exact ⟨hlimits, hpartitions, hfailures, hretained⟩

/-- So does the sequence number of a commit. -/
theorem sameTables_stepped (l : CompletionLedger) (edge : EdgeKey) :
    SameTables l (l.stepped edge) := by
  unfold stepped
  simp only
  split
  · obtain ⟨hlimits, hpartitions, hfailures, hretained⟩ := sameTables_advanceGeneration
      { l with nextSequence := l.nextSequence + 1 } edge.partition edge.partitionGeneration
    exact ⟨hlimits, hpartitions, hfailures, hretained⟩
  · exact ⟨rfl, rfl, rfl, rfl⟩

section Booked

variable {l : CompletionLedger} {request : CommitRequest}

/-- The first record of a generation is one more entry of the table. -/
theorem partitions_booked
    (hnew : l.recordOf request.edge.partition request.edge.partitionGeneration = none)
    (now : TickId) :
    ((l.stepped request.edge).booked (l.newRecord request now)).partitions =
      l.partitions.insert (partitionKey request.edge.partition request.edge.partitionGeneration)
        (l.newRecord request now) := by
  show (l.stepped request.edge).partitions.insertIfNew
    (partitionKey request.edge.partition request.edge.partitionGeneration) _ = _
  rw [(sameTables_stepped l request.edge).partitions, insertIfNew_of_none hnew]

/-- The table is one entry larger. -/
theorem size_booked
    (hnew : l.recordOf request.edge.partition request.edge.partitionGeneration = none)
    (now : TickId) :
    ((l.stepped request.edge).booked (l.newRecord request now)).partitions.size =
      l.partitions.size + 1 := by
  let key := partitionKey request.edge.partition request.edge.partitionGeneration
  have habsent : ¬l.partitions.contains key = true := by
    rw [← Std.ExtTreeMap.mem_iff_contains, ← Std.ExtTreeMap.isSome_getElem?_iff_mem]
    simp [show l.partitions[key]? = none from hnew]
  rw [partitions_booked hnew, Std.ExtTreeMap.size_insert, if_neg (by simpa using habsent)]

/-- Its partition has a generation more, and no other partition has. -/
theorem generationsOf_booked
    (hnew : l.recordOf request.edge.partition request.edge.partitionGeneration = none)
    (now : TickId) (partition : PartitionId) :
    ((l.stepped request.edge).booked (l.newRecord request now)).generationsOf partition =
      l.generationsOf partition + if request.edge.partition == partition then 1 else 0 := by
  rw [generationsOf, partitions_booked hnew, tally_insert hnew]
  rfl

/-- It completes one edge. -/
theorem storedEdges_booked
    (hnew : l.recordOf request.edge.partition request.edge.partitionGeneration = none)
    (now : TickId) :
    ((l.stepped request.edge).booked (l.newRecord request now)).storedEdges =
      l.storedEdges + 1 := by
  have hfailures : ((l.stepped request.edge).booked (l.newRecord request now)).failures =
    l.failures := (sameTables_stepped l request.edge).failures
  have hweight : weigh ((l.stepped request.edge).booked (l.newRecord request now)).partitions
      (·.completedConsumers.length) = weigh l.partitions (·.completedConsumers.length) + 1 := by
    rw [partitions_booked hnew, weigh_insert hnew]
    rfl
  rw [storedEdges, storedEdges, hweight, hfailures]
  omega

/-- What the retention loop leaves of the generations: those of the partition that commits are
listed, if they were before, and the list is short. -/
theorem HistoryBounded.generations_left (h : l.HistoryBounded) (hroom : l.RoomForCommit request)
    (hnew : l.recordOf request.edge.partition request.edge.partitionGeneration = none)
    (now : TickId) {listed : List UInt64} {left : CompletionLedger}
    (hshrinks : Shrinks ((l.stepped request.edge).booked (l.newRecord request now)) left)
    (hlength : listed.length ≤ l.limits.maxRetainedGenerations.toNat)
    (hlisted : ∀ k ∈ l.retainedKeys.getD request.edge.partition [] ++
        [partitionKey request.edge.partition request.edge.partitionGeneration],
      (left.partitions[k]?).isSome → k ∈ listed) (partition : PartitionId) :
    left.generationsOf partition ≤ l.limits.maxRetainedGenerations.toNat := by
  have hless := hshrinks.generations partition
  have hold := h.generations partition
  rw [generationsOf_booked hnew] at hless
  by_cases hsame : request.edge.partition = partition
  · subst hsame
    rcases hroom.record (by simp [hnew]) with hindexed | hfew
    · refine le_trans (tally_le_length fun k r hr hpartition => ?_) hlength
      refine hlisted k ?_ (by simp [hr])
      have hmem := hshrinks.records k r hr
      rw [partitions_booked hnew, Std.ExtTreeMap.getElem?_insert] at hmem
      split at hmem
      · next hk =>
          rw [Std.LawfulEqOrd.eq_of_compare hk]
          exact List.mem_append_right _ List.mem_cons_self
      · exact List.mem_append_left _ (hindexed (k, r)
          (Std.ExtTreeMap.mem_toList_iff_getElem?_eq_some.mpr hmem) (beq_iff_eq.mp hpartition))
    · split at hless <;> omega
  · rw [if_neg (by simpa using hsame)] at hless
    omega

/-- The first commit of a partition generation, if there is room for it. -/
theorem HistoryBounded.commitNew (h : l.HistoryBounded) (hroom : l.RoomForCommit request)
    (hnew : l.recordOf request.edge.partition request.edge.partitionGeneration = none)
    (hsize : l.partitions.size < l.limits.maxTrackedPartitions.toNat)
    (hfree : ¬l.trackedEdgesFull) (now : TickId) : (l.commitNew request now).2.HistoryBounded := by
  have hedge := (hroom.edge (by simp [hnew])).lt hfree
  have hsame := sameTables_stepped l request.edge
  -- the ledger with the record booked, before the history is cut
  set booked := (l.stepped request.edge).booked (l.newRecord request now) with hbooked
  have hbound : booked.limits = l.limits := hsame.limits
  have hkept : booked.retainedKeys = l.retainedKeys := hsame.retainedKeys
  obtain ⟨hshrinks, hlength, hlisted⟩ := purgeRetained_spec
    booked.limits.maxRetainedGenerations.toNat
    (booked.retainedKeys.getD request.edge.partition [] ++
      [partitionKey request.edge.partition request.edge.partitionGeneration]) booked
  -- what the retention loop leaves is what the ledger behind the commit stores
  rw [commitNew_snd]
  set left := purgeRetained booked.limits.maxRetainedGenerations.toNat
    (booked.retainedKeys.getD request.edge.partition [] ++
      [partitionKey request.edge.partition request.edge.partitionGeneration]) booked
  refine HistoryBounded.of_tables (l := left.2) ⟨fun partition => ?_, ?_, ?_⟩ rfl rfl rfl
  all_goals rw [hshrinks.limits, hbound]
  · rw [hbound] at hlength
    rw [hkept] at hlisted
    exact h.generations_left hroom hnew now hshrinks hlength hlisted partition
  · have hless := hshrinks.size
    rw [size_booked hnew] at hless
    omega
  · have hless := hshrinks.edges
    rw [storedEdges_booked hnew] at hless
    omega

end Booked

/-- A record that takes the place of another one of its partition. -/
theorem HistoryBounded.replace {l l' : CompletionLedger} (h : l.HistoryBounded) {key : UInt64}
    {record : PartitionCommitRecord} (changed : PartitionCommitRecord)
    (hrecord : l.partitions[key]? = some record)
    (hanchor : changed.anchor = record.anchor) (hlimits : l'.limits = l.limits)
    (hpartitions : l'.partitions = l.partitions.insert key changed)
    (hfailures : l'.failures = l.failures)
    (hedges : l.storedEdges + changed.completedConsumers.length ≤
      l.limits.maxTrackedEdges.toNat + record.completedConsumers.length) : l'.HistoryBounded := by
  refine ⟨fun partition => ?_, ?_, ?_⟩
  · rw [generationsOf, hpartitions, hlimits, tally_replace hrecord _ (by rw [hanchor])]
    exact h.generations partition
  · have hpresent : l.partitions.contains key = true := by
      rw [← Std.ExtTreeMap.mem_iff_contains, ← Std.ExtTreeMap.isSome_getElem?_iff_mem, hrecord]
      rfl
    rw [hpartitions, hlimits, Std.ExtTreeMap.size_insert, if_pos hpresent]
    exact h.partitions
  · have hweight := weigh_replace hrecord changed (·.completedConsumers.length)
    rw [storedEdges] at hedges
    rw [storedEdges, hpartitions, hfailures, hlimits]
    omega

/-- A further commit of a partition generation, if there is room for its edge. -/
theorem HistoryBounded.commitExisting {l : CompletionLedger} (h : l.HistoryBounded)
    {request : CommitRequest} {record : PartitionCommitRecord} (hroom : l.RoomForCommit request)
    (hrecord : l.recordOf request.edge.partition request.edge.partitionGeneration = some record)
    (hfree : ¬record.hasCompleted request.consumer → ¬l.trackedEdgesFull) :
    (l.commitExisting record request).2.HistoryBounded := by
  have hedges := h.edges
  unfold CompletionLedger.commitExisting
  simp only
  split
  · exact h.replace { record with duplicateCommits := record.duplicateCommits + 1 } hrecord rfl rfl
      rfl rfl (Nat.add_le_add_right hedges _)
  · next hnew =>
      have hlt := (hroom.edge (by simpa [hrecord] using hnew)).lt (hfree hnew)
      have hgrown := length_store_le (fun c => c) record.completedConsumers request.consumer
      refine h.replace { record with
        completedConsumers := store (fun c => c) record.completedConsumers request.consumer }
        hrecord rfl rfl rfl rfl ?_
      simp only
      omega

/-- A commit that is accepted, of either kind. -/
theorem HistoryBounded.commit {l l' : CompletionLedger} (h : l.HistoryBounded)
    {request : CommitRequest} {now : TickId} {receipt : CommitReceipt}
    (hroom : l.RoomForCommit request) (hcommit : l.commit request now = .ok (receipt, l')) :
    l'.HistoryBounded := by
  obtain ⟨u, hvalid, hcommit⟩ := bind_eq_ok.mp hcommit
  simp only [validateCommit, bind_eq_ok, refuseIf_eq_ok, exists_const] at hvalid
  obtain ⟨-, -, -, -, -, -, -, -, hvalid⟩ := hvalid
  split at hcommit
  · next hnone =>
      simp only [hnone, validateNew, bind_eq_ok, refuseIf_eq_ok, exists_const] at hvalid
      have hsame : (l.commitNew request now).2 = l' := congrArg Prod.snd (pure_eq_ok.mp hcommit)
      rw [← hsame]
      exact h.commitNew hroom hnone (Nat.not_le.mp hvalid.1) hvalid.2 now
  · next record hrecord =>
      simp only [hrecord, validateAgainst, bind_eq_ok, refuseIf_eq_ok, exists_const,
        not_and] at hvalid
      have hsame : (l.commitExisting record request).2 = l' :=
        congrArg Prod.snd (pure_eq_ok.mp hcommit)
      rw [← hsame]
      exact h.commitExisting hroom hrecord hvalid.2.2

/-! ## Retirement and failures -/

/-- A generation that is retired adds nothing. -/
theorem HistoryBounded.retireGeneration {l l' : CompletionLedger} (h : l.HistoryBounded)
    {partition : PartitionId} {generation : PartitionGeneration}
    (hretired : l.retireGeneration partition generation = .ok l') : l'.HistoryBounded := by
  obtain ⟨-, -, hretired⟩ := bind_eq_ok.mp hretired
  have hadvanced : (l.advanceGeneration partition generation).HistoryBounded := by
    obtain ⟨hlimits, hpartitions, hfailures, -⟩ :=
      sameTables_advanceGeneration l partition generation
    exact h.of_tables hlimits hpartitions hfailures
  split at hretired
  · split at hretired
    · rwa [← pure_eq_ok.mp hretired]
    · rwa [← pure_eq_ok.mp hretired]
  · rwa [← pure_eq_ok.mp hretired]

/-- A first failure of an edge is one more failure record. -/
theorem failures_recordNewFailure (l : CompletionLedger) (record : FailureRecord)
    (current : Bool) : (l.recordNewFailure record current).failures =
      l.failures.insertIfNew record.key record := by
  have hblamed : ∀ l : CompletionLedger, (l.blamed record.code).failures = l.failures := by
    intro l
    unfold blamed
    split <;> rfl
  rw [recordNewFailure_eq, hblamed]
  unfold judged failPartition
  split
  · split <;> rfl
  · split <;> rfl

/-- A further failure takes the place of the one before. -/
theorem failures_recordNextFailure (l : CompletionLedger) (existing record : FailureRecord)
    (current : Bool) : (l.recordNextFailure existing record current).failures =
      l.failures.insert record.key record := by
  have hreblamed : ∀ l : CompletionLedger,
      (l.reblamed existing.code record.code).failures = l.failures := by
    intro l
    unfold reblamed
    split
    · rfl
    · split <;> rfl
  have hcondemned : ∀ l : CompletionLedger, (l.condemned record current).failures = l.failures := by
    intro l
    unfold condemned failPartition
    split
    · split <;> rfl
    · rfl
  rw [recordNextFailure_eq, hreblamed, hcondemned]
  unfold recountChange
  split
  · rfl
  · split <;> rfl

/-- A failure that is accepted, if there is room for its edge. -/
theorem HistoryBounded.recordFailure {l l' : CompletionLedger} (h : l.HistoryBounded)
    {record : FailureRecord} (hroom : l.RoomForFailure record.key)
    (hfailure : l.recordFailure record = .ok l') : l'.HistoryBounded := by
  have hlimits := (follows_recordFailure hfailure).limits
  have hspares := spares_recordFailure hfailure
  have hsize : l'.failures.size ≤ l.failures.size ∨
      l'.failures.size ≤ l.failures.size + 1 ∧
        l.storedEdges < l.limits.maxTrackedEdges.toNat := by
    simp only [CompletionLedger.recordFailure, bind_eq_ok, refuseIf_eq_ok, exists_const] at hfailure
    obtain ⟨-, -, hfailure⟩ := hfailure
    split at hfailure
    · next hnone =>
        split at hfailure
        · cases hfailure
        · next hfree =>
            right
            rw [← pure_eq_ok.mp hfailure, failures_recordNewFailure]
            exact ⟨Std.ExtTreeMap.size_insertIfNew_le, (hroom (by simp [hnone])).lt hfree⟩
    · next existing hexisting =>
        left
        have hpresent : l.failures.contains record.key = true := by
          rw [← Std.ExtTreeMap.mem_iff_contains, ← Std.ExtTreeMap.isSome_getElem?_iff_mem,
            hexisting]
          rfl
        rw [← pure_eq_ok.mp hfailure, failures_recordNextFailure, Std.ExtTreeMap.size_insert,
          if_pos hpresent]
  refine ⟨fun partition => ?_, ?_, ?_⟩
  · rw [generationsOf, hspares.partitions, hlimits]
    exact h.generations partition
  · rw [hspares.partitions, hlimits]
    exact h.partitions
  · have hedges := h.edges
    unfold storedEdges at hedges hsize ⊢
    rw [hspares.partitions, hlimits]
    omega

end CompletionLedger

end ShuffleFabric
