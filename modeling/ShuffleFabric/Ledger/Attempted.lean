import ShuffleFabric.Ledger.History

/-!
# ShuffleFabric.Ledger.Attempted

The bytes of attempts are counted beside the ledger's history: no operation reads the count,
so a ledger that differs only there answers alike and stays alike.
-/

namespace ShuffleFabric

open Lib

namespace CompletionLedger

/-- The ledger with another count of attempted bytes: the one counter that no record moves. -/
def attempted (l : CompletionLedger) (bytes : UInt64) : CompletionLedger :=
  { l with attemptedBytes := bytes }

/-- The end of a generation does not look at the attempted bytes. -/
theorem retirePrevious_attempted (l : CompletionLedger) (bytes : UInt64) (partition : PartitionId)
    (latest : PartitionGeneration) :
    (l.attempted bytes).retirePrevious partition latest =
      (l.retirePrevious partition latest).attempted bytes := by
  unfold retirePrevious
  have hrecord : (l.attempted bytes).recordOf partition latest = l.recordOf partition latest := rfl
  rw [hrecord]
  cases l.recordOf partition latest <;> simp only [attempted] <;> split <;> rfl

/-- Neither does a generation that takes over from another. -/
theorem advanceGeneration_attempted (l : CompletionLedger) (bytes : UInt64)
    (partition : PartitionId) (generation : PartitionGeneration) :
    (l.attempted bytes).advanceGeneration partition generation =
      (l.advanceGeneration partition generation).attempted bytes := by
  unfold advanceGeneration
  have hlatest : (l.attempted bytes).latestGeneration = l.latestGeneration := rfl
  rw [hlatest]
  cases l.latestGeneration[partition]? with
  | none => rfl
  | some latest =>
      simp only [retirePrevious_attempted]
      rfl

/-- A record is purged whatever was attempted. -/
theorem purge_attempted (l : CompletionLedger) (bytes : UInt64) (oldest : UInt64) :
    (l.attempted bytes).purge oldest = (l.purge oldest).attempted bytes := by
  unfold purge
  have hpartitions : (l.attempted bytes).partitions = l.partitions := rfl
  rw [hpartitions]
  cases l.partitions[oldest]? <;> rfl

/-- The loop of purges, by induction over the index. -/
theorem purgeRetained_attempted (bound : Nat) (retained : List UInt64) (l : CompletionLedger)
    (bytes : UInt64) : purgeRetained bound retained (l.attempted bytes) =
      ((purgeRetained bound retained l).1, (purgeRetained bound retained l).2.attempted bytes) := by
  induction retained generalizing l with
  | nil => rfl
  | cons oldest retained ih =>
      unfold purgeRetained
      split
      · rw [purge_attempted, ih]
      · rfl

/-- The index of retained keys is cut to its bound whatever was attempted. -/
theorem retain_attempted (l : CompletionLedger) (bytes : UInt64) (partition : PartitionId)
    (key : UInt64) :
    (l.attempted bytes).retain partition key = (l.retain partition key).attempted bytes := by
  unfold retain
  have hretained : (l.attempted bytes).retainedKeys = l.retainedKeys := rfl
  have hlimits : (l.attempted bytes).limits = l.limits := rfl
  simp only [hretained, hlimits, purgeRetained_attempted]
  rfl

/-- A first commit, which advances the generation, books the record and cuts the history. -/
theorem commitNew_attempted (l : CompletionLedger) (bytes : UInt64) (request : CommitRequest)
    (now : TickId) : (l.attempted bytes).commitNew request now =
      ((l.commitNew request now).1, (l.commitNew request now).2.attempted bytes) := by
  refine Prod.ext rfl ?_
  have hadvances : (l.attempted bytes).advances request.edge = l.advances request.edge := rfl
  have hcounted : ({ l.attempted bytes with nextSequence := (l.attempted bytes).nextSequence + 1 } :
      CompletionLedger) = ({ l with nextSequence := l.nextSequence + 1 } :
        CompletionLedger).attempted bytes := rfl
  have hstepped : (l.attempted bytes).stepped request.edge =
      (l.stepped request.edge).attempted bytes := by
    unfold stepped
    rw [hadvances, hcounted]
    split
    · exact advanceGeneration_attempted _ _ _ _
    · rfl
  rw [commitNew_snd, commitNew_snd, hstepped, ← retain_attempted]
  rfl

/-- A further commit changes one record and the counters. -/
theorem commitExisting_attempted (l : CompletionLedger) (bytes : UInt64)
    (record : PartitionCommitRecord) (request : CommitRequest) :
    (l.attempted bytes).commitExisting record request =
      ((l.commitExisting record request).1, (l.commitExisting record request).2.attempted bytes) := by
  unfold commitExisting
  simp only
  split <;> rfl

/-- No operation of the ledger reads or writes the count. -/
theorem commit_attempted {l l' : CompletionLedger} (bytes : UInt64) {request : CommitRequest}
    {now : TickId} {receipt : CommitReceipt} (h : l.commit request now = .ok (receipt, l')) :
    (l.attempted bytes).commit request now = .ok (receipt, l'.attempted bytes) := by
  obtain ⟨u, hvalid, h⟩ := bind_eq_ok.mp h
  refine bind_eq_ok.mpr ⟨u, hvalid, ?_⟩
  have hrecord : (l.attempted bytes).recordOf request.edge.partition
      request.edge.partitionGeneration =
        l.recordOf request.edge.partition request.edge.partitionGeneration := rfl
  rw [hrecord]
  cases hfound : l.recordOf request.edge.partition request.edge.partitionGeneration with
  | none =>
      simp only [hfound] at h ⊢
      rw [commitNew_attempted, pure_eq_ok.mp h]
      rfl
  | some record =>
      simp only [hfound] at h ⊢
      rw [commitExisting_attempted, pure_eq_ok.mp h]
      rfl

/-- A generation that is retired for a new manifest. -/
theorem retireGeneration_attempted {l l' : CompletionLedger} (bytes : UInt64)
    {partition : PartitionId} {generation : PartitionGeneration}
    (h : l.retireGeneration partition generation = .ok l') :
    (l.attempted bytes).retireGeneration partition generation = .ok (l'.attempted bytes) := by
  obtain ⟨u, hpartition, h⟩ := bind_eq_ok.mp h
  refine bind_eq_ok.mpr ⟨u, hpartition, ?_⟩
  have hlatest : (l.attempted bytes).latestGeneration = l.latestGeneration := rfl
  rw [hlatest]
  cases hknown : l.latestGeneration[partition]? with
  | none =>
      simp only [hknown] at h ⊢
      rw [advanceGeneration_attempted, pure_eq_ok.mp h]
      rfl
  | some latest =>
      simp only [hknown] at h ⊢
      split at h
      · next hcurrent =>
          rw [if_pos hcurrent, pure_eq_ok.mp h]
          rfl
      · next hnewer =>
          rw [if_neg hnewer, advanceGeneration_attempted, pure_eq_ok.mp h]
          rfl

/-- A partition is marked as failed whatever was attempted. -/
theorem failPartition_attempted (l : CompletionLedger) (bytes : UInt64) (key : EdgeKey) :
    (l.attempted bytes).failPartition key = (l.failPartition key).attempted bytes := by
  unfold failPartition
  have hrecord : (l.attempted bytes).recordOf key.partition key.partitionGeneration =
      l.recordOf key.partition key.partitionGeneration := rfl
  rw [hrecord]
  split <;> rfl

/-- Whether an edge has failed for good is counted apart from the bytes. -/
theorem judged_attempted (l : CompletionLedger) (bytes : UInt64) (record : FailureRecord)
    (current : Bool) :
    (l.attempted bytes).judged record current = (l.judged record current).attempted bytes := by
  unfold judged
  split
  · rw [← failPartition_attempted]
    rfl
  · split <;> rfl

/-- The counters of the error codes are apart from the bytes. -/
theorem blamed_attempted (l : CompletionLedger) (bytes : UInt64) (code : ErrorCode) :
    (l.attempted bytes).blamed code = (l.blamed code).attempted bytes := by
  unfold blamed
  split <;> rfl

/-- A first failure of an edge: it is judged, stored and its code counted. -/
theorem recordNewFailure_attempted (l : CompletionLedger) (bytes : UInt64) (record : FailureRecord)
    (current : Bool) : (l.attempted bytes).recordNewFailure record current =
      (l.recordNewFailure record current).attempted bytes := by
  rw [recordNewFailure_eq, recordNewFailure_eq, ← blamed_attempted, ← judged_attempted]
  rfl

/-- An edge that fails again moves between the counters of failures. -/
theorem recountChange_attempted (l : CompletionLedger) (bytes : UInt64) (partition : PartitionId)
    (current permanent wasPermanent : Bool) :
    (l.attempted bytes).recountChange partition current permanent wasPermanent =
      (l.recountChange partition current permanent wasPermanent).attempted bytes := by
  unfold recountChange
  split
  · rfl
  · split <;> rfl

/-- A failure that became final marks its partition. -/
theorem condemned_attempted (l : CompletionLedger) (bytes : UInt64) (record : FailureRecord)
    (current : Bool) :
    (l.attempted bytes).condemned record current = (l.condemned record current).attempted bytes := by
  unfold condemned
  split
  · exact failPartition_attempted _ _ _
  · rfl

/-- A further failure may have another code, whose counter takes over. -/
theorem reblamed_attempted (l : CompletionLedger) (bytes : UInt64) (was now : ErrorCode) :
    (l.attempted bytes).reblamed was now = (l.reblamed was now).attempted bytes := by
  have hrefusals : (l.attempted bytes).authorityRefusals = l.authorityRefusals := rfl
  unfold reblamed
  rw [hrefusals]
  split
  · rfl
  · split <;> rfl

/-- A further failure of an edge, by the three stages above. -/
theorem recordNextFailure_attempted (l : CompletionLedger) (bytes : UInt64)
    (existing record : FailureRecord) (current : Bool) :
    (l.attempted bytes).recordNextFailure existing record current =
      (l.recordNextFailure existing record current).attempted bytes := by
  rw [recordNextFailure_eq, recordNextFailure_eq, ← reblamed_attempted, ← condemned_attempted,
    ← recountChange_attempted]
  rfl

/-- A failure that the ledger accepts, it accepts whatever was attempted. -/
theorem recordFailure_attempted {l l' : CompletionLedger} (bytes : UInt64) {record : FailureRecord}
    (h : l.recordFailure record = .ok l') :
    (l.attempted bytes).recordFailure record = .ok (l'.attempted bytes) := by
  obtain ⟨u₁, hpartition, h⟩ := bind_eq_ok.mp h
  obtain ⟨u₂, hcode, h⟩ := bind_eq_ok.mp h
  refine bind_eq_ok.mpr ⟨u₁, hpartition, bind_eq_ok.mpr ⟨u₂, hcode, ?_⟩⟩
  have hfailures : (l.attempted bytes).failures = l.failures := rfl
  have hfull : (l.attempted bytes).trackedEdgesFull ↔ l.trackedEdgesFull := .rfl
  have hcurrent : (l.attempted bytes).superseded record.key.partition
      record.key.partitionGeneration =
        l.superseded record.key.partition record.key.partitionGeneration := rfl
  simp only at h ⊢
  rw [hfailures, hcurrent]
  cases hfound : l.failures[record.key]? with
  | none =>
      simp only [hfound] at h ⊢
      by_cases hroom : l.trackedEdgesFull
      · rw [if_pos hroom] at h
        cases h
      · rw [if_neg hroom] at h
        rw [if_neg (hfull.not.mpr hroom), recordNewFailure_attempted, pure_eq_ok.mp h]
        rfl
  | some existing =>
      simp only [hfound] at h ⊢
      rw [recordNextFailure_attempted, pure_eq_ok.mp h]
      rfl

end CompletionLedger

end ShuffleFabric
