import ShuffleFabric.Ledger

/-!
# ShuffleFabric.Ledger.Step

What every operation of the ledger keeps: its bounds, its shuffle, its records under their
keys (`Follows`), and the latest generation of each partition, which only rises.

A commit and a failure are first cut into the stages they consist of; each stage is a small
update, and its lemma is one line.
-/

namespace ShuffleFabric

open Lib Action

namespace CompletionLedger

/-! ## Records under their keys -/

/-- Every record of a ledger stands under the key that is computed from it. -/
structure Keyed (l : CompletionLedger) : Prop where
  commits : ∀ (key : UInt64) (record : PartitionCommitRecord), l.partitions[key]? = some record →
    key = partitionKey record.anchor.partition record.anchor.partitionGeneration ∧
      record.anchor.consumer = 0
  failures : ∀ (key : EdgeKey) (record : FailureRecord), l.failures[key]? = some record →
    record.key = key

/-- A step of a ledger: it keeps its bounds, its shuffle, and records under their keys. -/
structure Follows (l l' : CompletionLedger) : Prop where
  limits : l'.limits = l.limits
  partitionCount : l'.partitionCount = l.partitionCount
  shuffleGeneration : l'.shuffleGeneration = l.shuffleGeneration
  keyed : l.Keyed → l'.Keyed

/-- A ledger follows itself. -/
theorem Follows.refl (l : CompletionLedger) : Follows l l := ⟨rfl, rfl, rfl, fun h => h⟩

/-- What follows a follower follows the ledger. -/
theorem Follows.trans {l l' l'' : CompletionLedger} (h : Follows l l') (h' : Follows l' l'') :
    Follows l l'' :=
  ⟨h'.limits.trans h.limits, h'.partitionCount.trans h.partitionCount,
    h'.shuffleGeneration.trans h.shuffleGeneration, fun hl => h'.keyed (h.keyed hl)⟩

/-- Counters and generations alone. -/
theorem Follows.of_tables {l l' : CompletionLedger} (hlimits : l'.limits = l.limits)
    (hcount : l'.partitionCount = l.partitionCount)
    (hgeneration : l'.shuffleGeneration = l.shuffleGeneration)
    (hpartitions : l'.partitions = l.partitions) (hfailures : l'.failures = l.failures) :
    Follows l l' :=
  ⟨hlimits, hcount, hgeneration, fun h => ⟨hpartitions ▸ h.commits, hfailures ▸ h.failures⟩⟩

/-- One more commit record, under its key. -/
theorem Keyed.insertCommit {l : CompletionLedger} (h : l.Keyed) {r : PartitionCommitRecord}
    {key : UInt64} (hkey : key = partitionKey r.anchor.partition r.anchor.partitionGeneration)
    (hconsumer : r.anchor.consumer = 0) {l' : CompletionLedger}
    (hpartitions : ∀ k r', l'.partitions[k]? = some r' →
      l.partitions[k]? = some r' ∨ k = key ∧ r' = r)
    (hfailures : l'.failures = l.failures) : l'.Keyed := by
  refine ⟨fun k r' hr => ?_, hfailures ▸ h.failures⟩
  rcases hpartitions k r' hr with hold | ⟨rfl, rfl⟩
  · exact h.commits k r' hold
  · exact ⟨hkey, hconsumer⟩

/-- The end of a generation changes counters only. -/
theorem follows_retirePrevious (l : CompletionLedger) (partition : PartitionId)
    (latest : PartitionGeneration) : Follows l (l.retirePrevious partition latest) := by
  unfold retirePrevious
  simp only
  cases l.recordOf partition latest <;> simp only <;> split <;>
    exact .of_tables rfl rfl rfl rfl rfl

/-- A generation that takes over replaces the latest one. -/
theorem follows_advanceGeneration (l : CompletionLedger) (partition : PartitionId)
    (generation : PartitionGeneration) : Follows l (l.advanceGeneration partition generation) := by
  unfold advanceGeneration
  simp only
  cases l.latestGeneration[partition]? with
  | none => exact .of_tables rfl rfl rfl rfl rfl
  | some latest =>
      exact (follows_retirePrevious l partition latest).trans (.of_tables rfl rfl rfl rfl rfl)

/-- A purge takes one commit record away. -/
theorem follows_purge (l : CompletionLedger) (oldest : UInt64) : Follows l (l.purge oldest) := by
  unfold purge
  split
  · refine ⟨rfl, rfl, rfl, fun h => ⟨fun key record hrecord => ?_, h.failures⟩⟩
    simp only [Std.ExtTreeMap.getElem?_erase] at hrecord
    split at hrecord
    · cases hrecord
    · exact h.commits key record hrecord
  · exact .refl l

/-- The loop of purges, by induction over the index. -/
theorem follows_purgeRetained (bound : Nat) (retained : List UInt64) (l : CompletionLedger) :
    Follows l (purgeRetained bound retained l).2 := by
  induction retained generalizing l with
  | nil => exact .refl l
  | cons oldest retained ih =>
      unfold purgeRetained
      split
      · exact (follows_purge l oldest).trans (ih (l.purge oldest))
      · exact .refl l

/-- The index and what it purges. -/
theorem follows_retain (l : CompletionLedger) (partition : PartitionId) (key : UInt64) :
    Follows l (l.retain partition key) :=
  (follows_purgeRetained _ _ l).trans (.of_tables rfl rfl rfl rfl rfl)

/-- Does a first commit move its partition to a later generation? -/
def advances (l : CompletionLedger) (edge : EdgeKey) : Bool :=
  match l.latestGeneration[edge.partition]? with
  | some latest => edge.partitionGeneration > latest
  | none => true

/-- The ledger of a first commit, moved to the generation of the commit. -/
def stepped (l : CompletionLedger) (edge : EdgeKey) : CompletionLedger :=
  let counted := { l with nextSequence := l.nextSequence + 1 }
  if l.advances edge then counted.advanceGeneration edge.partition edge.partitionGeneration
  else counted

/-- The ledger with the record of a first commit booked. -/
def booked (l : CompletionLedger) (record : PartitionCommitRecord) : CompletionLedger :=
  { l with
    bytesCommitted := l.bytesCommitted + record.totalBytes
    completedEdges := l.completedEdges + 1
    committedPartitions := l.committedPartitions + 1
    failedPartitions := l.failedPartitions.erase record.anchor.partition
    partitions := l.partitions.insertIfNew
      (partitionKey record.anchor.partition record.anchor.partitionGeneration) record }

/-- The stages of a first commit. -/
theorem commitNew_snd (l : CompletionLedger) (request : CommitRequest) (now : TickId) :
    (l.commitNew request now).2 =
      ((l.stepped request.edge).booked (l.newRecord request now)).retain request.edge.partition
        (partitionKey request.edge.partition request.edge.partitionGeneration) := rfl

/-- A commit takes a sequence number, and may advance the generation. -/
theorem follows_stepped (l : CompletionLedger) (edge : EdgeKey) : Follows l (l.stepped edge) := by
  have hcounted : Follows l { l with nextSequence := l.nextSequence + 1 } :=
    .of_tables rfl rfl rfl rfl rfl
  unfold stepped
  simp only
  split
  · exact hcounted.trans (follows_advanceGeneration _ _ _)
  · exact hcounted

/-- A new record names no consumer in its anchor. -/
theorem follows_booked (l : CompletionLedger) {record : PartitionCommitRecord}
    (hconsumer : record.anchor.consumer = 0) : Follows l (l.booked record) := by
  refine ⟨rfl, rfl, rfl, fun h => h.insertCommit (r := record) rfl hconsumer (fun k r hr => ?_) rfl⟩
  simp only [booked, Std.ExtTreeMap.getElem?_insertIfNew] at hr
  split at hr
  · next hnew => exact .inr ⟨(Std.LawfulEqOrd.eq_of_compare hnew.1).symm, (Option.some.inj hr).symm⟩
  · exact .inl hr

/-- A first commit, stage by stage. -/
theorem follows_commitNew (l : CompletionLedger) (request : CommitRequest) (now : TickId) :
    Follows l (l.commitNew request now).2 := by
  rw [commitNew_snd]
  exact ((follows_stepped l request.edge).trans (follows_booked _ rfl)).trans (follows_retain _ _ _)

/-- A further commit keeps the anchor of its record. -/
theorem follows_commitExisting (l : CompletionLedger) {record : PartitionCommitRecord}
    {request : CommitRequest}
    (h : l.recordOf request.edge.partition request.edge.partitionGeneration = some record) :
    Follows l (l.commitExisting record request).2 := by
  have hreplaced : ∀ (changed : PartitionCommitRecord) (duplicates edges : UInt64),
      changed.anchor = record.anchor → Follows l { l with
        partitions := l.partitions.insert
          (partitionKey request.edge.partition request.edge.partitionGeneration) changed
        duplicateCommits := duplicates, completedEdges := edges } := by
    intro changed duplicates edges hanchor
    refine ⟨rfl, rfl, rfl, fun hl => ?_⟩
    obtain ⟨hkey, hconsumer⟩ := hl.commits _ record h
    refine hl.insertCommit (r := changed) (hanchor ▸ hkey) (hanchor ▸ hconsumer)
      (fun k r hr => ?_) rfl
    simp only [Std.ExtTreeMap.getElem?_insert] at hr
    split at hr
    · next hsame => exact .inr ⟨(Std.LawfulEqOrd.eq_of_compare hsame).symm, (Option.some.inj hr).symm⟩
    · exact .inl hr
  unfold commitExisting
  simp only
  split
  · exact hreplaced _ _ _ rfl
  · exact hreplaced _ _ _ rfl

/-- A commit that is accepted, of either kind. -/
theorem follows_commit {l l' : CompletionLedger} {request : CommitRequest} {now : TickId}
    {receipt : CommitReceipt} (h : l.commit request now = .ok (receipt, l')) : Follows l l' := by
  obtain ⟨u, -, h⟩ := bind_eq_ok.mp h
  split at h
  · have hsame : (l.commitNew request now).2 = l' := congrArg Prod.snd (pure_eq_ok.mp h)
    rw [← hsame]
    exact follows_commitNew l request now
  · next record hrecord =>
      have hsame : (l.commitExisting record request).2 = l' := congrArg Prod.snd (pure_eq_ok.mp h)
      rw [← hsame]
      exact follows_commitExisting l hrecord

/-- A generation that is retired belongs to a partition of the shuffle. -/
theorem follows_retireGeneration {l l' : CompletionLedger} {partition : PartitionId}
    {generation : PartitionGeneration} (h : l.retireGeneration partition generation = .ok l') :
    partition < l.partitionCount.toUInt64 ∧ Follows l l' := by
  simp only [retireGeneration, bind_eq_ok, refuseIf_eq_ok, exists_const] at h
  obtain ⟨hpartition, h⟩ := h
  refine ⟨UInt64.not_le.mp hpartition, ?_⟩
  split at h
  · split at h
    · rw [← pure_eq_ok.mp h]
      exact .refl l
    · rw [← pure_eq_ok.mp h]
      exact follows_advanceGeneration _ _ _
  · rw [← pure_eq_ok.mp h]
    exact follows_advanceGeneration _ _ _

/-- Marking a partition as failed touches no record. -/
theorem follows_failPartition (l : CompletionLedger) (key : EdgeKey) :
    Follows l (l.failPartition key) := by
  unfold failPartition
  split <;> exact .of_tables rfl rfl rfl rfl rfl

/-- A failure record put under its key. -/
theorem follows_storeFailure (l : CompletionLedger) (record : FailureRecord) {l' : CompletionLedger}
    (hlimits : l'.limits = l.limits) (hcount : l'.partitionCount = l.partitionCount)
    (hgeneration : l'.shuffleGeneration = l.shuffleGeneration)
    (hpartitions : l'.partitions = l.partitions)
    (hfailures : ∀ k r, l'.failures[k]? = some r →
      l.failures[k]? = some r ∨ k = record.key ∧ r = record) : Follows l l' := by
  refine ⟨hlimits, hcount, hgeneration, fun h => ⟨hpartitions ▸ h.commits, fun k r hr => ?_⟩⟩
  rcases hfailures k r hr with hold | ⟨rfl, rfl⟩
  · exact h.failures k r hold
  · rfl

/-- A first failure of an edge, counted by its kind. -/
def judged (l : CompletionLedger) (record : FailureRecord) (current : Bool) : CompletionLedger :=
  if record.permanent ∧ current then
    (l.countPermanent record.key.partition).failPartition record.key
  else if record.permanent then l
  else { l with retriableFailures := l.retriableFailures + 1 }

/-- The refusals of authority counted. -/
def blamed (l : CompletionLedger) (code : ErrorCode) : CompletionLedger :=
  if isAuthorityCode code then { l with authorityRefusals := l.authorityRefusals + 1 } else l

/-- The stages of a first failure. -/
theorem recordNewFailure_eq (l : CompletionLedger) (record : FailureRecord) (current : Bool) :
    l.recordNewFailure record current = (({ l with
      failures := l.failures.insertIfNew record.key record
      failureRecords := l.failureRecords + 1 } : CompletionLedger).judged record current).blamed
        record.code := rfl

/-- Counting a failure touches no record. -/
theorem follows_judged (l : CompletionLedger) (record : FailureRecord) (current : Bool) :
    Follows l (l.judged record current) := by
  unfold judged
  split
  · have hcounted : Follows l (l.countPermanent record.key.partition) := .of_tables rfl rfl rfl rfl rfl
    exact hcounted.trans
      (follows_failPartition _ _)
  · split <;> exact .of_tables rfl rfl rfl rfl rfl

/-- Counting its code touches no record. -/
theorem follows_blamed (l : CompletionLedger) (code : ErrorCode) : Follows l (l.blamed code) := by
  unfold blamed
  split <;> exact .of_tables rfl rfl rfl rfl rfl

/-- A first failure of an edge, stage by stage. -/
theorem follows_recordNewFailure (l : CompletionLedger) (record : FailureRecord) (current : Bool) :
    Follows l (l.recordNewFailure record current) := by
  have hstored : Follows l { l with
      failures := l.failures.insertIfNew record.key record
      failureRecords := l.failureRecords + 1 } := by
    refine follows_storeFailure l record rfl rfl rfl rfl fun k r hr => ?_
    simp only [Std.ExtTreeMap.getElem?_insertIfNew] at hr
    split at hr
    · next hnew =>
        exact .inr ⟨(Std.LawfulEqOrd.eq_of_compare hnew.1).symm, (Option.some.inj hr).symm⟩
    · exact .inl hr
  rw [recordNewFailure_eq]
  exact (hstored.trans (follows_judged _ _ _)).trans (follows_blamed _ _)

/-- Counting a failure anew touches no record. -/
theorem follows_recountChange (l : CompletionLedger) (partition : PartitionId)
    (current permanent wasPermanent : Bool) :
    Follows l (l.recountChange partition current permanent wasPermanent) := by
  unfold recountChange
  split
  · exact .of_tables rfl rfl rfl rfl rfl
  · split <;> exact .of_tables rfl rfl rfl rfl rfl

/-- A later failure fails the partition if it is permanent and current. -/
def condemned (l : CompletionLedger) (record : FailureRecord) (current : Bool) : CompletionLedger :=
  if current ∧ record.permanent then l.failPartition record.key else l

/-- The refusals of authority after the code of an edge changed. -/
def reblamed (l : CompletionLedger) (was now : ErrorCode) : CompletionLedger :=
  if isAuthorityCode now ∧ ¬isAuthorityCode was then
    { l with authorityRefusals := l.authorityRefusals + 1 }
  else if ¬isAuthorityCode now ∧ isAuthorityCode was ∧ l.authorityRefusals > 0 then
    { l with authorityRefusals := l.authorityRefusals - 1 }
  else l

/-- The stages of a later failure. -/
theorem recordNextFailure_eq (l : CompletionLedger) (existing record : FailureRecord)
    (current : Bool) : l.recordNextFailure existing record current =
      ((({ l with failures := l.failures.insert record.key record } :
        CompletionLedger).recountChange record.key.partition current record.permanent
          existing.permanent).condemned record current).reblamed existing.code record.code := rfl

/-- A further failure of an edge, stage by stage. -/
theorem follows_recordNextFailure (l : CompletionLedger) (existing record : FailureRecord)
    (current : Bool) : Follows l (l.recordNextFailure existing record current) := by
  have hstored : Follows l { l with failures := l.failures.insert record.key record } := by
    refine follows_storeFailure l record rfl rfl rfl rfl fun k r hr => ?_
    simp only [Std.ExtTreeMap.getElem?_insert] at hr
    split at hr
    · next hsame => exact .inr ⟨(Std.LawfulEqOrd.eq_of_compare hsame).symm, (Option.some.inj hr).symm⟩
    · exact .inl hr
  have hcondemned : ∀ l : CompletionLedger, Follows l (l.condemned record current) := by
    intro l
    unfold condemned
    split
    · exact follows_failPartition _ _
    · exact .refl l
  have hreblamed : ∀ l : CompletionLedger, Follows l (l.reblamed existing.code record.code) := by
    intro l
    unfold reblamed
    split
    · exact .of_tables rfl rfl rfl rfl rfl
    · split
      · exact .of_tables rfl rfl rfl rfl rfl
      · exact .refl l
  rw [recordNextFailure_eq]
  exact ((hstored.trans (follows_recountChange _ _ _ _ _)).trans (hcondemned _)).trans (hreblamed _)

/-- A failure that is accepted, of either kind. -/
theorem follows_recordFailure {l l' : CompletionLedger} {record : FailureRecord}
    (h : l.recordFailure record = .ok l') : Follows l l' := by
  simp only [recordFailure, bind_eq_ok, refuseIf_eq_ok, exists_const] at h
  obtain ⟨-, -, h⟩ := h
  split at h
  · split at h
    · cases h
    · rw [← pure_eq_ok.mp h]
      exact follows_recordNewFailure _ _ _
  · rw [← pure_eq_ok.mp h]
    exact follows_recordNextFailure _ _ _ _

/-! ## Latest generations -/

/-- The latest generations once a partition has been seen at a generation. -/
def raised (latest : Std.ExtTreeMap UInt64 PartitionGeneration) (partition : PartitionId)
    (generation : PartitionGeneration) : Std.ExtTreeMap UInt64 PartitionGeneration :=
  match latest[partition]? with
  | some known => if known < generation then latest.insert partition generation else latest
  | none => latest.insert partition generation

/-- The partition is at that generation, or was beyond it. -/
theorem getElem?_raised (latest : Std.ExtTreeMap UInt64 PartitionGeneration) (partition : PartitionId)
    (generation : PartitionGeneration) :
    ∃ known, (raised latest partition generation)[partition]? = some known ∧ generation ≤ known ∧
      (known = generation ∨ latest[partition]? = some known) := by
  unfold raised
  cases h : latest[partition]? with
  | none => exact ⟨generation, by simp, UInt64.le_refl _, .inl rfl⟩
  | some known =>
      simp only
      split
      · exact ⟨generation, by simp, UInt64.le_refl _, .inl rfl⟩
      · next hle => exact ⟨known, h, UInt64.not_lt.mp hle, .inr rfl⟩

/-- Another partition keeps its latest generation. -/
theorem getElem?_raised_of_ne (latest : Std.ExtTreeMap UInt64 PartitionGeneration)
    {partition other : PartitionId} (generation : PartitionGeneration) (h : partition ≠ other) :
    (raised latest partition generation)[other]? = latest[other]? := by
  have hinsert : (latest.insert partition generation)[other]? = latest[other]? := by
    rw [Std.ExtTreeMap.getElem?_insert, if_neg]
    exact fun hcmp => h (Std.LawfulEqOrd.eq_of_compare hcmp)
  unfold raised
  cases latest[partition]? with
  | none => exact hinsert
  | some known =>
      simp only
      split
      · exact hinsert
      · rfl

/-- No generation falls. -/
theorem le_raised {latest : Std.ExtTreeMap UInt64 PartitionGeneration} {other : PartitionId}
    {known : PartitionGeneration} (h : latest[other]? = some known) (partition : PartitionId)
    (generation : PartitionGeneration) :
    ∃ later, (raised latest partition generation)[other]? = some later ∧ known ≤ later := by
  by_cases hsame : partition = other
  · subst hsame
    unfold raised
    rw [h]
    simp only
    split
    · next hlt => exact ⟨generation, by simp, UInt64.le_of_lt hlt⟩
    · exact ⟨known, h, UInt64.le_refl _⟩
  · exact ⟨known, by rw [getElem?_raised_of_ne _ _ hsame, h], UInt64.le_refl _⟩

/-- The generation that took over is the latest one. -/
theorem latestGeneration_advanceGeneration (l : CompletionLedger) (partition : PartitionId)
    (generation : PartitionGeneration) : (l.advanceGeneration partition generation).latestGeneration =
      l.latestGeneration.insert partition generation := by
  unfold advanceGeneration
  cases l.latestGeneration[partition]? with
  | none => rfl
  | some latest =>
      have hkept : (l.retirePrevious partition latest).latestGeneration = l.latestGeneration := by
        unfold retirePrevious
        simp only
        cases l.recordOf partition latest <;> simp only <;> split <;> rfl
      simp only [hkept]

/-- Retiring the generations before one raises the partition to it. -/
theorem latestGeneration_retireGeneration {l l' : CompletionLedger} {partition : PartitionId}
    {generation : PartitionGeneration} (h : l.retireGeneration partition generation = .ok l') :
    l'.latestGeneration = raised l.latestGeneration partition generation := by
  obtain ⟨-, -, h⟩ := bind_eq_ok.mp h
  unfold raised
  cases hlatest : l.latestGeneration[partition]? with
  | none =>
      simp only [hlatest] at h
      rw [← pure_eq_ok.mp h, latestGeneration_advanceGeneration]
  | some latest =>
      simp only [hlatest] at h ⊢
      split at h
      · next hle => rw [if_neg hle, pure_eq_ok.mp h]
      · next hlt =>
          rw [if_pos (not_not.mp hlt), ← pure_eq_ok.mp h, latestGeneration_advanceGeneration]

/-- What is purged does not change which generation is the latest. -/
theorem latestGeneration_retain (l : CompletionLedger) (partition : PartitionId) (key : UInt64) :
    (l.retain partition key).latestGeneration = l.latestGeneration := by
  have hpurged : ∀ (bound : Nat) (retained : List UInt64) (l : CompletionLedger),
      (purgeRetained bound retained l).2.latestGeneration = l.latestGeneration := by
    intro bound retained
    induction retained with
    | nil => exact fun l => rfl
    | cons oldest retained ih =>
        intro l
        unfold purgeRetained
        split
        · rw [ih]
          unfold purge
          split <;> rfl
        · rfl
  exact hpurged _ _ l

/-- A commit raises its partition to its generation, or leaves it. -/
theorem latestGeneration_commit {l l' : CompletionLedger} {request : CommitRequest} {now : TickId}
    {receipt : CommitReceipt} (h : l.commit request now = .ok (receipt, l')) :
    l'.latestGeneration = l.latestGeneration ∨ l'.latestGeneration =
      raised l.latestGeneration request.edge.partition request.edge.partitionGeneration := by
  obtain ⟨u, -, h⟩ := bind_eq_ok.mp h
  split at h
  · right
    have hsame : (l.commitNew request now).2 = l' := congrArg Prod.snd (pure_eq_ok.mp h)
    rw [← hsame, commitNew_snd, latestGeneration_retain]
    show (l.stepped request.edge).latestGeneration = _
    unfold stepped advances raised
    simp only
    cases hlatest : l.latestGeneration[request.edge.partition]? with
    | none => exact latestGeneration_advanceGeneration _ _ _
    | some latest =>
        simp only [gt_iff_lt, decide_eq_true_eq]
        split
        · exact latestGeneration_advanceGeneration _ _ _
        · rfl
  · left
    have hsame := congrArg Prod.snd (pure_eq_ok.mp h)
    rw [← show _ = l' from hsame]
    unfold commitExisting
    simp only
    split <;> rfl

/-! ## Failures and commits -/

/-- What a failure leaves alone. -/
structure Spares (l l' : CompletionLedger) : Prop where
  partitions : l'.partitions = l.partitions
  latestGeneration : l'.latestGeneration = l.latestGeneration
  retainedKeys : l'.retainedKeys = l.retainedKeys
  completedEdges : l'.completedEdges = l.completedEdges

/-- What is spared twice is spared. -/
theorem Spares.trans {l l' l'' : CompletionLedger} (h : Spares l l') (h' : Spares l' l'') :
    Spares l l'' :=
  ⟨h'.partitions.trans h.partitions, h'.latestGeneration.trans h.latestGeneration,
    h'.retainedKeys.trans h.retainedKeys, h'.completedEdges.trans h.completedEdges⟩

/-- Marking a partition as failed spares the rest. -/
theorem spares_failPartition (l : CompletionLedger) (key : EdgeKey) :
    Spares l (l.failPartition key) := by
  unfold failPartition
  split <;> exact ⟨rfl, rfl, rfl, rfl⟩

/-- Counting a failure spares the rest. -/
theorem spares_judged (l : CompletionLedger) (record : FailureRecord) (current : Bool) :
    Spares l (l.judged record current) := by
  unfold judged
  split
  · have hcounted : Spares l (l.countPermanent record.key.partition) := ⟨rfl, rfl, rfl, rfl⟩
    exact hcounted.trans (spares_failPartition _ _)
  · split <;> exact ⟨rfl, rfl, rfl, rfl⟩

/-- Counting its code spares the rest. -/
theorem spares_blamed (l : CompletionLedger) (code : ErrorCode) : Spares l (l.blamed code) := by
  unfold blamed
  split <;> exact ⟨rfl, rfl, rfl, rfl⟩

/-- Counting a failure anew spares the rest. -/
theorem spares_recountChange (l : CompletionLedger) (partition : PartitionId)
    (current permanent wasPermanent : Bool) :
    Spares l (l.recountChange partition current permanent wasPermanent) := by
  unfold recountChange
  split
  · exact ⟨rfl, rfl, rfl, rfl⟩
  · split <;> exact ⟨rfl, rfl, rfl, rfl⟩

/-- Marking the partition of a failure that became final spares the rest. -/
theorem spares_condemned (l : CompletionLedger) (record : FailureRecord) (current : Bool) :
    Spares l (l.condemned record current) := by
  unfold condemned
  split
  · exact spares_failPartition _ _
  · exact ⟨rfl, rfl, rfl, rfl⟩

/-- Counting another code spares the rest. -/
theorem spares_reblamed (l : CompletionLedger) (was now : ErrorCode) :
    Spares l (l.reblamed was now) := by
  unfold reblamed
  split
  · exact ⟨rfl, rfl, rfl, rfl⟩
  · split <;> exact ⟨rfl, rfl, rfl, rfl⟩

/-- A failure touches neither the commits nor the generations. -/
theorem spares_recordFailure {l l' : CompletionLedger} {record : FailureRecord}
    (h : l.recordFailure record = .ok l') : Spares l l' := by
  simp only [recordFailure, bind_eq_ok, refuseIf_eq_ok, exists_const] at h
  obtain ⟨-, -, h⟩ := h
  split at h
  · split at h
    · cases h
    · rw [← pure_eq_ok.mp h, recordNewFailure_eq]
      have hstored : Spares l { l with
          failures := l.failures.insertIfNew record.key record
          failureRecords := l.failureRecords + 1 } := ⟨rfl, rfl, rfl, rfl⟩
      exact (hstored.trans (spares_judged _ _ _)).trans (spares_blamed _ _)
  · rw [← pure_eq_ok.mp h, recordNextFailure_eq]
    have hstored : Spares l { l with failures := l.failures.insert record.key record } :=
      ⟨rfl, rfl, rfl, rfl⟩
    exact ((hstored.trans (spares_recountChange _ _ _ _ _)).trans (spares_condemned _ _ _)).trans
      (spares_reblamed _ _ _)

end CompletionLedger

end ShuffleFabric
