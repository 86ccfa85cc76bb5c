import ShuffleFabric.Codec.Sound
import ShuffleFabric.Records

/-!
# ShuffleFabric.Records.Sound

The record codecs on their own output.

`Decodable limits record` collects what the decoder re-validates after a record
became durable.  On a record that satisfies it the round trip is exact; on any
other record the decoder refuses, so the only value ever decoded from an encoded
record is that record.
-/

namespace ShuffleFabric

open Lib ByteReader

-- The instance that makes a decoder sticky is as long as the decoder.
set_option synthInstance.maxSize 512

variable {limits : Limits}

/-! ## Enumerations -/

/-- A state is read back from its code. -/
@[simp] theorem ShuffleState.ofUInt16_toUInt16 (state : ShuffleState) :
    ofUInt16 state.toUInt16 = some state := by
  cases state <;> rfl

/-- A kind of participant is read back from its code. -/
@[simp] theorem ParticipantKind.ofUInt8_toUInt8 (kind : ParticipantKind) :
    ofUInt8 kind.toUInt8 = some kind := by
  cases kind <;> rfl

/-- A participant state is read back from its code. -/
@[simp] theorem ParticipantState.ofUInt8_toUInt8 (state : ParticipantState) :
    ofUInt8 state.toUInt8 = some state := by
  cases state <;> rfl

/-- A kind of selection is read back from its code. -/
@[simp] theorem SelectionKind.ofUInt8_toUInt8 (kind : SelectionKind) :
    ofUInt8 kind.toUInt8 = some kind := by
  cases kind <;> rfl

/-! ## Policies -/

/-- The limits within a policy are numbers, and are read without a check. -/
theorem reads_limits (l : Limits) :
    Reads limits (8 ≤ limits.maxAllocationBytes.toNat) decodeLimits (encodeLimits l) l := by
  have h : Reads limits _ decodeLimits _ _ := (Reads.u64 l.maxFramePayloadBytes).bind <|
    (Reads.u64 l.maxMessagePayloadBytes).bind <| (Reads.u64 l.maxAllocationBytes).bind <|
    (Reads.u64 l.maxStringBytes.toUInt64).bind <| (Reads.u64 l.maxEndpointBytes.toUInt64).bind <|
    (Reads.u64 l.maxCollectionItems.toUInt64).bind <| (Reads.u64 l.maxChunksPerPartition).bind <|
    (Reads.u64 l.maxPartitions.toUInt64).bind <| (Reads.u64 l.maxParticipants.toUInt64).bind <|
    (Reads.u64 l.maxSelectionPatterns.toUInt64).bind <| (Reads.u64 l.maxSelectionItems).bind <|
    (Reads.u64 l.maxPlannedEdges).bind <| (Reads.u64 l.maxTrackedEdges).bind <|
    (Reads.u64 l.maxTrackedPartitions).bind <| (Reads.u64 l.maxStateBytes).bind <|
    (Reads.u64 l.maxJournalRecordBytes).bind <|
    (Reads.u64 l.maxRetainedGenerations.toUInt64).bind <|
    (Reads.u64 l.maxAttemptRecordsPerShuffle.toUInt64).bind <|
    (Reads.u64 l.maxPendingRetries.toUInt64).bind <| (Reads.u64 l.maxWaveGrants.toUInt64).bind <|
    Reads.pure _
  simp only [UInt32.toUInt32_toUInt64, List.append_nil, and_true, and_self] at h
  unfold encodeLimits
  simp only [List.append_assoc]
  exact h

instance : Sticky decodeLimits := by unfold decodeLimits; infer_instance

/-- A policy is read back if it is valid. -/
theorem reads_policy (p : PolicyEnvelope) :
    Reads limits (8 ≤ limits.maxAllocationBytes.toNat ∧ validatePolicy p = .ok ()) decodePolicy
      (encodePolicy p) p := by
  have h : Reads limits _ decodePolicy _ p := (Reads.u64 p.shuffle).bind <|
    (Reads.u64 p.shuffleGeneration).bind <| (Reads.u64 p.generation).bind <|
    (Reads.u32 p.fan.maxFanOut).bind <| (Reads.u32 p.fan.maxFanIn).bind <|
    (Reads.u32 p.concurrency.global).bind <| (Reads.u32 p.concurrency.perSource).bind <|
    (Reads.u32 p.concurrency.perDestination).bind <|
    (Reads.u32 p.waves.maxGrantsPerWave).bind <|
    (Reads.u32 p.waves.maxEdgesExaminedPerWave).bind <|
    (Reads.u32 p.retry.maxAttempts).bind <| (Reads.u32 p.retry.minTicksBetweenAttempts).bind <|
    (Reads.u32 p.congestion.pauseThreshold).bind <|
    (Reads.u32 p.congestion.resumeThreshold).bind <|
    (Reads.boolean p.congestion.requireFreshEvidence).bind <|
    (Reads.u32 p.congestion.evidenceValidityTicks).bind <|
    (reads_limits p.limits).bind <| Reads.checkOk.bind <|
    (Reads.status (validatePolicy p)).bind <| Reads.pure p
  refine h.congr ?_ ?_
  · constructor
    · rintro ⟨h8, -, -, -, -, -, -, -, -, -, -, -, -, -, -, -, -, -, hvalid, -⟩
      exact ⟨h8, hvalid⟩
    · rintro ⟨h8, hvalid⟩
      exact ⟨h8, h8, h8, by omega, by omega, by omega, by omega, by omega, by omega, by omega,
        by omega, by omega, by omega, by omega, by omega, by omega, h8, trivial, hvalid, trivial⟩
  · unfold encodePolicy
    simp only [List.append_assoc, List.append_nil]

instance : Sticky decodePolicy := by unfold decodePolicy; infer_instance

/-! ## Manifests -/

/-- A chunk descriptor has a digest, which needs 32 bytes. -/
theorem reads_chunk (chunk : ChunkDescriptor) :
    Reads limits (32 ≤ limits.maxAllocationBytes.toNat) readChunk (writeChunk chunk) chunk := by
  have h : Reads limits _ readChunk _ chunk := (Reads.u64 chunk.id).bind <|
    (Reads.u64 chunk.offset).bind <| (Reads.u32 chunk.length).bind <|
    (Reads.digest chunk.digest).bind <| Reads.checkOk.bind <| Reads.pure chunk
  refine h.congr ?_ ?_
  · simp only [and_true]
    omega
  · simp only [writeChunk, List.append_assoc, List.append_nil]

instance : Sticky readChunk := by unfold readChunk; infer_instance

@[simp] theorem length_writeChunk (chunk : ChunkDescriptor) : (writeChunk chunk).length = 52 := by
  simp [writeChunk]

/-- A manifest is 68 bytes and 52 for each chunk. -/
theorem length_manifestBytes (manifest : PartitionManifest) :
    (manifestBytes manifest).length = 68 + 52 * manifest.chunks.length := by
  simp only [manifestBytes, writeIdentity, writeChunks, List.length_append, length_putU64,
    length_putCount, length_putMany length_writeChunk]

/-- What `decode_manifest` reads back before it validates. -/
theorem reads_manifest (m : PartitionManifest) (h32 : m.chunks.length < 2 ^ 32) :
    Reads limits
      (8 ≤ limits.maxAllocationBytes.toNat ∧
        CountOk limits limits.maxChunksPerPartition.toNat m.chunks.length ∧
        ∀ chunk ∈ m.chunks, 32 ≤ limits.maxAllocationBytes.toNat)
      (readManifest limits) (manifestBytes m) m := by
  have hmany : Reads limits _ _ _ m.chunks := Reads.many fun chunk _ => reads_chunk chunk
  have hlen : m.chunks.length ≤ (putMany writeChunk m.chunks).length :=
    length_le_putMany (fun chunk => by simp) m.chunks
  have h : Reads limits _ (readManifest limits) _ m := (Reads.u64 m.shuffle).bind <|
    (Reads.u64 m.shuffleGeneration).bind <| (Reads.u64 m.partition).bind <|
    (Reads.u64 m.partitionGeneration).bind <| (Reads.u64 m.producer).bind <|
    (Reads.u64 m.producerIncarnation).bind <| (Reads.u64 m.topologyGeneration).bind <|
    (Reads.u64 m.totalBytes).bind <| Reads.count h32 (by simpa using hlen) <|
    Reads.checkOk.bind <| hmany.bind <| Reads.pure m
  refine h.congr ?_ ?_
  · tauto
  · simp only [manifestBytes, writeIdentity, writeChunks, List.append_assoc, List.append_nil,
      List.nil_append]

/-- What the durable form of a manifest has to fit into. -/
structure ManifestFits (limits : Limits) (m : PartitionManifest) : Prop where
  length : (manifestBytes m).length < 2 ^ 32
  message : (manifestBytes m).length ≤ limits.maxMessagePayloadBytes.toNat
  allocation : (manifestBytes m).length ≤ limits.maxAllocationBytes.toNat
  items : m.chunks.length ≤ limits.maxCollectionItems.toNat
  valid : validateManifest m limits = .ok ()

/-- A valid manifest has chunks, and not more than the bound. -/
theorem chunks_of_validateManifest {m : PartitionManifest}
    (h : validateManifest m limits = .ok ()) :
    0 < m.chunks.length ∧ m.chunks.length ≤ limits.maxChunksPerPartition.toNat := by
  simp only [validateManifest, bind_eq_ok, refuseIf_eq_ok, exists_const] at h
  obtain ⟨hne, hmax, -⟩ := h
  exact ⟨List.length_pos_iff.mpr hne, by omega⟩

/-- `encode_manifest` then `decode_manifest`. -/
theorem decodeManifest_manifestBytes {m : PartitionManifest} (h : ManifestFits limits m) :
    decodeManifest (manifestBytes m) limits = .ok m := by
  have hlen := length_manifestBytes m
  have h32 := h.length
  have halloc := h.allocation
  have hmsg := h.message
  obtain ⟨hpos, hmax⟩ := chunks_of_validateManifest h.valid
  have hread := (reads_manifest m (by omega)).decode_toEnd
    ⟨by omega, ⟨by omega, hmax, h.items⟩, fun _ _ => by omega⟩
  simp only [decodeManifest, bind_eq_ok, refuseIf_eq_ok, exists_const, pure_eq_ok]
  exact ⟨by omega, m, hread, (), h.valid, rfl⟩

/-- Nothing but the manifest is decoded from its canonical bytes. -/
theorem of_decodeManifest {m m' : PartitionManifest} (h32 : m.chunks.length < 2 ^ 32)
    (h : decodeManifest (manifestBytes m) limits = .ok m') :
    (manifestBytes m).length ≤ limits.maxMessagePayloadBytes.toNat ∧
      m.chunks.length ≤ limits.maxCollectionItems.toNat ∧
      validateManifest m limits = .ok () ∧ m' = m := by
  simp only [decodeManifest, bind_eq_ok, refuseIf_eq_ok, exists_const, pure_eq_ok] at h
  obtain ⟨hmsg, d, hread, u, hvalid, rfl⟩ := h
  rw [← List.append_nil (manifestBytes m)] at hread
  obtain ⟨⟨-, ⟨-, -, hitems⟩, -⟩, -, rfl⟩ := (reads_manifest m h32).of_decode_toEnd hread
  exact ⟨by omega, hitems, hvalid, rfl⟩

/-! ## Selections -/

/-- The canonical form of a selection: the list of a list selection is sorted and
unique, and the other kinds carry none. -/
def PartitionSelection.Canonical (s : PartitionSelection) : Prop :=
  if s.kind = .list then s.list ≠ [] ∧ Sorted (fun p => p) s.list else s.list = []

instance (s : PartitionSelection) : Decidable s.Canonical := by
  unfold PartitionSelection.Canonical
  infer_instance

/-- The list of a selection is checked against its kind: sorted, or absent. -/
theorem reads_selectionList (kind : SelectionKind) (list : List PartitionId) :
    Reads limits
      (if kind = .list then ¬(list = [] ∨ ¬Sorted (fun p => p) list) else ¬list ≠ [])
      (checkSelectionList kind list) [] () := by
  unfold checkSelectionList
  by_cases hkind : kind = .list
  · simp only [hkind, if_true]
    exact Reads.throwIf
  · simp only [hkind, if_false]
    exact Reads.throwIf

instance (kind : SelectionKind) (list : List PartitionId) :
    Sticky (checkSelectionList kind list) := by
  unfold checkSelectionList
  infer_instance

/-- A selection is read back if it is the canonical one. -/
theorem reads_selection (s : PartitionSelection) (h32 : s.list.length < 2 ^ 32) :
    Reads limits
      (8 ≤ limits.maxAllocationBytes.toNat ∧
        CountOk limits limits.maxSelectionItems.toNat s.list.length ∧ s.Canonical)
      (readSelection limits) (writeSelection s) s := by
  have hmany : Reads limits (∀ p ∈ s.list, 8 ≤ limits.maxAllocationBytes.toNat) _ _ s.list :=
    Reads.many fun p _ => Reads.u64 p
  have hlen : s.list.length ≤ (putMany putU64 s.list).length :=
    length_le_putMany (fun p => by simp) s.list
  have h : Reads limits _ (readSelection limits) _ s := (Reads.u8 s.kind.toUInt8).bind <|
    (Reads.orThrow (SelectionKind.ofUInt8_toUInt8 s.kind)).bind <|
    (Reads.u64 s.first).bind <| (Reads.u64 s.last).bind <|
    Reads.count h32 (by simpa using hlen) <| Reads.checkOk.bind <| hmany.bind <|
    Reads.checkOk.bind <| (reads_selectionList s.kind s.list).bind <| Reads.pure s
  refine h.congr ?_ ?_
  · simp only [PartitionSelection.Canonical, not_or, not_not, ne_eq, true_and, and_true]
    constructor
    · rintro ⟨-, h8, -, hcount, -, hcanon⟩
      exact ⟨h8, hcount, hcanon⟩
    · rintro ⟨h8, hcount, hcanon⟩
      exact ⟨by omega, h8, h8, hcount, fun _ _ => h8, hcanon⟩
  · simp only [writeSelection, List.append_assoc, List.append_nil, List.nil_append]

instance : Sticky (readSelection limits) := by unfold readSelection; infer_instance

/-! ## Records -/

/-- An epoch record has nothing to check. -/
theorem reads_epoch (r : EpochRecord) :
    Reads limits (8 ≤ limits.maxAllocationBytes.toNat) EpochRecord.decode
      (putU64 r.epoch ++ putU64 r.openedAt) r := by
  have h : Reads limits _ EpochRecord.decode _ r := (Reads.u64 r.epoch).bind <|
    (Reads.u64 r.openedAt).bind <| Reads.checkOk.bind <| Reads.pure r
  exact h.congr (by simp) (by simp)

/-- A lifecycle record is read back if its policy is valid and an open shuffle gives no reason. -/
theorem reads_shuffleState (r : ShuffleStateRecord) :
    Reads limits
      (8 ≤ limits.maxAllocationBytes.toNat ∧ validatePolicy r.policy = .ok () ∧
        (r.state = .open → r.reason = .ok))
      ShuffleStateRecord.decode
      (putU64 r.shuffle ++ putU64 r.generation ++ putU32 r.partitionCount ++
        putU16 r.state.toUInt16 ++ putU16 r.reason.value ++ putU64 r.atTick ++
        encodePolicy r.policy) r := by
  have h : Reads limits _ ShuffleStateRecord.decode _ r := (Reads.u64 r.shuffle).bind <|
    (Reads.u64 r.generation).bind <| (Reads.u32 r.partitionCount).bind <|
    (Reads.u16 r.state.toUInt16).bind <| (Reads.u16 r.reason.value).bind <|
    (Reads.u64 r.atTick).bind <| Reads.checkOk.bind <|
    (Reads.orThrow (ShuffleState.ofUInt16_toUInt16 r.state)).bind <|
    (reads_policy r.policy).bind <| Reads.throwIf.bind <| Reads.pure r
  refine h.congr ?_ (by simp only [List.append_assoc, List.append_nil, List.nil_append])
  have hreason : r.reason = .ok ↔ r.reason.value = ErrorCode.ok.value := by
    rcases hr : r.reason with ⟨v⟩
    simp [ErrorCode.ok]
  rw [hreason]
  constructor
  · rintro ⟨h8, -, -, -, -, -, -, -, ⟨-, hvalid⟩, hopen, -⟩
    exact ⟨h8, hvalid, fun hs => not_not.mp fun hne => hopen ⟨hs, hne⟩⟩
  · rintro ⟨h8, hvalid, hopen⟩
    exact ⟨h8, h8, by omega, by omega, by omega, h8, trivial, trivial, ⟨h8, hvalid⟩,
      fun hne => hne.2 (hopen hne.1), trivial⟩

/-- A participant record has two collections: the endpoint and the selection. -/
theorem reads_participant (r : ParticipantRecord) (hendpoint : r.endpoint.length < 2 ^ 32)
    (hlist : r.selection.list.length < 2 ^ 32) :
    Reads limits
      (8 ≤ limits.maxAllocationBytes.toNat ∧
        r.endpoint.length ≤ limits.maxEndpointBytes.toNat ∧
        r.endpoint.length ≤ limits.maxAllocationBytes.toNat ∧ isValidUtf8 r.endpoint ∧
        CountOk limits limits.maxSelectionItems.toNat r.selection.list.length ∧
        r.selection.Canonical)
      (ParticipantRecord.decode limits)
      (putU8 r.kind.toUInt8 ++ putU64 r.id ++ putU64 r.incarnation ++ putU8 r.state.toUInt8 ++
        putByteString r.endpoint ++ writeSelection r.selection ++ putU64 r.atTick) r := by
  have h : Reads limits _ (ParticipantRecord.decode limits) _ r :=
    (Reads.u8 r.kind.toUInt8).bind <| (Reads.u64 r.id).bind <| (Reads.u64 r.incarnation).bind <|
    (Reads.u8 r.state.toUInt8).bind <|
    (Reads.string limits.maxEndpointBytes.toNat hendpoint).bind <| Reads.checkOk.bind <|
    (Reads.orThrow (ParticipantKind.ofUInt8_toUInt8 r.kind)).bind <|
    (Reads.orThrow (ParticipantState.ofUInt8_toUInt8 r.state)).bind <|
    (reads_selection r.selection hlist).bind <| (Reads.u64 r.atTick).bind <|
    Reads.checkOk.bind <| Reads.pure r
  refine h.congr ?_ (by simp only [List.append_assoc, List.append_nil, List.nil_append])
  constructor
  · rintro ⟨-, h8, -, -, ⟨-, hmax, hraw, hutf⟩, -, -, -, ⟨-, hcount, hcanon⟩, -⟩
    exact ⟨h8, hmax, hraw, hutf, hcount, hcanon⟩
  · rintro ⟨h8, hmax, hraw, hutf, hcount, hcanon⟩
    exact ⟨by omega, h8, h8, by omega, ⟨by omega, hmax, hraw, hutf⟩, trivial, trivial, trivial,
      ⟨h8, hcount, hcanon⟩, h8, trivial, trivial⟩

/-- A commit record is read back if the consumer is named alike in both places. -/
theorem reads_commit (r : CommitRecord)
    (hchunks : r.request.observedChunkDigests.length < 2 ^ 32) :
    Reads limits
      (32 ≤ limits.maxAllocationBytes.toNat ∧
        CountOk limits limits.maxChunksPerPartition.toNat r.request.observedChunkDigests.length ∧
        r.request.edge.consumer = r.request.consumer)
      (CommitRecord.decode limits) (writeCommitRequest r.request ++ putU64 r.atTick) r := by
  have hmany : Reads limits (∀ d ∈ r.request.observedChunkDigests,
      32 ≤ limits.maxAllocationBytes.toNat) _ _ r.request.observedChunkDigests :=
    Reads.many fun d _ => Reads.digest d
  have hlen : r.request.observedChunkDigests.length ≤
      (putMany putDigest r.request.observedChunkDigests).length :=
    length_le_putMany (fun d => by rw [length_putDigest]; decide) _
  have hrequest : Reads limits _ (readCommitRequest limits) _ r.request :=
    (Reads.u64 r.request.edge.partition).bind <|
    (Reads.u64 r.request.edge.partitionGeneration).bind <|
    (Reads.u64 r.request.edge.consumer).bind <| (Reads.u64 r.request.attempt).bind <|
    (Reads.u64 r.request.wave).bind <| (Reads.u64 r.request.shuffleGeneration).bind <|
    (Reads.u64 r.request.topologyGeneration).bind <|
    (Reads.u64 r.request.policyGeneration).bind <| (Reads.u64 r.request.producer).bind <|
    (Reads.u64 r.request.producerIncarnation).bind <| (Reads.u64 r.request.consumer).bind <|
    (Reads.u64 r.request.consumerIncarnation).bind <|
    (Reads.digest r.request.manifestDigest).bind <|
    (Reads.digest r.request.observedPartitionDigest).bind <|
    (Reads.boolean r.request.integrityVerified).bind <| (Reads.u64 r.request.bytes).bind <|
    Reads.count hchunks (by simpa using hlen) <| Reads.checkOk.bind <| hmany.bind <|
    Reads.checkOk.bind <| Reads.throwIf.bind <| Reads.pure r.request
  have h : Reads limits _ (CommitRecord.decode limits) _ r := hrequest.bind <|
    (Reads.u64 r.atTick).bind <| Reads.checkOk.bind <| Reads.pure r
  refine h.congr ?_ ?_
  · constructor
    · rintro ⟨⟨-, -, -, -, -, -, -, -, -, -, -, -, h32, -, -, -, hcount, -, -, -, hsame, -⟩, -⟩
      exact ⟨h32, hcount, not_not.mp hsame⟩
    · rintro ⟨h32, hcount, hsame⟩
      refine ⟨⟨?_, ?_, ?_, ?_, ?_, ?_, ?_, ?_, ?_, ?_, ?_, ?_, h32, h32, ?_, ?_, hcount, trivial,
        fun _ _ => h32, trivial, not_not.mpr hsame, trivial⟩, ?_, trivial, trivial⟩
      all_goals omega
  · unfold writeCommitRequest
    simp only [List.append_assoc, List.append_nil, List.nil_append]

/-- A failure record is read back if its code is known and not `ok`. -/
theorem reads_failure (r : FailureRecordDurable) :
    Reads limits
      (8 ≤ limits.maxAllocationBytes.toNat ∧ r.code ≠ .ok ∧
        r.code.value ≤ ErrorCode.tooManyTrackedEdges.value)
      FailureRecordDurable.decode
      (putU64 r.key.partition ++ putU64 r.key.partitionGeneration ++ putU64 r.key.consumer ++
        putU16 r.code.value ++ putBool r.permanent ++ putU32 r.attempts ++ putU64 r.recordedAt ++
        putU64 r.readyAt) r := by
  have h : Reads limits _ FailureRecordDurable.decode _ r := (Reads.u64 r.key.partition).bind <|
    (Reads.u64 r.key.partitionGeneration).bind <| (Reads.u64 r.key.consumer).bind <|
    (Reads.u16 r.code.value).bind <| (Reads.boolean r.permanent).bind <|
    (Reads.u32 r.attempts).bind <| (Reads.u64 r.recordedAt).bind <|
    (Reads.u64 r.readyAt).bind <| Reads.checkOk.bind <| Reads.throwIf.bind <| Reads.pure r
  refine h.congr ?_ (by simp only [List.append_assoc, List.append_nil])
  have hcode : r.code = .ok ↔ r.code.value = 0 := by
    rcases hr : r.code with ⟨v⟩
    simp [ErrorCode.ok]
  rw [ne_eq, hcode]
  constructor
  · rintro ⟨h8, -, -, -, -, -, -, -, -, hknown, -⟩
    exact ⟨h8, fun h0 => hknown (.inl h0), UInt16.not_lt.mp fun hgt => hknown (.inr hgt)⟩
  · rintro ⟨h8, h0, hle⟩
    exact ⟨h8, h8, h8, by omega, by omega, by omega, h8, h8, trivial,
      not_or.mpr ⟨h0, UInt16.not_lt.mpr hle⟩, trivial⟩

instance : Sticky EpochRecord.decode := by unfold EpochRecord.decode; infer_instance
instance : Sticky ShuffleStateRecord.decode := by
  unfold ShuffleStateRecord.decode; infer_instance
instance : Sticky (ParticipantRecord.decode limits) := by
  unfold ParticipantRecord.decode; infer_instance
instance : Sticky (ManifestRecord.decode limits) := by
  unfold ManifestRecord.decode; infer_instance
instance : Sticky (readCommitRequest limits) := by unfold readCommitRequest; infer_instance
instance : Sticky (CommitRecord.decode limits) := by unfold CommitRecord.decode; infer_instance
instance : Sticky FailureRecordDurable.decode := by
  unfold FailureRecordDurable.decode; infer_instance
instance (kind : UInt16) : Sticky (readKind limits kind) := by unfold readKind; infer_instance

/-! ## Whole records -/

/-- What the decoder of durable records accepts. -/
def Decodable (limits : Limits) : DurableRecord → Prop
  | .epochAdvanced _ => 8 ≤ limits.maxAllocationBytes.toNat
  | .shuffleState r =>
    8 ≤ limits.maxAllocationBytes.toNat ∧ validatePolicy r.policy = .ok () ∧
      (r.state = .open → r.reason = .ok)
  | .participant r =>
    8 ≤ limits.maxAllocationBytes.toNat ∧
      r.endpoint.length ≤ limits.maxEndpointBytes.toNat ∧
      r.endpoint.length ≤ limits.maxAllocationBytes.toNat ∧ isValidUtf8 r.endpoint ∧
      CountOk limits limits.maxSelectionItems.toNat r.selection.list.length ∧
      r.selection.Canonical
  | .manifest r => ManifestFits limits r.manifest
  | .commit r =>
    32 ≤ limits.maxAllocationBytes.toNat ∧
      CountOk limits limits.maxChunksPerPartition.toNat r.request.observedChunkDigests.length ∧
      r.request.edge.consumer = r.request.consumer
  | .failure r =>
    8 ≤ limits.maxAllocationBytes.toNat ∧ r.code ≠ .ok ∧
      r.code.value ≤ ErrorCode.tooManyTrackedEdges.value

/-- The lengths of a record fit the 32-bit length fields. -/
def Measured : DurableRecord → Prop
  | .participant r => r.endpoint.length < 2 ^ 32
  | .commit r => r.request.observedChunkDigests.length < 2 ^ 32
  | _ => True

/-- The record behind its kind tag. -/
theorem reads_tag {ok : Prop} {tag : UInt16} {data : Bytes} {r : DurableRecord}
    (h : Reads limits ok (readKind limits tag) data r) :
    Reads limits (2 ≤ limits.maxAllocationBytes.toNat ∧ ok) (readTagged limits)
      (putU16 tag ++ data) r :=
  ((Reads.u16 tag).bind <| Reads.checkOk.bind h).congr (by simp) (by simp)

/-- The kind tag of a record. -/
def DurableRecord.tag : DurableRecord → UInt16
  | .epochAdvanced _ => 1
  | .shuffleState _ => 2
  | .participant _ => 3
  | .manifest _ => 4
  | .commit _ => 5
  | .failure _ => 6

/-- A value that was made of another one. -/
theorem exists_of_map {α β : Type} {m : Read α} {f : α → β} {r r' : ByteReader} {b : β}
    (h : (f <$> m).exec r = (.ok b, r')) : ∃ a, f a = b := by
  rw [Action.exec_map] at h
  cases hm : (m.exec r).1 with
  | error e => simp [hm] at h
  | ok a =>
      simp only [hm, Action.except_map_ok, Prod.mk.injEq, Except.ok.injEq] at h
      exact ⟨a, h.1⟩

/-- A record is read under its own tag. -/
theorem tag_of_readKind {tag : UInt16} {r r' : ByteReader} {d : DurableRecord}
    (h : (readKind limits tag).exec r = (.ok d, r')) : d.tag = tag := by
  unfold readKind at h
  split at h
  · next htag =>
      obtain ⟨a, rfl⟩ := exists_of_map h
      exact htag.symm
  split at h
  · next htag =>
      obtain ⟨a, rfl⟩ := exists_of_map h
      exact htag.symm
  split at h
  · next htag =>
      obtain ⟨a, rfl⟩ := exists_of_map h
      exact htag.symm
  split at h
  · next htag =>
      obtain ⟨a, rfl⟩ := exists_of_map h
      exact htag.symm
  split at h
  · next htag =>
      obtain ⟨a, rfl⟩ := exists_of_map h
      exact htag.symm
  split at h
  · next htag =>
      obtain ⟨a, rfl⟩ := exists_of_map h
      exact htag.symm
  · cases h

/-- Whatever is decoded is of the kind its bytes announce. -/
theorem tag_of_decodeRecord {tag : UInt16} {rest : Bytes} {d : DurableRecord}
    (h : decodeRecord limits (putU16 tag ++ rest) = .ok d) : d.tag = tag := by
  have hend : (toEnd (readTagged limits)).exec ⟨putU16 tag ++ rest, limits, none⟩ =
      (.ok d, ((toEnd (readTagged limits)).exec ⟨putU16 tag ++ rest, limits, none⟩).2) :=
    Prod.ext h rfl
  obtain ⟨d', r, hread, hend⟩ := Action.exec_bind_ok hend
  obtain ⟨u, r', -, hpure⟩ := Action.exec_bind_ok hend
  obtain rfl : d' = d := by simpa using congrArg Prod.fst hpure
  by_cases h2 : 2 ≤ limits.maxAllocationBytes.toNat
  · rw [readTagged, Action.exec_bind_of_ok ((Reads.u16 tag).exact h2 rest)] at hread
    obtain ⟨u', r₁, -, hread⟩ := Action.exec_bind_ok hread
    exact tag_of_readKind hread
  · obtain ⟨kind, r₁, hkind, hread⟩ := Action.exec_bind_ok hread
    have hfailed := (Reads.u16 tag).failed h2 rest
    rw [hkind] at hfailed
    have herror : r₁.error.isSome := by simpa [Failed] using hfailed
    obtain ⟨u', r₂, hcheck, -⟩ := Action.exec_bind_ok hread
    obtain ⟨e, he⟩ := Option.isSome_iff_exists.mp herror
    simp [checkOk, Action.exec_bind, he] at hcheck

/-- A durable manifest, whatever its bytes decode to. -/
theorem reads_manifestRecord {data : Bytes} {m : PartitionManifest} (h32 : data.length < 2 ^ 32)
    (hm : ∀ m', decodeManifest data limits = .ok m' → m' = m) :
    Reads limits
      (4 ≤ limits.maxAllocationBytes.toNat ∧
        data.length ≤ limits.maxMessagePayloadBytes.toNat ∧
        data.length ≤ limits.maxAllocationBytes.toNat ∧ decodeManifest data limits = .ok m)
      (ManifestRecord.decode limits) (putByteString data) ⟨m⟩ := by
  have hdecoded : Reads limits (decodeManifest data limits = .ok m)
      (liftM (decodeManifest data limits)) [] m := by
    constructor
    · intro h rest
      simp [h]
    · intro h rest
      cases hd : decodeManifest data limits with
      | error e => exact .inl ⟨e, rfl⟩
      | ok m' => exact absurd (hm m' hd ▸ hd) h
  have h : Reads limits _ (ManifestRecord.decode limits) _ ⟨m⟩ :=
    (Reads.bytes limits.maxMessagePayloadBytes.toNat h32).bind <| Reads.checkOk.bind <|
    hdecoded.bind <| Reads.pure _
  exact h.congr (by tauto) (by simp)

/-- A byte string longer than its 32-bit length field: the field announces a proper
part of it. -/
theorem putByteString_of_long {data : Bytes} (h : 2 ^ 32 ≤ data.length) :
    ∃ part rest, part.length < 2 ^ 32 ∧ rest ≠ [] ∧
      putByteString data = putByteString part ++ rest := by
  have hlt : data.length % 2 ^ 32 < 2 ^ 32 := Nat.mod_lt _ (by decide)
  have hlen : (data.take (data.length % 2 ^ 32)).length = data.length % 2 ^ 32 := by
    rw [List.length_take]
    omega
  refine ⟨data.take (data.length % 2 ^ 32), data.drop (data.length % 2 ^ 32), by omega, ?_, ?_⟩
  · intro hnil
    have := congrArg List.length hnil
    simp only [List.length_drop, List.length_nil] at this
    omega
  · unfold putByteString
    rw [hlen, UInt32.ofNat_mod_size, List.append_assoc, List.take_append_drop]

/-- The same for the list of a selection; the item behind the announced ones is read
as the field that follows the list. -/
theorem writeSelection_of_long {s : PartitionSelection} (tail : Bytes)
    (h : 2 ^ 32 ≤ s.list.length) :
    ∃ part tick rest, part.length < 2 ^ 32 ∧ rest ≠ [] ∧
      writeSelection s ++ tail = writeSelection { s with list := part } ++ putU64 tick ++ rest := by
  have hlt : s.list.length % 2 ^ 32 < 2 ^ 32 := Nat.mod_lt _ (by decide)
  have hlen : (s.list.take (s.list.length % 2 ^ 32)).length = s.list.length % 2 ^ 32 := by
    rw [List.length_take]
    omega
  have hsplit := List.take_append_drop (s.list.length % 2 ^ 32) s.list
  have hdrop : (s.list.drop (s.list.length % 2 ^ 32)).length =
      s.list.length - s.list.length % 2 ^ 32 := List.length_drop
  generalize s.list.take (s.list.length % 2 ^ 32) = part at hlen hsplit
  generalize s.list.drop (s.list.length % 2 ^ 32) = behind at hdrop hsplit
  match behind, hdrop with
  | [], hdrop | [_], hdrop =>
      simp only [List.length_nil, List.length_singleton] at hdrop
      omega
  | tick :: next :: behind, hdrop =>
      refine ⟨part, tick, putU64 next ++ putMany putU64 behind ++ tail, by omega, ?_, ?_⟩
      · intro hnil
        simpa using congrArg List.length hnil
      · have hcount : putCount s.list.length = putCount part.length := by
          unfold putCount
          rw [hlen, UInt32.ofNat_mod_size]
        unfold writeSelection
        rw [hcount]
        simp only [← hsplit, putMany_append, putMany_cons, List.append_assoc]

/-! ## The round trip -/

/-- A participant record whose list outgrows its count is never decoded. -/
theorem decodeRecord_participant_long {r : ParticipantRecord} {d : DurableRecord}
    (hendpoint : r.endpoint.length < 2 ^ 32) (hlist : 2 ^ 32 ≤ r.selection.list.length) :
    decodeRecord limits (DurableRecord.participant r).encode ≠ .ok d := by
  intro h
  obtain ⟨part, tick, rest, hpart, hrest, hwrite⟩ :=
    writeSelection_of_long (putU64 r.atTick) hlist
  have hread : Reads limits _ (readTagged limits) (putU16 3 ++ _) _ := reads_tag <|
    (reads_participant { r with selection := { r.selection with list := part }, atTick := tick }
      hendpoint hpart).map DurableRecord.participant
  have hbytes : (DurableRecord.participant r).encode = (putU16 3 ++ (putU8 r.kind.toUInt8 ++
      putU64 r.id ++ putU64 r.incarnation ++ putU8 r.state.toUInt8 ++ putByteString r.endpoint ++
      writeSelection { r.selection with list := part } ++ putU64 tick)) ++ rest := by
    simp only [DurableRecord.encode, ParticipantRecord.encode, List.append_assoc] at hwrite ⊢
    rw [hwrite]
  rw [hbytes] at h
  exact hrest (hread.of_decode_toEnd h).2.1

/-- Nor is a manifest record whose bytes outgrow their length. -/
theorem decodeRecord_manifest_long {r : ManifestRecord} {d : DurableRecord}
    (hlong : 2 ^ 32 ≤ (manifestBytes r.manifest).length) :
    decodeRecord limits (DurableRecord.manifest r).encode ≠ .ok d := by
  intro h
  obtain ⟨part, rest, hpart, hrest, hbytes⟩ := putByteString_of_long hlong
  obtain ⟨m, hm⟩ : ∃ m, ∀ m', decodeManifest part limits = .ok m' → m' = m := by
    cases decodeManifest part limits with
    | error e => exact ⟨r.manifest, fun m' hm' => by cases hm'⟩
    | ok m => exact ⟨m, fun m' hm' => by cases hm'; rfl⟩
  have hread : Reads limits _ (readTagged limits) (putU16 4 ++ _) _ := reads_tag <|
    (reads_manifestRecord hpart hm).map DurableRecord.manifest
  rw [DurableRecord.encode, hbytes, ← List.append_assoc] at h
  exact hrest (hread.of_decode_toEnd h).2.1

/-- What the decoder of durable records makes of an encoded record. -/
theorem reads_record {r : DurableRecord} (h : Measured r)
    (hlist : ∀ p, r = .participant p → p.selection.list.length < 2 ^ 32)
    (hmanifest : ∀ m, r = .manifest m → (manifestBytes m.manifest).length < 2 ^ 32) :
    Reads limits (Decodable limits r) (readTagged limits) r.encode r := by
  cases r with
  | epochAdvanced r =>
      have h : Reads limits _ (readTagged limits) (putU16 1 ++ _) _ := reads_tag <|
        (reads_epoch r).map DurableRecord.epochAdvanced
      refine h.congr ⟨fun h => h.2, fun h => ⟨by simp only [Decodable] at h; omega, h⟩⟩ ?_
      simp only [DurableRecord.encode, EpochRecord.encode, List.append_assoc]
  | shuffleState r =>
      have h : Reads limits _ (readTagged limits) (putU16 2 ++ _) _ := reads_tag <|
        (reads_shuffleState r).map DurableRecord.shuffleState
      refine h.congr ⟨fun h => h.2, fun h => ⟨by have := h.1; omega, h⟩⟩ ?_
      simp only [DurableRecord.encode, ShuffleStateRecord.encode, List.append_assoc]
  | participant r =>
      have h : Reads limits _ (readTagged limits) (putU16 3 ++ _) _ := reads_tag <|
        (reads_participant r h (hlist r rfl)).map DurableRecord.participant
      refine h.congr ⟨fun h => h.2, fun h => ⟨by have := h.1; omega, h⟩⟩ ?_
      simp only [DurableRecord.encode, ParticipantRecord.encode, List.append_assoc]
  | manifest r =>
      have h32 := hmanifest r rfl
      have hlen := length_manifestBytes r.manifest
      have h : Reads limits _ (readTagged limits) (putU16 4 ++ _) _ := reads_tag <|
        (reads_manifestRecord h32 fun m' hm' => (of_decodeManifest (by omega) hm').2.2.2).map
          DurableRecord.manifest
      refine h.congr ⟨?_, ?_⟩ rfl
      · rintro ⟨-, -, hmsg, halloc, hdec⟩
        obtain ⟨-, hitems, hvalid, -⟩ := of_decodeManifest (by omega) hdec
        exact ⟨h32, hmsg, halloc, hitems, hvalid⟩
      · intro hfits
        have halloc := hfits.allocation
        exact ⟨by omega, by omega, hfits.message, halloc, decodeManifest_manifestBytes hfits⟩
  | commit r =>
      have h : Reads limits _ (readTagged limits) (putU16 5 ++ _) _ := reads_tag <|
        (reads_commit r h).map DurableRecord.commit
      refine h.congr ⟨fun h => h.2, fun h => ⟨by have := h.1; omega, h⟩⟩ ?_
      simp only [DurableRecord.encode, CommitRecord.encode, List.append_assoc]
  | failure r =>
      have h : Reads limits _ (readTagged limits) (putU16 6 ++ _) _ := reads_tag <|
        (reads_failure r).map DurableRecord.failure
      refine h.congr ⟨fun h => h.2, fun h => ⟨by have := h.1; omega, h⟩⟩ ?_
      simp only [DurableRecord.encode, FailureRecordDurable.encode, List.append_assoc]

/-- A record that fits its length fields and its bounds is decoded as itself. -/
theorem decodeRecord_encode {r : DurableRecord} (h : Measured r) (hdec : Decodable limits r) :
    decodeRecord limits r.encode = .ok r := by
  refine (reads_record h ?_ ?_).decode_toEnd hdec
  · rintro p rfl
    obtain ⟨-, -, -, -, ⟨-, -, hitems⟩, -⟩ := hdec
    exact lt_of_le_of_lt hitems limits.maxCollectionItems.toNat_lt
  · rintro m rfl
    exact hdec.length

/-- Nothing but the record itself is ever decoded from its bytes, and only within the
decoder's bounds. -/
theorem eq_of_decodeRecord {r d : DurableRecord} (h : Measured r)
    (hd : decodeRecord limits r.encode = .ok d) : Decodable limits r ∧ d = r := by
  by_cases hlist : ∀ p, r = .participant p → p.selection.list.length < 2 ^ 32
  · by_cases hmanifest : ∀ m, r = .manifest m → (manifestBytes m.manifest).length < 2 ^ 32
    · rw [← List.append_nil r.encode] at hd
      obtain ⟨hdec, -, heq⟩ := (reads_record h hlist hmanifest).of_decode_toEnd hd
      exact ⟨hdec, heq⟩
    · push Not at hmanifest
      obtain ⟨m, rfl, hlong⟩ := hmanifest
      exact absurd hd (decodeRecord_manifest_long hlong)
  · push Not at hlist
    obtain ⟨p, rfl, hlong⟩ := hlist
    exact absurd hd (decodeRecord_participant_long h hlong)

end ShuffleFabric
