import ShuffleFabric.Authority
import ShuffleFabric.Codec.Canonical
import ShuffleFabric.Manifest.Content
import ShuffleFabric.Records.Sound

/-!
# ShuffleFabric.Manifest.Binding

What the two digests of a manifest pin down.

Both serialisations are injective: every field has a fixed width, and the number of chunks is
told by the length.  So equal digests are digests of equal manifests, or a collision.
-/

namespace ShuffleFabric

open Lib

/-! ## Fields of fixed width -/

/-- Four bytes at the front tell the number. -/
theorem putU32_append_inj {a b : UInt32} {x y : Bytes} (h : putU32 a ++ x = putU32 b ++ y) :
    a = b ∧ x = y := by
  obtain ⟨hput, hrest⟩ := List.append_inj h (by simp)
  exact ⟨by rw [← u32Of_putU32 a, hput, u32Of_putU32], hrest⟩

/-- Eight bytes at the front tell the number. -/
theorem putU64_append_inj {a b : UInt64} {x y : Bytes} (h : putU64 a ++ x = putU64 b ++ y) :
    a = b ∧ x = y := by
  obtain ⟨hput, hrest⟩ := List.append_inj h (by simp)
  exact ⟨by rw [← u64Of_putU64 a, hput, u64Of_putU64], hrest⟩

theorem putDigest_inj {a b : Digest} (h : putDigest a = putDigest b) : a = b := by
  rw [putDigest, putDigest] at h
  rw [← Digest.ofBytes_bytes a, h, Digest.ofBytes_bytes]

/-- The bytes of a descriptor tell the descriptor. -/
theorem writeChunk_inj {a b : ChunkDescriptor} (h : writeChunk a = writeChunk b) : a = b := by
  obtain ⟨id, offset, length, digest⟩ := a
  obtain ⟨id', offset', length', digest'⟩ := b
  simp only [writeChunk, List.append_assoc] at h
  obtain ⟨hid, h⟩ := putU64_append_inj h
  obtain ⟨hoffset, h⟩ := putU64_append_inj h
  obtain ⟨hlength, h⟩ := putU32_append_inj h
  rw [hid, hoffset, hlength, putDigest_inj h]

/-- The bytes that `compute_partition_digest` hashes. -/
def partitionBytes (m : PartitionManifest) : Bytes :=
  putU64 m.totalBytes ++ putCount m.chunks.length ++ writeChunks m

/-- The size of what the partition digest is taken of. -/
theorem length_partitionBytes (m : PartitionManifest) :
    (partitionBytes m).length = 12 + 52 * m.chunks.length := by
  simp only [partitionBytes, writeChunks, List.length_append, length_putU64, length_putCount,
    length_putMany length_writeChunk]

/-- These bytes tell the size and the chunks. -/
theorem partitionBytes_inj {m m' : PartitionManifest} (h : partitionBytes m = partitionBytes m') :
    m.totalBytes = m'.totalBytes ∧ m.chunks = m'.chunks := by
  simp only [partitionBytes, putCount, List.append_assoc] at h
  obtain ⟨htotal, h⟩ := putU64_append_inj h
  obtain ⟨-, h⟩ := putU32_append_inj h
  exact ⟨htotal, putMany_inj (by decide) length_writeChunk (fun _ _ => writeChunk_inj) h⟩

/-- The bytes of a manifest tell the manifest. -/
theorem manifestBytes_inj {m m' : PartitionManifest} (h : manifestBytes m = manifestBytes m') :
    m = m' := by
  obtain ⟨shuffle, shuffleGeneration, partition, partitionGeneration, producer,
    producerIncarnation, topologyGeneration, totalBytes, chunks⟩ := m
  obtain ⟨shuffle', shuffleGeneration', partition', partitionGeneration', producer',
    producerIncarnation', topologyGeneration', totalBytes', chunks'⟩ := m'
  simp only [manifestBytes, writeIdentity, putCount, List.append_assoc] at h
  obtain ⟨hshuffle, h⟩ := putU64_append_inj h
  obtain ⟨hshuffleGeneration, h⟩ := putU64_append_inj h
  obtain ⟨hpartition, h⟩ := putU64_append_inj h
  obtain ⟨hpartitionGeneration, h⟩ := putU64_append_inj h
  obtain ⟨hproducer, h⟩ := putU64_append_inj h
  obtain ⟨hproducerIncarnation, h⟩ := putU64_append_inj h
  obtain ⟨htopologyGeneration, h⟩ := putU64_append_inj h
  obtain ⟨htotalBytes, h⟩ := putU64_append_inj h
  obtain ⟨-, h⟩ := putU32_append_inj h
  have hchunks := putMany_inj (by decide) length_writeChunk (fun _ _ => writeChunk_inj) h
  rw [hshuffle, hshuffleGeneration, hpartition, hpartitionGeneration, hproducer,
    hproducerIncarnation, htopologyGeneration, htotalBytes, show chunks = chunks' from hchunks]

/-- The two serialisations never meet, not even those of different manifests. -/
theorem manifestBytes_ne_partitionBytes (m m' : PartitionManifest) :
    manifestBytes m ≠ partitionBytes m' := by
  intro h
  have hlength := congrArg List.length h
  rw [length_manifestBytes, length_partitionBytes] at hlength
  omega

/-! ## What a digest pins down -/

/-- A chunk of two contents is different and has one digest. -/
def ChunksCollide (m : PartitionManifest) (a b : Bytes) : Prop :=
  ∃ chunk ∈ m.chunks, Collides sha256 (chunk.span.piece a) (chunk.span.piece b)

/-- Serialisations of two manifests are different and have one digest. -/
def SerialisationsCollide (m m' : PartitionManifest) : Prop :=
  ∃ a ∈ [manifestBytes m, partitionBytes m], ∃ b ∈ [manifestBytes m', partitionBytes m'],
    Collides sha256 a b

/-- Equal digests are of equal manifests, or the hash collides. -/
theorem eq_of_manifestDigest {m m' : PartitionManifest}
    (h : computeManifestDigest m = computeManifestDigest m') :
    m = m' ∨ Collides sha256 (manifestBytes m) (manifestBytes m') := by
  have hbytes : sha256 (manifestBytes m) = sha256 (manifestBytes m') := h
  exact (eq_or_collides hbytes).imp_left manifestBytes_inj

/-- Verification looks at the size and at the chunks only. -/
theorem verifyPartitionContent_congr {m m' : PartitionManifest}
    (htotal : m.totalBytes = m'.totalBytes) (hchunks : m.chunks = m'.chunks) (content : Bytes) :
    verifyPartitionContent m content = verifyPartitionContent m' content := by
  unfold verifyPartitionContent
  rw [htotal, hchunks]

/-- Contents that pass manifests of one serialisation are the same, or have a chunk that
collides. -/
theorem eq_of_partitionBytes {limits : Limits} {m m' : PartitionManifest}
    (hvalid : validateManifest m limits = .ok ()) (h : partitionBytes m = partitionBytes m')
    {a b : Bytes} (ha : verifyPartitionContent m a = some (.ok ()))
    (hb : verifyPartitionContent m' b = some (.ok ())) : a = b ∨ ChunksCollide m a b := by
  obtain ⟨htotal, hchunks⟩ := partitionBytes_inj h
  rw [← verifyPartitionContent_congr htotal hchunks] at hb
  by_cases heq : a = b
  · exact .inl heq
  · exact .inr (collides_of_verify hvalid ha hb heq)

/-- `commit_transfer` has accepted this digest as evidence for the manifest. -/
def Presented (digest : Digest) (m : PartitionManifest) : Prop :=
  ∃ (c c' : Coordinator) (request : CommitRequest) (outcome : CommitOutcome),
    (Coordinator.commitTransfer request).exec c = (.ok outcome, c') ∧
      c.manifests[request.edge.partition]? = some m ∧ request.observedPartitionDigest = digest

/-- The digest that was presented is that of one of the two serialisations. -/
theorem Presented.digest_eq {digest : Digest} {m : PartitionManifest} (h : Presented digest m) :
    ∃ bytes ∈ [manifestBytes m, partitionBytes m], digest = sha256 bytes := by
  obtain ⟨c, c', request, outcome, hcommit, hmanifest, rfl⟩ := h
  obtain ⟨hcheck, -⟩ := Coordinator.commitTransfer_ok hcommit
  obtain ⟨-, -, accepted, -, -, -, -, -, haccepted, -, hevidence, -⟩ :=
    Coordinator.checkCommit_ok hcheck
  obtain rfl : m = accepted := Option.some.inj (hmanifest.symm.trans haccepted)
  obtain ⟨-, hobserved, -⟩ := Coordinator.checkEvidence_ok hevidence
  cases hobserved with
  | inl hmanifestDigest => exact ⟨manifestBytes m, by simp, hmanifestDigest⟩
  | inr hpartitionDigest => exact ⟨partitionBytes m, by simp, hpartitionDigest⟩

/-- Manifests with one serialisation between them have one content. -/
theorem partitionBytes_eq_of_mem {m m' : PartitionManifest} {bytes : Bytes}
    (h : bytes ∈ [manifestBytes m, partitionBytes m])
    (h' : bytes ∈ [manifestBytes m', partitionBytes m']) :
    partitionBytes m = partitionBytes m' := by
  simp only [List.mem_cons, List.not_mem_nil, or_false] at h h'
  rcases h with rfl | rfl <;> rcases h' with h' | h'
  · rw [manifestBytes_inj h']
  · exact absurd h' (manifestBytes_ne_partitionBytes m m')
  · exact absurd h'.symm (manifestBytes_ne_partitionBytes m' m)
  · exact h'

/-- Equal digests are digests of equal manifests, or of equal contents, unless a collision is
among the serialisations or the chunks; so a digest that was presented pins one content.  One of
the manifests has to be valid. -/
theorem digests_bind {limits : Limits} {m m' : PartitionManifest}
    (hvalid : validateManifest m limits = .ok ()) :
    (computeManifestDigest m = computeManifestDigest m' →
      m = m' ∨ Collides sha256 (manifestBytes m) (manifestBytes m')) ∧
    (computePartitionDigest m = computePartitionDigest m' →
      ∀ a b, verifyPartitionContent m a = some (.ok ()) →
        verifyPartitionContent m' b = some (.ok ()) →
        a = b ∨ Collides sha256 (partitionBytes m) (partitionBytes m') ∨ ChunksCollide m a b) ∧
    ∀ digest, Presented digest m → Presented digest m' →
      ∀ a b, verifyPartitionContent m a = some (.ok ()) →
        verifyPartitionContent m' b = some (.ok ()) →
        a = b ∨ SerialisationsCollide m m' ∨ ChunksCollide m a b := by
  refine ⟨eq_of_manifestDigest, fun hdigest a b ha hb => ?_, fun digest hm hm' a b ha hb => ?_⟩
  · have hdigest : sha256 (partitionBytes m) = sha256 (partitionBytes m') := hdigest
    cases eq_or_collides hdigest with
    | inl hbytes => exact (eq_of_partitionBytes hvalid hbytes ha hb).imp_right .inr
    | inr hcollides => exact .inr (.inl hcollides)
  · obtain ⟨bytes, hbytes, rfl⟩ := hm.digest_eq
    obtain ⟨bytes', hbytes', hdigest⟩ := hm'.digest_eq
    cases eq_or_collides hdigest with
    | inr hcollides => exact .inr (.inl ⟨bytes, hbytes, bytes', hbytes', hcollides⟩)
    | inl hsame =>
        subst hsame
        have hpartition := partitionBytes_eq_of_mem hbytes hbytes'
        exact (eq_of_partitionBytes hvalid hpartition ha hb).imp_right .inr

/-- The manifest of three bytes and one that names another partition share a partition digest. -/
theorem digests_bind_small :
    computePartitionDigest threeBytes = computePartitionDigest { threeBytes with partition := 1 } ∧
      verifyPartitionContent threeBytes [7, 8, 9] = some (.ok ()) ∧
      ∀ b, verifyPartitionContent { threeBytes with partition := 1 } b = some (.ok ()) →
        [7, 8, 9] = b ∨
          Collides sha256 (partitionBytes threeBytes)
            (partitionBytes { threeBytes with partition := 1 }) ∨
          ChunksCollide threeBytes [7, 8, 9] b := by
  have hvalid : validateManifest threeBytes {} = .ok () := by decide +kernel
  have hverify : verifyPartitionContent threeBytes [7, 8, 9] = some (.ok ()) := by decide +kernel
  exact ⟨rfl, hverify, fun b hb => (digests_bind hvalid).2.1 rfl [7, 8, 9] b hverify hb⟩

end ShuffleFabric
