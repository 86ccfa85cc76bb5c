import ShuffleFabric.Lib.Tiling
import ShuffleFabric.Manifest

/-!
# ShuffleFabric.Manifest.Content

Manifests and the content they describe (`build_manifest`, `verify_partition_content`).

`verify_partition_content` takes slices of the content where the manifest says, without a look
at the bounds; a slice that is not inside has no meaning, and the model answers `none` for it.
-/

namespace ShuffleFabric

open Lib

/-! ## Verification -/

/-- `verify_chunk`. -/
def verifyChunk (chunk : ChunkDescriptor) (payload : Bytes) : Status := do
  refuseIf (payload.length ≠ chunk.length.toNat) .integrityFailure
    "chunk payload length does not match the descriptor"
  refuseIf (sha256 payload ≠ chunk.digest) .digestMismatch
    "chunk payload digest does not match the manifest"

/-- The bytes a chunk covers. -/
def ChunkDescriptor.span (chunk : ChunkDescriptor) : Span := ⟨chunk.offset.toNat, chunk.length.toNat⟩

/-- `content.subspan(offset, length)`; none outside of the content. -/
def subspan (content : Bytes) (span : Span) : Option Bytes :=
  if span.offset + span.length ≤ content.length then some (span.piece content) else none

/-- The loop of `verify_partition_content`. -/
def verifyChunks (content : Bytes) : List ChunkDescriptor → Option Status
  | [] => some (.ok ())
  | chunk :: chunks =>
    match subspan content chunk.span with
    | none => none
    | some payload =>
      match verifyChunk chunk payload with
      | .error e => some (.error e)
      | .ok () => verifyChunks content chunks

/-- `verify_partition_content`. -/
def verifyPartitionContent (manifest : PartitionManifest) (content : Bytes) : Option Status :=
  if content.length ≠ manifest.totalBytes.toNat then
    some (makeFailure .integrityFailure "partition payload length does not match the manifest")
  else verifyChunks content manifest.chunks

/-! ## Building -/

/-- The loop of `build_manifest` over the content that is left; every turn takes a byte. -/
def buildChunks (maxChunkBytes : UInt32) :
    Nat → Bytes → UInt64 → UInt64 → List ChunkDescriptor
  | 0, _, _, _ => []
  | fuel + 1, remaining, offset, index =>
    if remaining = [] then []
    else
      let take := min remaining.length maxChunkBytes.toNat
      { id := index
        offset := offset
        length := UInt32.ofNat take
        digest := sha256 (remaining.take take) } ::
      buildChunks maxChunkBytes fuel (remaining.drop take) (offset + UInt64.ofNat take) (index + 1)

/-- `build_manifest`. -/
def buildManifest (shuffle : ShuffleId) (shuffleGeneration : ShuffleGeneration)
    (partition : PartitionId) (partitionGeneration : PartitionGeneration) (producer : ProducerId)
    (producerIncarnation : IncarnationId) (topologyGeneration : TopologyGeneration)
    (content : Bytes) (maxChunkBytes : UInt32) (limits : Limits) : Result PartitionManifest := do
  refuseIf (maxChunkBytes = 0 ∨ maxChunkBytes > kMaxChunkBytes) .invalidArgument
    "max_chunk_bytes is outside the supported range"
  refuseIf (content = []) .invalidArgument "cannot build a manifest for empty content"
  let chunkCount := (UInt64.ofNat content.length + maxChunkBytes.toUInt64 - 1) / maxChunkBytes.toUInt64
  refuseIf (chunkCount > limits.maxChunksPerPartition) .tooManyChunks
    "content would exceed max_chunks_per_partition"
  let manifest : PartitionManifest := {
    shuffle, shuffleGeneration, partition, partitionGeneration, producer, producerIncarnation
    topologyGeneration
    totalBytes := UInt64.ofNat content.length
    chunks := buildChunks maxChunkBytes content.length content 0 0 }
  validateManifest manifest limits
  pure manifest

/-! ## What validation says about the chunks -/

theorem toNat_add_of_not_overflows {a b : UInt64} (h : ¬addOverflows a b = true) :
    (a + b).toNat = a.toNat + b.toNat :=
  toNat_of_checkedAdd (by rw [checkedAdd, if_neg h])

/-- Chunks that are accepted are not empty, and tile what lies between two offsets. -/
theorem tile_of_validateChunks {chunks : List ChunkDescriptor} {index : Nat} {start stop : UInt64}
    (h : validateChunks chunks index start = .ok stop) :
    Span.Tile start.toNat (chunks.map ChunkDescriptor.span) stop.toNat ∧
      ∀ chunk ∈ chunks, 0 < chunk.length.toNat := by
  induction chunks generalizing index start with
  | nil =>
      cases h
      exact ⟨rfl, by simp⟩
  | cons chunk chunks ih =>
      simp only [validateChunks, bind_eq_ok, refuseIf_eq_ok, exists_const] at h
      obtain ⟨-, hlength, -, hoffset, -, hoverflow, hrest⟩ := h
      obtain ⟨htile, hpos⟩ := ih hrest
      rw [toNat_add_of_not_overflows hoverflow, UInt32.toNat_toUInt64, not_not.mp hoffset] at htile
      refine ⟨⟨congrArg UInt64.toNat (not_not.mp hoffset), htile⟩,
        List.forall_mem_cons.mpr ⟨?_, hpos⟩⟩
      exact Nat.pos_of_ne_zero fun hzero => hlength (UInt32.toNat_inj.mp hzero)

/-- An accepted manifest describes every byte of the content, and each of them once. -/
theorem tile_of_validateManifest {m : PartitionManifest} {limits : Limits}
    (h : validateManifest m limits = .ok ()) :
    Span.Tile 0 (m.chunks.map ChunkDescriptor.span) m.totalBytes.toNat ∧
      ∀ chunk ∈ m.chunks, 0 < chunk.length.toNat := by
  simp only [validateManifest, bind_eq_ok, refuseIf_eq_ok, exists_const] at h
  obtain ⟨-, -, -, -, -, -, -, stop, hchunks, hstop⟩ := h
  rw [← not_not.mp hstop]
  exact tile_of_validateChunks hchunks

/-! ## What verification says about the content -/

theorem verifyChunk_eq_ok {chunk : ChunkDescriptor} {payload : Bytes} :
    verifyChunk chunk payload = .ok () ↔
      payload.length = chunk.length.toNat ∧ sha256 payload = chunk.digest := by
  simp only [verifyChunk, bind_eq_ok, refuseIf_eq_ok, exists_const, not_not]

/-- Slices inside of the content are always there. -/
theorem isSome_verifyChunks {content : Bytes} {chunks : List ChunkDescriptor}
    (h : ∀ chunk ∈ chunks, chunk.span.offset + chunk.span.length ≤ content.length) :
    (verifyChunks content chunks).isSome = true := by
  induction chunks with
  | nil => rfl
  | cons chunk chunks ih =>
      obtain ⟨hchunk, hchunks⟩ := List.forall_mem_cons.mp h
      rw [verifyChunks, subspan, if_pos hchunk]
      simp only
      split
      · rfl
      · exact ih hchunks

/-- Verification succeeds if every slice is inside and has the digest of its chunk. -/
theorem verifyChunks_eq_ok {content : Bytes} {chunks : List ChunkDescriptor} :
    verifyChunks content chunks = some (.ok ()) ↔ ∀ chunk ∈ chunks,
      chunk.span.offset + chunk.span.length ≤ content.length ∧
        sha256 (chunk.span.piece content) = chunk.digest := by
  induction chunks with
  | nil => simp [verifyChunks]
  | cons chunk chunks ih =>
      rw [List.forall_mem_cons, ← ih, verifyChunks, subspan]
      by_cases hinside : chunk.span.offset + chunk.span.length ≤ content.length
      · have hlength : (chunk.span.piece content).length = chunk.length.toNat :=
          Span.length_piece hinside
        rw [if_pos hinside]
        by_cases hdigest : sha256 (chunk.span.piece content) = chunk.digest
        · simp [verifyChunk_eq_ok.mpr ⟨hlength, hdigest⟩, hinside, hdigest]
        · cases hverify : verifyChunk chunk (chunk.span.piece content) with
          | ok u => exact absurd (verifyChunk_eq_ok.mp hverify).2 hdigest
          | error e => simp [hverify, hdigest]
      · rw [if_neg hinside]
        simp [hinside]

/-- A slice of a verified partition is never outside of the content. -/
theorem isSome_verifyPartitionContent {m : PartitionManifest} {limits : Limits}
    (h : validateManifest m limits = .ok ()) (content : Bytes) :
    (verifyPartitionContent m content).isSome = true := by
  unfold verifyPartitionContent
  split
  · rfl
  next hlength =>
    refine isSome_verifyChunks fun chunk hchunk => ?_
    rw [not_not.mp hlength]
    exact (tile_of_validateManifest h).1.inside _ (List.mem_map_of_mem hchunk)

theorem verifyPartitionContent_eq_ok {m : PartitionManifest} {content : Bytes}
    (h : verifyPartitionContent m content = some (.ok ())) :
    content.length = m.totalBytes.toNat ∧
      ∀ chunk ∈ m.chunks, sha256 (chunk.span.piece content) = chunk.digest := by
  unfold verifyPartitionContent at h
  split at h
  · cases h
  next hlength =>
    exact ⟨not_not.mp hlength, fun chunk hchunk => (verifyChunks_eq_ok.mp h chunk hchunk).2⟩

theorem verifyPartitionContent_of_tile {m : PartitionManifest} {content : Bytes}
    (hlength : content.length = m.totalBytes.toNat)
    (htile : Span.Tile 0 (m.chunks.map ChunkDescriptor.span) content.length)
    (hdigest : ∀ chunk ∈ m.chunks, sha256 (chunk.span.piece content) = chunk.digest) :
    verifyPartitionContent m content = some (.ok ()) := by
  unfold verifyPartitionContent
  rw [if_neg (not_not.mpr hlength), verifyChunks_eq_ok]
  exact fun chunk hchunk =>
    ⟨htile.inside _ (List.mem_map_of_mem hchunk), hdigest chunk hchunk⟩

/-- Different contents that pass one accepted manifest have a chunk that collides. -/
theorem collides_of_verify {m : PartitionManifest} {limits : Limits}
    (hvalid : validateManifest m limits = .ok ()) {a b : Bytes}
    (ha : verifyPartitionContent m a = some (.ok ()))
    (hb : verifyPartitionContent m b = some (.ok ())) (hne : a ≠ b) :
    ∃ chunk ∈ m.chunks, Collides sha256 (chunk.span.piece a) (chunk.span.piece b) := by
  obtain ⟨hlengthA, hdigestA⟩ := verifyPartitionContent_eq_ok ha
  obtain ⟨hlengthB, hdigestB⟩ := verifyPartitionContent_eq_ok hb
  have htile := (tile_of_validateManifest hvalid).1
  by_contra hnone
  simp only [not_exists, not_and] at hnone
  refine hne (Span.Tile.ext (by rwa [hlengthA]) (by rwa [hlengthB]) fun s hs => ?_)
  obtain ⟨chunk, hchunk, rfl⟩ := List.mem_map.mp hs
  have hsame := (hdigestA chunk hchunk).trans (hdigestB chunk hchunk).symm
  exact (eq_or_collides hsame).resolve_right (hnone chunk hchunk)

/-! ## What is built -/

/-- The chunks cut the content into consecutive pieces, none of them empty or too long. -/
structure Partitions (chunks : List ChunkDescriptor) (content : Bytes) (maxChunkBytes : Nat) :
    Prop where
  consecutive : Span.Tile 0 (chunks.map ChunkDescriptor.span) content.length
  whole : (chunks.map fun chunk => chunk.span.piece content).flatten = content
  bounded : ∀ chunk ∈ chunks,
    chunk.span.piece content ≠ [] ∧ (chunk.span.piece content).length ≤ maxChunkBytes

/-- Chunks that are built where they say they are have the digests of the content there. -/
theorem buildChunks_spec {maxChunkBytes : UInt32} (hmax : 0 < maxChunkBytes.toNat)
    {content : Bytes} {fuel start stop : Nat} {offset index : UInt64}
    (hfuel : content.length ≤ start + fuel) (hstart : start ≤ content.length)
    (htile : Span.Tile start ((buildChunks maxChunkBytes fuel (content.drop start) offset index).map
      ChunkDescriptor.span) stop) :
    stop = content.length ∧
      ∀ chunk ∈ buildChunks maxChunkBytes fuel (content.drop start) offset index,
        sha256 (chunk.span.piece content) = chunk.digest ∧
          chunk.length.toNat ≤ maxChunkBytes.toNat := by
  induction fuel generalizing start offset index with
  | zero =>
      have hstop : start = stop := htile
      exact ⟨by omega, by simp [buildChunks]⟩
  | succ fuel ih =>
      rw [buildChunks] at htile ⊢
      by_cases hend : content.drop start = []
      · rw [if_pos hend] at htile ⊢
        have hstop : start = stop := htile
        have hover := List.drop_eq_nil_iff.mp hend
        exact ⟨by omega, by simp⟩
      · rw [if_neg hend] at htile ⊢
        have hleft : start < content.length := by
          rw [List.drop_eq_nil_iff] at hend
          omega
        -- a turn takes a byte, and no more than the length field holds
        generalize htake : min (content.drop start).length maxChunkBytes.toNat = take at htile ⊢
        rw [List.length_drop] at htake
        have hwidth : (UInt32.ofNat take).toNat = take := by
          have := maxChunkBytes.toNat_lt
          rw [UInt32.toNat_ofNat', Nat.mod_eq_of_lt (by omega)]
        obtain ⟨hoffset, hrest⟩ := htile
        have hoffset : offset.toNat = start := hoffset
        simp only [List.drop_drop, ChunkDescriptor.span, hwidth] at hrest
        obtain ⟨hstop, hchunks⟩ := ih (by omega) (by omega) hrest
        simp only [List.drop_drop]
        refine ⟨hstop, List.forall_mem_cons.mpr ⟨⟨?_, ?_⟩, hchunks⟩⟩
        · simp only [ChunkDescriptor.span, Span.piece, hoffset, hwidth]
        · rw [hwidth]
          omega

/-- A manifest that is built is accepted, and describes the content it is built for: the content
passes it, and no other content does unless a chunk collides.  No accepted manifest makes
verification read outside of the content. -/
theorem buildManifest_integrity {shuffle : ShuffleId} {shuffleGeneration : ShuffleGeneration}
    {partition : PartitionId} {partitionGeneration : PartitionGeneration} {producer : ProducerId}
    {producerIncarnation : IncarnationId} {topologyGeneration : TopologyGeneration}
    {content : Bytes} {maxChunkBytes : UInt32} {limits : Limits} {manifest : PartitionManifest}
    (h : buildManifest shuffle shuffleGeneration partition partitionGeneration producer
      producerIncarnation topologyGeneration content maxChunkBytes limits = .ok manifest) :
    (validateManifest manifest limits = .ok () ∧
      Partitions manifest.chunks content maxChunkBytes.toNat ∧
      verifyPartitionContent manifest content = some (.ok ()) ∧
      ∀ other, other ≠ content → verifyPartitionContent manifest other = some (.ok ()) →
        ∃ chunk ∈ manifest.chunks,
          Collides sha256 (chunk.span.piece other) (chunk.span.piece content)) ∧
      ∀ (m : PartitionManifest) (bounds : Limits), validateManifest m bounds = .ok () →
        ∀ other, (verifyPartitionContent m other).isSome = true := by
  simp only [buildManifest, bind_eq_ok, refuseIf_eq_ok, exists_const, pure_eq_ok] at h
  obtain ⟨hmax, -, -, _, hvalid, rfl⟩ := h
  obtain ⟨htile, hpos⟩ := tile_of_validateManifest hvalid
  have hmax : 0 < maxChunkBytes.toNat :=
    Nat.pos_of_ne_zero fun hzero => hmax (.inl (UInt32.toNat_inj.mp hzero))
  have hfuel : content.length ≤ 0 + content.length := by omega
  obtain ⟨hlength, hchunks⟩ := buildChunks_spec hmax hfuel (Nat.zero_le _) htile
  rw [hlength] at htile
  have hverify := verifyPartitionContent_of_tile hlength.symm htile fun chunk hchunk =>
    (hchunks chunk hchunk).1
  refine ⟨⟨hvalid, ⟨htile, ?_, fun chunk hchunk => ?_⟩, hverify, fun other hne hother =>
    collides_of_verify hvalid hother hverify hne⟩,
    fun m bounds hm other => isSome_verifyPartitionContent hm other⟩
  · have hwhole := htile.flatten_eq
    rwa [List.map_map] at hwhole
  · have hpiece := Span.length_piece (htile.inside _ (List.mem_map_of_mem hchunk))
    refine ⟨fun hnil => ?_, ?_⟩
    · have := hpos chunk hchunk
      rw [hnil] at hpiece
      exact absurd hpiece.symm (Nat.ne_of_gt this)
    · rw [hpiece]
      exact (hchunks chunk hchunk).2

/-- Three bytes in chunks of two. -/
def threeBytes : PartitionManifest where
  shuffle := 1
  shuffleGeneration := 1
  partition := 0
  partitionGeneration := 1
  producer := 1
  producerIncarnation := 1
  topologyGeneration := 1
  totalBytes := 3
  chunks := [⟨0, 0, 2, sha256 [7, 8]⟩, ⟨1, 2, 1, sha256 [9]⟩]

/-- The manifest of three bytes is built from them. -/
theorem buildManifest_integrity_small : Partitions threeBytes.chunks [7, 8, 9] 2 := by
  have hbuild : buildManifest 1 1 0 1 1 1 1 [7, 8, 9] 2 {} = .ok threeBytes := by decide +kernel
  exact (buildManifest_integrity hbuild).1.2.1

end ShuffleFabric
