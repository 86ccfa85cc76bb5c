import ShuffleFabric.Codec.Canonical
import ShuffleFabric.Records.Sound

/-!
# ShuffleFabric.Manifest.Canonical

The canonical form of a manifest: what `decode_manifest` accepts, and which of the encodings it
takes back.

The encoder asks `validate_manifest` only; the decoder has the bounds of its reader besides.
-/

namespace ShuffleFabric

open Lib ByteReader

variable {limits : Limits}

theorem takes_chunk : Takes limits readChunk fun chunk taken => taken = writeChunk chunk := by
  refine Takes.u64.bind fun id data₁ h₁ => Takes.u64.bind fun offset data₂ h₂ =>
    Takes.u32.bind fun length data₃ h₃ => Takes.digest.bind fun digest data₄ h₄ =>
    Takes.checkOk.bind fun _ data₅ h₅ => Takes.pure ?_
  simp only [writeChunk, h₁.1, h₂.1, h₃.1, h₄.1, h₅, List.append_assoc, List.append_nil]

theorem takes_manifest : Takes limits (readManifest limits) fun m taken =>
    taken = manifestBytes m ∧ m.chunks.length < 2 ^ 32 := by
  refine Takes.u64.bind fun shuffle data₁ h₁ => Takes.u64.bind fun shuffleGeneration data₂ h₂ =>
    Takes.u64.bind fun partition data₃ h₃ => Takes.u64.bind fun partitionGeneration data₄ h₄ =>
    Takes.u64.bind fun producer data₅ h₅ => Takes.u64.bind fun producerIncarnation data₆ h₆ =>
    Takes.u64.bind fun topologyGeneration data₇ h₇ => Takes.u64.bind fun totalBytes data₈ h₈ =>
    (Takes.collectionCount _).bind fun count data₉ h₉ => Takes.checkOk.bind fun _ data₁₀ h₁₀ =>
    (Takes.many takes_chunk count).bind fun chunks data₁₁ h₁₁ => Takes.pure ?_
  obtain ⟨rfl, htaken⟩ := h₁₁
  refine ⟨?_, h₉.2.1⟩
  simp only [manifestBytes, writeIdentity, writeChunks, h₁.1, h₂.1, h₃.1, h₄.1, h₅.1, h₆.1, h₇.1,
    h₈.1, h₉.1, h₁₀, htaken, List.append_assoc, List.append_nil, List.nil_append]

/-- What `decode_manifest` accepts is the canonical form of what it returns. -/
theorem decodeManifest_eq_ok {bytes : Bytes} {m : PartitionManifest}
    (h : decodeManifest bytes limits = .ok m) :
    bytes = manifestBytes m ∧ m.chunks.length < 2 ^ 32 ∧ validateManifest m limits = .ok () := by
  simp only [decodeManifest, bind_eq_ok, refuseIf_eq_ok, exists_const, pure_eq_ok] at h
  obtain ⟨-, d, hread, u, hvalid, rfl⟩ := h
  obtain ⟨hbytes, hcount⟩ := takes_manifest.decode_toEnd hread
  exact ⟨hbytes, hcount, hvalid⟩

/-- The bounds of the reader that `encode_manifest` does not ask for. -/
structure ReaderFits (limits : Limits) (m : PartitionManifest) : Prop where
  message : 68 + 52 * m.chunks.length ≤ limits.maxMessagePayloadBytes.toNat
  items : m.chunks.length ≤ limits.maxCollectionItems.toNat
  allocation : 32 ≤ limits.maxAllocationBytes.toNat

/-- A valid manifest is decoded from its canonical form exactly if the reader has room for it. -/
theorem decodeManifest_manifestBytes_iff {m : PartitionManifest}
    (hvalid : validateManifest m limits = .ok ()) :
    decodeManifest (manifestBytes m) limits = .ok m ↔ ReaderFits limits m := by
  have hlength := length_manifestBytes m
  obtain ⟨hpos, hmax⟩ := chunks_of_validateManifest hvalid
  constructor
  · intro h
    obtain ⟨-, hcount, -⟩ := decodeManifest_eq_ok h
    simp only [decodeManifest, bind_eq_ok, refuseIf_eq_ok, exists_const, pure_eq_ok] at h
    obtain ⟨hmessage, d, hread, -⟩ := h
    rw [← List.append_nil (manifestBytes m)] at hread
    obtain ⟨⟨-, ⟨-, -, hitems⟩, halloc⟩, -⟩ := (reads_manifest m hcount).of_decode_toEnd hread
    obtain ⟨chunk, hchunk⟩ := List.exists_mem_of_length_pos hpos
    exact ⟨by omega, hitems, halloc chunk hchunk⟩
  · rintro ⟨hmessage, hitems, halloc⟩
    have hcount : m.chunks.length < 2 ^ 32 :=
      Nat.lt_of_le_of_lt hitems limits.maxCollectionItems.toNat_lt
    have hread := (reads_manifest m hcount).decode_toEnd
      ⟨by omega, ⟨by omega, hmax, hitems⟩, fun _ _ => halloc⟩
    simp only [decodeManifest, bind_eq_ok, refuseIf_eq_ok, exists_const, pure_eq_ok]
    exact ⟨by omega, m, hread, (), hvalid, rfl⟩

/-- An encoded manifest is decoded again exactly if it is within the bounds of the reader; and
nothing is decoded but the encoding of what is returned. -/
theorem manifest_codec_iff {m : PartitionManifest} {bytes : Bytes}
    (hencode : encodeManifest m limits = .ok bytes) :
    (decodeManifest bytes limits = .ok m ↔ ReaderFits limits m) ∧
      ∀ bytes' m', decodeManifest bytes' limits = .ok m' → encodeManifest m' limits = .ok bytes' := by
  simp only [encodeManifest, bind_eq_ok, pure_eq_ok] at hencode
  obtain ⟨_, hvalid, rfl⟩ := hencode
  refine ⟨decodeManifest_manifestBytes_iff hvalid, fun bytes' m' h => ?_⟩
  obtain ⟨rfl, -, hvalid'⟩ := decodeManifest_eq_ok h
  simp only [encodeManifest, hvalid']
  rfl

/-- A manifest of two chunks of one byte. -/
def twoChunks : PartitionManifest where
  shuffle := 1
  shuffleGeneration := 1
  partition := 0
  partitionGeneration := 1
  producer := 1
  producerIncarnation := 1
  topologyGeneration := 1
  totalBytes := 2
  chunks := [⟨0, 0, 1, sha256 [7]⟩, ⟨1, 1, 1, sha256 [8]⟩]

/-- The two chunks are decoded again under the default limits. -/
theorem manifest_codec_iff_small :
    (decodeManifest (manifestBytes twoChunks) {} = .ok twoChunks ↔ ReaderFits {} twoChunks) ∧
      ∀ bytes m, decodeManifest bytes {} = .ok m → encodeManifest m {} = .ok bytes :=
  manifest_codec_iff (by decide +kernel)

/-- The encoder accepts two chunks where the reader accepts one item. -/
theorem manifest_codec_refused :
    ¬∀ (limits : Limits) (m : PartitionManifest) (bytes : Bytes),
      limits.validate = .ok () → encodeManifest m limits = .ok bytes →
      decodeManifest bytes limits = .ok m := by
  intro h
  have hdecoded := h { maxCollectionItems := 1 } twoChunks (manifestBytes twoChunks) (by decide)
    (by decide +kernel)
  have hrefused : (decodeManifest (manifestBytes twoChunks) { maxCollectionItems := 1 }).isOk =
      false := by
    decide +kernel
  rw [hdecoded] at hrefused
  cases hrefused

end ShuffleFabric
