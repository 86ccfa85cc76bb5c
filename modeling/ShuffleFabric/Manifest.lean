import ShuffleFabric.Codec
import ShuffleFabric.Identity

/-!
# ShuffleFabric.Manifest

The immutable claim about one partition generation: its digests, its structural
validation and its canonical encoding (`manifest.hpp`, `manifest.cpp`).
-/

namespace ShuffleFabric

open Lib Action ByteReader

/-- A byte range of a partition with its own content digest. -/
structure ChunkDescriptor where
  id : ChunkId
  offset : UInt64
  length : UInt32
  digest : Digest
  deriving DecidableEq

structure PartitionManifest where
  shuffle : ShuffleId
  shuffleGeneration : ShuffleGeneration
  partition : PartitionId
  partitionGeneration : PartitionGeneration
  producer : ProducerId
  producerIncarnation : IncarnationId
  topologyGeneration : TopologyGeneration
  totalBytes : UInt64
  chunks : List ChunkDescriptor
  deriving DecidableEq

/-! ## Encoding and digests -/

def writeIdentity (manifest : PartitionManifest) : Bytes :=
  putU64 manifest.shuffle ++ putU64 manifest.shuffleGeneration ++
  putU64 manifest.partition ++ putU64 manifest.partitionGeneration ++
  putU64 manifest.producer ++ putU64 manifest.producerIncarnation ++
  putU64 manifest.topologyGeneration ++ putU64 manifest.totalBytes ++
  putCount manifest.chunks.length

def writeChunk (chunk : ChunkDescriptor) : Bytes :=
  putU64 chunk.id ++ putU64 chunk.offset ++ putU32 chunk.length ++ putDigest chunk.digest

def writeChunks (manifest : PartitionManifest) : Bytes := putMany writeChunk manifest.chunks

/-- `compute_partition_digest`: over the ordered chunk digests and the size. -/
def computePartitionDigest (manifest : PartitionManifest) : Digest :=
  sha256 (putU64 manifest.totalBytes ++ putCount manifest.chunks.length ++ writeChunks manifest)

/-- The canonical bytes of a manifest. -/
def manifestBytes (manifest : PartitionManifest) : Bytes :=
  writeIdentity manifest ++ writeChunks manifest

/-- `compute_manifest_digest`: over the canonical encoding of the whole manifest. -/
def computeManifestDigest (manifest : PartitionManifest) : Digest :=
  sha256 (manifestBytes manifest)

/-! ## Validation -/

/-- `kMaxChunkBytes`: 16 MiB. -/
def kMaxChunkBytes : UInt32 := 0x1000000

/-- `kMaxPartitionBytes`: 64 TiB. -/
def kMaxPartitionBytes : UInt64 := 0x400000000000

/-- The chunk loop of `validate_manifest`, from a chunk index and the offset the
next chunk has to start at; returns the offset behind the last chunk. -/
def validateChunks : List ChunkDescriptor → Nat → UInt64 → Result UInt64
  | [], _, expectedOffset => .ok expectedOffset
  | chunk :: chunks, index, expectedOffset => do
    refuseIf (chunk.id.toNat ≠ index) .manifestInconsistent
      "chunk identifiers must be the canonical 0..n-1"
    refuseIf (chunk.length = 0) .manifestInconsistent "chunk declares zero length"
    refuseIf (chunk.length > kMaxChunkBytes) .oversizedInput "chunk exceeds the chunk size bound"
    refuseIf (chunk.offset ≠ expectedOffset) .manifestInconsistent
      "chunk coverage is not contiguous"
    refuseIf chunk.digest.isZero .manifestInconsistent "chunk carries a zero digest"
    refuseIf (addOverflows chunk.offset chunk.length.toUInt64) .integerOverflow
      "chunk coverage overflows"
    validateChunks chunks (index + 1) (chunk.offset + chunk.length.toUInt64)

/-- `validate_manifest`. -/
def validateManifest (manifest : PartitionManifest) (limits : Limits) : Status := do
  refuseIf (manifest.chunks = []) .manifestInconsistent "manifest declares no chunks"
  refuseIf (manifest.chunks.length > limits.maxChunksPerPartition.toNat) .tooManyChunks
    "manifest exceeds max_chunks_per_partition"
  refuseIf (manifest.totalBytes = 0) .manifestInconsistent "manifest declares zero bytes"
  refuseIf (manifest.totalBytes > kMaxPartitionBytes) .oversizedInput
    "manifest exceeds the partition size bound"
  refuseIf (manifest.partition ≥ limits.maxPartitions.toUInt64) .tooManyPartitions
    "partition identifier exceeds max_partitions"
  refuseIf (manifest.shuffle = 0) .manifestInconsistent "manifest has no shuffle identity"
  refuseIf (manifest.producer = 0) .manifestInconsistent "manifest has no producer identity"
  let expectedOffset ← validateChunks manifest.chunks 0 0
  refuseIf (expectedOffset ≠ manifest.totalBytes) .manifestInconsistent
    "chunk coverage does not sum to total_bytes"

/-! ## Canonical form -/

/-- `encode_manifest`. -/
def encodeManifest (manifest : PartitionManifest) (limits : Limits) : Result Bytes := do
  validateManifest manifest limits
  pure (manifestBytes manifest)

def readChunk : Read ChunkDescriptor := do
  let id ← u64
  let offset ← u64
  let length ← u32
  let digest ← digest
  checkOk
  pure { id, offset, length, digest }

/-- The fields of `decode_manifest`. -/
def readManifest (limits : Limits) : Read PartitionManifest := do
  let shuffle ← u64
  let shuffleGeneration ← u64
  let partition ← u64
  let partitionGeneration ← u64
  let producer ← u64
  let producerIncarnation ← u64
  let topologyGeneration ← u64
  let totalBytes ← u64
  let chunkCount ← collectionCount limits.maxChunksPerPartition.toNat
  checkOk
  let chunks ← readMany readChunk chunkCount
  pure {
    shuffle, shuffleGeneration, partition, partitionGeneration, producer, producerIncarnation
    topologyGeneration, totalBytes, chunks }

/-- `decode_manifest`. -/
def decodeManifest (encoded : Bytes) (limits : Limits) : Result PartitionManifest := do
  refuseIf (encoded.length > limits.maxMessagePayloadBytes.toNat) .oversizedInput
    "encoded manifest exceeds max_message_payload_bytes"
  let manifest ← decodeWith (toEnd (readManifest limits)) encoded limits
  validateManifest manifest limits
  pure manifest

end ShuffleFabric
