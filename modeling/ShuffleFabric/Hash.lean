import ShuffleFabric.Error

/-!
# ShuffleFabric.Hash

Content digests, SHA-256 and CRC-32C (`digest.hpp`, `hash.hpp`, `hash.cpp`).

The hasher is the source's streaming one: `update` fills a 64-byte buffer and
compresses every full block, `finish` pads and closes the stream.  All the loops
are structurally recursive, so digests can be evaluated inside the kernel.
-/

namespace ShuffleFabric

/-- A byte string: `std::span<const std::byte>`, `std::string`. -/
abbrev Bytes := List UInt8

/-- `struct Digest`: exactly 32 bytes. -/
structure Digest where
  bytes : Bytes
  size_eq : bytes.length = 32
  deriving DecidableEq

namespace Digest

/-- The value-initialised digest. -/
def zero : Digest := ⟨List.replicate 32 0, by simp⟩

/-- `Digest::is_zero`. -/
def isZero (digest : Digest) : Bool := digest.bytes.all (· == 0)

/-- A digest from bytes that are known to have the right length; the zero digest
otherwise, as a reader that failed leaves it. -/
def ofBytes (bytes : Bytes) : Digest :=
  if h : bytes.length = 32 then ⟨bytes, h⟩ else zero

@[simp] theorem ofBytes_bytes (digest : Digest) : ofBytes digest.bytes = digest := by
  simp [ofBytes, digest.size_eq]

end Digest

/-! ## The compression function -/

/-- `kSha256RoundConstants`. -/
def sha256RoundConstants : List UInt32 := [
  0x428a2f98, 0x71374491, 0xb5c0fbcf, 0xe9b5dba5, 0x3956c25b, 0x59f111f1, 0x923f82a4, 0xab1c5ed5,
  0xd807aa98, 0x12835b01, 0x243185be, 0x550c7dc3, 0x72be5d74, 0x80deb1fe, 0x9bdc06a7, 0xc19bf174,
  0xe49b69c1, 0xefbe4786, 0x0fc19dc6, 0x240ca1cc, 0x2de92c6f, 0x4a7484aa, 0x5cb0a9dc, 0x76f988da,
  0x983e5152, 0xa831c66d, 0xb00327c8, 0xbf597fc7, 0xc6e00bf3, 0xd5a79147, 0x06ca6351, 0x14292967,
  0x27b70a85, 0x2e1b2138, 0x4d2c6dfc, 0x53380d13, 0x650a7354, 0x766a0abb, 0x81c2c92e, 0x92722c85,
  0xa2bfe8a1, 0xa81a664b, 0xc24b8b70, 0xc76c51a3, 0xd192e819, 0xd6990624, 0xf40e3585, 0x106aa070,
  0x19a4c116, 0x1e376c08, 0x2748774c, 0x34b0bcb5, 0x391c0cb3, 0x4ed8aa4a, 0x5b9cca4f, 0x682e6ff3,
  0x748f82ee, 0x78a5636f, 0x84c87814, 0x8cc70208, 0x90befffa, 0xa4506ceb, 0xbef9a3f7, 0xc67178f2]

/-- The eight state words `state_[0..7]`. -/
structure Sha256Words where
  a : UInt32
  b : UInt32
  c : UInt32
  d : UInt32
  e : UInt32
  f : UInt32
  g : UInt32
  h : UInt32
  deriving DecidableEq

/-- `kSha256InitialState`. -/
def sha256InitialState : Sha256Words :=
  ⟨0x6a09e667, 0xbb67ae85, 0x3c6ef372, 0xa54ff53a, 0x510e527f, 0x9b05688c, 0x1f83d9ab, 0x5be0cd19⟩

def rotr (value count : UInt32) : UInt32 := (value >>> count) ||| (value <<< (32 - count))

def bigEndianLoad (b0 b1 b2 b3 : UInt8) : UInt32 :=
  (b0.toUInt32 <<< 24) ||| (b1.toUInt32 <<< 16) ||| (b2.toUInt32 <<< 8) ||| b3.toUInt32

/-- The first words of the schedule: the block, four bytes at a time. -/
def loadWords : Bytes → List UInt32
  | b0 :: b1 :: b2 :: b3 :: rest => bigEndianLoad b0 b1 b2 b3 :: loadWords rest
  | _ => []

/-- One more schedule word from the words before it. -/
def scheduleWord (schedule : List UInt32) (index : Nat) : UInt32 :=
  let w15 := schedule.getD (index - 15) 0
  let w2 := schedule.getD (index - 2) 0
  let s0 := rotr w15 7 ^^^ rotr w15 18 ^^^ (w15 >>> 3)
  let s1 := rotr w2 17 ^^^ rotr w2 19 ^^^ (w2 >>> 10)
  schedule.getD (index - 16) 0 + s0 + schedule.getD (index - 7) 0 + s1

/-- Extend a schedule by `count` words. -/
def extendSchedule (schedule : List UInt32) : Nat → List UInt32
  | 0 => schedule
  | count + 1 => extendSchedule (schedule ++ [scheduleWord schedule schedule.length]) count

/-- One round of the compression loop. -/
def sha256Round (w : Sha256Words) (constant scheduled : UInt32) : Sha256Words :=
  let s1 := rotr w.e 6 ^^^ rotr w.e 11 ^^^ rotr w.e 25
  let choose := (w.e &&& w.f) ^^^ ((~~~w.e) &&& w.g)
  let temp1 := w.h + s1 + choose + constant + scheduled
  let s0 := rotr w.a 2 ^^^ rotr w.a 13 ^^^ rotr w.a 22
  let majority := (w.a &&& w.b) ^^^ (w.a &&& w.c) ^^^ (w.b &&& w.c)
  let temp2 := s0 + majority
  ⟨temp1 + temp2, w.a, w.b, w.c, w.d + temp1, w.e, w.f, w.g⟩

/-- The rounds over paired constants and schedule words. -/
def sha256Rounds (w : Sha256Words) : List (UInt32 × UInt32) → Sha256Words
  | [] => w
  | (constant, scheduled) :: rest => sha256Rounds (sha256Round w constant scheduled) rest

/-- `Sha256::compress`. -/
def compress (state : Sha256Words) (block : Bytes) : Sha256Words :=
  let schedule := extendSchedule (loadWords block) 48
  let w := sha256Rounds state (sha256RoundConstants.zip schedule)
  ⟨state.a + w.a, state.b + w.b, state.c + w.c, state.d + w.d,
    state.e + w.e, state.f + w.f, state.g + w.g, state.h + w.h⟩

/-! ## The streaming hasher -/

/-- `class Sha256`; `buffer` holds the `buffered_` bytes of the current block. -/
structure Sha256 where
  state : Sha256Words
  bitLength : UInt64
  buffer : Bytes
  deriving DecidableEq

namespace Sha256

/-- `Sha256::reset`. -/
def init : Sha256 := ⟨sha256InitialState, 0, []⟩

/-- The `while (size >= 64)` loop of `update`: `blocks` full blocks straight from
the input. -/
def absorbBlocks (state : Sha256Words) (data : Bytes) : Nat → Sha256Words × Bytes
  | 0 => (state, data)
  | blocks + 1 => absorbBlocks (compress state (data.take 64)) (data.drop 64) blocks

/-- The first part of `update`: top up a partly filled buffer. -/
def fillBuffer (hasher : Sha256) (data : Bytes) : Sha256 × Bytes :=
  if hasher.buffer.length > 0 then
    let needed := 64 - hasher.buffer.length
    let taken := if data.length < needed then data.length else needed
    let buffer := hasher.buffer ++ data.take taken
    if buffer.length = 64 then
      ({ hasher with state := compress hasher.state buffer, buffer := [] }, data.drop taken)
    else
      ({ hasher with buffer := buffer }, data.drop taken)
  else
    (hasher, data)

/-- `Sha256::update`. -/
def update (hasher : Sha256) (data : Bytes) : Sha256 :=
  let hasher := { hasher with bitLength := hasher.bitLength + UInt64.ofNat data.length * 8 }
  let (hasher, data) := hasher.fillBuffer data
  let (state, data) := absorbBlocks hasher.state data (data.length / 64)
  { hasher with state := state, buffer := hasher.buffer ++ data }

/-- The `while (buffered_ != 56)` loop of `finish`; a block has 64 positions, so
64 turns reach every one of them. -/
def padZeros (hasher : Sha256) : Nat → Sha256
  | 0 => hasher
  | fuel + 1 => if hasher.buffer.length = 56 then hasher else padZeros (hasher.update [0]) fuel

/-- The eight big-endian bytes of the message length. -/
def lengthBytes (bits : UInt64) : Bytes :=
  [7, 6, 5, 4, 3, 2, 1, 0].map fun (index : UInt64) => ((bits >>> (index * 8)) &&& 0xff).toUInt8

/-- The four big-endian bytes of a state word. -/
def wordBytes (word : UInt32) : Bytes :=
  [((word >>> 24) &&& 0xff).toUInt8, ((word >>> 16) &&& 0xff).toUInt8,
    ((word >>> 8) &&& 0xff).toUInt8, (word &&& 0xff).toUInt8]

/-- The digest spelled by the final state words. -/
def digestOfWords (w : Sha256Words) : Digest :=
  ⟨wordBytes w.a ++ wordBytes w.b ++ wordBytes w.c ++ wordBytes w.d ++
    wordBytes w.e ++ wordBytes w.f ++ wordBytes w.g ++ wordBytes w.h, by simp [wordBytes]⟩

/-- `Sha256::finish`. -/
def finish (hasher : Sha256) : Digest :=
  let padded := padZeros (hasher.update [0x80]) 64
  digestOfWords (padded.update (lengthBytes hasher.bitLength)).state

end Sha256

/-- `sha256(std::span<const std::byte>)`. -/
def sha256 (data : Bytes) : Digest := (Sha256.init.update data).finish

/-- The published test vector for `"abc"`. -/
example : (sha256 [0x61, 0x62, 0x63]).bytes.take 4 = [0xba, 0x78, 0x16, 0xbf] := by decide +kernel

/-! ## CRC-32C -/

/-- `kCrc32cTable.entries[index]`: eight turns of the reflected polynomial division. -/
def crc32cEntry (index : UInt32) : UInt32 :=
  (List.range 8).foldl
    (fun value _ =>
      if (value &&& 1) ≠ 0 then (0x82f63b78 : UInt32) ^^^ (value >>> 1) else value >>> 1)
    index

/-- `crc32c`. -/
@[irreducible] def crc32c (data : Bytes) : UInt32 :=
  ~~~data.foldl
    (fun crc byte => crc32cEntry ((crc ^^^ byte.toUInt32) &&& 0xff) ^^^ (crc >>> 8)) 0xffffffff

/-- The published check value for `"123456789"`. -/
example : crc32c [0x31, 0x32, 0x33, 0x34, 0x35, 0x36, 0x37, 0x38, 0x39] = 0xe3069283 := by
  decide +kernel

end ShuffleFabric
