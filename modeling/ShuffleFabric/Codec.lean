import ShuffleFabric.Bytes
import ShuffleFabric.Hash
import ShuffleFabric.Lib.Action

/-!
# ShuffleFabric.Codec

The canonical binary encoding of durable records (`codec.hpp`, `codec.cpp`):
fixed-width little-endian integers, 32-bit length prefixes, bounded collections.

A `ByteWriter` only ever appends, so the writer side is the appended bytes.  The
`ByteReader` has a sticky error: the first failure is recorded and every later
read returns a zero value without consuming anything.  `checkOk` is the
`if (!reader.ok()) return reader.error();` that the decoders put between their
reads.
-/

namespace ShuffleFabric

open Lib Action

/-! ## UTF-8 -/

/-- What a lead byte announces: the number of continuation bytes, the bits it
contributes, and the least code point of that length. -/
def utf8Lead (lead : UInt8) : Option (Nat × UInt32 × UInt32) :=
  if lead < 0x80 then some (0, lead.toUInt32, 0)
  else if lead &&& 0xe0 = 0xc0 then some (1, (lead &&& 0x1f).toUInt32, 0x80)
  else if lead &&& 0xf0 = 0xe0 then some (2, (lead &&& 0x0f).toUInt32, 0x800)
  else if lead &&& 0xf8 = 0xf0 then some (3, (lead &&& 0x07).toUInt32, 0x10000)
  else none

/-- Read continuation bytes into a code point. -/
def utf8Continue : Nat → UInt32 → Bytes → Option (UInt32 × Bytes)
  | 0, codePoint, rest => some (codePoint, rest)
  | n + 1, codePoint, next :: rest =>
    if next &&& 0xc0 = 0x80 then
      utf8Continue n ((codePoint <<< 6) ||| (next &&& 0x3f).toUInt32) rest
    else none
  | _ + 1, _, [] => none

/-- The main loop of `is_valid_utf8`; every turn consumes at least one byte. -/
def validUtf8Loop : Nat → Bytes → Bool
  | _, [] => true
  | 0, _ :: _ => false
  | fuel + 1, lead :: rest =>
    match utf8Lead lead with
    | none => false
    | some (continuation, bits, minimum) =>
      match utf8Continue continuation bits rest with
      | none => false
      | some (codePoint, rest) =>
        if codePoint < minimum ∨ codePoint > 0x10ffff then false
        else if 0xd800 ≤ codePoint ∧ codePoint ≤ 0xdfff then false
        else validUtf8Loop fuel rest

/-- `is_valid_utf8`. -/
def isValidUtf8 (text : Bytes) : Bool := validUtf8Loop text.length text

/-! ## Writing

The integer encodings are irreducible: a proof about a record compares field with
field and never looks at bytes.
-/

def putU8 (value : UInt8) : Bytes := [value]

@[irreducible] def putU16 (value : UInt16) : Bytes :=
  putU8 (value &&& 0xff).toUInt8 ++ putU8 ((value >>> 8) &&& 0xff).toUInt8

@[irreducible] def putU32 (value : UInt32) : Bytes :=
  putU16 (value &&& 0xffff).toUInt16 ++ putU16 ((value >>> 16) &&& 0xffff).toUInt16

@[irreducible] def putU64 (value : UInt64) : Bytes :=
  putU32 (value &&& 0xffffffff).toUInt32 ++ putU32 ((value >>> 32) &&& 0xffffffff).toUInt32

def putBool (value : Bool) : Bytes := putU8 (if value then 1 else 0)

@[irreducible] def putDigest (digest : Digest) : Bytes := digest.bytes

/-- `put_string` and `put_byte_string`; the length is cast to 32 bits. -/
def putByteString (data : Bytes) : Bytes := putU32 (UInt32.ofNat data.length) ++ data

/-- The element count of a collection, cast to 32 bits. -/
def putCount (count : Nat) : Bytes := putU32 (UInt32.ofNat count)

/-- The elements of a collection, one after the other. -/
def putMany {α : Type} (put : α → Bytes) (items : List α) : Bytes := (items.map put).flatten

/-! ## Reading -/

/-- `class ByteReader`; `data` is what lies behind `offset_`. -/
structure ByteReader where
  data : Bytes
  limits : Limits
  error : Option Error := none

/-- A decoder. -/
abbrev Read (α : Type) := Action ByteReader Error α

namespace ByteReader

/-- `ByteReader::fail`: only the first failure is kept. -/
def fail (r : ByteReader) (code : ErrorCode) (detail : String) : ByteReader :=
  if r.error.isNone then { r with error := some ⟨code, detail⟩ } else r

/-- `ByteReader::raw`. -/
def raw (count : Nat) : Read Bytes := do
  let r ← get
  if r.error.isSome then
    pure []
  else if count > r.data.length then do
    set (r.fail .truncatedInput "payload ended before the declared length")
    pure []
  else if count > r.limits.maxAllocationBytes.toNat then do
    set (r.fail .oversizedInput "declared length exceeds max_allocation_bytes")
    pure []
  else do
    set { r with data := r.data.drop count }
    pure (r.data.take count)

def u8Of : Bytes → UInt8
  | b :: _ => b
  | [] => 0

def u16Of : Bytes → UInt16
  | [b0, b1] => b0.toUInt16 ||| (b1.toUInt16 <<< 8)
  | _ => 0

def u32Of : Bytes → UInt32
  | [b0, b1, b2, b3] =>
    b0.toUInt32 ||| (b1.toUInt32 <<< 8) ||| (b2.toUInt32 <<< 16) ||| (b3.toUInt32 <<< 24)
  | _ => 0

def u64Of : Bytes → UInt64
  | [b0, b1, b2, b3, b4, b5, b6, b7] =>
    b0.toUInt64 ||| (b1.toUInt64 <<< 8) ||| (b2.toUInt64 <<< 16) ||| (b3.toUInt64 <<< 24) |||
      (b4.toUInt64 <<< 32) ||| (b5.toUInt64 <<< 40) ||| (b6.toUInt64 <<< 48) |||
      (b7.toUInt64 <<< 56)
  | _ => 0

def u8 : Read UInt8 := u8Of <$> raw 1
def u16 : Read UInt16 := u16Of <$> raw 2
def u32 : Read UInt32 := u32Of <$> raw 4
def u64 : Read UInt64 := u64Of <$> raw 8

/-- `ByteReader::digest`; a short slice leaves the zero digest. -/
def digest : Read Digest := Digest.ofBytes <$> raw 32

/-- `ByteReader::boolean`. -/
def boolean : Read Bool := do
  let value ← u8
  let r ← get
  if r.error.isSome then
    pure false
  else if value > 1 then do
    set (r.fail .malformedInput "boolean field must be 0 or 1")
    pure false
  else
    pure (value == 1)

/-- `ByteReader::bytes`. -/
def bytes (maxBytes : Nat) : Read Bytes := do
  let declared ← u32
  let r ← get
  if r.error.isSome then
    pure []
  else if declared.toNat > maxBytes then do
    set (r.fail .oversizedInput "declared byte string exceeds its bound")
    pure []
  else
    raw declared.toNat

/-- `ByteReader::string`. -/
def string (maxBytes : Nat) : Read Bytes := do
  let declared ← u32
  let r ← get
  if r.error.isSome then
    pure []
  else if declared.toNat > maxBytes then do
    set (r.fail .oversizedInput "declared string exceeds its bound")
    pure []
  else do
    let text ← raw declared.toNat
    let r ← get
    if r.error.isSome then
      pure []
    else if !isValidUtf8 text then do
      set (r.fail .invalidUnicode "string is not valid UTF-8")
      pure []
    else
      pure text

/-- `ByteReader::collection_count`. -/
def collectionCount (maxItems : Nat) : Read Nat := do
  let declared ← u32
  let r ← get
  if r.error.isSome then
    pure 0
  else if declared.toNat > maxItems then do
    set (r.fail .limitExceeded "collection count exceeds the caller bound")
    pure 0
  else if declared > r.limits.maxCollectionItems then do
    set (r.fail .limitExceeded "collection count exceeds max_collection_items")
    pure 0
  else if declared.toNat > r.data.length then do
    set (r.fail .malformedInput "collection count exceeds the remaining payload")
    pure 0
  else
    pure declared.toNat

/-- `if (!reader.ok()) return reader.error();`. -/
def checkOk : Read Unit := do
  match (← get).error with
  | some e => throw e
  | none => pure ()

/-- Give up unless the raw value has a meaning. -/
def orThrow {α : Type} (value : Option α) (e : Error) : Read α :=
  match value with
  | some a => pure a
  | none => throw e

/-- `ByteReader::require_end`. -/
def requireEnd : Read Unit := do
  checkOk
  throwIf ((← get).data ≠ [])
    ⟨.trailingGarbage, "payload contains trailing bytes after the canonical form"⟩

/-- A value, and nothing behind it. -/
def toEnd {α : Type} (read : Read α) : Read α := do
  let value ← read
  requireEnd
  pure value

/-- `for (index = 0; index < count; ++index) items.push_back(..)`. -/
def readMany {α : Type} (read : Read α) : Nat → Read (List α)
  | 0 => pure []
  | count + 1 => do
    let item ← read
    let items ← readMany read count
    pure (item :: items)

end ByteReader

/-- Run a decoder over a whole byte string. -/
def decodeWith {α : Type} (read : Read α) (data : Bytes) (limits : Limits) : Result α :=
  (read.exec ⟨data, limits, none⟩).1

end ShuffleFabric
