import ShuffleFabric.Codec.Canonical
import ShuffleFabric.Frame.Decode
import ShuffleFabric.Hash.Detect

/-!
# ShuffleFabric.Frame.Sound

What the decoder accepts: the frames of the encoder, and nothing else.

`decodeHeader_eq_ok` and `decodeFramePrefix_eq_ok` say it from both sides at once.  The
conditions are those of the encoder, so both directions of the round trip, and the refusal of
a damaged frame, read off them.
-/

namespace ShuffleFabric

open Lib ByteReader

/-! ## Slices -/

section Slice

variable {bytes xs ys : Bytes} {offset width : Nat}

/-- A slice within the bytes has its width. -/
theorem length_slice (h : offset + width ≤ bytes.length) :
    (slice bytes offset width).length = width := by
  simp only [slice, List.length_take, List.length_drop]
  omega

/-- A slice continues what comes before it. -/
theorem take_append_slice (bytes : Bytes) (offset width : Nat) :
    bytes.take offset ++ slice bytes offset width = bytes.take (offset + width) :=
  List.take_add.symm

/-- A slice within the first of two parts. -/
theorem slice_append_left (h : offset + width ≤ xs.length) :
    slice (xs ++ ys) offset width = slice xs offset width := by
  rw [slice, slice, List.drop_append_of_le_length (by omega), List.take_append_of_le_length]
  rw [List.length_drop]
  omega

/-- A slice that is the second of two parts. -/
theorem slice_append_right (hoffset : offset = xs.length) (hwidth : width = ys.length) :
    slice (xs ++ ys) offset width = ys := by
  rw [slice, hoffset, List.drop_left, hwidth, List.take_length]

end Slice

/-! ## Fields -/

section Field

variable {bytes xs ys : Bytes} {offset : Nat}

/-- Two bytes that were read are the slice they were read from. -/
theorem putU16_readU16 (h : offset + 2 ≤ bytes.length) :
    putU16 (readU16 bytes offset) = slice bytes offset 2 := putU16_u16Of (length_slice h)

/-- Four bytes that were read are the slice they were read from. -/
theorem putU32_readU32 (h : offset + 4 ≤ bytes.length) :
    putU32 (readU32 bytes offset) = slice bytes offset 4 := putU32_u32Of (length_slice h)

/-- Eight bytes that were read are the slice they were read from. -/
theorem putU64_readU64 (h : offset + 8 ≤ bytes.length) :
    putU64 (readU64 bytes offset) = slice bytes offset 8 := putU64_u64Of (length_slice h)

/-- Two bytes within the first of two parts. -/
theorem readU16_append_left (h : offset + 2 ≤ xs.length) :
    readU16 (xs ++ ys) offset = readU16 xs offset := by
  rw [readU16, slice_append_left h, readU16]

/-- Four bytes within the first of two parts. -/
theorem readU32_append_left (h : offset + 4 ≤ xs.length) :
    readU32 (xs ++ ys) offset = readU32 xs offset := by
  rw [readU32, slice_append_left h, readU32]

/-- Eight bytes within the first of two parts. -/
theorem readU64_append_left (h : offset + 8 ≤ xs.length) :
    readU64 (xs ++ ys) offset = readU64 xs offset := by
  rw [readU64, slice_append_left h, readU64]

/-- Two bytes that were written last. -/
theorem readU16_append_putU16 (value : UInt16) (h : offset = xs.length) :
    readU16 (xs ++ putU16 value) offset = value := by
  rw [readU16, slice_append_right h (by simp), u16Of_putU16]

/-- Four bytes that were written last. -/
theorem readU32_append_putU32 (value : UInt32) (h : offset = xs.length) :
    readU32 (xs ++ putU32 value) offset = value := by
  rw [readU32, slice_append_right h (by simp), u32Of_putU32]

/-- Eight bytes that were written last. -/
theorem readU64_append_putU64 (value : UInt64) (h : offset = xs.length) :
    readU64 (xs ++ putU64 value) offset = value := by
  rw [readU64, slice_append_right h (by simp), u64Of_putU64]

/-- Four bytes on their own. -/
theorem readU32_putU32 (value : UInt32) : readU32 (putU32 value) 0 = value :=
  @readU32_append_putU32 [] 0 value rfl

end Field

/-! ## Headers -/

namespace FrameHeader

/-- The 36 bytes the checksum of a header covers. -/
def covered (header : FrameHeader) : Bytes :=
  putU32 kFrameMagic ++ putU16 header.version ++ putU16 header.type.value ++ putU32 header.flags ++
    putU64 header.session ++ putU64 header.sequence ++ putU32 header.payloadLength ++
    putU32 header.payloadCrc32c

/-- A header as it stands on the wire. -/
def wire (header : FrameHeader) : Bytes := header.covered ++ putU32 (crc32c header.covered)

@[simp] theorem length_covered (header : FrameHeader) : header.covered.length = 36 := by
  simp [covered]

@[simp] theorem length_wire (header : FrameHeader) : header.wire.length = 40 := by
  simp [wire]

/-- The encoder fills in the length and the checksum of the payload. -/
def derived (header : FrameHeader) (payload : Bytes) : FrameHeader :=
  { header with payloadLength := UInt32.ofNat payload.length, payloadCrc32c := crc32c payload }

/-- The conditions of a header, apart from its bytes. -/
structure Valid (header : FrameHeader) (limits : Limits) : Prop where
  version : header.version = kProtocolVersion
  flags : header.flags &&& kFlagReservedMask = 0
  bounded : header.payloadLength.toUInt64 ≤ limits.maxFramePayloadBytes
  sequence : header.sequence ≠ 0

/-- The fields of a header on the wire. -/
theorem readFields_wire (header : FrameHeader) :
    readU32 header.wire 0 = kFrameMagic ∧ readU16 header.wire 4 = header.version ∧
      readU16 header.wire 6 = header.type.value ∧ readU32 header.wire 8 = header.flags ∧
      readU64 header.wire 12 = header.session ∧ readU64 header.wire 20 = header.sequence ∧
      readU32 header.wire 28 = header.payloadLength ∧
      readU32 header.wire 32 = header.payloadCrc32c := by
  simp (disch := simp) only [wire, covered, readU16_append_left, readU32_append_left,
    readU64_append_left, readU16_append_putU16, readU32_append_putU32, readU64_append_putU64,
    readU32_putU32, and_self]

end FrameHeader

/-- The fields of 36 bytes, written again. -/
theorem covered_of_readFields {bytes : Bytes} (h : bytes.length = 40) (header : FrameHeader)
    (hmagic : readU32 bytes 0 = kFrameMagic) (hversion : header.version = readU16 bytes 4)
    (htype : header.type.value = readU16 bytes 6) (hflags : header.flags = readU32 bytes 8)
    (hsession : header.session = readU64 bytes 12) (hsequence : header.sequence = readU64 bytes 20)
    (hpayload : header.payloadLength = readU32 bytes 28)
    (hcrc : header.payloadCrc32c = readU32 bytes 32) : header.covered = bytes.take 36 := by
  rw [FrameHeader.covered, ← hmagic, hversion, htype, hflags, hsession, hsequence, hpayload, hcrc,
    putU32_readU32 (by omega), putU16_readU16 (by omega), putU16_readU16 (by omega),
    putU32_readU32 (by omega), putU64_readU64 (by omega), putU64_readU64 (by omega),
    putU32_readU32 (by omega), putU32_readU32 (by omega)]
  -- the slices lie one behind the other
  rw [show slice bytes 0 4 = bytes.take 4 from rfl, take_append_slice, take_append_slice,
    take_append_slice, take_append_slice, take_append_slice, take_append_slice, take_append_slice]

/-- A header is decoded exactly from its own bytes. -/
theorem decodeHeader_eq_ok {bytes : Bytes} {limits : Limits} {header : FrameHeader} :
    decodeHeader bytes limits = .ok header ↔ bytes = header.wire ∧ header.Valid limits := by
  constructor
  · intro h
    unfold decodeHeader at h
    simp only [bind_eq_ok, refuseIf_eq_ok, kFrameHeaderCrcOffset] at h
    obtain ⟨_, hshort, _, hlong, _, hmagic, _, hversion, _, hcrc, _, hflags, h⟩ := h
    have hlength : bytes.length = 40 := by
      have hbytes : kFrameHeaderBytes.toNat = 40 := rfl
      omega
    cases htype : MessageType.ofValue (readU16 bytes 6) with
    | none => simp [htype, makeFailure] at h
    | some type =>
        rw [htype] at h
        simp only [bind_eq_ok, refuseIf_eq_ok, pure_eq_ok] at h
        obtain ⟨_, hbounded, _, hsequence, rfl⟩ := h
        have hcovered := covered_of_readFields hlength
          ⟨readU16 bytes 4, type, readU32 bytes 8, readU64 bytes 12, readU64 bytes 20,
            readU32 bytes 28, readU32 bytes 32⟩ (not_not.mp hmagic) rfl
          (MessageType.ofValue_eq_some.mp htype) rfl rfl rfl rfl rfl
        refine ⟨?_, not_not.mp hversion, not_not.mp hflags, not_lt.mp hbounded, hsequence⟩
        rw [FrameHeader.wire, hcovered, ← not_not.mp (refuseIf_eq_ok.mp hcrc),
          putU32_readU32 (by omega), take_append_slice]
        exact (List.take_of_length_le (by omega)).symm
  · rintro ⟨rfl, hvalid⟩
    have hcrc : readU32 header.wire kFrameHeaderCrcOffset =
        crc32c (header.wire.take kFrameHeaderCrcOffset) := by
      rw [FrameHeader.wire, readU32_append_putU32 _ (by rw [FrameHeader.length_covered]; rfl),
        List.take_left' (by rw [FrameHeader.length_covered]; rfl)]
    have hread := header.readFields_wire
    have htype := MessageType.ofValue_eq_some.mpr hread.2.2.1.symm
    obtain ⟨hmagic, hversion, -, hflags, hsession, hsequence, hpayload, hpayloadCrc⟩ := hread
    rw [decodeHeader, bind_refuseIf_of_not _ (by rw [FrameHeader.length_wire]; decide),
      bind_refuseIf_of_not _ (by rw [FrameHeader.length_wire]; decide),
      bind_refuseIf_of_not _ (not_not.mpr hmagic), hversion,
      bind_refuseIf_of_not _ (not_not.mpr hvalid.version),
      bind_refuseIf_of_not _ (not_not.mpr hcrc),
      hflags, bind_refuseIf_of_not _ (not_not.mpr hvalid.flags), htype]
    simp only [hsession, hsequence, hpayload, hpayloadCrc]
    rw [bind_refuseIf_of_not _ (not_lt.mpr hvalid.bounded), bind_refuseIf_of_not _ hvalid.sequence]
    rfl

/-! ## Frames -/

namespace DecodedFrame

/-- A frame as it stands on the wire. -/
def wire (frame : DecodedFrame) : Bytes := frame.header.wire ++ frame.payload

/-- The header of a frame describes its payload. -/
structure Valid (frame : DecodedFrame) (limits : Limits) : Prop where
  header : frame.header.Valid limits
  length : frame.header.payloadLength.toNat = frame.payload.length
  crc : frame.header.payloadCrc32c = crc32c frame.payload
  consumed : frame.consumed = 40 + frame.payload.length

theorem length_wire (frame : DecodedFrame) : frame.wire.length = 40 + frame.payload.length := by
  rw [wire, List.length_append, FrameHeader.length_wire]

end DecodedFrame

/-- The length of a frame does not wrap: it is the header and the payload. -/
theorem checkedAdd_headerBytes {payloadLength : UInt32} {total : UInt64} :
    checkedAdd kFrameHeaderBytes payloadLength.toUInt64 = .ok total ↔
      total.toNat = 40 + payloadLength.toNat := by
  rw [checkedAdd_eq_ok, UInt32.toNat_toUInt64]
  rfl

/-- A frame is decoded exactly from the front of a buffer that starts with it. -/
theorem decodeFramePrefix_eq_ok {bytes : Bytes} {limits : Limits} {frame : DecodedFrame} :
    decodeFramePrefix bytes limits = .ok frame ↔ frame.Valid limits ∧ frame.wire <+: bytes := by
  have hforty : kFrameHeaderBytes.toNat = 40 := rfl
  unfold decodeFramePrefix
  simp only [bind_eq_ok, refuseIf_eq_ok, pure_eq_ok, decodeHeader_eq_ok, checkedAdd_headerBytes,
    hforty]
  constructor
  · rintro ⟨_, hlength, header, ⟨hbytes, hvalid⟩, total, htotal, _, htruncated, _, hcrc, rfl⟩
    have hpayload : (slice bytes 40 header.payloadLength.toNat).length =
        header.payloadLength.toNat := length_slice (by omega)
    refine ⟨⟨hvalid, hpayload.symm, (not_not.mp hcrc).symm, ?_⟩, ?_⟩
    · rw [htotal, hpayload]
    · rw [DecodedFrame.wire, ← hbytes, take_append_slice]
      exact List.take_prefix _ _
  · rintro ⟨hvalid, rest, rfl⟩
    obtain ⟨header, payload, consumed⟩ := frame
    obtain rfl : consumed = 40 + payload.length := hvalid.consumed
    have hlength : header.payloadLength.toNat = payload.length := hvalid.length
    have hcrc : header.payloadCrc32c = crc32c payload := hvalid.crc
    have hbuffer : (DecodedFrame.wire ⟨header, payload, 40 + payload.length⟩ ++ rest).length =
        40 + payload.length + rest.length := by
      rw [List.length_append, DecodedFrame.length_wire]
    have hpayload : slice (DecodedFrame.wire ⟨header, payload, 40 + payload.length⟩ ++ rest) 40
        header.payloadLength.toNat = payload := by
      have hle : 40 + header.payloadLength.toNat ≤
          (DecodedFrame.wire ⟨header, payload, 40 + payload.length⟩).length := by
        rw [DecodedFrame.length_wire]
        exact Nat.add_le_add_left hlength.le 40
      rw [slice_append_left hle, DecodedFrame.wire]
      exact slice_append_right (by simp) hlength
    have hfront : (DecodedFrame.wire ⟨header, payload, 40 + payload.length⟩ ++ rest).take 40 =
        header.wire := by
      rw [DecodedFrame.wire, List.append_assoc, List.take_left' (by simp)]
    have htotal : (UInt64.ofNat (40 + payload.length)).toNat = 40 + payload.length := by
      have hbound := header.payloadLength.toNat_lt
      rw [UInt64.toNat_ofNat', Nat.mod_eq_of_lt (by omega)]
    refine ⟨(), ?_, header, ⟨hfront, hvalid.header⟩, UInt64.ofNat (40 + payload.length), ?_, (), ?_,
      (), ?_, ?_⟩
    · rw [hbuffer]
      omega
    · rw [htotal, hlength]
    · rw [htotal, hbuffer]
      omega
    · rw [hpayload, hcrc]
      exact not_not.mpr rfl
    · rw [hpayload, htotal]

theorem decodeFrame_eq_ok {bytes : Bytes} {limits : Limits} {frame : DecodedFrame} :
    decodeFrame bytes limits = .ok frame ↔ frame.Valid limits ∧ bytes = frame.wire := by
  unfold decodeFrame
  simp only [bind_eq_ok, refuseIf_eq_ok, pure_eq_ok, decodeFramePrefix_eq_ok]
  constructor
  · rintro ⟨frame, ⟨hvalid, hfront⟩, _, hconsumed, rfl⟩
    refine ⟨hvalid, (hfront.eq_of_length ?_).symm⟩
    rw [frame.length_wire, ← hvalid.consumed, not_not.mp hconsumed]
  · rintro ⟨hvalid, rfl⟩
    refine ⟨frame, ⟨hvalid, List.prefix_rfl⟩, (), ?_, rfl⟩
    rw [frame.length_wire, hvalid.consumed]
    exact not_not.mpr rfl

/-! ## The encoder -/

/-- What the encoder checks. -/
structure Encodable (header : FrameHeader) (payload : Bytes) (limits : Limits) : Prop where
  version : header.version = kProtocolVersion
  flags : header.flags &&& kFlagReservedMask = 0
  sequence : header.sequence ≠ 0
  bounded : payload.length ≤ limits.maxFramePayloadBytes.toNat
  length : payload.length < 2 ^ 32
  declaredLength : header.payloadLength = 0 ∨ header.payloadLength.toNat = payload.length
  declaredCrc : header.payloadCrc32c = 0 ∨ header.payloadCrc32c = crc32c payload
  allocation : 40 + payload.length ≤ limits.maxAllocationBytes.toNat

/-- The frame of a header and a payload. -/
def DecodedFrame.of (header : FrameHeader) (payload : Bytes) : DecodedFrame :=
  ⟨header.derived payload, payload, 40 + payload.length⟩

theorem checkedAdd_payload {payload : Bytes} (h : payload.length < 2 ^ 32) {total : UInt64} :
    checkedAdd kFrameHeaderBytes (UInt64.ofNat payload.length) = .ok total ↔
      total.toNat = 40 + payload.length := by
  rw [checkedAdd_eq_ok, UInt64.toNat_ofNat', Nat.mod_eq_of_lt (by omega)]
  rfl

theorem encodeFrame_eq_ok {header : FrameHeader} {payload : Bytes} {limits : Limits}
    {bytes : Bytes} :
    encodeFrame header payload limits = .ok bytes ↔
      Encodable header payload limits ∧ bytes = (DecodedFrame.of header payload).wire := by
  unfold encodeFrame
  simp only [bind_eq_ok, refuseIf_eq_ok, pure_eq_ok]
  constructor
  · rintro ⟨_, hversion, _, hflags, _, hsequence, _, hbounded, _, hlength, _, hdeclared, _, hcrc,
      total, htotal, _, hallocation, rfl⟩
    have hlength : payload.length < 2 ^ 32 := by omega
    rw [checkedAdd_payload hlength] at htotal
    refine ⟨⟨not_not.mp hversion, not_not.mp hflags, hsequence, not_lt.mp hbounded, hlength, ?_, ?_,
      ?_⟩, rfl⟩
    · exact or_iff_not_imp_left.mpr fun hzero => not_not.mp fun hne => hdeclared ⟨hzero, hne⟩
    · exact or_iff_not_imp_left.mpr fun hzero => not_not.mp fun hne => hcrc ⟨hzero, hne⟩
    · rw [← htotal]
      exact UInt64.le_iff_toNat_le.mp (not_lt.mp hallocation)
  · rintro ⟨h, rfl⟩
    have htotal : (UInt64.ofNat (40 + payload.length)).toNat = 40 + payload.length := by
      have hlength := h.length
      rw [UInt64.toNat_ofNat', Nat.mod_eq_of_lt (by omega)]
    refine ⟨(), not_not.mpr h.version, (), not_not.mpr h.flags, (), h.sequence, (),
      not_lt.mpr h.bounded, (), ?_, (), ?_, (), ?_, UInt64.ofNat (40 + payload.length),
      (checkedAdd_payload h.length).mpr htotal, (), ?_, rfl⟩
    · have hlength := h.length
      omega
    · rintro ⟨hzero, hne⟩
      exact h.declaredLength.elim hzero hne
    · rintro ⟨hzero, hne⟩
      exact h.declaredCrc.elim hzero hne
    · rw [gt_iff_lt, UInt64.lt_iff_toNat_lt, htotal]
      exact not_lt.mpr h.allocation

/-- An encoding is a frame the decoder accepts. -/
theorem Encodable.valid {header : FrameHeader} {payload : Bytes} {limits : Limits}
    (h : Encodable header payload limits) : (DecodedFrame.of header payload).Valid limits where
  header :=
    { version := h.version
      flags := h.flags
      bounded := by
        rw [UInt64.le_iff_toNat_le, UInt32.toNat_toUInt64]
        exact (toNat_ofNat_of_lt h.length).trans_le h.bounded
      sequence := h.sequence }
  length := toNat_ofNat_of_lt h.length
  crc := rfl
  consumed := rfl

/-- A frame the decoder accepted was made from its header and payload. -/
theorem DecodedFrame.Valid.eq_of {frame : DecodedFrame} {limits : Limits} (h : frame.Valid limits) :
    DecodedFrame.of frame.header frame.payload = frame := by
  obtain ⟨⟨version, type, flags, session, sequence, payloadLength, payloadCrc32c⟩, payload,
    consumed⟩ := frame
  have hlength : payloadLength.toNat = payload.length := h.length
  have hpayload : UInt32.ofNat payload.length = payloadLength := by
    rw [← hlength, UInt32.ofNat_toNat]
  rw [DecodedFrame.of, FrameHeader.derived]
  simp only [hpayload, DecodedFrame.mk.injEq, FrameHeader.mk.injEq, true_and]
  exact ⟨h.crc.symm, h.consumed.symm⟩

theorem DecodedFrame.Valid.encodable {frame : DecodedFrame} {limits : Limits}
    (h : frame.Valid limits)
    (hallocation : 40 + frame.payload.length ≤ limits.maxAllocationBytes.toNat) :
    Encodable frame.header frame.payload limits where
  version := h.header.version
  flags := h.header.flags
  sequence := h.header.sequence
  bounded := by
    rw [← h.length, ← UInt32.toNat_toUInt64]
    exact UInt64.le_iff_toNat_le.mp h.header.bounded
  length := h.length ▸ frame.header.payloadLength.toNat_lt
  declaredLength := .inr h.length
  declaredCrc := .inr h.crc
  allocation := hallocation

/-- The decoder returns what was encoded, with the length and the checksum filled in, and
consumes it all; and what it accepts is what the encoder writes for the frame it returned. -/
theorem decodeFrame_encodeFrame (limits : Limits) :
    (∀ (header : FrameHeader) (payload bytes : Bytes),
      encodeFrame header payload limits = .ok bytes →
      decodeFrame bytes limits =
        .ok { header :=
                { header with
                  payloadLength := UInt32.ofNat payload.length
                  payloadCrc32c := crc32c payload }
              payload
              consumed := bytes.length }) ∧
    (∀ (bytes : Bytes) (frame : DecodedFrame), decodeFrame bytes limits = .ok frame →
      bytes.length ≤ limits.maxAllocationBytes.toNat →
      encodeFrame frame.header frame.payload limits = .ok bytes) := by
  constructor
  · intro header payload bytes h
    obtain ⟨hencodable, rfl⟩ := encodeFrame_eq_ok.mp h
    rw [DecodedFrame.length_wire]
    exact decodeFrame_eq_ok.mpr ⟨hencodable.valid, rfl⟩
  · intro bytes frame h hlength
    obtain ⟨hvalid, rfl⟩ := decodeFrame_eq_ok.mp h
    rw [DecodedFrame.length_wire] at hlength
    exact encodeFrame_eq_ok.mpr ⟨hvalid.encodable hlength, by rw [hvalid.eq_of]⟩

/-- The header of a request on session 3. -/
def smallHeader : FrameHeader := { type := .commitTransferRequest, session := 3, sequence := 5 }

/-- The two directions at a frame with three bytes of payload. -/
theorem decodeFrame_encodeFrame_small :
    ∃ bytes frame, encodeFrame smallHeader [1, 2, 3] {} = .ok bytes ∧
      decodeFrame bytes {} = .ok frame ∧ frame.payload = [1, 2, 3] ∧ frame.consumed = 43 ∧
      encodeFrame frame.header frame.payload {} = .ok bytes := by
  have hencode : encodeFrame smallHeader [1, 2, 3] {} =
      .ok (DecodedFrame.of smallHeader [1, 2, 3]).wire := by
    decide +kernel
  have hlength : (DecodedFrame.of smallHeader [1, 2, 3]).wire.length = 43 := by
    rw [DecodedFrame.length_wire]
    rfl
  have hdecode := (decodeFrame_encodeFrame {}).1 _ _ _ hencode
  refine ⟨_, _, hencode, hdecode, rfl, hlength, (decodeFrame_encodeFrame {}).2 _ _ hdecode ?_⟩
  rw [hlength]
  decide

/-! ## Damage -/

/-- A frame with one byte changed is none: its checksums cover the header and the payload,
and the changed byte may be in one of them. -/
theorem DecodedFrame.Valid.set_ne_wire {frame frame' : DecodedFrame} {limits limits' : Limits}
    (h : frame.Valid limits) (h' : frame'.Valid limits') {i : Nat} (hi : i < frame.wire.length)
    {byte : UInt8} (hne : byte ≠ frame.wire[i]) : frame.wire.set i byte ≠ frame'.wire := by
  intro heq
  by_cases hheader : i < 40
  · have hwire : frame.header.wire.set i byte = frame'.header.wire := by
      rw [wire, List.set_append, if_pos (by simpa using hheader)] at heq
      exact (List.append_inj heq (by simp)).1
    have hinside : i < frame.header.wire.length := by simpa using hheader
    have hbyte : byte ≠ frame.header.wire[i] := by
      simpa [wire, List.getElem_append, hheader] using hne
    by_cases hcovered : i < 36
    · rw [FrameHeader.wire, List.set_append, if_pos (by simpa using hcovered)] at hwire
      obtain ⟨hset, hcrc⟩ := List.append_inj hwire (by simp)
      have hcrc := congrArg u32Of hcrc
      rw [u32Of_putU32, u32Of_putU32, ← hset] at hcrc
      refine crc32c_set_ne (by simpa using hcovered) ?_ hcrc.symm
      simpa [FrameHeader.wire, List.getElem_append, hcovered] using hbyte
    · rw [FrameHeader.wire, List.set_append, if_neg (by simpa using hcovered)] at hwire
      obtain ⟨hsame, hcrc⟩ := List.append_inj hwire (by simp)
      rw [← hsame] at hcrc
      refine set_ne_self ?_ ?_ hcrc
      · simp
        omega
      · simpa [FrameHeader.wire, List.getElem_append, hcovered] using hbyte
  · rw [wire, List.set_append, if_neg (by simpa using hheader)] at heq
    obtain ⟨hwire, hpayload⟩ := List.append_inj heq (by simp)
    have hcrc : frame.header.payloadCrc32c = frame'.header.payloadCrc32c := by
      rw [← frame.header.readFields_wire.2.2.2.2.2.2.2, hwire,
        frame'.header.readFields_wire.2.2.2.2.2.2.2]
    rw [h.crc, h'.crc, ← hpayload] at hcrc
    refine crc32c_set_ne ?_ ?_ hcrc.symm
    · rw [length_wire] at hi
      simp
      omega
    · simpa [wire, List.getElem_append, hheader] using hne

/-- A frame with one byte changed is refused, whatever the bounds of the decoder. -/
theorem damaged_frame_refused {header : FrameHeader} {payload bytes : Bytes} {limits : Limits}
    (h : encodeFrame header payload limits = .ok bytes) {i : Nat} (hi : i < bytes.length)
    {byte : UInt8} (hne : byte ≠ bytes[i]) (bounds : Limits) :
    ∃ e, decodeFrame (bytes.set i byte) bounds = .error e := by
  obtain ⟨hencodable, rfl⟩ := encodeFrame_eq_ok.mp h
  cases hdecode : decodeFrame ((DecodedFrame.of header payload).wire.set i byte) bounds with
  | error e => exact ⟨e, rfl⟩
  | ok frame =>
      obtain ⟨hvalid, hset⟩ := decodeFrame_eq_ok.mp hdecode
      exact absurd hset (hencodable.valid.set_ne_wire hvalid hi hne)

/-- A frame without a payload whose last byte, the last of its own checksum, is changed. -/
theorem damaged_frame_refused_crc :
    ∃ bytes, encodeFrame { type := .progressRequest, sequence := 1 } [] {} = .ok bytes ∧
      ∃ e, decodeFrame (bytes.set 39 0) {} = .error e := by
  have hencode : encodeFrame { type := .progressRequest, sequence := 1 } [] {} =
      .ok (DecodedFrame.of { type := .progressRequest, sequence := 1 } []).wire := by decide +kernel
  exact ⟨_, hencode,
    damaged_frame_refused hencode (i := 39) (by decide +kernel) (by decide +kernel) {}⟩

end ShuffleFabric
