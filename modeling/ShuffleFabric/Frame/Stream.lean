import ShuffleFabric.Frame.Sound
import ShuffleFabric.Lib.Prefix

/-!
# ShuffleFabric.Frame.Stream

The incremental reader of a byte stream (`FrameStream` of `frame.hpp`, `frame.cpp`).

Its buffer keeps a consumed front until compacting is worth it, and it looks at the magic
before the header is complete.  None of that can be told from outside: it reads its queue as
`decodeFramePrefix` would, and a frame does not depend on what follows it.
-/

namespace ShuffleFabric

open Lib

def ErrorCode.resourceExhausted : ErrorCode := ⟨800⟩

/-- `kMagicBytes`: SFB1. -/
def kMagicBytes : Bytes := [0x53, 0x46, 0x42, 0x31]

/-- The magic is carried little-endian. -/
theorem putU32_kFrameMagic : putU32 kFrameMagic = kMagicBytes := by decide +kernel

/-- `kCompactThresholdBytes`. -/
def kCompactThresholdBytes : Nat := 4096

/-- `class FrameStream`. -/
structure FrameStream where
  limits : Limits
  buffer : Bytes := []
  consumed : Nat := 0

namespace FrameStream

/-- `FrameStream::buffered`. -/
def buffered (s : FrameStream) : Nat := s.buffer.length - s.consumed

/-- A sum, or the largest number where there is none. -/
def orMax : Result UInt64 → UInt64
  | .ok total => total
  | .error _ => 0xffffffffffffffff

/-- `FrameStream::capacity`: one maximal frame. -/
def capacity (s : FrameStream) : UInt64 :=
  orMax (checkedAdd kFrameHeaderBytes s.limits.maxFramePayloadBytes)

/-- `FrameStream::compact`. -/
def compact (s : FrameStream) : FrameStream :=
  if s.consumed = 0 then s
  else if s.consumed = s.buffer.length then { s with buffer := [], consumed := 0 }
  else if s.consumed < kCompactThresholdBytes then s
  else { s with buffer := s.buffer.drop s.consumed, consumed := 0 }

/-- `FrameStream::feed`. -/
def feed (s : FrameStream) (bytes : Bytes) : Status × FrameStream :=
  if bytes = [] then (.ok (), s)
  else
    let s := s.compact
    let queued := s.buffered + bytes.length
    if queued ≥ 2 ^ 64 then
      (makeFailure .resourceExhausted "frame stream queue bound overflowed", s)
    else if queued > s.capacity.toNat then
      (makeFailure .resourceExhausted
        "frame stream queue would exceed max_frame_payload_bytes + kFrameHeaderBytes", s)
    else (.ok (), { s with buffer := s.buffer ++ bytes })

/-- The checks `next` makes on the queued bytes. -/
def peek (limits : Limits) (queued : Bytes) : Result DecodedFrame := do
  refuseIf (queued.length = 0) .noWorkAvailable "no bytes are buffered"
  -- a prefix that already contradicts the magic can never become a frame
  refuseIf ((queued.zip kMagicBytes).any fun (byte, magic) => byte ≠ magic) .protocolViolation
    "frame magic does not match 'SFB1'"
  refuseIf (queued.length < kFrameHeaderBytes.toNat) .noWorkAvailable "frame header is not complete"
  let header ← decodeHeader (queued.take kFrameHeaderBytes.toNat) limits
  let frameSize ← checkedAdd kFrameHeaderBytes header.payloadLength.toUInt64
  refuseIf (queued.length < frameSize.toNat) .noWorkAvailable "frame payload is not complete"
  decodeFramePrefix queued limits

/-- `FrameStream::next`. -/
def next (s : FrameStream) : Result DecodedFrame × FrameStream :=
  let s := s.compact
  match peek s.limits (s.buffer.drop s.consumed) with
  | .error e => (.error e, s)
  | .ok frame => (.ok frame, { s with consumed := s.consumed + frame.consumed })

/-! ## The queue -/

/-- The bytes that wait. -/
def queue (s : FrameStream) : Bytes := s.buffer.drop s.consumed

/-- The consumed front is a part of the buffer. -/
def Wf (s : FrameStream) : Prop := s.consumed ≤ s.buffer.length

/-- What is buffered is the length of the queue. -/
theorem buffered_eq (s : FrameStream) : s.buffered = s.queue.length := List.length_drop.symm

@[simp] theorem compact_limits (s : FrameStream) : s.compact.limits = s.limits := by
  unfold compact
  split_ifs <;> rfl

/-- Compacting cannot be told from outside. -/
@[simp] theorem compact_queue (s : FrameStream) : s.compact.queue = s.queue := by
  unfold compact
  split_ifs with hzero hall
  · rfl
  · simp [queue, hall]
  · rfl
  · simp [queue]

/-- Compacting keeps the read position within the buffer. -/
theorem Wf.compact {s : FrameStream} (h : s.Wf) : s.compact.Wf := by
  unfold FrameStream.compact
  split_ifs
  · exact h
  · exact Nat.le_refl _
  · exact h
  · exact Nat.zero_le _

/-- The capacity is one frame of the largest size, where that does not wrap. -/
theorem capacity_eq (s : FrameStream) (h : s.limits.maxFramePayloadBytes.toNat + 40 < 2 ^ 64) :
    s.capacity.toNat = s.limits.maxFramePayloadBytes.toNat + 40 := by
  have hsum : (UInt64.ofNat (s.limits.maxFramePayloadBytes.toNat + 40)).toNat =
      s.limits.maxFramePayloadBytes.toNat + 40 := by
    rw [UInt64.toNat_ofNat', Nat.mod_eq_of_lt h]
  have hok : checkedAdd kFrameHeaderBytes s.limits.maxFramePayloadBytes =
      .ok (UInt64.ofNat (s.limits.maxFramePayloadBytes.toNat + 40)) := by
    rw [checkedAdd_eq_ok, hsum, Nat.add_comm]
    rfl
  rw [capacity, hok, orMax, hsum]

/-- It is never more than that. -/
theorem capacity_le (s : FrameStream) :
    s.capacity.toNat ≤ s.limits.maxFramePayloadBytes.toNat + 40 := by
  by_cases h : s.limits.maxFramePayloadBytes.toNat + 40 < 2 ^ 64
  · exact (s.capacity_eq h).le
  · have hcapacity := s.capacity.toNat_lt
    omega

/-- Compacting does not change the capacity. -/
theorem capacity_compact (s : FrameStream) : s.compact.capacity = s.capacity := by
  rw [capacity, capacity, compact_limits]

/-! ## Feeding -/

/-- The bytes are queued, or nothing is. -/
theorem feed_cases {s : FrameStream} (h : s.Wf) (bytes : Bytes) :
    (s.feed bytes).2.Wf ∧ (s.feed bytes).2.limits = s.limits ∧
      (((s.feed bytes).1 = .ok () ∧ (s.feed bytes).2.queue = s.queue ++ bytes ∧
          (bytes = [] ∨ s.queue.length + bytes.length ≤ s.capacity.toNat)) ∨
        (s.capacity.toNat < s.queue.length + bytes.length ∧
          (∃ e, (s.feed bytes).1 = .error e) ∧ (s.feed bytes).2.queue = s.queue)) := by
  unfold feed
  by_cases hempty : bytes = []
  · simp [hempty, h]
  have hbuffered : s.compact.buffered = s.queue.length := by rw [buffered_eq, compact_queue]
  have hsize : s.capacity.toNat < 2 ^ 64 := s.capacity.toNat_lt
  simp only [hempty, if_false, hbuffered, capacity_compact, false_or, ge_iff_le, gt_iff_lt]
  split_ifs with hoverflow hcapacity
  · refine ⟨h.compact, compact_limits s, .inr ⟨by omega, ⟨_, rfl⟩, compact_queue s⟩⟩
  · refine ⟨h.compact, compact_limits s, .inr ⟨hcapacity, ⟨_, rfl⟩, compact_queue s⟩⟩
  · have hwf : s.compact.consumed ≤ s.compact.buffer.length := h.compact
    refine ⟨?_, compact_limits s, .inl ⟨rfl, ?_, Nat.not_lt.mp hcapacity⟩⟩
    · rw [Wf, List.length_append]
      exact Nat.le_add_right_of_le hwf
    · rw [← compact_queue s]
      exact List.drop_append_of_le_length hwf

/-! ## Taking a frame -/

/-- A frame begins with the magic bytes. -/
theorem kMagicBytes_prefix_wire (frame : DecodedFrame) : kMagicBytes <+: frame.wire := by
  rw [DecodedFrame.wire, FrameHeader.wire, FrameHeader.covered, putU32_kFrameMagic]
  simp only [List.append_assoc]
  exact List.prefix_append _ _

/-- What may still become a frame does not contradict the magic. -/
theorem magic_of_front {queued : Bytes} (more : Bytes) (h : kMagicBytes <+: queued ++ more) :
    ¬((queued.zip kMagicBytes).any fun (byte, magic) => byte ≠ magic) = true := by
  simp only [List.any_eq_true, not_exists, not_and, decide_eq_true_eq, not_not]
  rintro ⟨byte, magic⟩ hmem
  obtain ⟨i, hi, hpair⟩ := List.getElem_of_mem hmem
  rw [List.length_zip, Nat.lt_min] at hi
  rw [List.getElem_zip, Prod.mk.injEq] at hpair
  obtain ⟨rfl, rfl⟩ := hpair
  rw [h.getElem hi.2, List.getElem_append_left hi.1]

/-- `peek` decodes exactly what `decodeFramePrefix` decodes. -/
theorem peek_eq_ok {limits : Limits} {queued : Bytes} {frame : DecodedFrame} :
    peek limits queued = .ok frame ↔ decodeFramePrefix queued limits = .ok frame := by
  unfold peek
  simp only [bind_eq_ok]
  constructor
  · rintro ⟨-, -, -, -, -, -, -, -, -, -, -, -, h⟩
    exact h
  · intro h
    obtain ⟨hvalid, hfront⟩ := decodeFramePrefix_eq_ok.mp h
    have hlength : 40 + frame.payload.length ≤ queued.length := by
      rw [← frame.length_wire]
      exact hfront.length_le
    have hmagic := magic_of_front []
      (by simpa using (kMagicBytes_prefix_wire frame).trans hfront)
    have hforty : kFrameHeaderBytes.toNat = 40 := rfl
    have h' := h
    unfold decodeFramePrefix at h'
    simp only [bind_eq_ok] at h'
    obtain ⟨_, _, header, hheader, total, htotal, _, htruncated, _⟩ := h'
    exact ⟨(), refuseIf_eq_ok.mpr (by omega), (), refuseIf_eq_ok.mpr hmagic, (),
      refuseIf_eq_ok.mpr (by omega), header, hheader, total, htotal, (),
      refuseIf_eq_ok.mpr (refuseIf_eq_ok.mp htruncated), h⟩

/-- The front of a frame is never refused: it is incomplete. -/
theorem peek_incomplete {limits : Limits} {queued more : Bytes} {frame : DecodedFrame}
    (hvalid : frame.Valid limits) (hfront : frame.wire <+: queued ++ more) {e : Error}
    (h : peek limits queued = .error e) : e.code = .noWorkAvailable := by
  have hless : queued.length < frame.wire.length := by
    by_contra hle
    have hwhole := List.prefix_of_prefix_length_le hfront (List.prefix_append queued more)
      (Nat.not_lt.mp hle)
    rw [peek_eq_ok.mpr (decodeFramePrefix_eq_ok.mpr ⟨hvalid, hwhole⟩)] at h
    cases h
  rw [peek] at h
  by_cases hempty : queued.length = 0
  · rw [bind_refuseIf_of _ hempty] at h
    cases h
    rfl
  rw [bind_refuseIf_of_not _ hempty,
    bind_refuseIf_of_not _ (magic_of_front _ ((kMagicBytes_prefix_wire frame).trans hfront))] at h
  by_cases hshort : queued.length < kFrameHeaderBytes.toNat
  · rw [bind_refuseIf_of _ hshort] at h
    cases h
    rfl
  have hheader : queued.take kFrameHeaderBytes.toNat = frame.header.wire := by
    have htake := List.prefix_iff_eq_take.mp ((List.prefix_append _ _).trans hfront)
    rw [FrameHeader.length_wire] at htake
    rw [htake]
    exact (List.take_append_of_le_length (Nat.not_lt.mp hshort)).symm
  have htotal : (UInt64.ofNat frame.wire.length).toNat = frame.wire.length := by
    have hlength := hvalid.length
    have hbound := frame.header.payloadLength.toNat_lt
    rw [UInt64.toNat_ofNat', frame.length_wire, Nat.mod_eq_of_lt (by omega)]
  have hsum : checkedAdd kFrameHeaderBytes frame.header.payloadLength.toUInt64 =
      .ok (UInt64.ofNat frame.wire.length) := by
    rw [checkedAdd_headerBytes, htotal, frame.length_wire, hvalid.length]
  rw [bind_refuseIf_of_not _ hshort, hheader, decodeHeader_eq_ok.mpr ⟨rfl, hvalid.header⟩] at h
  have hbind : ∀ {α β : Type} (a : α) (f : α → Result β), (Except.ok a >>= f) = f a :=
    fun _ _ => rfl
  rw [hbind, hsum, hbind, bind_refuseIf_of _ (by rwa [htotal])] at h
  cases h
  rfl

/-- A frame is taken off the queue, or the queue stays. -/
theorem next_cases {s : FrameStream} (h : s.Wf) :
    s.next.2.Wf ∧ s.next.2.limits = s.limits ∧ s.next.1 = peek s.limits s.queue ∧
      match peek s.limits s.queue with
      | .ok frame => s.next.2.queue = s.queue.drop frame.consumed
      | .error _ => s.next.2.queue = s.queue := by
  have hqueue : s.compact.buffer.drop s.compact.consumed = s.queue := compact_queue s
  unfold next
  simp only [compact_limits, hqueue]
  cases hpeek : peek s.limits s.queue with
  | error e => exact ⟨h.compact, compact_limits s, rfl, compact_queue s⟩
  | ok frame =>
      have hle : frame.consumed ≤ s.queue.length := by
        obtain ⟨hvalid, hfront⟩ := decodeFramePrefix_eq_ok.mp (peek_eq_ok.mp hpeek)
        rw [hvalid.consumed, ← frame.length_wire]
        exact hfront.length_le
      have hwf : s.compact.consumed ≤ s.compact.buffer.length := h.compact
      have hlength : s.queue.length = s.compact.buffer.length - s.compact.consumed := by
        rw [← hqueue, List.length_drop]
      have hwf' : s.compact.consumed + frame.consumed ≤ s.compact.buffer.length := by omega
      have hqueue' : s.compact.buffer.drop (s.compact.consumed + frame.consumed) =
          s.queue.drop frame.consumed := by
        rw [← hqueue, List.drop_drop]
      exact ⟨hwf', rfl, rfl, hqueue'⟩

/-! ## Runs -/

end FrameStream

/-- A call of the reader of a stream. -/
inductive StreamCall where
  | feed (bytes : Bytes)
  | next
  deriving DecidableEq

/-- What a call answered. -/
inductive StreamOutcome where
  | fed (status : Status)
  | next (result : Result DecodedFrame)

namespace StreamOutcome

/-- The frame an answer brings. -/
def frame? : StreamOutcome → Option DecodedFrame
  | .next (.ok frame) => some frame
  | _ => none

/-- Is it a feed that was refused? -/
def refused : StreamOutcome → Bool
  | .fed (.error _) => true
  | _ => false

end StreamOutcome

/-- The bytes of the feeds, one behind the other. -/
def fedBytes (calls : List StreamCall) : Bytes :=
  calls.flatMap fun
    | .feed bytes => bytes
    | .next => []

/-- The frames of the answers, in order. -/
def framesOf (outcomes : List StreamOutcome) : List DecodedFrame :=
  outcomes.filterMap StreamOutcome.frame?

/-- The frames of a run, call by call. -/
theorem framesOf_cons (outcome : StreamOutcome) (outcomes : List StreamOutcome) :
    framesOf (outcome :: outcomes) = outcome.frame?.toList ++ framesOf outcomes := by
  rw [framesOf, List.filterMap_cons]
  cases outcome.frame? <;> rfl

/-- A frame at the front of a buffer, and its size. -/
def parseFrame (limits : Limits) (bytes : Bytes) : Option (DecodedFrame × Nat) :=
  match decodeFramePrefix bytes limits with
  | .ok frame => some (frame, frame.consumed)
  | .error _ => none

/-- A frame is parsed where its bytes are in front. -/
theorem parseFrame_eq_some {limits : Limits} {bytes : Bytes} {frame : DecodedFrame} {n : Nat} :
    parseFrame limits bytes = some (frame, n) ↔
      (frame.Valid limits ∧ frame.wire <+: bytes) ∧ n = frame.wire.length := by
  unfold parseFrame
  rw [← decodeFramePrefix_eq_ok]
  cases hdecode : decodeFramePrefix bytes limits with
  | error e => simp
  | ok found =>
      have hvalid := (decodeFramePrefix_eq_ok.mp hdecode).1
      simp only [Option.some.injEq, Prod.mk.injEq, Except.ok.injEq]
      constructor
      · rintro ⟨rfl, rfl⟩
        exact ⟨rfl, by rw [hvalid.consumed, found.length_wire]⟩
      · rintro ⟨rfl, rfl⟩
        exact ⟨rfl, by rw [hvalid.consumed, found.length_wire]⟩

/-- `decodeFramePrefix`, as a parser of the front of a buffer. -/
def framePrefix (limits : Limits) : PrefixParser UInt8 DecodedFrame where
  parse := parseFrame limits
  pos h := by
    rw [(parseFrame_eq_some.mp h).2, DecodedFrame.length_wire]
    omega
  le h := by
    rw [(parseFrame_eq_some.mp h).2]
    exact (parseFrame_eq_some.mp h).1.2.length_le
  append h more := by
    obtain ⟨⟨hvalid, hfront⟩, hlength⟩ := parseFrame_eq_some.mp h
    exact parseFrame_eq_some.mpr ⟨⟨hvalid, hfront.trans (List.prefix_append _ more)⟩, hlength⟩

/-- `decode_frame_prefix` applied again and again, until it stops decoding or the bytes run
out. -/
def decodeAll (limits : Limits) (bytes : Bytes) : List DecodedFrame :=
  (framePrefix limits).all bytes

namespace FrameStream

/-- One call. -/
def call (s : FrameStream) : StreamCall → StreamOutcome × FrameStream
  | .feed bytes => (.fed (s.feed bytes).1, (s.feed bytes).2)
  | .next => (.next s.next.1, s.next.2)

/-- The calls one after the other. -/
def run (s : FrameStream) : List StreamCall → List StreamOutcome × FrameStream
  | [] => ([], s)
  | call :: calls =>
    ((s.call call).1 :: ((s.call call).2.run calls).1, ((s.call call).2.run calls).2)

/-- A call that feeds bytes. -/
theorem call_feed (s : FrameStream) (bytes : Bytes) :
    s.call (.feed bytes) = (.fed (s.feed bytes).1, (s.feed bytes).2) := rfl

/-- A call that asks for a frame. -/
theorem call_next (s : FrameStream) : s.call .next = (.next s.next.1, s.next.2) := rfl

/-- What `next` finds in front is what the grammar finds there. -/
theorem parse_of_peek {limits : Limits} {queued : Bytes} {frame : DecodedFrame}
    (h : peek limits queued = .ok frame) :
    (framePrefix limits).parse queued = some (frame, frame.consumed) := by
  simp only [framePrefix, parseFrame, peek_eq_ok.mp h]

/-- Where `next` refuses, the grammar finds no frame. -/
theorem parse_of_peek_error {limits : Limits} {queued : Bytes} {e : Error}
    (h : peek limits queued = .error e) : (framePrefix limits).parse queued = none := by
  cases hdecode : decodeFramePrefix queued limits with
  | error e' => simp only [framePrefix, parseFrame, hdecode]
  | ok frame =>
      rw [peek_eq_ok.mpr hdecode] at h
      cases h

/-- What every stream keeps: the queue is what was fed and not yet returned. -/
structure Follows (s : FrameStream) (limits : Limits) (fed : Bytes) (frames : List DecodedFrame) :
    Prop where
  wf : s.Wf
  limits_eq : s.limits = limits
  splits : (framePrefix limits).Splits fed frames s.queue

/-- Bytes that are fed are behind those that were. -/
theorem Follows.feed {s : FrameStream} {limits : Limits} {fed : Bytes} {frames : List DecodedFrame}
    (h : s.Follows limits fed frames) {bytes : Bytes} (hok : (s.feed bytes).1 = .ok ()) :
    (s.feed bytes).2.Follows limits (fed ++ bytes) frames := by
  obtain ⟨hwf, hlimits, ⟨-, hqueue, -⟩ | ⟨-, ⟨e, hrefused⟩, -⟩⟩ := feed_cases h.wf bytes
  · refine ⟨hwf, hlimits.trans h.limits_eq, ?_⟩
    rw [hqueue]
    exact h.splits.feed bytes
  · rw [hok] at hrefused
    cases hrefused

/-- A frame that is taken is the next one of the bytes that were fed. -/
theorem Follows.next {s : FrameStream} {limits : Limits} {fed : Bytes} {frames : List DecodedFrame}
    (h : s.Follows limits fed frames) :
    s.next.2.Follows limits fed (frames ++ (StreamOutcome.next s.next.1).frame?.toList) := by
  obtain ⟨hwf, hlimits, hnext, hqueue⟩ := next_cases h.wf
  refine ⟨hwf, hlimits.trans h.limits_eq, ?_⟩
  rw [h.limits_eq] at hnext hqueue
  cases hpeek : peek limits s.queue with
  | error e =>
      rw [hpeek] at hnext hqueue
      have hqueue : s.next.2.queue = s.queue := hqueue
      simpa [hnext, StreamOutcome.frame?, hqueue] using h.splits
  | ok frame =>
      rw [hpeek] at hnext hqueue
      have hqueue : s.next.2.queue = s.queue.drop frame.consumed := hqueue
      rw [hnext, hqueue]
      exact h.splits.take (parse_of_peek hpeek)

/-- A new stream has seen nothing. -/
theorem follows_new (limits : Limits) : Follows { limits } limits [] [] :=
  ⟨Nat.le_refl _, rfl, (framePrefix limits).splits_nil⟩

/-- A whole run without a refusal, call by call. -/
theorem Follows.run {limits : Limits} (calls : List StreamCall) {s : FrameStream} {fed : Bytes}
    {frames : List DecodedFrame} (h : s.Follows limits fed frames)
    (haccepted : ∀ outcome ∈ (s.run calls).1, outcome.refused = false) :
    (s.run calls).2.Follows limits (fed ++ fedBytes calls)
      (frames ++ framesOf (s.run calls).1) := by
  induction calls generalizing s fed frames with
  | nil => simpa [FrameStream.run, fedBytes, framesOf] using h
  | cons call calls ih =>
      obtain ⟨hfirst, hrest⟩ := List.forall_mem_cons.mp haccepted
      cases call with
      | feed bytes =>
          cases hfeed : (s.feed bytes).1 with
          | error e =>
              rw [call_feed, hfeed] at hfirst
              cases hfirst
          | ok u =>
              have hrun := ih (h.feed hfeed) hrest
              rwa [List.append_assoc] at hrun
      | next =>
          have hrun := ih h.next hrest
          rwa [List.append_assoc, ← framesOf_cons] at hrun

/-- The queue is bounded after any calls. -/
theorem bounded_run {limits : Limits} (calls : List StreamCall) (s : FrameStream) (hwf : s.Wf)
    (hlimits : s.limits = limits) (hbounded : s.queue.length ≤ s.capacity.toNat) :
    (s.run calls).2.Wf ∧ (s.run calls).2.limits = limits ∧
      (s.run calls).2.queue.length ≤ (s.run calls).2.capacity.toNat := by
  induction calls generalizing s with
  | nil => exact ⟨hwf, hlimits, hbounded⟩
  | cons call calls ih =>
      have hcapacity : ∀ s' : FrameStream, s'.limits = s.limits → s'.capacity = s.capacity := by
        intro s' h
        rw [capacity, h, capacity]
      cases call with
      | feed bytes =>
          obtain ⟨hwf', hlimits', hqueue⟩ := feed_cases hwf bytes
          refine ih _ hwf' (hlimits'.trans hlimits) ?_
          rw [call_feed, hcapacity _ hlimits']
          obtain ⟨-, hqueue, rfl | hbound⟩ | ⟨-, -, hqueue⟩ := hqueue
          · rwa [hqueue, List.append_nil]
          · rwa [hqueue, List.length_append]
          · rwa [hqueue]
      | next =>
          obtain ⟨hwf', hlimits', -, hqueue⟩ := next_cases hwf
          refine ih _ hwf' (hlimits'.trans hlimits) ?_
          rw [call_next, hcapacity _ hlimits']
          cases hpeek : peek s.limits s.queue with
          | error e =>
              rw [hpeek] at hqueue
              exact (congrArg List.length hqueue).trans_le hbounded
          | ok frame =>
              rw [hpeek] at hqueue
              refine (congrArg List.length hqueue).trans_le ?_
              rw [List.length_drop]
              exact (Nat.sub_le _ _).trans hbounded

/-- No frame can come of the queue, whatever is fed. -/
def Dead (limits : Limits) (queue : Bytes) : Prop :=
  ∀ (more : Bytes) (frame : DecodedFrame), frame.Valid limits → ¬frame.wire <+: queue ++ more

/-- A refusal other than "not yet" is final. -/
theorem dead_of_peek {limits : Limits} {queue : Bytes} {e : Error}
    (h : peek limits queue = .error e) (hcode : e.code ≠ .noWorkAvailable) : Dead limits queue :=
  fun _ _ hvalid hfront => hcode (peek_incomplete hvalid hfront h)

/-- No bytes that follow revive a dead stream. -/
theorem Dead.append {limits : Limits} {queue : Bytes} (h : Dead limits queue) (bytes : Bytes) :
    Dead limits (queue ++ bytes) := by
  intro more frame hvalid
  rw [List.append_assoc]
  exact h (bytes ++ more) frame hvalid

/-- A dead stream has no frame in front. -/
theorem Dead.peek {limits : Limits} {queue : Bytes} (h : Dead limits queue) :
    ∃ e, peek limits queue = .error e := by
  cases hpeek : FrameStream.peek limits queue with
  | error e => exact ⟨e, rfl⟩
  | ok frame =>
      obtain ⟨hvalid, hfront⟩ := decodeFramePrefix_eq_ok.mp (peek_eq_ok.mp hpeek)
      exact absurd (by simpa using hfront) (h [] frame hvalid)

/-- A dead stream gives no frame any more. -/
theorem Dead.run {limits : Limits} (calls : List StreamCall) {s : FrameStream} (hwf : s.Wf)
    (hlimits : s.limits = limits) (h : Dead limits s.queue) : framesOf (s.run calls).1 = [] := by
  induction calls generalizing s with
  | nil => rfl
  | cons call calls ih =>
      cases call with
      | feed bytes =>
          obtain ⟨hwf', hlimits', hqueue⟩ := feed_cases hwf bytes
          refine ih hwf' (hlimits'.trans hlimits) ?_
          rw [call_feed]
          obtain ⟨-, hqueue, -⟩ | ⟨-, -, hqueue⟩ := hqueue
          · rw [hqueue]
            exact h.append bytes
          · rwa [hqueue]
      | next =>
          obtain ⟨hwf', hlimits', hnext, hqueue⟩ := next_cases hwf
          obtain ⟨e, he⟩ := h.peek
          rw [hlimits, he] at hnext hqueue
          have hrest := ih hwf' (hlimits'.trans hlimits) (hqueue ▸ h)
          simp only [framesOf, FrameStream.run, FrameStream.call, hnext] at hrest ⊢
          exact hrest

/-- The frames a stream returns are those of its bytes, however they arrive and whenever it is
asked; its queue is bounded; and after a refusal other than "not yet" it returns none. -/
theorem run_reassembles (limits : Limits) (calls : List StreamCall) :
    let outcomes := (run { limits } calls).1
    let stream := (run { limits } calls).2
    ((∀ outcome ∈ outcomes, outcome.refused = false) →
      framesOf outcomes <+: decodeAll limits (fedBytes calls) ∧
        ∀ e, stream.next.1 = .error e → framesOf outcomes = decodeAll limits (fedBytes calls)) ∧
      stream.buffered ≤ limits.maxFramePayloadBytes.toNat + 40 ∧
      ∀ e, stream.next.1 = .error e → e.code ≠ .noWorkAvailable →
        ∀ later, framesOf (stream.next.2.run later).1 = [] := by
  obtain ⟨hwf, hlimits, hbounded⟩ := bounded_run calls { limits } (Nat.le_refl _) rfl
    (Nat.zero_le _)
  obtain ⟨hwf', hlimits', hnext, hqueue⟩ := next_cases hwf
  rw [hlimits] at hnext hqueue
  refine ⟨?_, ?_, ?_⟩
  · intro haccepted
    have hfollows := (follows_new limits).run calls haccepted
    rw [List.nil_append, List.nil_append] at hfollows
    have hall := hfollows.splits.all_eq
    refine ⟨⟨_, hall.symm⟩, ?_⟩
    intro e he
    rw [hnext] at he
    rw [decodeAll, hall, (framePrefix limits).all_of_none (parse_of_peek_error he), List.append_nil]
  · rw [buffered_eq]
    refine hbounded.trans ((capacity_le _).trans_eq ?_)
    rw [hlimits]
  · intro e he hcode later
    rw [hnext] at he
    rw [he] at hqueue
    have hqueue : (run { limits } calls).2.next.2.queue = (run { limits } calls).2.queue := hqueue
    refine Dead.run later hwf' (hlimits'.trans hlimits) ?_
    rw [hqueue]
    exact dead_of_peek he hcode

/-- A frame in two pieces, asked for after each. -/
theorem run_reassembles_pieces :
    ∃ bytes, encodeFrame { type := .progressRequest, sequence := 1 } [] {} = .ok bytes ∧
      framesOf
          (run { limits := {} } [.feed (bytes.take 10), .next, .feed (bytes.drop 10), .next]).1 =
        decodeAll {} bytes := by
  have hencode : encodeFrame { type := .progressRequest, sequence := 1 } [] {} =
      .ok (DecodedFrame.of { type := .progressRequest, sequence := 1 } []).wire := by decide +kernel
  have hfed : ∀ bytes : Bytes,
      fedBytes [.feed (bytes.take 10), .next, .feed (bytes.drop 10), .next] = bytes := by
    intro bytes
    simp [fedBytes]
  refine ⟨_, hencode, Eq.trans (((run_reassembles {} _).1 ?_).2
    ⟨.noWorkAvailable, "no bytes are buffered"⟩ ?_) (congrArg _ (hfed _))⟩
  · decide +kernel
  · decide +kernel

end FrameStream

end ShuffleFabric
