import ShuffleFabric.Frame.Stream

/-!
# ShuffleFabric.Frame.Serve

How `serve` works its stream (`service.cpp`): it takes frames while there are any, and feeds
the next read only then.

A read is queued whole or refused, and the queue holds one maximal frame.  So it matters what
is left of an incomplete frame when a read arrives that brings more than its rest.
-/

namespace ShuffleFabric

namespace FrameStream

/-- A frame taken off the queue leaves less of it. -/
theorem buffered_next_lt {s : FrameStream} {frame : DecodedFrame} {s' : FrameStream}
    (h : s.next = (.ok frame, s')) : s'.buffered < s.buffered := by
  have hqueue : s.compact.buffer.drop s.compact.consumed = s.queue := compact_queue s
  unfold next at h
  simp only [compact_limits, hqueue] at h
  cases hpeek : peek s.limits s.queue with
  | error e =>
      rw [hpeek] at h
      cases h
  | ok found =>
      rw [hpeek] at h
      obtain ⟨hvalid, hfront⟩ := decodeFramePrefix_eq_ok.mp (peek_eq_ok.mp hpeek)
      have hle := hfront.length_le
      rw [found.length_wire, ← hqueue, List.length_drop] at hle
      obtain rfl := (Prod.mk.inj h).2.symm
      rw [buffered_eq s, ← hqueue, List.length_drop, buffered, hvalid.consumed]
      simp only
      omega

/-- The loop of `serve`, as far as the stream goes: the frames handed to the handler, and the
refusal that ended the session, if one did.  It waits for ever once there are no more reads. -/
def serveStream (s : FrameStream) (reads : List Bytes) : List DecodedFrame × Option Error :=
  match h : s.next with
  | (.ok frame, s') =>
    have := buffered_next_lt h
    let (frames, ended) := serveStream s' reads
    (frame :: frames, ended)
  | (.error e, s') =>
    if e.code ≠ .noWorkAvailable then ([], some e)
    else
      match reads with
      | [] => ([], none)
      | read :: reads =>
        match s'.feed read with
        | (.error e, _) => ([], some e)
        | (.ok _, s'') => serveStream s'' reads
termination_by (reads.length, s.buffered)

theorem serveStream_of_ok {s : FrameStream} {frame : DecodedFrame} (h : s.next.1 = .ok frame)
    (reads : List Bytes) :
    serveStream s reads =
      (frame :: (serveStream s.next.2 reads).1, (serveStream s.next.2 reads).2) := by
  rw [serveStream]
  split
  · next frame' s' hnext =>
      rw [hnext] at h
      obtain rfl : frame' = frame := Except.ok.inj h
      rw [show s.next.2 = s' from congrArg Prod.snd hnext]
  · next e s' hnext =>
      rw [hnext] at h
      cases h

theorem serveStream_nil {s : FrameStream} {e : Error} (h : s.next.1 = .error e)
    (hcode : e.code = .noWorkAvailable) : serveStream s [] = ([], none) := by
  rw [serveStream]
  split
  · next frame' s' hnext =>
      rw [hnext] at h
      cases h
  · next e' s' hnext =>
      rw [hnext] at h
      obtain rfl : e' = e := Except.error.inj h
      rw [if_neg (not_not.mpr hcode)]

theorem serveStream_cons {s : FrameStream} {e : Error} (h : s.next.1 = .error e)
    (hcode : e.code = .noWorkAvailable) (read : Bytes) (reads : List Bytes) :
    serveStream s (read :: reads) =
      match (s.next.2.feed read).1 with
      | .error e => ([], some e)
      | .ok _ => serveStream (s.next.2.feed read).2 reads := by
  rw [serveStream]
  split
  · next frame' s' hnext =>
      rw [hnext] at h
      cases h
  · next e' s' hnext =>
      rw [hnext] at h
      obtain rfl : e' = e := Except.error.inj h
      rw [if_neg (not_not.mpr hcode), hnext]
      simp only
      cases hfeed : s'.feed read with
      | mk status s'' => cases status <;> rfl

end FrameStream

/-- What is left of a stream of frames of these sizes when the whole frames among the bytes
received are taken off. -/
def pending : List Nat → Nat → Nat
  | [], received => received
  | size :: sizes, received =>
    if size ≤ received then pending sizes (received - size) else received

theorem pending_of_le {size received : Nat} (sizes : List Nat) (h : size ≤ received) :
    pending (size :: sizes) received = pending sizes (received - size) := if_pos h

theorem pending_of_lt {size received : Nat} (sizes : List Nat) (h : received < size) :
    pending (size :: sizes) received = received := if_neg (Nat.not_le.mpr h)

/-- The first read, and each of the others behind it. -/
theorem forall_reads_cons {p : List Bytes → Bytes → Prop} {read : Bytes} {reads : List Bytes} :
    (∀ before next after, read :: reads = before ++ next :: after → p before next) ↔
      p [] read ∧
        ∀ before next after, reads = before ++ next :: after → p (read :: before) next := by
  constructor
  · intro h
    refine ⟨h [] read reads rfl, fun before next after hreads => ?_⟩
    exact h (read :: before) next after (by rw [hreads, List.cons_append])
  · rintro ⟨hfirst, hrest⟩ before next after hreads
    cases before with
    | nil =>
        obtain ⟨rfl, -⟩ := List.cons.inj hreads
        exact hfirst
    | cons first before =>
        obtain ⟨rfl, htail⟩ := List.cons.inj hreads
        exact hrest before next after htail

/-- The frames one behind the other. -/
def wireOf (frames : List DecodedFrame) : Bytes := frames.flatMap DecodedFrame.wire

/-- The sizes of frames. -/
def sizesOf (frames : List DecodedFrame) : List Nat := frames.map (·.wire.length)

namespace FrameStream

section Queue

variable {limits : Limits} {queue rest : Bytes} {frame : DecodedFrame} {frames : List DecodedFrame}

/-- A whole frame at the front of the queue is taken. -/
theorem peek_of_whole (hvalid : frame.Valid limits)
    (hqueue : queue ++ rest = frame.wire ++ wireOf frames)
    (hwhole : frame.wire.length ≤ queue.length) : peek limits queue = .ok frame := by
  have hfront : frame.wire <+: queue ++ rest := hqueue ▸ List.prefix_append _ _
  exact peek_eq_ok.mpr (decodeFramePrefix_eq_ok.mpr
    ⟨hvalid, List.prefix_of_prefix_length_le hfront (List.prefix_append _ _) hwhole⟩)

/-- A part of a frame at the front of the queue waits. -/
theorem peek_of_part (hvalid : frame.Valid limits)
    (hqueue : queue ++ rest = frame.wire ++ wireOf frames)
    (hpart : queue.length < frame.wire.length) :
    ∃ e, peek limits queue = .error e ∧ e.code = .noWorkAvailable := by
  have hfront : frame.wire <+: queue ++ rest := hqueue ▸ List.prefix_append _ _
  cases hpeek : peek limits queue with
  | error e => exact ⟨e, rfl, peek_incomplete hvalid hfront hpeek⟩
  | ok found =>
      -- two frames at the front of one buffer are the same
      have hfound := (framePrefix limits).append (parse_of_peek hpeek) rest
      have hframe : (framePrefix limits).parse (queue ++ rest) = some (frame, frame.wire.length) :=
        parseFrame_eq_some.mpr ⟨⟨hvalid, hfront⟩, rfl⟩
      rw [hframe] at hfound
      have hle := (framePrefix limits).le (parse_of_peek hpeek)
      have hsize := (Prod.mk.inj (Option.some.inj hfound)).2
      omega

theorem peek_nil (limits : Limits) :
    ∃ e, peek limits [] = .error e ∧ e.code = .noWorkAvailable :=
  ⟨_, bind_refuseIf_of _ rfl, rfl⟩

end Queue

/-- Every read fits behind what is left of the incomplete frame when it arrives; `queued` bytes
came before the first. -/
def KeepsUp (limits : Limits) (sizes : List Nat) (queued : Nat) (reads : List Bytes) : Prop :=
  ∀ before read after, reads = before ++ read :: after →
    pending sizes (queued + before.flatten.length) + read.length ≤
      limits.maxFramePayloadBytes.toNat + 40

theorem keepsUp_cons {limits : Limits} {sizes : List Nat} {queued : Nat} {read : Bytes}
    {reads : List Bytes} :
    KeepsUp limits sizes queued (read :: reads) ↔
      pending sizes queued + read.length ≤ limits.maxFramePayloadBytes.toNat + 40 ∧
        KeepsUp limits sizes (queued + read.length) reads := by
  rw [KeepsUp, forall_reads_cons]
  simp only [KeepsUp, List.flatten_cons, List.length_append, List.flatten_nil, List.length_nil,
    Nat.add_zero, Nat.add_assoc]

/-- Taking a whole frame off changes nothing. -/
theorem keepsUp_take {limits : Limits} {size queued : Nat} (sizes : List Nat) (reads : List Bytes)
    (h : size ≤ queued) :
    KeepsUp limits (size :: sizes) queued reads ↔ KeepsUp limits sizes (queued - size) reads := by
  have hpending : ∀ more, pending (size :: sizes) (queued + more) =
      pending sizes (queued - size + more) := by
    intro more
    rw [pending_of_le sizes (by omega), Nat.sub_add_comm h]
  simp only [KeepsUp, hpending]

section Loop

variable {limits : Limits} {s : FrameStream}

/-- The loop takes a whole frame. -/
theorem serveStream_take (hwf : s.Wf) (hlimits : s.limits = limits) {frame : DecodedFrame}
    (hpeek : peek limits s.queue = .ok frame) (reads : List Bytes) (frames : List DecodedFrame) :
    (serveStream s reads = (frame :: frames, none) ↔
        serveStream s.next.2 reads = (frames, none)) ∧
      s.next.2.queue = s.queue.drop frame.consumed := by
  obtain ⟨-, -, hnext, hqueue⟩ := next_cases hwf
  rw [hlimits, hpeek] at hnext hqueue
  refine ⟨?_, hqueue⟩
  rw [serveStream_of_ok hnext, Prod.mk.injEq, List.cons.injEq, Prod.ext_iff]
  simp only [true_and]

/-- The loop waits for a read. -/
theorem serveStream_wait (hwf : s.Wf) (hlimits : s.limits = limits)
    (hcapacity : limits.maxFramePayloadBytes.toNat + 40 < 2 ^ 64) {e : Error}
    (hpeek : peek limits s.queue = .error e) (hcode : e.code = .noWorkAvailable) {read : Bytes}
    (hread : read ≠ []) (reads : List Bytes) (frames : List DecodedFrame) :
    (serveStream s (read :: reads) = (frames, none) ↔
        s.queue.length + read.length ≤ limits.maxFramePayloadBytes.toNat + 40 ∧
          serveStream (s.next.2.feed read).2 reads = (frames, none)) ∧
      (s.queue.length + read.length ≤ limits.maxFramePayloadBytes.toNat + 40 →
        (s.next.2.feed read).2.queue = s.queue ++ read) := by
  obtain ⟨hwf', hlimits', hnext, hqueue⟩ := next_cases hwf
  rw [hlimits, hpeek] at hnext hqueue
  have hqueue : s.next.2.queue = s.queue := hqueue
  have hbound : s.next.2.capacity.toNat = limits.maxFramePayloadBytes.toNat + 40 := by
    rw [capacity_eq _ (by rwa [hlimits', hlimits]), hlimits', hlimits]
  rw [serveStream_cons hnext hcode, ← hbound, ← hqueue]
  obtain ⟨-, -, ⟨hok, hfed, hfits⟩ | ⟨hover, ⟨refusal, hrefused⟩, -⟩⟩ := feed_cases hwf' read
  · rw [hok]
    simp only [hfits.resolve_left hread, true_and, hfed, forall_const, and_true]
  · rw [hrefused]
    simp [Nat.not_le.mpr hover]

/-- The loop of `serve` hands over every frame exactly if the reads keep up. -/
theorem serveStream_eq_iff (hcapacity : limits.maxFramePayloadBytes.toNat + 40 < 2 ^ 64)
    (reads : List Bytes) (hreads : ∀ read ∈ reads, read ≠ []) {frames : List DecodedFrame}
    (hvalid : ∀ frame ∈ frames, frame.Valid limits) (hwf : s.Wf) (hlimits : s.limits = limits)
    (hqueue : s.queue ++ reads.flatten = wireOf frames) :
    serveStream s reads = (frames, none) ↔
      KeepsUp limits (sizesOf frames) s.queue.length reads := by
  -- every turn of the loop takes a frame or a read
  induction hsize : reads.length + frames.length using Nat.strongRecOn
    generalizing s reads frames with
  | _ size ih =>
      cases frames with
      | nil =>
          have hnil := List.append_eq_nil_iff.mp hqueue
          obtain rfl : reads = [] := by
            cases reads with
            | nil => rfl
            | cons read reads =>
                exact absurd (List.append_eq_nil_iff.mp hnil.2).1 (hreads read List.mem_cons_self)
          obtain ⟨e, hpeek, hcode⟩ := peek_nil limits
          have hnext := (next_cases hwf).2.2.1
          rw [hlimits, hnil.1, hpeek] at hnext
          rw [serveStream_nil hnext hcode]
          refine iff_of_true rfl fun before read after hempty => ?_
          simp at hempty
      | cons frame frames =>
          obtain ⟨hframe, hframes⟩ := List.forall_mem_cons.mp hvalid
          obtain ⟨hwf', hlimits', -, -⟩ := next_cases hwf
          by_cases hwhole : frame.wire.length ≤ s.queue.length
          · obtain ⟨hserve, hqueue'⟩ := serveStream_take hwf hlimits
              (peek_of_whole hframe hqueue hwhole) reads frames
            have hlength : s.next.2.queue.length = s.queue.length - frame.wire.length := by
              rw [hqueue', List.length_drop, hframe.consumed, frame.length_wire]
            rw [hserve, sizesOf, List.map_cons, keepsUp_take _ reads hwhole, ← hlength]
            refine ih _ ?_ reads hreads hframes hwf' (hlimits'.trans hlimits) ?_ rfl
            · simp only [List.length_cons] at hsize
              omega
            · rw [hqueue', hframe.consumed, ← frame.length_wire,
                ← List.drop_append_of_le_length hwhole, hqueue]
              exact List.drop_left
          · have hpart := Nat.not_le.mp hwhole
            obtain ⟨e, hpeek, hcode⟩ := peek_of_part hframe hqueue hpart
            cases reads with
            | nil =>
                have hshort := congrArg List.length hqueue
                simp only [wireOf, List.flatten_nil, List.flatMap_cons, List.length_append,
                  List.length_nil] at hshort
                omega
            | cons read reads =>
                obtain ⟨hread, hreads⟩ := List.forall_mem_cons.mp hreads
                obtain ⟨hserve, hfed⟩ :=
                  serveStream_wait hwf hlimits hcapacity hpeek hcode hread reads (frame :: frames)
                obtain ⟨hwf'', hlimits'', -⟩ := feed_cases hwf' read
                rw [hserve, keepsUp_cons, sizesOf, List.map_cons, pending_of_lt _ hpart]
                refine and_congr_right fun hfits => ?_
                have hqueue'' := hfed hfits
                rw [← List.length_append, ← hqueue'']
                refine ih _ ?_ reads hreads hvalid hwf''
                  (hlimits''.trans (hlimits'.trans hlimits)) ?_ rfl
                · simp only [List.length_cons] at hsize ⊢
                  omega
                · rw [hqueue'', List.append_assoc]
                  exact hqueue

end Loop

/-- For frames of the encoder, sent back to back and read in pieces: the loop of `serve` hands
them all over, and refuses no read, exactly if every read fits behind what is left of the
incomplete frame when it arrives. -/
theorem serveStream_iff_fits (limits : Limits)
    (hallocation : limits.maxFramePayloadBytes.toNat + 40 ≤ limits.maxAllocationBytes.toNat)
    (messages : List (FrameHeader × Bytes)) (frames : List Bytes)
    (hframes : List.Forall₂ (fun message frame =>
      encodeFrame message.1 message.2 limits = .ok frame) messages frames)
    (reads : List Bytes) (hreads : ∀ read ∈ reads, 1 ≤ read.length ∧ read.length ≤ 65536)
    (hstream : reads.flatten = frames.flatten) :
    serveStream { limits } reads =
        (messages.map fun message => DecodedFrame.of message.1 message.2, none) ↔
      ∀ before read after, reads = before ++ read :: after →
        pending (frames.map List.length) before.flatten.length + read.length ≤
          limits.maxFramePayloadBytes.toNat + 40 := by
  have hcapacity : limits.maxFramePayloadBytes.toNat + 40 < 2 ^ 64 :=
    hallocation.trans_lt limits.maxAllocationBytes.toNat_lt
  have hmessages : (∀ frame ∈ messages.map fun message => DecodedFrame.of message.1 message.2,
      frame.Valid limits) ∧
      (messages.map fun message => (DecodedFrame.of message.1 message.2).wire) = frames := by
    clear hstream hreads
    induction hframes with
    | nil => simp
    | cons hencode _ ih =>
        obtain ⟨hencodable, rfl⟩ := encodeFrame_eq_ok.mp hencode
        simp only [List.map_cons, List.forall_mem_cons, ih.2, and_true]
        exact ⟨hencodable.valid, ih.1⟩
  obtain ⟨hvalid, hwires⟩ := hmessages
  have hqueue : queue { limits } ++ reads.flatten =
      wireOf (messages.map fun message => DecodedFrame.of message.1 message.2) := by
    rw [wireOf, List.flatMap_def, List.map_map]
    exact hstream.trans (congrArg List.flatten hwires.symm)
  have hsizes : sizesOf (messages.map fun message => DecodedFrame.of message.1 message.2) =
      frames.map List.length := by
    rw [sizesOf, ← hwires, List.map_map, List.map_map]
    rfl
  rw [serveStream_eq_iff hcapacity reads
    (fun read hread => List.ne_nil_of_length_pos (hreads read hread).1) hvalid (Nat.le_refl _) rfl
    hqueue, KeepsUp, hsizes]
  simp only [queue, List.drop_nil, List.length_nil, Nat.zero_add]

/-- The header of a request that does not wait for the answer to the one before. -/
def pipelined (sequence : UInt64) : FrameHeader := { type := .progressRequest, sequence }

/-- Two requests of 43 and 41 bytes. -/
private def twoRequests : List (FrameHeader × Bytes) := [(pipelined 1, [1, 2, 3]), (pipelined 2, [4])]

private def twoWires : List Bytes :=
  twoRequests.map fun message => (DecodedFrame.of message.1 message.2).wire

/-- The two requests in three reads. -/
private def splitReads : List Bytes :=
  [twoWires.flatten.take 30, (twoWires.flatten.drop 30).take 30, twoWires.flatten.drop 60]

/-- Two frames, each of them cut by the end of a read, are handed over. -/
theorem serveStream_iff_fits_split :
    serveStream { limits := {} } splitReads =
      (twoRequests.map fun message => DecodedFrame.of message.1 message.2, none) := by
  have hencode : List.Forall₂ (fun message frame =>
      encodeFrame message.1 message.2 {} = .ok frame) twoRequests twoWires :=
    .cons (by decide +kernel) (.cons (by decide +kernel) .nil)
  refine (serveStream_iff_fits {} (by decide) twoRequests twoWires hencode splitReads
    (by decide +kernel) (by decide +kernel)).mpr ?_
  refine forall_reads_cons.mpr ⟨by decide +kernel, forall_reads_cons.mpr ⟨by decide +kernel,
    forall_reads_cons.mpr ⟨by decide +kernel, fun before read after hempty => ?_⟩⟩⟩
  simp at hempty

/-- Bounds for frames of at most one byte. -/
def oneByteFrames : Limits := { maxFramePayloadBytes := 1 }

/-- Two frames without a payload that arrive in one read end the session: together they are
longer than one maximal frame. -/
theorem serveStream_pipelined :
    ¬∀ limits : Limits, limits.validate = .ok () →
      limits.maxFramePayloadBytes.toNat + 40 ≤ limits.maxAllocationBytes.toNat →
      ∀ (messages : List (FrameHeader × Bytes)) (frames : List Bytes),
        List.Forall₂ (fun message frame =>
          encodeFrame message.1 message.2 limits = .ok frame) messages frames →
        ∀ reads : List Bytes, (∀ read ∈ reads, 1 ≤ read.length ∧ read.length ≤ 65536) →
          reads.flatten = frames.flatten →
          serveStream { limits } reads =
            (messages.map fun message => DecodedFrame.of message.1 message.2, none) := by
  intro h
  have hencode : ∀ sequence : UInt64, sequence = 1 ∨ sequence = 2 →
      encodeFrame (pipelined sequence) [] oneByteFrames =
        .ok (DecodedFrame.of (pipelined sequence) []).wire := by
    rintro sequence (rfl | rfl) <;> decide +kernel
  have hserve := h oneByteFrames (by decide +kernel) (by decide +kernel)
    [(pipelined 1, []), (pipelined 2, [])]
    [(DecodedFrame.of (pipelined 1) []).wire, (DecodedFrame.of (pipelined 2) []).wire]
    (.cons (hencode 1 (.inl rfl)) (.cons (hencode 2 (.inr rfl)) .nil))
    [(DecodedFrame.of (pipelined 1) []).wire ++ (DecodedFrame.of (pipelined 2) []).wire]
    (by decide +kernel) (by simp)
  have hnext : (next { limits := oneByteFrames }).1 =
      .error ⟨.noWorkAvailable, "no bytes are buffered"⟩ := by decide +kernel
  have hfeed : ((next { limits := oneByteFrames }).2.feed
      ((DecodedFrame.of (pipelined 1) []).wire ++ (DecodedFrame.of (pipelined 2) []).wire)).1 =
        .error ⟨.resourceExhausted,
          "frame stream queue would exceed max_frame_payload_bytes + kFrameHeaderBytes"⟩ := by
    decide +kernel
  rw [serveStream_cons hnext rfl, hfeed] at hserve
  cases hserve

end FrameStream

end ShuffleFabric
