import ShuffleFabric.Hash
import ShuffleFabric.Lib.Blocks

/-!
# ShuffleFabric.Hash.Streaming

What the streaming hasher computes.

A hasher knows of the data that went through it only its length, the compression of its whole
blocks, and the rest behind them (`Sha256.after`).  However the data is split, `update` leads from
one such state to another; `finish` appends the padding in the same way.
-/

namespace ShuffleFabric

open Lib

/-! ## The padded message -/

/-- A number in eight bytes, the highest first. -/
def bigEndian64 (value : Nat) : Bytes :=
  [7, 6, 5, 4, 3, 2, 1, 0].map fun index => UInt8.ofNat (value / 256 ^ index)

/-- The message with its padding: one set bit, zeros up to the last eight bytes of a block, and
the length in bits. -/
def sha256Padded (data : Bytes) : Bytes :=
  data ++ 0x80 :: (List.replicate ((119 - data.length % 64) % 64) 0 ++
    bigEndian64 (8 * data.length))

namespace Sha256

/-! ## Updates -/

/-- The hasher that has taken some data. -/
def after (data : Bytes) : Sha256 where
  state := (blocks 64 data).foldl compress sha256InitialState
  bitLength := UInt64.ofNat data.length * 8
  buffer := rest 64 data

theorem length_buffer_after (data : Bytes) : (after data).buffer.length = data.length % 64 :=
  length_rest 64 data

/-- The loop over full blocks. -/
theorem absorbBlocks_eq (state : Sha256Words) (data : Bytes) :
    absorbBlocks state data (data.length / 64) =
      ((blocks 64 data).foldl compress state, rest 64 data) := by
  induction data using blocks_induction (n := 64) (by decide) generalizing state with
  | hshort data hlt => rw [Nat.div_eq_of_lt hlt, blocks_of_short hlt, rest_of_short hlt]; rfl
  | hblock block data h ih =>
      have hcount : (block ++ data).length / 64 = data.length / 64 + 1 := by
        rw [List.length_append, h]
        omega
      have htake : (block ++ data).take 64 = block := by rw [← h, List.take_left]
      have hdrop : (block ++ data).drop 64 = data := by rw [← h, List.drop_left]
      rw [hcount, absorbBlocks, htake, hdrop, ih, blocks_cons (by decide) h,
        rest_cons (by decide) h, List.foldl_cons]

/-- An update treats the buffered bytes and the new ones as one string. -/
theorem update_eq {hasher : Sha256} (hbuffer : hasher.buffer.length < 64) (data : Bytes) :
    hasher.update data =
      ⟨(blocks 64 (hasher.buffer ++ data)).foldl compress hasher.state,
        hasher.bitLength + UInt64.ofNat data.length * 8, rest 64 (hasher.buffer ++ data)⟩ := by
  unfold update fillBuffer
  by_cases hempty : hasher.buffer = []
  · -- nothing is buffered: the loop starts with the data itself
    simp only [hempty, List.length_nil, Nat.lt_irrefl, gt_iff_lt, if_false, absorbBlocks_eq,
      List.nil_append]
  have hpos : hasher.buffer.length > 0 := List.length_pos_iff.mpr hempty
  by_cases hshort : data.length < 64 - hasher.buffer.length
  · -- the data fits into the buffer and leaves room
    have hfits : (hasher.buffer ++ data).length < 64 := by
      rw [List.length_append]
      omega
    have hroom : (hasher.buffer ++ data).length ≠ 64 := Nat.ne_of_lt hfits
    simp only [hpos, hshort, if_true, List.take_length, hroom, if_false, List.drop_length,
      absorbBlocks_eq, blocks_of_short hfits, rest_of_short hfits]
    rw [blocks_of_short (by decide), rest_of_short (by decide), List.append_nil]
  · -- the data completes the buffered block
    have hfull : (hasher.buffer ++ data.take (64 - hasher.buffer.length)).length = 64 := by
      rw [List.length_append, List.length_take]
      omega
    have hsplit : hasher.buffer ++ data = (hasher.buffer ++ data.take (64 - hasher.buffer.length)) ++
        data.drop (64 - hasher.buffer.length) := by
      rw [List.append_assoc, List.take_append_drop]
    rw [hsplit, blocks_cons (by decide) hfull, rest_cons (by decide) hfull]
    simp only [hpos, hshort, if_true, if_false, hfull, absorbBlocks_eq, List.nil_append,
      List.foldl_cons]

/-- An update of a hasher that has taken some data. -/
theorem update_after (data piece : Bytes) : (after data).update piece = after (data ++ piece) := by
  have hbuffer : (after data).buffer.length < 64 := by
    rw [length_buffer_after]
    omega
  rw [update_eq hbuffer]
  unfold after
  rw [blocks_append (by decide) data piece, rest_append (by decide) data piece, List.foldl_append,
    List.length_append, UInt64.ofNat_add, UInt64.add_mul]

/-- However the data is split. -/
theorem foldl_update (pieces : List Bytes) :
    pieces.foldl update init = after pieces.flatten := by
  have hstart : ∀ data, pieces.foldl update (after data) = after (data ++ pieces.flatten) := by
    induction pieces with
    | nil => simp
    | cons piece pieces ih =>
        intro data
        rw [List.foldl_cons, update_after, ih, List.flatten_cons, List.append_assoc]
  exact hstart []

/-! ## The padding loop -/

theorem length_buffer_update {hasher : Sha256} (hbuffer : hasher.buffer.length < 64)
    (data : Bytes) :
    (hasher.update data).buffer.length = (hasher.buffer.length + data.length) % 64 := by
  rw [update_eq hbuffer, length_rest, List.length_append]

/-- The loop appends as many zeros as are missing up to position 56, in this block or the next. -/
theorem padZeros_eq {hasher : Sha256} (hbuffer : hasher.buffer.length < 64) {fuel : Nat}
    (hfuel : (120 - hasher.buffer.length) % 64 ≤ fuel) :
    hasher.padZeros fuel = (·.update [0])^[(120 - hasher.buffer.length) % 64] hasher := by
  induction fuel generalizing hasher with
  | zero =>
      rw [Nat.le_zero.mp hfuel]
      rfl
  | succ fuel ih =>
      unfold padZeros
      split
      · next hstop =>
          rw [hstop]
          rfl
      · next hgo =>
          have hnext := length_buffer_update hbuffer [0]
          rw [List.length_singleton] at hnext
          have hcount : (120 - hasher.buffer.length) % 64 =
              (120 - (hasher.update [0]).buffer.length) % 64 + 1 := by
            omega
          rw [ih (by omega) (by omega), hcount, Function.iterate_succ_apply]

/-- The loop ends in front of the last eight bytes of a block, whatever is buffered. -/
theorem length_buffer_padZeros {hasher : Sha256} (hbuffer : hasher.buffer.length < 64) :
    (hasher.padZeros 64).buffer.length = 56 := by
  have hzeros : ∀ count, ((·.update [0])^[count] hasher).buffer.length =
      (hasher.buffer.length + count) % 64 := by
    intro count
    induction count with
    | zero => exact (Nat.mod_eq_of_lt hbuffer).symm
    | succ count ih =>
        rw [Function.iterate_succ_apply', length_buffer_update (by omega), ih]
        exact Nat.mod_add_mod _ _ _
  rw [padZeros_eq hbuffer (by omega), hzeros]
  omega

theorem padZeros_after (data : Bytes) :
    (after data).padZeros 64 =
      after (data ++ List.replicate ((120 - data.length % 64) % 64) 0) := by
  have hzeros : ∀ count, (·.update [0])^[count] (after data) =
      after (data ++ List.replicate count 0) := by
    intro count
    induction count with
    | zero => simp
    | succ count ih =>
        rw [Function.iterate_succ_apply', ih, update_after, List.append_assoc,
          ← List.replicate_succ']
  have hbuffer : (after data).buffer.length < 64 := by
    rw [length_buffer_after]
    omega
  rw [padZeros_eq hbuffer (by omega), hzeros, length_buffer_after]

/-! ## Digests -/

/-- The length bytes of `finish` spell the length. -/
theorem lengthBytes_eq (bits : UInt64) : lengthBytes bits = bigEndian64 bits.toNat := by
  have hbyte : ∀ index < 8, ((bits >>> (UInt64.ofNat index * 8)) &&& 0xff).toUInt8 =
      UInt8.ofNat (bits.toNat / 256 ^ index) := by
    intro index hindex
    have height : (8 : UInt64).toNat = 8 := rfl
    have hshift : (UInt64.ofNat index * 8).toNat % 64 = 8 * index := by
      rw [UInt64.toNat_mul, UInt64.toNat_ofNat', height]
      omega
    have hlow : ∀ value : UInt64, (value &&& 0xff).toNat = value.toNat % 256 := by
      intro value
      rw [UInt64.toNat_and]
      exact Nat.and_two_pow_sub_one_eq_mod _ 8
    apply UInt8.toNat_inj.mp
    rw [UInt64.toNat_toUInt8, hlow, UInt64.toNat_shiftRight, hshift, Nat.shiftRight_eq_div_pow,
      Nat.pow_mul, UInt8.toNat_ofNat', Nat.mod_mod]
  show ([7, 6, 5, 4, 3, 2, 1, 0] : List Nat).map
    (fun index => ((bits >>> (UInt64.ofNat index * 8)) &&& 0xff).toUInt8) = _
  refine List.map_congr_left fun index hindex => hbyte index ?_
  simp only [List.mem_cons, List.not_mem_nil, or_false] at hindex
  omega

/-- `finish` compresses the blocks of the padded message. -/
theorem finish_after {data : Bytes} (hlength : data.length < 2 ^ 61) :
    (after data).finish =
      digestOfWords ((blocks 64 (sha256Padded data)).foldl compress sha256InitialState) := by
  have hbits : (after data).bitLength.toNat = 8 * data.length := by
    have height : (8 : UInt64).toNat = 8 := rfl
    show (UInt64.ofNat data.length * 8).toNat = _
    rw [UInt64.toNat_mul, UInt64.toNat_ofNat', height]
    omega
  have hzeros : (120 - (data ++ [0x80]).length % 64) % 64 = (119 - data.length % 64) % 64 := by
    rw [List.length_append, List.length_singleton]
    omega
  unfold finish
  simp only [update_after, padZeros_after, lengthBytes_eq, hbits, hzeros]
  simp [after, sha256Padded]

end Sha256

/-- For every way to split a message of fewer than `2 ^ 61` bytes into updates, the digest is that
of one update with the whole message, and the compression of the blocks of the padded message;
and the padding loop ends, whatever is buffered when it starts. -/
theorem sha256_streaming {data : Bytes} {pieces : List Bytes} (hsplit : pieces.flatten = data)
    (hlength : data.length < 2 ^ 61) :
    (pieces.foldl Sha256.update Sha256.init).finish = sha256 data ∧
      sha256 data = Sha256.digestOfWords
        ((blocks 64 (sha256Padded data)).foldl compress sha256InitialState) ∧
      ∀ hasher : Sha256, hasher.buffer.length < 64 →
        (hasher.padZeros 64).buffer.length = 56 := by
  have hwhole : Sha256.init.update data = Sha256.after data := Sha256.update_after [] data
  refine ⟨?_, ?_, fun hasher hbuffer => Sha256.length_buffer_padZeros hbuffer⟩
  · rw [Sha256.foldl_update, hsplit, sha256, hwhole]
  · rw [sha256, hwhole, Sha256.finish_after hlength]

theorem sha256_streaming_small :
    (([[0x61], [], [0x62, 0x63]] : List Bytes).foldl Sha256.update Sha256.init).finish =
      sha256 [0x61, 0x62, 0x63] :=
  (sha256_streaming rfl (by decide)).1

end ShuffleFabric
