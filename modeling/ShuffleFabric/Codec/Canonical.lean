import ShuffleFabric.Codec.Sound

/-!
# ShuffleFabric.Codec.Canonical

What a decoder leaves no choice about: the bytes it accepted are the bytes its encoder writes
for the value it returned.
-/

namespace ShuffleFabric

open Lib Action ByteReader

/-! ## Little-endian integers, read first -/

/-- Two bytes that were read are the ones that would be written. -/
theorem putU16_u16Of {bytes : Bytes} (h : bytes.length = 2) : putU16 (u16Of bytes) = bytes := by
  obtain ⟨b0, b1, rfl⟩ := List.length_eq_two.mp h
  have h0 := b0.toNat_lt
  have h1 := b1.toNat_lt
  have hvalue : (u16Of [b0, b1]).toNat = b0.toNat + b1.toNat * 256 := by
    simp only [u16Of, UInt16.toNat_or, UInt16.toNat_shiftLeft, UInt8.toNat_toUInt16,
      UInt16.toNat_ofNat, Nat.reduceMod, Nat.reducePow]
    rw [Nat.mod_eq_of_lt (a := _ <<< _) (by rw [Nat.shiftLeft_eq]; omega)]
    exact nat_or_shiftLeft _ h0
  simp only [putU16, putU8, List.cons_append, List.nil_append, List.cons.injEq, and_true,
    ← UInt8.toNat_inj, UInt16.toNat_toUInt8, UInt16.toNat_and, UInt16.toNat_shiftRight,
    UInt16.toNat_ofNat, nat_and_ff, Nat.reduceMod, Nat.reducePow, Nat.shiftRight_eq_div_pow, hvalue]
  omega

/-- Four bytes that were read are the ones that would be written. -/
theorem putU32_u32Of {bytes : Bytes} (h : bytes.length = 4) : putU32 (u32Of bytes) = bytes := by
  match bytes, h with
  | [b0, b1, b2, b3], _ =>
    have h0 := b0.toNat_lt
    have h1 := b1.toNat_lt
    have h2 := b2.toNat_lt
    have h3 := b3.toNat_lt
    have hvalue : (u32Of [b0, b1, b2, b3]).toNat =
        b0.toNat + b1.toNat * 256 + b2.toNat * 65536 + b3.toNat * 16777216 := by
      simp only [u32Of, UInt32.toNat_or, UInt32.toNat_shiftLeft, UInt8.toNat_toUInt32,
        UInt32.toNat_ofNat, Nat.reduceMod, Nat.reducePow]
      rw [Nat.mod_eq_of_lt (a := _ <<< 8) (by rw [Nat.shiftLeft_eq]; omega),
        nat_or_shiftLeft _ (by omega)]
      rw [Nat.mod_eq_of_lt (a := _ <<< 16) (by rw [Nat.shiftLeft_eq]; omega),
        nat_or_shiftLeft _ (by omega)]
      rw [Nat.mod_eq_of_lt (a := _ <<< 24) (by rw [Nat.shiftLeft_eq]; omega),
        nat_or_shiftLeft _ (by omega)]
      omega
    simp only [putU32, putU16, putU8, List.cons_append, List.nil_append, List.cons.injEq, and_true,
      ← UInt8.toNat_inj, UInt16.toNat_toUInt8, UInt16.toNat_and, UInt16.toNat_shiftRight,
      UInt16.toNat_ofNat, UInt32.toNat_toUInt16, UInt32.toNat_and, UInt32.toNat_shiftRight,
      UInt32.toNat_ofNat, nat_and_ff, nat_and_ffff, Nat.reduceMod, Nat.reducePow,
      Nat.shiftRight_eq_div_pow, hvalue]
    omega

/-- Eight bytes that were read are the ones that would be written. -/
theorem putU64_u64Of {bytes : Bytes} (h : bytes.length = 8) : putU64 (u64Of bytes) = bytes := by
  match bytes, h with
  | [b0, b1, b2, b3, b4, b5, b6, b7], _ =>
    have h0 := b0.toNat_lt
    have h1 := b1.toNat_lt
    have h2 := b2.toNat_lt
    have h3 := b3.toNat_lt
    have h4 := b4.toNat_lt
    have h5 := b5.toNat_lt
    have h6 := b6.toNat_lt
    have h7 := b7.toNat_lt
    have hvalue : (u64Of [b0, b1, b2, b3, b4, b5, b6, b7]).toNat =
        b0.toNat + b1.toNat * 256 + b2.toNat * 65536 + b3.toNat * 16777216 + b4.toNat * 4294967296 +
          b5.toNat * 1099511627776 + b6.toNat * 281474976710656 + b7.toNat * 72057594037927936 := by
      simp only [u64Of, UInt64.toNat_or, UInt64.toNat_shiftLeft, UInt8.toNat_toUInt64,
        UInt64.toNat_ofNat, Nat.reduceMod, Nat.reducePow]
      rw [Nat.mod_eq_of_lt (a := _ <<< 8) (by rw [Nat.shiftLeft_eq]; omega),
        nat_or_shiftLeft _ (by omega)]
      rw [Nat.mod_eq_of_lt (a := _ <<< 16) (by rw [Nat.shiftLeft_eq]; omega),
        nat_or_shiftLeft _ (by omega)]
      rw [Nat.mod_eq_of_lt (a := _ <<< 24) (by rw [Nat.shiftLeft_eq]; omega),
        nat_or_shiftLeft _ (by omega)]
      rw [Nat.mod_eq_of_lt (a := _ <<< 32) (by rw [Nat.shiftLeft_eq]; omega),
        nat_or_shiftLeft _ (by omega)]
      rw [Nat.mod_eq_of_lt (a := _ <<< 40) (by rw [Nat.shiftLeft_eq]; omega),
        nat_or_shiftLeft _ (by omega)]
      rw [Nat.mod_eq_of_lt (a := _ <<< 48) (by rw [Nat.shiftLeft_eq]; omega),
        nat_or_shiftLeft _ (by omega)]
      rw [Nat.mod_eq_of_lt (a := _ <<< 56) (by rw [Nat.shiftLeft_eq]; omega),
        nat_or_shiftLeft _ (by omega)]
      omega
    simp only [putU64, putU32, putU16, putU8, List.cons_append, List.nil_append, List.cons.injEq,
      and_true, ← UInt8.toNat_inj, UInt16.toNat_toUInt8, UInt16.toNat_and, UInt16.toNat_shiftRight,
      UInt16.toNat_ofNat, UInt32.toNat_toUInt16, UInt32.toNat_and, UInt32.toNat_shiftRight,
      UInt32.toNat_ofNat, UInt64.toNat_toUInt32, UInt64.toNat_and, UInt64.toNat_shiftRight,
      UInt64.toNat_ofNat, nat_and_ff, nat_and_ffff, nat_and_ffffffff, Nat.reduceMod, Nat.reducePow,
      Nat.shiftRight_eq_div_pow, hvalue]
    omega

/-! ## What tells values apart -/

/-- Different numbers are written differently. -/
theorem putU64_inj {a b : UInt64} (h : putU64 a = putU64 b) : a = b := by
  rw [← u64Of_putU64 a, h, u64Of_putU64]

/-- A collection of items of one width is told by its bytes. -/
theorem putMany_inj {α : Type} {put : α → Bytes} {width : Nat} (hpos : 0 < width)
    (hwidth : ∀ x, (put x).length = width) (hput : ∀ x y, put x = put y → x = y) {xs ys : List α}
    (h : putMany put xs = putMany put ys) : xs = ys := by
  have hlength := congrArg List.length h
  rw [length_putMany hwidth, length_putMany hwidth] at hlength
  have hcount : xs.length = ys.length := Nat.eq_of_mul_eq_mul_left hpos hlength
  clear hlength
  induction xs generalizing ys with
  | nil => exact (List.length_eq_zero_iff.mp hcount.symm).symm
  | cons x xs ih =>
      cases ys with
      | nil => cases hcount
      | cons y ys =>
          obtain ⟨hfirst, hrest⟩ := List.append_inj h ((hwidth x).trans (hwidth y).symm)
          rw [hput x y hfirst, ih hrest (Nat.succ.inj hcount)]

/-! ## What a decoder has taken -/

/-- If the decoder ends well, it has taken bytes that stand in `R` to the value it returns. -/
structure Takes {α : Type} (limits : Limits) (m : Read α) (R : α → Bytes → Prop) : Prop where
  taken : ∀ {data : Bytes} {r : ByteReader} {a : α}, m.exec ⟨data, limits, none⟩ = (.ok a, r) →
    r.error = none → ∃ taken, data = taken ++ r.data ∧ r.limits = limits ∧ R a taken

section Takes

variable {α β : Type} {limits : Limits}

/-- A reader may be known to do less than it does. -/
theorem Takes.mono {m : Read α} {R S : α → Bytes → Prop} (h : Takes limits m R)
    (hmono : ∀ a taken, R a taken → S a taken) : Takes limits m S := by
  refine ⟨fun {data r a} hexec herror => ?_⟩
  obtain ⟨taken, hdata, hlimits, hR⟩ := h.taken hexec herror
  exact ⟨taken, hdata, hlimits, hmono a taken hR⟩

/-- A reader that reads nothing takes nothing. -/
theorem Takes.pure {a : α} {R : α → Bytes → Prop} (h : R a []) : Takes limits (pure a) R := by
  refine ⟨fun {data r b} hexec herror => ?_⟩
  cases hexec
  exact ⟨[], rfl, rfl, h⟩

/-- What follows a read takes the bytes behind it. -/
theorem Takes.bind {m : Read α} {f : α → Read β} {P : α → Bytes → Prop} {R : β → Bytes → Prop}
    [∀ a, Sticky (f a)] (hm : Takes limits m P)
    (hf : ∀ a taken, P a taken → Takes limits (f a) fun b rest => R b (taken ++ rest)) :
    Takes limits (m >>= f) R := by
  refine ⟨fun {data r b} hexec herror => ?_⟩
  obtain ⟨a, r₁, hfirst, hsecond⟩ := exec_bind_ok hexec
  have hgood : r₁.error = none := by
    cases hr₁ : r₁.error with
    | none => rfl
    | some e =>
        have hfailed := Sticky.failed (m := f a) r₁ (by rw [hr₁]; rfl)
        rw [hsecond] at hfailed
        rcases hfailed with ⟨e, he⟩ | herror'
        · cases he
        · rw [herror] at herror'
          cases herror'
  obtain ⟨taken, hdata, hlimits, hP⟩ := hm.taken hfirst hgood
  obtain ⟨rest, bounds, error⟩ := r₁
  obtain rfl := hlimits
  obtain rfl := hgood
  obtain ⟨taken', hdata', hlimits', hR⟩ := (hf a taken hP).taken hsecond herror
  exact ⟨taken ++ taken', by rw [hdata, hdata', List.append_assoc], hlimits', hR⟩

/-- `raw` takes the bytes it answers with, and they fit the allocation bound. -/
theorem Takes.raw (count : Nat) :
    Takes limits (raw count) fun bytes taken => taken = bytes ∧ bytes.length = count ∧
      count ≤ limits.maxAllocationBytes.toNat := by
  refine ⟨fun {data r a} hexec herror => ?_⟩
  unfold ByteReader.raw at hexec
  rw [exec_bind_of_ok (exec_get _)] at hexec
  simp only [Option.isSome_none, Bool.false_eq_true, if_false] at hexec
  split at hexec
  · cases hexec
    simp [fail] at herror
  next hshort =>
  split at hexec
  · cases hexec
    simp [fail] at herror
  next hlarge =>
  cases hexec
  refine ⟨data.take count, (List.take_append_drop count data).symm, rfl, rfl, ?_, by omega⟩
  rw [List.length_take]
  omega

/-- A field of fixed width. -/
theorem Takes.fixed {width : Nat} {get : Bytes → α} {put : α → Bytes}
    (hput : ∀ bytes, bytes.length = width → put (get bytes) = bytes) :
    Takes limits (get <$> ByteReader.raw width) fun a taken =>
      taken = put a ∧ width ≤ limits.maxAllocationBytes.toNat :=
  (Takes.raw width).bind (f := fun bytes => Pure.pure (get bytes)) fun bytes taken h =>
    Takes.pure ⟨by rw [List.append_nil, hput bytes h.2.1, h.1], h.2.2⟩

/-- What is made of a value takes the bytes of the value. -/
theorem Takes.map {m : Read α} {R : α → Bytes → Prop} {S : β → Bytes → Prop} (h : Takes limits m R)
    {f : α → β} (hf : ∀ a taken, R a taken → S (f a) taken) : Takes limits (f <$> m) S :=
  h.bind (f := fun a => Pure.pure (f a)) fun a taken hR =>
    Takes.pure (by rw [List.append_nil]; exact hf a taken hR)

/-- The fixed-width readers take the bytes their writers write. -/
theorem Takes.u8 : Takes limits u8 fun a taken =>
    taken = putU8 a ∧ 1 ≤ limits.maxAllocationBytes.toNat :=
  Takes.fixed fun bytes h => by
    obtain ⟨byte, rfl⟩ := List.length_eq_one_iff.mp h
    rfl

/-- Two bytes, little-endian. -/
theorem Takes.u16 : Takes limits u16 fun a taken =>
    taken = putU16 a ∧ 2 ≤ limits.maxAllocationBytes.toNat :=
  Takes.fixed fun _ h => putU16_u16Of h

/-- Four bytes, little-endian. -/
theorem Takes.u32 : Takes limits u32 fun a taken =>
    taken = putU32 a ∧ 4 ≤ limits.maxAllocationBytes.toNat :=
  Takes.fixed fun _ h => putU32_u32Of h

/-- Eight bytes, little-endian. -/
theorem Takes.u64 : Takes limits u64 fun a taken =>
    taken = putU64 a ∧ 8 ≤ limits.maxAllocationBytes.toNat :=
  Takes.fixed fun _ h => putU64_u64Of h

/-- A digest takes its 32 bytes as they stand. -/
theorem Takes.digest : Takes limits digest fun a taken =>
    taken = putDigest a ∧ 32 ≤ limits.maxAllocationBytes.toNat :=
  Takes.fixed fun bytes h => by simp [putDigest, Digest.ofBytes, h]

/-- A look at the error of the reader takes nothing. -/
theorem Takes.checkOk : Takes limits checkOk fun _ taken => taken = [] := by
  refine ⟨fun {data r a} hexec herror => ?_⟩
  cases hexec
  exact ⟨[], rfl, rfl, rfl⟩

/-- A check takes nothing, and behind it the condition is known not to hold. -/
theorem Takes.throwIf {p : Prop} [Decidable p] {e : Error} :
    Takes limits (throwIf p e) fun _ taken => taken = [] ∧ ¬p := by
  refine ⟨fun {data r a} hexec herror => ?_⟩
  rw [exec_throwIf] at hexec
  split at hexec
  · cases hexec
  next hp =>
  cases hexec
  exact ⟨[], rfl, rfl, rfl, hp⟩

/-- A code that must be known takes nothing, and behind it the code is known. -/
theorem Takes.orThrow {value : Option α} {e : Error} :
    Takes limits (orThrow value e) fun a taken => taken = [] ∧ value = some a := by
  refine ⟨fun {data r a} hexec herror => ?_⟩
  cases value with
  | none => cases hexec
  | some b =>
      cases hexec
      exact ⟨[], rfl, rfl, rfl, rfl⟩

/-- A check of another module takes nothing, and behind it the check has passed. -/
theorem Takes.status (result : Status) :
    Takes limits (liftM result) fun _ taken => taken = [] ∧ result = .ok () := by
  refine ⟨fun {data r a} hexec herror => ?_⟩
  rw [exec_liftM] at hexec
  cases result with
  | error e => cases hexec
  | ok u =>
      cases hexec
      exact ⟨[], rfl, rfl, rfl, rfl⟩

/-- A flag is one byte, and only 0 and 1 are read as one. -/
theorem Takes.boolean : Takes limits boolean fun a taken =>
    taken = putBool a ∧ 1 ≤ limits.maxAllocationBytes.toNat := by
  refine Takes.u8.bind fun value taken h => ?_
  refine ⟨fun {data r a} hexec herror => ?_⟩
  rw [exec_bind_of_ok (exec_get _)] at hexec
  simp only [Option.isSome_none, Bool.false_eq_true, if_false] at hexec
  split at hexec
  · cases hexec
    simp [fail] at herror
  next hvalue =>
  cases hexec
  refine ⟨[], rfl, rfl, ?_, h.2⟩
  rw [List.append_nil, h.1, putBool]
  have hle : value.toNat ≤ 1 := UInt8.le_iff_toNat_le.mp (UInt8.not_lt.mp hvalue)
  have hcases : value = 0 ∨ value = 1 := by
    simp only [← UInt8.toNat_inj, UInt8.reduceToNat]
    omega
  rcases hcases with rfl | rfl <;> rfl

/-- What a declared length has in front of it. -/
theorem putByteString_of_declared {declared : UInt32} {data : Bytes}
    (h : data.length = declared.toNat) : putU32 declared ++ data = putByteString data := by
  rw [putByteString, h, UInt32.ofNat_toNat]

/-- A byte string takes its length and its bytes, so the length fits 32 bits. -/
theorem Takes.bytes (maxBytes : Nat) : Takes limits (bytes maxBytes) fun a taken =>
    taken = putByteString a ∧ a.length < 2 ^ 32 := by
  refine Takes.u32.bind fun declared taken h => ?_
  refine ⟨fun {data r a} hexec herror => ?_⟩
  rw [exec_bind_of_ok (exec_get _)] at hexec
  simp only [Option.isSome_none, Bool.false_eq_true, if_false] at hexec
  split at hexec
  · cases hexec
    simp [fail] at herror
  obtain ⟨taken', hdata, hlimits, rfl, hlength, -⟩ := (Takes.raw _).taken hexec herror
  refine ⟨_, hdata, hlimits, ?_, ?_⟩
  · rw [h.1, putByteString_of_declared hlength]
  · rw [hlength]
    exact declared.toNat_lt

/-- A string is a byte string that is valid UTF-8. -/
theorem Takes.string (maxBytes : Nat) : Takes limits (string maxBytes) fun a taken =>
    taken = putByteString a ∧ isValidUtf8 a := by
  refine Takes.u32.bind fun declared taken h => ?_
  refine ⟨fun {data r a} hexec herror => ?_⟩
  rw [exec_bind_of_ok (exec_get _)] at hexec
  simp only [Option.isSome_none, Bool.false_eq_true, if_false] at hexec
  split at hexec
  · cases hexec
    simp [fail] at herror
  obtain ⟨text, r₁, hraw, hexec⟩ := exec_bind_ok hexec
  rw [exec_bind_of_ok (exec_get _)] at hexec
  split at hexec
  · next hbad =>
      cases hexec
      rw [herror] at hbad
      cases hbad
  next hgood =>
  have hnone : r₁.error = none := by simpa using hgood
  split at hexec
  · cases hexec
    simp [fail, hnone] at herror
  next hutf =>
  cases hexec
  obtain ⟨taken', hdata, hlimits, rfl, hlength, -⟩ := (Takes.raw _).taken hraw hnone
  refine ⟨_, hdata, hlimits, ?_, by simpa using hutf⟩
  rw [h.1, putByteString_of_declared hlength]

/-- A count takes its four bytes, and the bounds on the collection hold. -/
theorem Takes.collectionCount (maxItems : Nat) :
    Takes limits (collectionCount maxItems) fun count taken =>
      taken = putCount count ∧ count < 2 ^ 32 ∧ CountOk limits maxItems count := by
  refine Takes.u32.bind fun declared taken h => ?_
  refine ⟨fun {data r a} hexec herror => ?_⟩
  rw [exec_bind_of_ok (exec_get _)] at hexec
  simp only [Option.isSome_none, Bool.false_eq_true, if_false] at hexec
  split at hexec
  · cases hexec
    simp [fail] at herror
  next hmax =>
  split at hexec
  · cases hexec
    simp [fail] at herror
  next hitems =>
  split at hexec
  · cases hexec
    simp [fail] at herror
  cases hexec
  refine ⟨[], rfl, rfl, ?_, declared.toNat_lt, h.2, by omega, ?_⟩
  · rw [List.append_nil, h.1, putCount, UInt32.ofNat_toNat]
  · exact UInt32.le_iff_toNat_le.mp (UInt32.not_lt.mp hitems)

/-- A collection read element by element. -/
theorem Takes.many {read : Read α} {put : α → Bytes} [Sticky read]
    (h : Takes limits read fun a taken => taken = put a) (count : Nat) :
    Takes limits (readMany read count) fun items taken =>
      items.length = count ∧ taken = putMany put items := by
  induction count with
  | zero => exact Takes.pure ⟨rfl, rfl⟩
  | succ count ih =>
      refine h.bind fun item taken hitem => ih.bind fun items taken' hitems => Takes.pure ?_
      exact ⟨by rw [List.length_cons, hitems.1],
        by rw [hitem, hitems.2, List.append_nil, putMany_cons]⟩

/-- A reader that is asked for the end and does not refuse has nothing left. -/
theorem exec_requireEnd {r r' : ByteReader} {u : Unit} (h : requireEnd.exec r = (.ok u, r')) :
    r.error = none ∧ r.data = [] := by
  obtain ⟨data, bounds, error⟩ := r
  cases error with
  | some e => cases h
  | none =>
      cases data with
      | nil => exact ⟨rfl, rfl⟩
      | cons byte data =>
          simp [requireEnd, checkOk, exec_bind] at h

/-- A payload that decodes was taken whole. -/
theorem Takes.decode_toEnd {m : Read α} {R : α → Bytes → Prop} (h : Takes limits m R) {data : Bytes}
    {a : α} (hdecode : decodeWith (toEnd m) data limits = .ok a) : R a data := by
  unfold decodeWith toEnd at hdecode
  obtain ⟨b, r, hread, hend⟩ := exec_bind_ok (Prod.ext hdecode rfl)
  obtain ⟨u, r', hend, hvalue⟩ := exec_bind_ok hend
  obtain ⟨hgood, hempty⟩ := exec_requireEnd hend
  obtain ⟨taken, hdata, -, hR⟩ := h.taken hread hgood
  obtain rfl : b = a := Except.ok.inj (congrArg Prod.fst hvalue)
  rwa [hdata, hempty, List.append_nil]

end Takes

end ShuffleFabric
