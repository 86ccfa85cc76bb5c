import ShuffleFabric.Codec

/-!
# ShuffleFabric.Codec.Utf8

What `is_valid_utf8` accepts: the encodings of sequences of Unicode scalar values, each in its
shortest form, and nothing else.

A sequence of `n` continuation bytes carries the low `6 n` bits of a code point (`tailBytes`); the
lead byte carries what is above them.  `scanUtf8` is the function with its index, every read of a
byte checked.
-/

namespace ShuffleFabric

/-! ## Bytes as numbers -/

theorem continuation_iff (byte : UInt8) : byte &&& 0xc0 = 0x80 ↔ byte.toNat / 64 = 2 := by
  have hall : ∀ n < 256, n &&& 192 = 128 ↔ n / 64 = 2 := by decide +kernel
  rw [← UInt8.toNat_inj, UInt8.toNat_and]
  exact hall byte.toNat byte.toNat_lt

theorem toNat_low6 (byte : UInt8) : (byte &&& 0x3f).toUInt32.toNat = byte.toNat % 64 := by
  rw [UInt8.toNat_toUInt32, UInt8.toNat_and]
  exact Nat.and_two_pow_sub_one_eq_mod _ 6

/-- One continuation byte moves the code point up and adds its six bits. -/
theorem toNat_continued {codePoint : UInt32} (h : codePoint.toNat * 64 < 2 ^ 32) (byte : UInt8) :
    ((codePoint <<< 6) ||| (byte &&& 0x3f).toUInt32).toNat =
      codePoint.toNat * 64 + byte.toNat % 64 := by
  have hsix : (6 : UInt32).toNat % 32 = 6 := rfl
  rw [UInt32.toNat_or, UInt32.toNat_shiftLeft, toNat_low6, hsix, Nat.shiftLeft_eq,
    Nat.mod_eq_of_lt h, Nat.mul_comm, ← Nat.two_pow_add_eq_or_of_lt (i := 6) (Nat.mod_lt _ (by decide))]

/-! ## Continuation bytes -/

/-- The continuation bytes for the low bits of a code point, the highest six first. -/
def tailBytes : Nat → Nat → Bytes
  | 0, _ => []
  | n + 1, value => UInt8.ofNat (value / 64 ^ n % 64 + 0x80) :: tailBytes n value

/-- A continuation byte is told by its six bits. -/
theorem eq_ofNat_iff {byte : UInt8} {low : Nat} (h : low < 64) :
    byte = UInt8.ofNat (low + 0x80) ↔ byte.toNat / 64 = 2 ∧ byte.toNat % 64 = low := by
  rw [← UInt8.toNat_inj, UInt8.toNat_ofNat', Nat.mod_eq_of_lt (by omega)]
  have hlt := byte.toNat_lt
  omega

/-- Reading continuation bytes puts the code point together that they are the low bits of. -/
theorem utf8Continue_eq_some {n : Nat} {codePoint result : UInt32} {text rest : Bytes}
    (h : (codePoint.toNat + 1) * 64 ^ n ≤ 2 ^ 32) :
    utf8Continue n codePoint text = some (result, rest) ↔
      text = tailBytes n result.toNat ++ rest ∧ result.toNat / 64 ^ n = codePoint.toNat := by
  induction n generalizing codePoint text with
  | zero =>
      simp only [utf8Continue, Option.some.injEq, Prod.mk.injEq, tailBytes, List.nil_append,
        Nat.pow_zero, Nat.div_one, UInt32.toNat_inj]
      exact ⟨fun h => ⟨h.2, h.1.symm⟩, fun h => ⟨h.2.symm, h.1⟩⟩
  | succ n ih =>
      cases text with
      | nil => simp [utf8Continue, tailBytes]
      | cons next text =>
          have hlow : next.toNat % 64 < 64 := Nat.mod_lt _ (by decide)
          have hpower : 64 ^ (n + 1) = 64 * 64 ^ n := by rw [Nat.pow_succ, Nat.mul_comm]
          have hpos : 0 < 64 ^ n := Nat.pow_pos (by decide)
          have hbig : (codePoint.toNat * 64 + next.toNat % 64 + 1) * 64 ^ n ≤ 2 ^ 32 := by
            calc (codePoint.toNat * 64 + next.toNat % 64 + 1) * 64 ^ n
                ≤ ((codePoint.toNat + 1) * 64) * 64 ^ n := Nat.mul_le_mul_right _ (by omega)
              _ = (codePoint.toNat + 1) * 64 ^ (n + 1) := by rw [hpower, Nat.mul_assoc]
              _ ≤ 2 ^ 32 := h
          have hsmall : codePoint.toNat * 64 < 2 ^ 32 := by
            have := Nat.le_mul_of_pos_right (codePoint.toNat * 64 + next.toNat % 64 + 1) hpos
            omega
          have hvalue := toNat_continued hsmall next
          have hdiv : result.toNat / 64 ^ (n + 1) = result.toNat / 64 ^ n / 64 := by
            rw [hpower, Nat.mul_comm, Nat.div_div_eq_div_mul]
          simp only [utf8Continue, continuation_iff, tailBytes, List.cons_append, List.cons.injEq,
            eq_ofNat_iff (Nat.mod_lt _ (by decide : 0 < 64)), hdiv]
          by_cases hcontinues : next.toNat / 64 = 2
          · have hdigits : result.toNat / 64 ^ n = codePoint.toNat * 64 + next.toNat % 64 ↔
                next.toNat % 64 = result.toNat / 64 ^ n % 64 ∧
                  result.toNat / 64 ^ n / 64 = codePoint.toNat := by
              omega
            rw [if_pos hcontinues, ih (hvalue ▸ hbig), hvalue, hdigits]
            tauto
          · simp [hcontinues]

/-! ## Lead bytes -/

/-- The form with some number of continuation bytes: what marks its lead byte, the least value
that needs it, and the first value that does not fit. -/
structure Utf8Form where
  mark : Nat
  least : Nat
  bound : Nat

def utf8Form : Nat → Utf8Form
  | 0 => ⟨0, 0, 0x80⟩
  | 1 => ⟨0xc0, 0x80, 0x800⟩
  | 2 => ⟨0xe0, 0x800, 0x10000⟩
  | _ => ⟨0xf0, 0x10000, 0x200000⟩

theorem utf8Lead_eq (lead : UInt8) :
    utf8Lead lead =
      if lead.toNat < 0x80 then some (0, .ofNat lead.toNat, 0)
      else if lead.toNat / 32 = 6 then some (1, .ofNat (lead.toNat % 32), 0x80)
      else if lead.toNat / 16 = 14 then some (2, .ofNat (lead.toNat % 16), 0x800)
      else if lead.toNat / 8 = 30 then some (3, .ofNat (lead.toNat % 8), 0x10000)
      else none := by
  have hall : ∀ n < 256, utf8Lead (.ofNat n) =
      if n < 0x80 then some (0, .ofNat n, 0)
      else if n / 32 = 6 then some (1, .ofNat (n % 32), 0x80)
      else if n / 16 = 14 then some (2, .ofNat (n % 16), 0x800)
      else if n / 8 = 30 then some (3, .ofNat (n % 8), 0x10000)
      else none := by
    decide +kernel
  simpa using hall lead.toNat lead.toNat_lt

/-- A lead byte says the form, and carries the bits above the continuation bytes. -/
theorem utf8Lead_eq_some {lead : UInt8} {n : Nat} {bits minimum : UInt32} :
    utf8Lead lead = some (n, bits, minimum) ↔
      n ≤ 3 ∧ lead.toNat = bits.toNat + (utf8Form n).mark ∧
        bits.toNat * 64 ^ n < (utf8Form n).bound ∧ minimum.toNat = (utf8Form n).least := by
  have hlead := lead.toNat_lt
  rw [utf8Lead_eq]
  constructor
  · intro h
    split_ifs at h
    all_goals
      simp only [Option.some.injEq, Prod.mk.injEq] at h
      obtain ⟨rfl, rfl, rfl⟩ := h
      simp only [utf8Form, UInt32.toNat_ofNat']
      exact ⟨by decide, by omega, by omega, rfl⟩
  · rintro ⟨hn, hmark, hbound, hleast⟩
    have hbits : ∀ k, k = bits.toNat → UInt32.ofNat k = bits := by
      rintro _ rfl
      exact UInt32.ofNat_toNat
    have hminimum : UInt32.ofNat (utf8Form n).least = minimum := by
      rw [← hleast, UInt32.ofNat_toNat]
    obtain rfl | rfl | rfl | rfl : n = 0 ∨ n = 1 ∨ n = 2 ∨ n = 3 := by omega
    all_goals simp only [utf8Form] at hmark hbound hminimum
    · rw [if_pos (by omega), hbits _ (by omega), ← hminimum]
      rfl
    · rw [if_neg (by omega), if_pos (by omega), hbits _ (by omega), ← hminimum]
      rfl
    · rw [if_neg (by omega), if_neg (by omega), if_pos (by omega), hbits _ (by omega), ← hminimum]
      rfl
    · rw [if_neg (by omega), if_neg (by omega), if_neg (by omega), if_pos (by omega),
        hbits _ (by omega), ← hminimum]
      rfl

/-- The shortest encoding of a scalar value: the form it needs, filled with its bits. -/
theorem utf8EncodeChar_eq {c : Char} {n : Nat} (hn : n ≤ 3)
    (hleast : (utf8Form n).least ≤ c.toNat) (hbound : c.toNat < (utf8Form n).bound) :
    String.utf8EncodeChar c =
      UInt8.ofNat (c.toNat / 64 ^ n + (utf8Form n).mark) :: tailBytes n c.toNat := by
  have hvalue : c.val.toNat = c.toNat := rfl
  obtain rfl | rfl | rfl | rfl : n = 0 ∨ n = 1 ∨ n = 2 ∨ n = 3 := by omega
  all_goals simp only [utf8Form] at hleast hbound
  all_goals simp only [utf8Form, String.utf8EncodeChar, tailBytes, hvalue]
  · rw [if_pos (by omega), Nat.pow_zero, Nat.div_one, Nat.add_zero]
  · rw [if_neg (by omega), if_pos (by omega), Nat.mod_eq_of_lt (by omega), Nat.pow_zero,
      Nat.div_one, Nat.pow_one]
  · rw [if_neg (by omega), if_neg (by omega), if_pos (by omega), Nat.mod_eq_of_lt (by omega),
      Nat.pow_zero, Nat.div_one, Nat.pow_one]
    rfl
  · rw [if_neg (by omega), if_neg (by omega), if_neg (by omega), Nat.mod_eq_of_lt (by omega),
      Nat.pow_zero, Nat.div_one, Nat.pow_one]
    rfl

theorem exists_utf8Form (c : Char) :
    ∃ n ≤ 3, (utf8Form n).least ≤ c.toNat ∧ c.toNat < (utf8Form n).bound := by
  have hvalid : c.toNat < 0xd800 ∨ 0xdfff < c.toNat ∧ c.toNat < 0x110000 := c.valid
  by_cases h1 : c.toNat < 0x80
  · exact ⟨0, by decide, Nat.zero_le _, h1⟩
  by_cases h2 : c.toNat < 0x800
  · exact ⟨1, by decide, Nat.not_lt.mp h1, h2⟩
  by_cases h3 : c.toNat < 0x10000
  · exact ⟨2, by decide, Nat.not_lt.mp h2, h3⟩
  · refine ⟨3, by decide, Nat.not_lt.mp h3, ?_⟩
    simp only [utf8Form]
    omega

/-! ## One turn of the loop -/

/-- What one turn of the loop takes off the front: a code point, if what it reads is one. -/
def decodeScalar : Bytes → Option (UInt32 × Bytes)
  | [] => none
  | lead :: rest =>
    match utf8Lead lead with
    | none => none
    | some (continuation, bits, minimum) =>
      match utf8Continue continuation bits rest with
      | none => none
      | some (codePoint, rest) =>
        if codePoint < minimum ∨ codePoint > 0x10ffff then none
        else if 0xd800 ≤ codePoint ∧ codePoint ≤ 0xdfff then none
        else some (codePoint, rest)

theorem validUtf8Loop_succ (fuel : Nat) (lead : UInt8) (rest : Bytes) :
    validUtf8Loop (fuel + 1) (lead :: rest) =
      match decodeScalar (lead :: rest) with
      | none => false
      | some (_, rest) => validUtf8Loop fuel rest := by
  cases hlead : utf8Lead lead with
  | none => simp only [validUtf8Loop, decodeScalar, hlead]
  | some form =>
      obtain ⟨continuation, bits, minimum⟩ := form
      cases hcontinue : utf8Continue continuation bits rest with
      | none => simp only [validUtf8Loop, decodeScalar, hlead, hcontinue]
      | some result =>
          simp only [validUtf8Loop, decodeScalar, hlead, hcontinue]
          split_ifs <;> rfl

/-- What the checks of a turn let through. -/
theorem utf8_checks (codePoint minimum : UInt32) :
    ¬(codePoint < minimum ∨ codePoint > 0x10ffff) ∧ ¬(0xd800 ≤ codePoint ∧ codePoint ≤ 0xdfff) ↔
      minimum.toNat ≤ codePoint.toNat ∧ codePoint.isValidChar := by
  have h1 : (0x10ffff : UInt32).toNat = 0x10ffff := rfl
  have h2 : (0xd800 : UInt32).toNat = 0xd800 := rfl
  have h3 : (0xdfff : UInt32).toNat = 0xdfff := rfl
  simp only [gt_iff_lt, UInt32.lt_iff_toNat_lt, UInt32.le_iff_toNat_le, h1, h2, h3,
    UInt32.isValidChar, Nat.isValidChar]
  omega

theorem decodeScalar_cons {lead : UInt8} {text rest : Bytes} {value : UInt32} :
    decodeScalar (lead :: text) = some (value, rest) ↔
      ∃ n bits minimum, utf8Lead lead = some (n, bits, minimum) ∧
        utf8Continue n bits text = some (value, rest) ∧ minimum.toNat ≤ value.toNat ∧
        value.isValidChar := by
  constructor
  · intro h
    simp only [decodeScalar] at h
    split at h
    · cases h
    · next n bits minimum hlead =>
        split at h
        · cases h
        · next codePoint text' hcontinue =>
            split_ifs at h with hrange hsurrogate
            obtain ⟨rfl, rfl⟩ := Prod.mk.inj (Option.some.inj h)
            exact ⟨n, bits, minimum, hlead, hcontinue,
              (utf8_checks codePoint minimum).mp ⟨hrange, hsurrogate⟩⟩
  · rintro ⟨n, bits, minimum, hlead, hcontinue, hchecks⟩
    obtain ⟨hrange, hsurrogate⟩ := (utf8_checks value minimum).mpr hchecks
    simp only [decodeScalar, hlead, hcontinue, if_neg hrange, if_neg hsurrogate]

/-- A turn takes exactly the encoding of a scalar value. -/
theorem decodeScalar_eq_some {text rest : Bytes} {value : UInt32} :
    decodeScalar text = some (value, rest) ↔
      ∃ c : Char, c.val = value ∧ text = String.utf8EncodeChar c ++ rest := by
  have hcap : ∀ n, (utf8Form n).bound ≤ 2 ^ 32 := fun n => by unfold utf8Form; split <;> decide
  have hroom : ∀ n ≤ 3, ∀ bits, bits * 64 ^ n < (utf8Form n).bound →
      (bits + 1) * 64 ^ n ≤ (utf8Form n).bound ∧ bits + (utf8Form n).mark < 256 := by
    intro n hn bits hbits
    obtain rfl | rfl | rfl | rfl : n = 0 ∨ n = 1 ∨ n = 2 ∨ n = 3 := by omega
    all_goals simp only [utf8Form] at hbits ⊢; omega
  have hpos : ∀ n, 0 < 64 ^ n := fun n => Nat.pow_pos (by decide)
  cases text with
  | nil => simp [decodeScalar, String.utf8EncodeChar_ne_nil]
  | cons lead text =>
      rw [decodeScalar_cons]
      constructor
      · rintro ⟨n, bits, minimum, hlead, hcontinue, hleast, hvalid⟩
        obtain ⟨hn, hmark, hbits, hminimum⟩ := utf8Lead_eq_some.mp hlead
        obtain ⟨hspace, hbyte⟩ := hroom n hn _ hbits
        obtain ⟨rfl, hdiv⟩ := (utf8Continue_eq_some (hspace.trans (hcap n))).mp hcontinue
        have hbound : value.toNat < (utf8Form n).bound := by
          refine Nat.lt_of_lt_of_le (Nat.lt_mul_of_div_lt ?_ (hpos n)) hspace
          rw [hdiv]
          exact Nat.lt_succ_self _
        let c : Char := ⟨value, hvalid⟩
        have hc : c.toNat = value.toNat := rfl
        refine ⟨c, rfl, ?_⟩
        rw [utf8EncodeChar_eq (c := c) hn (hminimum ▸ hleast) hbound, hc, hdiv, ← hmark,
          UInt8.ofNat_toNat]
        rfl
      · rintro ⟨c, rfl, htext⟩
        obtain ⟨n, hn, hleast, hbound⟩ := exists_utf8Form c
        rw [utf8EncodeChar_eq hn hleast hbound] at htext
        obtain ⟨rfl, rfl⟩ := List.cons.inj htext
        have hbits : c.toNat / 64 ^ n * 64 ^ n < (utf8Form n).bound :=
          Nat.lt_of_le_of_lt (Nat.div_mul_le_self _ _) hbound
        obtain ⟨hspace, hbyte⟩ := hroom n hn _ hbits
        have hsmall : (UInt32.ofNat (c.toNat / 64 ^ n)).toNat = c.toNat / 64 ^ n := by
          rw [UInt32.toNat_ofNat']
          exact Nat.mod_eq_of_lt (Nat.lt_of_le_of_lt (Nat.le_add_right _ _)
            (hbyte.trans (by decide)))
        have hminimum : (UInt32.ofNat (utf8Form n).least).toNat = (utf8Form n).least := by
          rw [UInt32.toNat_ofNat']
          have := hcap n
          omega
        refine ⟨n, .ofNat (c.toNat / 64 ^ n), .ofNat (utf8Form n).least, ?_, ?_, ?_, c.valid⟩
        · rw [utf8Lead_eq_some, hsmall, UInt8.toNat_ofNat', Nat.mod_eq_of_lt hbyte]
          exact ⟨hn, rfl, hbits, hminimum⟩
        · rw [utf8Continue_eq_some (by rw [hsmall]; exact hspace.trans (hcap n)), hsmall]
          exact ⟨rfl, rfl⟩
        · rw [hminimum]
          exact hleast

/-! ## The whole text -/

/-- The texts that are accepted, with any fuel that lasts for all bytes. -/
theorem validUtf8Loop_iff {fuel : Nat} {text : Bytes} (hfuel : text.length ≤ fuel) :
    validUtf8Loop fuel text = true ↔
      ∃ chars : List Char, text = chars.flatMap String.utf8EncodeChar := by
  induction fuel generalizing text with
  | zero =>
      obtain rfl := List.length_eq_zero_iff.mp (Nat.le_zero.mp hfuel)
      exact ⟨fun _ => ⟨[], rfl⟩, fun _ => rfl⟩
  | succ fuel ih =>
      cases text with
      | nil => exact ⟨fun _ => ⟨[], rfl⟩, fun _ => rfl⟩
      | cons lead text =>
          have hshorter : ∀ {c : Char} {rest : Bytes},
              lead :: text = String.utf8EncodeChar c ++ rest → rest.length ≤ fuel := by
            intro c rest htext
            have hlength := congrArg List.length htext
            have hpos : 0 < (String.utf8EncodeChar c).length :=
              List.length_pos_iff.mpr String.utf8EncodeChar_ne_nil
            rw [List.length_append] at hlength
            omega
          rw [validUtf8Loop_succ]
          constructor
          · intro h
            cases hturn : decodeScalar (lead :: text) with
            | none => simp [hturn] at h
            | some result =>
                obtain ⟨value, rest⟩ := result
                rw [hturn] at h
                obtain ⟨c, -, htext⟩ := decodeScalar_eq_some.mp hturn
                obtain ⟨chars, hchars⟩ := (ih (hshorter htext)).mp h
                exact ⟨c :: chars, by rw [htext, hchars, List.flatMap_cons]⟩
          · rintro ⟨chars, htext⟩
            cases chars with
            | nil => cases htext
            | cons c chars =>
                rw [List.flatMap_cons] at htext
                rw [decodeScalar_eq_some.mpr ⟨c, rfl, htext⟩]
                exact (ih (hshorter htext)).mpr ⟨chars, rfl⟩

/-! ## The index -/

/-- The loop over the continuation bytes, from the first one on; `none` when a byte is read that
is not there. -/
def scanContinuation (text : Bytes) : Nat → Nat → UInt32 → Option (Option UInt32)
  | _, 0, codePoint => some (some codePoint)
  | index, n + 1, codePoint => do
    let next ← text[index]?
    if next &&& 0xc0 ≠ 0x80 then some none
    else scanContinuation text (index + 1) n ((codePoint <<< 6) ||| (next &&& 0x3f).toUInt32)

/-- `is_valid_utf8` from an index on; `none` when a byte is read that is not there. -/
def scanUtf8 (text : Bytes) (index : Nat) : Option Bool :=
  if _ : index < text.length then do
    let lead ← text[index]?
    if lead < 0x80 then scanUtf8 text (index + 1)
    else
      match utf8Lead lead with
      | none => some false
      | some (continuation, bits, minimum) =>
        if index + continuation ≥ text.length then some false
        else do
          match ← scanContinuation text (index + 1) continuation bits with
          | none => some false
          | some codePoint =>
            if codePoint < minimum ∨ codePoint > 0x10ffff then some false
            else if 0xd800 ≤ codePoint ∧ codePoint ≤ 0xdfff then some false
            else scanUtf8 text (index + (continuation + 1))
  else some true
  termination_by text.length - index

theorem utf8Continue_of_short {n : Nat} {codePoint : UInt32} {text : Bytes} (h : text.length < n) :
    utf8Continue n codePoint text = none := by
  induction n generalizing codePoint text with
  | zero => cases h
  | succ n ih =>
      cases text with
      | nil => rfl
      | cons next text =>
          rw [utf8Continue, ih (Nat.lt_of_succ_lt_succ h), ite_self]

/-- With enough bytes left, every read of the inner loop finds one. -/
theorem scanContinuation_eq {text : Bytes} {index n : Nat} (h : index + n ≤ text.length)
    (codePoint : UInt32) :
    ∃ answer, scanContinuation text index n codePoint = some answer ∧
      utf8Continue n codePoint (text.drop index) =
        answer.map fun value => (value, text.drop (index + n)) := by
  induction n generalizing index codePoint with
  | zero => exact ⟨some codePoint, rfl, rfl⟩
  | succ n ih =>
      have hin : index < text.length := by omega
      rw [scanContinuation, List.getElem?_eq_getElem hin, List.drop_eq_getElem_cons hin, utf8Continue]
      simp only [Option.bind_eq_bind, Option.bind_some]
      by_cases hcontinues : text[index] &&& 0xc0 = 0x80
      · have hfits : index + 1 + n ≤ text.length := by omega
        obtain ⟨answer, hscan, hcontinue⟩ :=
          ih hfits ((codePoint <<< 6) ||| (text[index] &&& 0x3f).toUInt32)
        refine ⟨answer, ?_, ?_⟩
        · rw [if_neg (not_not.mpr hcontinues), hscan]
        · rw [if_pos hcontinues, hcontinue, Nat.add_assoc, Nat.add_comm 1 n]
      · exact ⟨none, by rw [if_pos hcontinues], by rw [if_neg hcontinues]; rfl⟩

/-- The scan ends with the answer of the loop over the bytes, so it reads no byte that is not
there. -/
theorem scanUtf8_eq {text : Bytes} {fuel index : Nat} (hfuel : text.length - index ≤ fuel) :
    scanUtf8 text index = some (validUtf8Loop fuel (text.drop index)) := by
  induction fuel generalizing index with
  | zero =>
      have hend : ¬index < text.length := by omega
      rw [scanUtf8, dif_neg hend, List.drop_eq_nil_of_le (Nat.not_lt.mp hend), validUtf8Loop]
  | succ fuel ih =>
      by_cases hin : index < text.length
      · have hnext : scanUtf8 text (index + 1) = some (validUtf8Loop fuel (text.drop (index + 1))) :=
          ih (by omega)
        rw [scanUtf8, dif_pos hin, List.getElem?_eq_getElem hin, List.drop_eq_getElem_cons hin,
          validUtf8Loop]
        simp only [Option.bind_eq_bind, Option.bind_some]
        by_cases hascii : text[index] < 0x80
        · have hlead : utf8Lead text[index] = some (0, text[index].toUInt32, 0) := if_pos hascii
          have hvalid : text[index].toUInt32.isValidChar := by
            left
            have hlt := text[index].toNat_lt
            rw [UInt8.toNat_toUInt32]
            omega
          obtain ⟨hrange, hsurrogate⟩ := (utf8_checks text[index].toUInt32 0).mpr
            ⟨Nat.zero_le _, hvalid⟩
          simp only [if_pos hascii, hlead, utf8Continue, if_neg hrange, if_neg hsurrogate, hnext]
        · rw [if_neg hascii]
          cases hlead : utf8Lead text[index] with
          | none => rfl
          | some form =>
              obtain ⟨continuation, bits, minimum⟩ := form
              simp only
              by_cases hshort : index + continuation ≥ text.length
              · have hfew : (text.drop (index + 1)).length < continuation := by
                  rw [List.length_drop]
                  omega
                rw [if_pos hshort, utf8Continue_of_short hfew]
              · have hfits : index + 1 + continuation ≤ text.length := by omega
                obtain ⟨answer, hscan, hcontinue⟩ := scanContinuation_eq hfits bits
                rw [if_neg hshort, hscan, hcontinue]
                cases answer with
                | none => rfl
                | some codePoint =>
                    have hlater : scanUtf8 text (index + (continuation + 1)) =
                        some (validUtf8Loop fuel (text.drop (index + 1 + continuation))) := by
                      rw [Nat.add_comm continuation 1, ← Nat.add_assoc]
                      exact ih (by omega)
                    simp only [Option.bind_some, Option.map_some, hlater]
                    split_ifs <;> rfl
      · rw [scanUtf8, dif_neg hin, List.drop_eq_nil_of_le (Nat.not_lt.mp hin), validUtf8Loop]

/-- `is_valid_utf8` accepts exactly the concatenations of the shortest encodings of scalar values,
and every byte it reads is there. -/
theorem isValidUtf8_iff (text : Bytes) :
    (isValidUtf8 text = true ↔
      ∃ chars : List Char, text = chars.flatMap String.utf8EncodeChar) ∧
      scanUtf8 text 0 = some (isValidUtf8 text) :=
  ⟨validUtf8Loop_iff (Nat.le_refl _), scanUtf8_eq (Nat.le_refl _)⟩

end ShuffleFabric
