import Mathlib.Tactic.Common
import ShuffleFabric.Hash
import ShuffleFabric.Identity

/-!
# ShuffleFabric.Identity.Text

The text form of an identity (`identity.hpp`): decimal, no leading zeros, no sign, no whitespace.

The overflow guard of `parse` is checked before each digit, so a text is refused at the first
digit that would take the value out of range, and no digit wraps it.
-/

namespace ShuffleFabric

namespace Identity

/-- One turn of the loop of `parse`. -/
def accumulate (value : UInt64) (ch : UInt8) : Result UInt64 := do
  refuseIf (ch < 0x30 ∨ ch > 0x39) .invalidArgument "identity text is not decimal"
  let digit := (ch - 0x30).toUInt64
  refuseIf (value > (0xffffffffffffffff - digit) / 10) .integerOverflow "identity text overflows"
  pure (value * 10 + digit)

/-- `Id::parse`. -/
def parse (text : Bytes) : Result UInt64 := do
  refuseIf (text = []) .emptyValue "identity text is empty"
  refuseIf (text.length > 1 ∧ text.head? = some 0x30) .invalidArgument
    "identity text has a leading zero"
  text.foldlM accumulate 0

/-- The largest identity, and the number behind it. -/
example : parse (Identity.toString 18446744073709551615) = .ok 18446744073709551615 ∧
    parse [0x31, 0x38, 0x34, 0x34, 0x36, 0x37, 0x34, 0x34, 0x30, 0x37, 0x33, 0x37, 0x30, 0x39,
      0x35, 0x35, 0x31, 0x36, 0x31, 0x36] =
      .error ⟨.integerOverflow, "identity text overflows"⟩ := by
  decide +kernel

/-! ## Decimal texts -/

/-- The canonical form of a number: digits, and no zero in front of another one. -/
structure Canonical (text : Bytes) : Prop where
  nonempty : text ≠ []
  digits : ∀ ch ∈ text, 0x30 ≤ ch.toNat ∧ ch.toNat ≤ 0x39
  leading : text.length > 1 → text.head? ≠ some 0x30

/-- The number that follows from a value and one more digit. -/
def nextValue (value : Nat) (ch : UInt8) : Nat := value * 10 + (ch.toNat - 0x30)

/-- The number a text of digits spells. -/
def decimalValue (text : Bytes) : Nat := text.foldl nextValue 0

theorem toNat_digit {ch : UInt8} (h : 0x30 ≤ ch.toNat) :
    (ch - 0x30).toUInt64.toNat = ch.toNat - 0x30 := by
  rw [UInt8.toNat_toUInt64, UInt8.toNat_sub_of_le]
  · rfl
  · exact UInt8.le_iff_toNat_le.mpr h

/-- A turn takes a digit, if the next value can be represented, and never wraps. -/
theorem accumulate_eq_ok {value next : UInt64} {ch : UInt8} :
    accumulate value ch = .ok next ↔
      (0x30 ≤ ch.toNat ∧ ch.toNat ≤ 0x39) ∧ next.toNat = nextValue value.toNat ch := by
  have hlow : (0x30 : UInt8).toNat = 0x30 := rfl
  have hhigh : (0x39 : UInt8).toNat = 0x39 := rfl
  simp only [accumulate, bind_eq_ok, refuseIf_eq_ok, exists_const, pure_eq_ok, not_or,
    UInt8.lt_iff_toNat_lt, gt_iff_lt, Nat.not_lt, hlow, hhigh, nextValue]
  refine and_congr_right fun hdigit => ?_
  have hvalue := value.toNat_lt
  have hnext := next.toNat_lt
  have hmax : (0xffffffffffffffff : UInt64).toNat = 2 ^ 64 - 1 := rfl
  have hten : (10 : UInt64).toNat = 10 := rfl
  have hcharacter := toNat_digit hdigit.1
  set digit := (ch - 0x30).toUInt64 with hset
  have hroom : ¬(0xffffffffffffffff - digit) / 10 < value ↔
      value.toNat * 10 + (ch.toNat - 0x30) < 2 ^ 64 := by
    rw [UInt64.lt_iff_toNat_lt, UInt64.toNat_div, UInt64.toNat_sub_of_le, hmax, hten, hcharacter]
    · omega
    · rw [UInt64.le_iff_toNat_le, hmax]
      omega
  rw [hroom, ← UInt64.toNat_inj, UInt64.toNat_add, UInt64.toNat_mul, hten, hcharacter]
  omega

/-! ## The whole text -/

theorem le_foldl_nextValue (text : Bytes) (value : Nat) : value ≤ text.foldl nextValue value := by
  induction text generalizing value with
  | nil => exact Nat.le_refl _
  | cons ch text ih =>
      refine Nat.le_trans ?_ (ih (nextValue value ch))
      unfold nextValue
      omega

/-- The loop takes digits whose number can be represented, and returns it. -/
theorem foldlM_accumulate_eq_ok {text : Bytes} {value id : UInt64} :
    text.foldlM accumulate value = .ok id ↔
      (∀ ch ∈ text, 0x30 ≤ ch.toNat ∧ ch.toNat ≤ 0x39) ∧
        text.foldl nextValue value.toNat = id.toNat := by
  induction text generalizing value with
  | nil => simp [pure_eq_ok, UInt64.toNat_inj]
  | cons ch text ih =>
      rw [List.foldlM_cons, List.foldl_cons, List.forall_mem_cons]
      constructor
      · intro h
        obtain ⟨next, hnext, h⟩ := bind_eq_ok.mp h
        obtain ⟨hdigit, hvalue⟩ := accumulate_eq_ok.mp hnext
        obtain ⟨hdigits, hid⟩ := ih.mp h
        exact ⟨⟨hdigit, hdigits⟩, by rw [← hvalue, hid]⟩
      · rintro ⟨⟨hdigit, hdigits⟩, hid⟩
        have hsmall : nextValue value.toNat ch < 2 ^ 64 := by
          have hle := le_foldl_nextValue text (nextValue value.toNat ch)
          have hlt := id.toNat_lt
          omega
        have hnext : (UInt64.ofNat (nextValue value.toNat ch)).toNat = nextValue value.toNat ch := by
          rw [UInt64.toNat_ofNat', Nat.mod_eq_of_lt hsmall]
        refine bind_eq_ok.mpr ⟨.ofNat (nextValue value.toNat ch),
          accumulate_eq_ok.mpr ⟨hdigit, hnext⟩, ih.mpr ⟨hdigits, ?_⟩⟩
        rw [hnext, hid]

/-- A text is parsed to a value if it is the canonical form of its number. -/
theorem parse_eq_ok {text : Bytes} {id : UInt64} :
    parse text = .ok id ↔ Canonical text ∧ decimalValue text = id.toNat := by
  simp only [parse, bind_eq_ok, refuseIf_eq_ok, exists_const, foldlM_accumulate_eq_ok, not_and]
  constructor
  · rintro ⟨hnonempty, hleading, hdigits, hvalue⟩
    exact ⟨⟨hnonempty, hdigits, hleading⟩, hvalue⟩
  · rintro ⟨⟨hnonempty, hdigits, hleading⟩, hvalue⟩
    exact ⟨hnonempty, hleading, hdigits, hvalue⟩

/-! ## Back and forth -/

/-- The byte of a digit. -/
def digitByte (digit : Nat) : UInt8 := UInt8.ofNat (0x30 + digit)

theorem toNat_digitByte {digit : Nat} (h : digit < 10) : (digitByte digit).toNat = 0x30 + digit := by
  rw [digitByte, UInt8.toNat_ofNat', Nat.mod_eq_of_lt (by omega)]

theorem decimalText_of_lt {value : Nat} (h : value < 10) : decimalText value = [digitByte value] := by
  rw [decimalText, Nat.toDigits_of_lt_base h, List.map_singleton, Nat.toNat_digitChar_of_lt_ten h]
  rfl

/-- All digits but the last, and the last. -/
theorem decimalText_of_ge {value : Nat} (h : 10 ≤ value) :
    decimalText value = decimalText (value / 10) ++ [digitByte (value % 10)] := by
  rw [decimalText, Nat.toDigits_of_base_le (by decide) h, List.map_append, List.map_singleton,
    Nat.toNat_digitChar_of_lt_ten (Nat.mod_lt _ (by decide))]
  rfl

theorem decimalText_ne_nil (value : Nat) : decimalText value ≠ [] := by
  simp [decimalText]

theorem decimalValue_snoc (text : Bytes) (ch : UInt8) :
    decimalValue (text ++ [ch]) = nextValue (decimalValue text) ch := by
  simp [decimalValue]

/-- Only zero starts with a zero. -/
theorem head_decimalText {value : Nat} (h : 0 < value) : (decimalText value).head? ≠ some 0x30 := by
  induction value using Nat.strongRecOn with
  | ind value ih =>
      by_cases hlt : value < 10
      · rw [decimalText_of_lt hlt]
        intro hzero
        have hbyte := congrArg UInt8.toNat (Option.some.inj hzero)
        rw [toNat_digitByte hlt] at hbyte
        have hthirty : (0x30 : UInt8).toNat = 0x30 := rfl
        omega
      · rw [decimalText_of_ge (Nat.not_lt.mp hlt),
          List.head?_append_of_ne_nil _ (decimalText_ne_nil _)]
        exact ih (value / 10) (by omega) (by omega)

theorem canonical_digitByte {digit : Nat} (h : digit < 10) : Canonical [digitByte digit] where
  nonempty := List.cons_ne_nil _ _
  digits := by
    have hbyte := toNat_digitByte h
    simp only [List.mem_singleton, forall_eq]
    omega
  leading := by simp

/-- A digit may follow a canonical form that is not zero. -/
theorem Canonical.snoc {text : Bytes} {digit : Nat} (h : Canonical text)
    (hhead : text.head? ≠ some 0x30) (hdigit : digit < 10) :
    Canonical (text ++ [digitByte digit]) where
  nonempty := by simp
  digits := by
    intro ch hch
    rcases List.mem_append.mp hch with hch | hch
    · exact h.digits ch hch
    · exact (canonical_digitByte hdigit).digits ch hch
  leading := by
    rw [List.head?_append_of_ne_nil _ h.nonempty]
    exact fun _ => hhead

/-- The text of a number is its canonical form. -/
theorem canonical_decimalText (value : Nat) :
    Canonical (decimalText value) ∧ decimalValue (decimalText value) = value := by
  induction value using Nat.strongRecOn with
  | ind value ih =>
      by_cases hlt : value < 10
      · rw [decimalText_of_lt hlt]
        refine ⟨canonical_digitByte hlt, ?_⟩
        show nextValue 0 (digitByte value) = value
        rw [nextValue, toNat_digitByte hlt]
        omega
      · obtain ⟨hcanonical, hvalue⟩ := ih (value / 10) (by omega)
        have hdigit : value % 10 < 10 := Nat.mod_lt _ (by decide)
        rw [decimalText_of_ge (Nat.not_lt.mp hlt)]
        refine ⟨hcanonical.snoc (head_decimalText (by omega)) hdigit, ?_⟩
        rw [decimalValue_snoc, hvalue, nextValue, toNat_digitByte hdigit]
        omega

/-- The number of a canonical form that does not start with a zero is not zero. -/
theorem decimalValue_pos {text : Bytes} (h : Canonical text) (hhead : text.head? ≠ some 0x30) :
    0 < decimalValue text := by
  cases text with
  | nil => exact absurd rfl h.nonempty
  | cons ch text =>
      have hdigit := h.digits ch List.mem_cons_self
      have hne : ch.toNat ≠ 0x30 := by
        intro hzero
        exact hhead (congrArg some (UInt8.toNat_inj.mp hzero))
      have hle : nextValue 0 ch ≤ decimalValue (ch :: text) := le_foldl_nextValue text _
      unfold nextValue at hle
      omega

/-- A canonical form is the text of its number. -/
theorem Canonical.eq_decimalText {text : Bytes} (h : Canonical text) :
    text = decimalText (decimalValue text) := by
  induction text using List.reverseRecOn with
  | nil => exact absurd rfl h.nonempty
  | append_singleton front ch ih =>
      have hch := h.digits ch (by simp)
      have hbyte : digitByte (ch.toNat - 0x30) = ch := by
        rw [← UInt8.toNat_inj, toNat_digitByte (by omega)]
        omega
      by_cases hfront : front = []
      · subst hfront
        have hvalue : decimalValue ([] ++ [ch]) = ch.toNat - 0x30 := Nat.zero_add _
        rw [hvalue, decimalText_of_lt (by omega), hbyte]
        rfl
      · have hlength : (front ++ [ch]).length > 1 := by
          have := List.length_pos_iff.mpr hfront
          simp only [List.length_append, List.length_singleton]
          omega
        have hhead := h.leading hlength
        rw [List.head?_append_of_ne_nil _ hfront] at hhead
        have hcanonical : Canonical front :=
          ⟨hfront, fun c hc => h.digits c (List.mem_append_left _ hc), fun _ => hhead⟩
        have hpos := decimalValue_pos hcanonical hhead
        have hquotient : decimalValue (front ++ [ch]) / 10 = decimalValue front := by
          rw [decimalValue_snoc, nextValue]
          omega
        have hremainder : decimalValue (front ++ [ch]) % 10 = ch.toNat - 0x30 := by
          rw [decimalValue_snoc, nextValue]
          omega
        have hlarge : 10 ≤ decimalValue (front ++ [ch]) := by omega
        rw [decimalText_of_ge hlarge, hquotient, hremainder, hbyte, ← ih hcanonical]

/-- `parse` takes exactly the canonical forms of the numbers that can be represented, and
returns them; it is the inverse of `to_string`, and no turn of its loop wraps. -/
theorem parse_inverse (text : Bytes) :
    ((∃ id, parse text = .ok id) ↔ Canonical text ∧ decimalValue text < 2 ^ 64) ∧
      (∀ id, parse text = .ok id → decimalValue text = id.toNat) ∧
      (∀ id, parse text = .ok id ↔ text = Identity.toString id) ∧
      ∀ value ch next, accumulate value ch = .ok next →
        next.toNat = value.toNat * 10 + (ch.toNat - 0x30) := by
  refine ⟨?_, fun id h => (parse_eq_ok.mp h).2, fun id => ?_,
    fun value ch next h => (accumulate_eq_ok.mp h).2⟩
  · constructor
    · rintro ⟨id, h⟩
      obtain ⟨hcanonical, hvalue⟩ := parse_eq_ok.mp h
      exact ⟨hcanonical, hvalue ▸ id.toNat_lt⟩
    · rintro ⟨hcanonical, hsmall⟩
      refine ⟨.ofNat (decimalValue text), parse_eq_ok.mpr ⟨hcanonical, ?_⟩⟩
      rw [UInt64.toNat_ofNat', Nat.mod_eq_of_lt hsmall]
  · rw [parse_eq_ok]
    constructor
    · rintro ⟨hcanonical, hvalue⟩
      rw [Identity.toString, ← hvalue]
      exact hcanonical.eq_decimalText
    · rintro rfl
      exact canonical_decimalText id.toNat

end Identity

end ShuffleFabric
