import ShuffleFabric.Codec

/-!
# ShuffleFabric.Codec.Sound

What a decoder does on the bytes its encoder wrote.

`Reads limits ok m data a` says it completely: if `ok` holds, `m` consumes exactly
`data` and returns `a`, whatever follows; otherwise it fails.  The condition is
never vacuous bookkeeping, it is what the bounds of the reader cut off.  Decoders
compose by `Reads.bind`, because a reader that failed stays failed (`Sticky`).
-/

namespace ShuffleFabric

open Lib ByteReader

/-! ## Little-endian integers -/

/-- The masks of the writers are remainders. -/
theorem nat_and_ff (n : Nat) : n &&& 0xff = n % 256 := Nat.and_two_pow_sub_one_eq_mod n 8

/-- The mask of two bytes is the remainder by 2^16. -/
theorem nat_and_ffff (n : Nat) : n &&& 0xffff = n % 65536 :=
  Nat.and_two_pow_sub_one_eq_mod n 16

/-- The mask of four bytes is the remainder by 2^32. -/
theorem nat_and_ffffffff (n : Nat) : n &&& 0xffffffff = n % 4294967296 :=
  Nat.and_two_pow_sub_one_eq_mod n 32

/-- The parts that a reader joins do not overlap, so that they add up. -/
theorem nat_or_shiftLeft {a k : Nat} (b : Nat) (h : a < 2 ^ k) :
    a ||| b <<< k = a + b * 2 ^ k := by
  rw [Nat.or_comm, ← Nat.shiftLeft_add_eq_or_of_lt h, Nat.shiftLeft_eq, Nat.add_comm]

/-- What is written as two bytes is read back from them. -/
theorem u16Of_putU16 (value : UInt16) : u16Of (putU16 value) = value := by
  apply UInt16.toNat_inj.mp
  have hv := value.toNat_lt
  simp only [putU16, putU8, u16Of, List.cons_append, List.nil_append, UInt16.toNat_or,
    UInt16.toNat_shiftLeft, UInt8.toNat_toUInt16, UInt16.toNat_toUInt8, UInt16.toNat_and,
    UInt16.toNat_shiftRight, UInt16.toNat_ofNat, nat_and_ff, Nat.reduceMod, Nat.reducePow,
    Nat.shiftRight_eq_div_pow]
  rw [Nat.mod_eq_of_lt (a := _ <<< _) (by rw [Nat.shiftLeft_eq]; omega)]
  rw [nat_or_shiftLeft _ (by omega)]
  omega

/-- What is written as four bytes is read back from them. -/
theorem u32Of_putU32 (value : UInt32) : u32Of (putU32 value) = value := by
  apply UInt32.toNat_inj.mp
  have hv := value.toNat_lt
  simp only [putU32, putU16, putU8, u32Of, List.cons_append, List.nil_append, UInt32.toNat_or,
    UInt32.toNat_shiftLeft, UInt8.toNat_toUInt32, UInt16.toNat_toUInt8, UInt16.toNat_and,
    UInt16.toNat_shiftRight, UInt16.toNat_ofNat, UInt32.toNat_toUInt16, UInt32.toNat_and,
    UInt32.toNat_shiftRight, UInt32.toNat_ofNat, nat_and_ff, nat_and_ffff, Nat.reduceMod,
    Nat.reducePow, Nat.shiftRight_eq_div_pow]
  -- each byte lies above the ones read before it
  rw [Nat.mod_eq_of_lt (a := _ <<< 8) (by rw [Nat.shiftLeft_eq]; omega),
    nat_or_shiftLeft _ (by omega)]
  rw [Nat.mod_eq_of_lt (a := _ <<< 16) (by rw [Nat.shiftLeft_eq]; omega),
    nat_or_shiftLeft _ (by omega)]
  rw [Nat.mod_eq_of_lt (a := _ <<< 24) (by rw [Nat.shiftLeft_eq]; omega),
    nat_or_shiftLeft _ (by omega)]
  omega

/-- What is written as eight bytes is read back from them. -/
theorem u64Of_putU64 (value : UInt64) : u64Of (putU64 value) = value := by
  apply UInt64.toNat_inj.mp
  have hv := value.toNat_lt
  simp only [putU64, putU32, putU16, putU8, u64Of, List.cons_append, List.nil_append,
    UInt64.toNat_or, UInt64.toNat_shiftLeft, UInt8.toNat_toUInt64, UInt16.toNat_toUInt8,
    UInt16.toNat_and, UInt16.toNat_shiftRight, UInt16.toNat_ofNat, UInt32.toNat_toUInt16,
    UInt32.toNat_and, UInt32.toNat_shiftRight, UInt32.toNat_ofNat, UInt64.toNat_toUInt32,
    UInt64.toNat_and, UInt64.toNat_shiftRight, UInt64.toNat_ofNat, nat_and_ff, nat_and_ffff,
    nat_and_ffffffff, Nat.reduceMod, Nat.reducePow, Nat.shiftRight_eq_div_pow]
  rw [Nat.mod_eq_of_lt (a := _ <<< 8) (by rw [Nat.shiftLeft_eq]; omega),
    nat_or_shiftLeft _ (by omega)]
  rw [Nat.mod_eq_of_lt (a := _ <<< 16) (by rw [Nat.shiftLeft_eq]; omega),
    nat_or_shiftLeft _ (by omega)]
  rw [Nat.mod_eq_of_lt (a := _ <<< 24) (by rw [Nat.shiftLeft_eq]; omega),
    nat_or_shiftLeft _ (by omega)]
  rw [Nat.mod_eq_of_lt (a := _ <<< 32) (by rw [Nat.shiftLeft_eq]; omega),
    nat_or_shiftLeft _ (by omega)]
  rw [Nat.mod_eq_of_lt (a := _ <<< 40) (by rw [Nat.shiftLeft_eq]; omega),
    nat_or_shiftLeft _ (by omega)]
  rw [Nat.mod_eq_of_lt (a := _ <<< 48) (by rw [Nat.shiftLeft_eq]; omega),
    nat_or_shiftLeft _ (by omega)]
  rw [Nat.mod_eq_of_lt (a := _ <<< 56) (by rw [Nat.shiftLeft_eq]; omega),
    nat_or_shiftLeft _ (by omega)]
  omega

@[simp] theorem length_putU8 (value : UInt8) : (putU8 value).length = 1 := rfl
@[simp] theorem length_putU16 (value : UInt16) : (putU16 value).length = 2 := by
  simp [putU16]
@[simp] theorem length_putU32 (value : UInt32) : (putU32 value).length = 4 := by
  simp [putU32]
@[simp] theorem length_putU64 (value : UInt64) : (putU64 value).length = 8 := by
  simp [putU64]
@[simp] theorem length_putBool (value : Bool) : (putBool value).length = 1 := rfl
@[simp] theorem length_putCount (count : Nat) : (putCount count).length = 4 := length_putU32 _
@[simp] theorem length_putDigest (digest : Digest) : (putDigest digest).length = 32 := by
  rw [putDigest, digest.size_eq]

/-- A byte string has its length in front. -/
@[simp] theorem length_putByteString (data : Bytes) :
    (putByteString data).length = 4 + data.length := by
  simp [putByteString]

@[simp] theorem putMany_nil {α : Type} (put : α → Bytes) : putMany put [] = [] := rfl

@[simp] theorem putMany_cons {α : Type} (put : α → Bytes) (x : α) (xs : List α) :
    putMany put (x :: xs) = put x ++ putMany put xs := rfl

/-- Elements that are written one after another. -/
theorem putMany_append {α : Type} (put : α → Bytes) (xs ys : List α) :
    putMany put (xs ++ ys) = putMany put xs ++ putMany put ys := by
  simp [putMany]

/-- Elements of one width. -/
theorem length_putMany {α : Type} {put : α → Bytes} {n : Nat} (h : ∀ x, (put x).length = n)
    (xs : List α) : (putMany put xs).length = n * xs.length := by
  induction xs with
  | nil => simp
  | cons x xs ih => simp only [putMany_cons, List.length_append, h, ih, List.length_cons]; ring

/-- A collection has at least as many bytes as items. -/
theorem length_le_putMany {α : Type} {put : α → Bytes} (h : ∀ x, 0 < (put x).length)
    (xs : List α) : xs.length ≤ (putMany put xs).length := by
  induction xs with
  | nil => simp
  | cons x xs ih =>
      have := h x
      simp only [putMany_cons, List.length_append, List.length_cons]
      omega

/-! ## Failure is sticky -/

/-- A decoder gave up, or its reader recorded a failure. -/
def Failed {α : Type} (out : Except Error α × ByteReader) : Prop :=
  (∃ e, out.1 = .error e) ∨ out.2.error.isSome

/-- A decoder that starts on a failed reader ends in failure. -/
class Sticky {α : Type} (m : Read α) : Prop where
  failed : ∀ r : ByteReader, r.error.isSome → Failed (m.exec r)

section Sticky

variable {α β : Type}

instance (a : α) : Sticky (pure a) := ⟨fun _ h => .inr h⟩

instance (e : Error) : Sticky (throw e : Read α) := ⟨fun _ _ => .inl ⟨e, rfl⟩⟩

instance (r : Result α) : Sticky (liftM r : Read α) := ⟨fun _ h => .inr h⟩

/-- What follows a failed read fails. -/
theorem Failed.bind {m : Read α} {f : α → Read β} [∀ a, Sticky (f a)] {r : ByteReader}
    (h : Failed (m.exec r)) : Failed ((m >>= f).exec r) := by
  rw [Action.exec_bind]
  rcases hx : m.exec r with ⟨answer, r'⟩
  rw [hx] at h
  cases answer with
  | error e => exact .inl ⟨e, rfl⟩
  | ok a =>
      have hr : r'.error.isSome := by simpa [Failed] using h
      exact Sticky.failed r' hr

instance (m : Read α) (f : α → Read β) [Sticky m] [∀ a, Sticky (f a)] : Sticky (m >>= f) :=
  ⟨fun r h => (Sticky.failed r h).bind⟩

instance (f : α → β) (m : Read α) [Sticky m] : Sticky (f <$> m) :=
  inferInstanceAs (Sticky (m >>= fun a => pure (f a)))

instance (p : Prop) [Decidable p] (x y : Read α) [Sticky x] [Sticky y] :
    Sticky (if p then x else y) := by
  split <;> infer_instance

instance (p : Prop) [Decidable p] (e : Error) : Sticky (Action.throwIf p e : Read Unit) := by
  unfold Action.throwIf
  infer_instance

instance (count : Nat) : Sticky (raw count) where
  failed r h := by
    right
    simp [raw, Action.exec_bind, h]

instance : Sticky u8 := inferInstanceAs (Sticky (u8Of <$> raw 1))
instance : Sticky u16 := inferInstanceAs (Sticky (u16Of <$> raw 2))
instance : Sticky u32 := inferInstanceAs (Sticky (u32Of <$> raw 4))
instance : Sticky u64 := inferInstanceAs (Sticky (u64Of <$> raw 8))
instance : Sticky digest := inferInstanceAs (Sticky (Digest.ofBytes <$> raw 32))

/-- The reads that look at the reader again find the failure. -/
instance (a : α) (g : ByteReader → Read α) :
    Sticky (get >>= fun r => if r.error.isSome then pure a else g r) where
  failed r h := by
    right
    simp [Action.exec_bind, h]

instance : Sticky boolean := by unfold boolean; infer_instance
instance (maxBytes : Nat) : Sticky (bytes maxBytes) := by unfold bytes; infer_instance
instance (maxBytes : Nat) : Sticky (string maxBytes) := by unfold string; infer_instance
instance (maxItems : Nat) : Sticky (collectionCount maxItems) := by
  unfold collectionCount; infer_instance

instance : Sticky checkOk where
  failed r h := by
    obtain ⟨e, he⟩ := Option.isSome_iff_exists.mp h
    exact .inl ⟨e, by simp [checkOk, Action.exec_bind, he]⟩

instance (value : Option α) (e : Error) : Sticky (orThrow value e) := by
  cases value with
  | none => exact inferInstanceAs (Sticky (throw e))
  | some a => exact inferInstanceAs (Sticky (pure a))

instance : Sticky requireEnd where
  failed r h := by
    obtain ⟨e, he⟩ := Option.isSome_iff_exists.mp h
    exact .inl ⟨e, by simp [requireEnd, checkOk, Action.exec_bind, he]⟩

/-- A loop of readers stops at the first one that fails. -/
instance sticky_readMany (m : Read α) [Sticky m] (count : Nat) : Sticky (readMany m count) := by
  induction count with
  | zero => exact inferInstanceAs (Sticky (pure []))
  | succ count ih =>
      unfold readMany
      infer_instance

end Sticky

/-! ## Reading what was written -/

/-- On `data`, whatever follows it, the decoder returns `a` and consumes exactly
`data` if `ok`, and fails otherwise. -/
structure Reads {α : Type} (limits : Limits) (ok : Prop) (m : Read α) (data : Bytes) (a : α) :
    Prop where
  exact : ok → ∀ rest, m.exec ⟨data ++ rest, limits, none⟩ = (.ok a, ⟨rest, limits, none⟩)
  failed : ¬ok → ∀ rest, Failed (m.exec ⟨data ++ rest, limits, none⟩)

section Reads

variable {α β : Type} {limits : Limits} {ok ok' : Prop}

/-- The condition may be put another way, and so may the bytes. -/
theorem Reads.congr {m : Read α} {data data' : Bytes} {a : α} (h : Reads limits ok m data a)
    (hok : ok ↔ ok') (hdata : data = data') : Reads limits ok' m data' a := by
  obtain rfl : ok = ok' := propext hok
  exact hdata ▸ h

/-- A reader that reads nothing needs no condition. -/
theorem Reads.pure (a : α) : Reads limits True (pure a) [] a :=
  ⟨fun _ _ => rfl, fun h => absurd trivial h⟩

/-- One reader after another reads the bytes of both, if both conditions hold, and else fails. -/
theorem Reads.bind {m : Read α} {f : α → Read β} {data data' : Bytes} {a : α} {b : β}
    [∀ a, Sticky (f a)] (hm : Reads limits ok m data a) (hf : Reads limits ok' (f a) data' b) :
    Reads limits (ok ∧ ok') (m >>= f) (data ++ data') b := by
  constructor
  · rintro ⟨h, h'⟩ rest
    rw [List.append_assoc, Action.exec_bind_of_ok (hm.exact h _)]
    exact hf.exact h' rest
  · intro hno rest
    rw [List.append_assoc]
    by_cases h : ok
    · rw [Action.exec_bind_of_ok (hm.exact h _)]
      exact hf.failed (fun h' => hno ⟨h, h'⟩) rest
    · exact (hm.failed h (data' ++ rest)).bind

/-- What is made of a value is read where the value is. -/
theorem Reads.map {m : Read α} {data : Bytes} {a : α} (f : α → β)
    (h : Reads limits ok m data a) : Reads limits ok (f <$> m) data (f a) :=
  (h.bind (f := fun a => Pure.pure (f a)) (Reads.pure (f a))).congr (by simp) (by simp)

/-- A check of the values decoded so far. -/
theorem Reads.throwIf {p : Prop} [Decidable p] {e : Error} :
    Reads limits (¬p) (Action.throwIf p e) [] () := by
  constructor
  · intro hp rest
    simp [hp]
  · intro hp rest
    exact .inl ⟨e, by simp [not_not.mp hp]⟩

/-- A code that is known is let through. -/
theorem Reads.orThrow {value : Option α} {a : α} {e : Error} (h : value = some a) :
    Reads limits True (orThrow value e) [] a := by
  subst h
  exact Reads.pure a

/-- A check made by a function of its own. -/
theorem Reads.status (r : Status) : Reads limits (r = .ok ()) (liftM r) [] () := by
  constructor
  · intro h rest
    simp [h]
  · intro h rest
    cases r with
    | error e => exact .inl ⟨e, rfl⟩
    | ok u => exact absurd rfl h

/-- `raw` reads its bytes exactly if the allocation bound admits so many. -/
theorem Reads.raw (data : Bytes) :
    Reads limits (data.length ≤ limits.maxAllocationBytes.toNat) (raw data.length) data data := by
  constructor
  · intro h rest
    have h' : ¬data.length > limits.maxAllocationBytes.toNat := by omega
    simp [ByteReader.raw, Action.exec_bind, h']
  · intro h rest
    have h' : data.length > limits.maxAllocationBytes.toNat := by omega
    right
    simp [ByteReader.raw, Action.exec_bind, h', fail]

/-- A field of fixed width. -/
theorem Reads.fixed {data : Bytes} {width : Nat} {a : α} (get : Bytes → α)
    (hwidth : data.length = width) (hget : get data = a) :
    Reads limits (width ≤ limits.maxAllocationBytes.toNat) (get <$> ByteReader.raw width) data a := by
  subst hwidth hget
  exact (Reads.raw data).map get

/-- One byte is read under any bound but 0. -/
theorem Reads.u8 (value : UInt8) :
    Reads limits (1 ≤ limits.maxAllocationBytes.toNat) u8 (putU8 value) value :=
  Reads.fixed u8Of (length_putU8 value) rfl

/-- Two bytes are read if the bound admits them. -/
theorem Reads.u16 (value : UInt16) :
    Reads limits (2 ≤ limits.maxAllocationBytes.toNat) u16 (putU16 value) value :=
  Reads.fixed u16Of (length_putU16 value) (u16Of_putU16 value)

/-- Four bytes are read if the bound admits them. -/
theorem Reads.u32 (value : UInt32) :
    Reads limits (4 ≤ limits.maxAllocationBytes.toNat) u32 (putU32 value) value :=
  Reads.fixed u32Of (length_putU32 value) (u32Of_putU32 value)

/-- Eight bytes are read if the bound admits them. -/
theorem Reads.u64 (value : UInt64) :
    Reads limits (8 ≤ limits.maxAllocationBytes.toNat) u64 (putU64 value) value :=
  Reads.fixed u64Of (length_putU64 value) (u64Of_putU64 value)

/-- A digest is read if the bound admits 32 bytes. -/
theorem Reads.digest (value : Digest) :
    Reads limits (32 ≤ limits.maxAllocationBytes.toNat) digest (putDigest value) value :=
  Reads.fixed Digest.ofBytes (length_putDigest value) (by rw [putDigest, Digest.ofBytes_bytes])

/-! ### Reads that check the value they read -/

/-- A bound checked on a reader that has not failed yet. -/
theorem Reads.bounded {p : Prop} [Decidable p] {code : ErrorCode} {detail : String} {x y : α}
    {m : Read α} {data : Bytes} {a : α} (h : Reads limits ok m data a) :
    Reads limits (¬p ∧ ok)
      (get >>= fun r =>
        if r.error.isSome then Pure.pure x
        else if p then set (r.fail code detail) >>= fun _ => Pure.pure y
        else m) data a := by
  constructor
  · rintro ⟨hp, hok⟩ rest
    simpa [Action.exec_bind, hp] using h.exact hok rest
  · intro hno rest
    by_cases hp : p
    · right
      simp [Action.exec_bind, hp, fail]
    · simpa [Action.exec_bind, hp] using h.failed (fun hok => hno ⟨hp, hok⟩) rest

/-- A flag that was written is one of the two bytes that are read as flags. -/
theorem Reads.boolean (value : Bool) :
    Reads limits (1 ≤ limits.maxAllocationBytes.toNat) boolean (putBool value) value := by
  cases value with
  | false =>
      exact ((Reads.u8 0).bind (Reads.bounded (Reads.pure false))).congr (by simp) rfl
  | true =>
      exact ((Reads.u8 1).bind (Reads.bounded (Reads.pure true))).congr (by simp) rfl

/-- A length that fits 32 bits is written as it is. -/
theorem toNat_ofNat_of_lt {n : Nat} (h : n < 2 ^ 32) : (UInt32.ofNat n).toNat = n := by
  simp only [UInt32.toNat_ofNat']
  exact Nat.mod_eq_of_lt h

/-- `put_byte_string` read back by `bytes`. -/
theorem Reads.bytes {data : Bytes} (maxBytes : Nat) (h : data.length < 2 ^ 32) :
    Reads limits
      (4 ≤ limits.maxAllocationBytes.toNat ∧ data.length ≤ maxBytes ∧
        data.length ≤ limits.maxAllocationBytes.toNat)
      (bytes maxBytes) (putByteString data) data := by
  have hraw : Reads limits _ _ data data := Reads.raw data
  rw [← toNat_ofNat_of_lt h] at hraw
  refine ((Reads.u32 _).bind (Reads.bounded hraw)).congr ?_ rfl
  rw [toNat_ofNat_of_lt h, not_lt]

/-- `put_string` read back by `string`. -/
theorem Reads.string {text : Bytes} (maxBytes : Nat) (h : text.length < 2 ^ 32) :
    Reads limits
      (4 ≤ limits.maxAllocationBytes.toNat ∧ text.length ≤ maxBytes ∧
        text.length ≤ limits.maxAllocationBytes.toNat ∧ isValidUtf8 text)
      (string maxBytes) (putByteString text) text := by
  have hraw : Reads limits _ _ text text := Reads.raw text
  rw [← toNat_ofNat_of_lt h] at hraw
  refine ((Reads.u32 _).bind (Reads.bounded (hraw.bind (Reads.bounded (Reads.pure text))))).congr
    ?_ (by simp [putByteString])
  rw [toNat_ofNat_of_lt h, not_lt]
  simp

/-- The reader after the 32 bits of a count. -/
theorem exec_putCount {g : UInt32 → Read β} {n : Nat} {tail : Bytes}
    (h : 4 ≤ limits.maxAllocationBytes.toNat) :
    (ByteReader.u32 >>= g).exec ⟨putCount n ++ tail, limits, none⟩ =
      (g (UInt32.ofNat n)).exec ⟨tail, limits, none⟩ :=
  Action.exec_bind_of_ok ((Reads.u32 (UInt32.ofNat n)).exact h tail)

/-- The bounds `collection_count` checks on a count it reads. -/
def CountOk (limits : Limits) (maxItems n : Nat) : Prop :=
  4 ≤ limits.maxAllocationBytes.toNat ∧ n ≤ maxItems ∧ n ≤ limits.maxCollectionItems.toNat

/-- A count within the bounds is read, if as many bytes are left as there are elements. -/
theorem exec_collectionCount {maxItems n : Nat} {tail : Bytes} (hn : n < 2 ^ 32)
    (htail : n ≤ tail.length) (h : CountOk limits maxItems n) :
    (collectionCount maxItems).exec ⟨putCount n ++ tail, limits, none⟩ =
      (.ok n, ⟨tail, limits, none⟩) := by
  obtain ⟨h4, hmax, hitems⟩ := h
  have hdeclared := toNat_ofNat_of_lt hn
  rw [collectionCount, exec_putCount h4]
  simp [Action.exec_bind, hdeclared, UInt32.lt_iff_toNat_lt, Nat.not_lt.mpr hmax,
    Nat.not_lt.mpr hitems, Nat.not_lt.mpr htail]

/-- A count outside the bounds is refused. -/
theorem failed_collectionCount {maxItems n : Nat} {tail : Bytes} (hn : n < 2 ^ 32)
    (h : ¬CountOk limits maxItems n) :
    Failed ((collectionCount maxItems).exec ⟨putCount n ++ tail, limits, none⟩) := by
  have hdeclared := toNat_ofNat_of_lt hn
  by_cases h4 : 4 ≤ limits.maxAllocationBytes.toNat
  · rw [collectionCount, exec_putCount h4]
    right
    by_cases hmax : n > maxItems
    · simp [Action.exec_bind, hdeclared, hmax, fail]
    · have hitems : limits.maxCollectionItems.toNat < n := by
        by_contra hle
        exact h ⟨h4, by omega, by omega⟩
      simp [Action.exec_bind, hdeclared, hmax, UInt32.lt_iff_toNat_lt, hitems, fail]
  · rw [collectionCount]
    exact ((Reads.u32 (UInt32.ofNat n)).failed h4 tail).bind

/-- A collection count, and what is read behind it.  The count must not exceed the
bytes that follow it, so the rule speaks of the two together. -/
theorem Reads.count {f : Nat → Read β} {n : Nat} {data : Bytes} {b : β} {maxItems : Nat}
    [∀ n, Sticky (f n)] (hn : n < 2 ^ 32) (hdata : n ≤ data.length)
    (hf : Reads limits ok (f n) data b) :
    Reads limits (CountOk limits maxItems n ∧ ok) (collectionCount maxItems >>= f)
      (putCount n ++ data) b := by
  constructor
  · rintro ⟨h, hok⟩ rest
    have htail : n ≤ (data ++ rest).length := by
      rw [List.length_append]
      omega
    rw [List.append_assoc, Action.exec_bind_of_ok (exec_collectionCount hn htail h)]
    exact hf.exact hok rest
  · intro hno rest
    rw [List.append_assoc]
    by_cases h : CountOk limits maxItems n
    · have htail : n ≤ (data ++ rest).length := by
        rw [List.length_append]
        omega
      rw [Action.exec_bind_of_ok (exec_collectionCount hn htail h)]
      exact hf.failed (fun hok => hno ⟨h, hok⟩) rest
    · exact (failed_collectionCount hn h).bind

/-- A run of elements is read back if each of them is. -/
theorem Reads.many {put : α → Bytes} {read : Read α} {cond : α → Prop} [Sticky read] {xs : List α}
    (h : ∀ x ∈ xs, Reads limits (cond x) read (put x) x) :
    Reads limits (∀ x ∈ xs, cond x) (readMany read xs.length) (putMany put xs) xs := by
  induction xs with
  | nil => exact (Reads.pure []).congr (by simp) rfl
  | cons x xs ih =>
      have hx := h x List.mem_cons_self
      have hxs := ih fun y hy => h y (List.mem_cons_of_mem x hy)
      have hcons := hx.bind (f := fun item => readMany read xs.length >>= fun items =>
        Pure.pure (item :: items)) (hxs.bind (Reads.pure (x :: xs)))
      exact hcons.congr (by simp) (by simp)

/-! ### Whole payloads -/

/-- A look at the error finds none. -/
theorem Reads.checkOk : Reads limits True checkOk [] () :=
  ⟨fun _ _ => rfl, fun h => absurd trivial h⟩

/-- A payload that holds exactly the written bytes decodes to what was written. -/
theorem Reads.decode_toEnd {m : Read α} {data : Bytes} {a : α} (h : Reads limits ok m data a)
    (hok : ok) : decodeWith (toEnd m) data limits = .ok a := by
  have hm := h.exact hok []
  rw [List.append_nil] at hm
  rw [decodeWith, toEnd, Action.exec_bind_of_ok hm]
  simp [requireEnd, ByteReader.checkOk, Action.exec_bind]

/-- At the end of a payload a failure is reported. -/
theorem Failed.toEnd {m : Read α} {r : ByteReader} (h : Failed (m.exec r)) :
    ∃ e, ((toEnd m).exec r).1 = .error e := by
  rw [ByteReader.toEnd, Action.exec_bind]
  rcases hx : m.exec r with ⟨answer, r'⟩
  rw [hx] at h
  cases answer with
  | error e => exact ⟨e, rfl⟩
  | ok a =>
      obtain ⟨e, he⟩ : ∃ e, r'.error = some e :=
        Option.isSome_iff_exists.mp (by simpa [Failed] using h)
      exact ⟨e, by simp [requireEnd, ByteReader.checkOk, Action.exec_bind, he]⟩

/-- Nothing else is decoded from it, and nothing at all once bytes follow. -/
theorem Reads.of_decode_toEnd {m : Read α} {data rest : Bytes} {a b : α}
    (h : Reads limits ok m data a) (hb : decodeWith (toEnd m) (data ++ rest) limits = .ok b) :
    ok ∧ rest = [] ∧ b = a := by
  by_cases hok : ok
  · rw [decodeWith, toEnd, Action.exec_bind_of_ok (h.exact hok rest)] at hb
    cases rest with
    | nil =>
        refine ⟨hok, rfl, ?_⟩
        simpa [requireEnd, ByteReader.checkOk, Action.exec_bind, eq_comm] using hb
    | cons byte rest =>
        simp [requireEnd, ByteReader.checkOk, Action.exec_bind] at hb
  · obtain ⟨e, he⟩ := (h.failed hok rest).toEnd
    rw [decodeWith, he] at hb
    cases hb

end Reads

end ShuffleFabric
