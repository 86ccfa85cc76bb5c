import ShuffleFabric.Codec.Canonical
import ShuffleFabric.Records.Sound

/-!
# ShuffleFabric.Policy.Canonical

The canonical form of a policy: which of the byte strings that `decode_policy` accepts are the
encoding of what it returns.

Every bound is written as 64 bits, and ten of them are cast to 32 bits when they are read; the
cast is not checked.
-/

namespace ShuffleFabric

open Lib ByteReader

-- The instance that makes a decoder sticky is as long as the decoder.
set_option synthInstance.maxSize 512

variable {limits : Limits}

/-! ## Bounds -/

/-- The bounds as they are written. -/
def Limits.fields (l : Limits) : List UInt64 :=
  [l.maxFramePayloadBytes, l.maxMessagePayloadBytes, l.maxAllocationBytes,
    l.maxStringBytes.toUInt64, l.maxEndpointBytes.toUInt64, l.maxCollectionItems.toUInt64,
    l.maxChunksPerPartition, l.maxPartitions.toUInt64, l.maxParticipants.toUInt64,
    l.maxSelectionPatterns.toUInt64, l.maxSelectionItems, l.maxPlannedEdges, l.maxTrackedEdges,
    l.maxTrackedPartitions, l.maxStateBytes, l.maxJournalRecordBytes,
    l.maxRetainedGenerations.toUInt64, l.maxAttemptRecordsPerShuffle.toUInt64,
    l.maxPendingRetries.toUInt64, l.maxWaveGrants.toUInt64]

/-- The limits are twenty numbers in a row. -/
theorem encodeLimits_eq (l : Limits) : encodeLimits l = putMany putU64 l.fields := by
  unfold encodeLimits Limits.fields
  simp only [List.append_assoc]
  simp only [putMany_cons, putMany_nil, List.append_nil]

/-- The places of the bounds that are kept in 32 bits. -/
def narrowFields : List Nat := [3, 4, 5, 7, 8, 9, 16, 17, 18, 19]

/-- The cast to 32 bits and back loses nothing below `2 ^ 32`. -/
theorem mod_eq_self_iff (value : UInt64) :
    value % 0x100000000 = value ↔ value < 0x100000000 := by
  rw [← UInt64.toNat_inj, UInt64.lt_iff_toNat_lt, UInt64.toNat_mod]
  simp only [UInt64.reduceToNat]
  omega

/-- The reader of the limits takes twenty numbers; it keeps them all unless one does not fit 32
bits. -/
theorem takes_limits : Takes limits decodeLimits fun l taken => ∃ written : List UInt64,
    written.length = 20 ∧ taken = putMany putU64 written ∧
      (l.fields = written ↔ ∀ i ∈ narrowFields, written.getD i 0 < 0x100000000) := by
  refine Takes.u64.bind fun w₀ data₀ h₀ => Takes.u64.bind fun w₁ data₁ h₁ =>
    Takes.u64.bind fun w₂ data₂ h₂ => Takes.u64.bind fun w₃ data₃ h₃ =>
    Takes.u64.bind fun w₄ data₄ h₄ => Takes.u64.bind fun w₅ data₅ h₅ =>
    Takes.u64.bind fun w₆ data₆ h₆ => Takes.u64.bind fun w₇ data₇ h₇ =>
    Takes.u64.bind fun w₈ data₈ h₈ => Takes.u64.bind fun w₉ data₉ h₉ =>
    Takes.u64.bind fun w₁₀ data₁₀ h₁₀ => Takes.u64.bind fun w₁₁ data₁₁ h₁₁ =>
    Takes.u64.bind fun w₁₂ data₁₂ h₁₂ => Takes.u64.bind fun w₁₃ data₁₃ h₁₃ =>
    Takes.u64.bind fun w₁₄ data₁₄ h₁₄ => Takes.u64.bind fun w₁₅ data₁₅ h₁₅ =>
    Takes.u64.bind fun w₁₆ data₁₆ h₁₆ => Takes.u64.bind fun w₁₇ data₁₇ h₁₇ =>
    Takes.u64.bind fun w₁₈ data₁₈ h₁₈ => Takes.u64.bind fun w₁₉ data₁₉ h₁₉ => Takes.pure ?_
  refine ⟨[w₀, w₁, w₂, w₃, w₄, w₅, w₆, w₇, w₈, w₉, w₁₀, w₁₁, w₁₂, w₁₃, w₁₄, w₁₅, w₁₆, w₁₇, w₁₈,
    w₁₉], rfl, ?_, ?_⟩
  · simp only [putMany_cons, putMany_nil, h₀.1, h₁.1, h₂.1, h₃.1, h₄.1, h₅.1, h₆.1, h₇.1, h₈.1,
      h₉.1, h₁₀.1, h₁₁.1, h₁₂.1, h₁₃.1, h₁₄.1, h₁₅.1, h₁₆.1, h₁₇.1, h₁₈.1, h₁₉.1]
  · simp [Limits.fields, narrowFields, mod_eq_self_iff]

/-! ## Policies -/

/-- The encoding of a policy up to its bounds. -/
def policyHead (p : PolicyEnvelope) : Bytes :=
  putU64 p.shuffle ++ putU64 p.shuffleGeneration ++ putU64 p.generation ++
  putU32 p.fan.maxFanOut ++ putU32 p.fan.maxFanIn ++
  putU32 p.concurrency.global ++ putU32 p.concurrency.perSource ++
  putU32 p.concurrency.perDestination ++
  putU32 p.waves.maxGrantsPerWave ++ putU32 p.waves.maxEdgesExaminedPerWave ++
  putU32 p.retry.maxAttempts ++ putU32 p.retry.minTicksBetweenAttempts ++
  putU32 p.congestion.pauseThreshold ++ putU32 p.congestion.resumeThreshold ++
  putBool p.congestion.requireFreshEvidence ++ putU32 p.congestion.evidenceValidityTicks

/-- A policy is its head and its limits. -/
theorem encodePolicy_eq (p : PolicyEnvelope) :
    encodePolicy p = policyHead p ++ putMany putU64 p.limits.fields := by
  rw [← encodeLimits_eq]
  rfl

theorem length_policyHead (p : PolicyEnvelope) : (policyHead p).length = 73 := by
  simp [policyHead]

/-- The reader of a policy takes a head and twenty numbers. -/
theorem takes_policy : Takes limits decodePolicy fun p taken => ∃ written : List UInt64,
    written.length = 20 ∧ taken = policyHead p ++ putMany putU64 written ∧
      (p.limits.fields = written ↔ ∀ i ∈ narrowFields, written.getD i 0 < 0x100000000) := by
  refine Takes.u64.bind fun shuffle data₁ h₁ => Takes.u64.bind fun shuffleGeneration data₂ h₂ =>
    Takes.u64.bind fun generation data₃ h₃ => Takes.u32.bind fun maxFanOut data₄ h₄ =>
    Takes.u32.bind fun maxFanIn data₅ h₅ => Takes.u32.bind fun overall data₆ h₆ =>
    Takes.u32.bind fun perSource data₇ h₇ => Takes.u32.bind fun perDestination data₈ h₈ =>
    Takes.u32.bind fun maxGrantsPerWave data₉ h₉ =>
    Takes.u32.bind fun maxEdgesExaminedPerWave data₁₀ h₁₀ =>
    Takes.u32.bind fun maxAttempts data₁₁ h₁₁ =>
    Takes.u32.bind fun minTicksBetweenAttempts data₁₂ h₁₂ =>
    Takes.u32.bind fun pauseThreshold data₁₃ h₁₃ =>
    Takes.u32.bind fun resumeThreshold data₁₄ h₁₄ =>
    Takes.boolean.bind fun requireFreshEvidence data₁₅ h₁₅ =>
    Takes.u32.bind fun evidenceValidityTicks data₁₆ h₁₆ =>
    takes_limits.bind fun bounds data₁₇ h₁₇ => Takes.checkOk.bind fun _ data₁₈ h₁₈ =>
    (Takes.status _).bind fun _ data₁₉ h₁₉ => Takes.pure ?_
  obtain ⟨written, hlength, hdata, hnarrow⟩ := h₁₇
  refine ⟨written, hlength, ?_, hnarrow⟩
  simp only [policyHead, h₁.1, h₂.1, h₃.1, h₄.1, h₅.1, h₆.1, h₇.1, h₈.1, h₉.1, h₁₀.1, h₁₁.1,
    h₁₂.1, h₁₃.1, h₁₄.1, h₁₅.1, h₁₆.1, hdata, h₁₈, h₁₉.1, List.append_assoc, List.append_nil]

/-! ## What was written where -/

/-- The bound at one place of an encoded policy. -/
def boundAt (data : Bytes) (i : Nat) : UInt64 := u64Of ((data.drop (73 + 8 * i)).take 8)

/-- No bound that is kept in 32 bits is written with more. -/
def BoundsFit (data : Bytes) : Prop := ∀ i ∈ narrowFields, boundAt data i < 0x100000000

/-- One number of a row. -/
theorem take_drop_putMany (written : List UInt64) (rest : Bytes) {i : Nat}
    (h : i < written.length) :
    ((putMany putU64 written ++ rest).drop (8 * i)).take 8 = putU64 (written.getD i 0) := by
  induction written generalizing i with
  | nil => cases h
  | cons first written ih =>
      cases i with
      | zero => simp
      | succ i =>
          have hskip : 8 * (i + 1) = (putU64 first).length + 8 * i := by
            rw [length_putU64]
            omega
          rw [putMany_cons, List.append_assoc, hskip, ← List.drop_drop, List.drop_left,
            ih (Nat.lt_of_succ_lt_succ h), List.getD_cons_succ]

/-- Where a bound is found in the encoding of a policy. -/
theorem boundAt_eq (p : PolicyEnvelope) {written : List UInt64} (hlength : written.length = 20)
    (rest : Bytes) {i : Nat} (hi : i ∈ narrowFields) :
    boundAt (policyHead p ++ putMany putU64 written ++ rest) i = written.getD i 0 := by
  have hlt : i < written.length := by
    rw [hlength]
    revert i
    decide
  rw [boundAt, ← List.drop_drop, List.append_assoc, ← length_policyHead p, List.drop_left,
    take_drop_putMany written rest hlt, u64Of_putU64]

/-- A decoder that has checked its reader last leaves a reader without a failure. -/
structure Clean {α : Type} (m : Read α) : Prop where
  clean : ∀ {r r' : ByteReader} {a : α}, m.exec r = (.ok a, r') → r'.error = none

theorem Clean.bind {α β : Type} {m : Read α} {f : α → Read β} (h : ∀ a, Clean (f a)) :
    Clean (m >>= f) := by
  refine ⟨fun hexec => ?_⟩
  obtain ⟨a, r, -, hrest⟩ := Action.exec_bind_ok hexec
  exact (h a).clean hrest

theorem clean_checkOk : Clean checkOk := by
  refine ⟨fun {r r' a} hexec => ?_⟩
  cases hr : r.error with
  | some e => simp [checkOk, Action.exec_bind, hr] at hexec
  | none =>
      simp only [checkOk, Action.exec_bind_of_ok (Action.exec_get _), hr] at hexec
      cases hexec
      exact hr

/-- Checks of what was read do not touch the reader. -/
theorem Clean.followed {α β : Type} {m : Read α} {f : α → Read β} (h : Clean m)
    (hf : ∀ a r r' b, (f a).exec r = (.ok b, r') → r' = r) : Clean (m >>= f) := by
  refine ⟨fun hexec => ?_⟩
  obtain ⟨a, r, hread, hrest⟩ := Action.exec_bind_ok hexec
  rw [hf a r _ _ hrest]
  exact h.clean hread

/-- A policy that is read leaves no error behind. -/
theorem clean_policy : Clean decodePolicy := by
  unfold decodePolicy
  iterate 17 refine Clean.bind fun _ => ?_
  refine clean_checkOk.followed fun _ r r' policy hexec => ?_
  obtain ⟨u, r₁, hvalid, hpure⟩ := Action.exec_bind_ok hexec
  rw [Action.exec_liftM, Prod.mk.injEq] at hvalid
  cases hpure
  exact hvalid.2.symm

/-- Whatever `decode_policy` accepts is the encoding of what it returns exactly if the bounds
that are kept in 32 bits are written with no more than that. -/
theorem decodePolicy_canonical_iff {data : Bytes} {p : PolicyEnvelope} {r : ByteReader}
    (h : decodePolicy.exec ⟨data, limits, none⟩ = (.ok p, r)) :
    data = encodePolicy p ++ r.data ↔ BoundsFit data := by
  obtain ⟨taken, rfl, -, written, hlength, rfl, hnarrow⟩ :=
    takes_policy.taken h (clean_policy.clean h)
  have hbounds : BoundsFit (policyHead p ++ putMany putU64 written ++ r.data) ↔
      ∀ i ∈ narrowFields, written.getD i 0 < 0x100000000 :=
    forall₂_congr fun i hi => by rw [boundAt_eq p hlength r.data hi]
  have hfields : putMany putU64 written = putMany putU64 p.limits.fields ↔
      p.limits.fields = written :=
    ⟨fun heq => (putMany_inj (by decide) length_putU64 (fun _ _ => putU64_inj) heq).symm,
      fun heq => by rw [heq]⟩
  rw [hbounds, ← hnarrow, ← hfields, encodePolicy_eq, List.append_left_inj,
    List.append_right_inj]

/-- A valid policy is read back from its encoding, whatever follows it, exactly if the reader
may hand out eight bytes; and what is accepted is the encoding of what is returned exactly if
no bound kept in 32 bits is written with more. -/
theorem policy_codec_iff (limits : Limits) :
    (∀ p, validatePolicy p = .ok () →
      ((∀ rest, decodePolicy.exec ⟨encodePolicy p ++ rest, limits, none⟩ =
        (.ok p, ⟨rest, limits, none⟩)) ↔ 8 ≤ limits.maxAllocationBytes.toNat)) ∧
    ∀ data p r, decodePolicy.exec ⟨data, limits, none⟩ = (.ok p, r) →
      (data = encodePolicy p ++ r.data ↔ BoundsFit data) := by
  refine ⟨fun p hvalid => ⟨fun h => ?_, fun h8 => ?_⟩, fun data p r =>
    decodePolicy_canonical_iff⟩
  · by_contra hsmall
    have hfailed := (reads_policy p).failed (fun h => hsmall h.1) []
    rw [h []] at hfailed
    rcases hfailed with ⟨e, he⟩ | herror
    · cases he
    · cases herror
  · exact (reads_policy p).exact ⟨h8, hvalid⟩

/-- A policy whose string bound is written as `2 ^ 32 + 4096`. -/
def wideBound : Bytes :=
  policyHead { shuffle := 1 } ++
    putMany putU64 (({} : Limits).fields.set 3 (0x100000000 + 4096))

/-- The wide bound is accepted and read as 4096: the bytes are not the encoding of the policy
that is returned. -/
theorem wide_bound_altered :
    ¬∀ (limits : Limits) (data : Bytes) (p : PolicyEnvelope) (r : ByteReader),
      decodePolicy.exec ⟨data, limits, none⟩ = (.ok p, r) → data = encodePolicy p ++ r.data := by
  intro h
  have hread : (decodePolicy.exec ⟨wideBound, {}, none⟩).1 = .ok { shuffle := 1 } ∧
      (decodePolicy.exec ⟨wideBound, {}, none⟩).2.data = [] := by
    decide +kernel
  have hdata := h {} wideBound { shuffle := 1 } _ (Prod.ext hread.1 rfl)
  rw [hread.2] at hdata
  revert hdata
  decide +kernel

end ShuffleFabric
