import ShuffleFabric.Manifest.Canonical
import ShuffleFabric.Policy.Canonical

/-!
# ShuffleFabric.Records.Canonical

The canonical form of the durable records: five of the six kinds have no second encoding.

The sixth embeds a policy, whose decoder narrows some of its fields.
-/

namespace ShuffleFabric

open Lib ByteReader

-- The instance that makes a decoder sticky is as long as the decoder.
set_option synthInstance.maxSize 512

variable {limits : Limits}

/-! ## Enumerations -/

/-- A code that was read is the code of the kind. -/
theorem ParticipantKind.toUInt8_of_ofUInt8 {value : UInt8} {kind : ParticipantKind}
    (h : ofUInt8 value = some kind) : kind.toUInt8 = value := by
  unfold ofUInt8 at h
  split at h <;> cases h <;> rfl

/-- A code that was read is the code of the state. -/
theorem ParticipantState.toUInt8_of_ofUInt8 {value : UInt8} {state : ParticipantState}
    (h : ofUInt8 value = some state) : state.toUInt8 = value := by
  unfold ofUInt8 at h
  split at h <;> cases h <;> rfl

/-- A code that was read is the code of the kind of selection. -/
theorem SelectionKind.toUInt8_of_ofUInt8 {value : UInt8} {kind : SelectionKind}
    (h : ofUInt8 value = some kind) : kind.toUInt8 = value := by
  unfold ofUInt8 at h
  split at h <;> cases h <;> rfl

/-! ## Records -/

/-- An epoch record is read from its own bytes. -/
theorem takes_epoch : Takes limits EpochRecord.decode fun r taken =>
    putU16 1 ++ taken = r.encode := by
  refine Takes.u64.bind fun epoch data₁ h₁ => Takes.u64.bind fun openedAt data₂ h₂ =>
    Takes.checkOk.bind fun _ data₃ h₃ => Takes.pure ?_
  simp only [EpochRecord.encode, h₁.1, h₂.1, h₃, List.append_assoc, List.append_nil]

/-- A lifecycle record ends well like the others; its policy may have been altered. -/
theorem takes_shuffleState : Takes limits ShuffleStateRecord.decode fun _ _ => True :=
  Takes.u64.bind fun _ _ _ => Takes.u64.bind fun _ _ _ => Takes.u32.bind fun _ _ _ =>
    Takes.u16.bind fun _ _ _ => Takes.u16.bind fun _ _ _ => Takes.u64.bind fun _ _ _ =>
    Takes.checkOk.bind fun _ _ _ => Takes.orThrow.bind fun _ _ _ =>
    takes_policy.bind fun _ _ _ => Takes.throwIf.bind fun _ _ _ => Takes.pure trivial

/-- The check of a list reads nothing. -/
theorem takes_selectionList (kind : SelectionKind) (list : List PartitionId) :
    Takes limits (checkSelectionList kind list) fun _ taken => taken = [] := by
  unfold checkSelectionList
  split
  · exact Takes.throwIf.mono fun _ _ h => h.1
  · exact Takes.throwIf.mono fun _ _ h => h.1

/-- A selection is read from its own bytes. -/
theorem takes_selection : Takes limits (readSelection limits) fun s taken =>
    taken = writeSelection s := by
  refine Takes.u8.bind fun raw data₁ h₁ => Takes.orThrow.bind fun kind data₂ h₂ =>
    Takes.u64.bind fun first data₃ h₃ => Takes.u64.bind fun last data₄ h₄ =>
    (Takes.collectionCount _).bind fun count data₅ h₅ => Takes.checkOk.bind fun _ data₆ h₆ =>
    (Takes.many (Takes.u64.mono fun _ _ h => h.1) count).bind fun list data₇ h₇ =>
    Takes.checkOk.bind fun _ data₈ h₈ => (takes_selectionList kind list).bind fun _ data₉ h₉ =>
    Takes.pure ?_
  obtain ⟨rfl, htaken⟩ := h₇
  simp only [writeSelection, SelectionKind.toUInt8_of_ofUInt8 h₂.2, h₁.1, h₂.1, h₃.1, h₄.1, h₅.1,
    h₆, htaken, h₈, h₉, List.append_assoc, List.append_nil, List.nil_append]

/-- A participant record is read from its own bytes. -/
theorem takes_participant : Takes limits (ParticipantRecord.decode limits) fun r taken =>
    putU16 3 ++ taken = r.encode := by
  refine Takes.u8.bind fun rawKind data₁ h₁ => Takes.u64.bind fun id data₂ h₂ =>
    Takes.u64.bind fun incarnation data₃ h₃ => Takes.u8.bind fun rawState data₄ h₄ =>
    (Takes.string _).bind fun endpoint data₅ h₅ => Takes.checkOk.bind fun _ data₆ h₆ =>
    Takes.orThrow.bind fun kind data₇ h₇ => Takes.orThrow.bind fun state data₈ h₈ =>
    takes_selection.bind fun selection data₉ h₉ => Takes.u64.bind fun atTick data₁₀ h₁₀ =>
    Takes.checkOk.bind fun _ data₁₁ h₁₁ => Takes.pure ?_
  simp only [ParticipantRecord.encode, ParticipantKind.toUInt8_of_ofUInt8 h₇.2,
    ParticipantState.toUInt8_of_ofUInt8 h₈.2, h₁.1, h₂.1, h₃.1, h₄.1, h₅.1, h₆, h₇.1, h₈.1, h₉,
    h₁₀.1, h₁₁, List.append_assoc, List.append_nil, List.nil_append]

/-- A manifest record is read from the bytes of its manifest. -/
theorem takes_manifestRecord : Takes limits (ManifestRecord.decode limits) fun r taken =>
    taken = putByteString (manifestBytes r.manifest) := by
  refine (Takes.bytes _).bind fun encoded data₁ h₁ => Takes.checkOk.bind fun _ data₂ h₂ => ?_
  refine ⟨fun {data r a} hexec herror => ?_⟩
  obtain ⟨manifest, r₁, hdecode, hexec⟩ := Action.exec_bind_ok hexec
  rw [Action.exec_liftM, Prod.mk.injEq] at hdecode
  obtain ⟨hdecode, rfl⟩ := hdecode
  cases hexec
  obtain ⟨rfl, -, -⟩ := decodeManifest_eq_ok hdecode
  exact ⟨[], rfl, rfl, by simp only [h₁.1, h₂, List.append_nil]⟩

/-- A completion is read from its own bytes. -/
theorem takes_commitRequest : Takes limits (readCommitRequest limits) fun request taken =>
    taken = writeCommitRequest request := by
  refine Takes.u64.bind fun partition data₁ h₁ => Takes.u64.bind fun generation data₂ h₂ =>
    Takes.u64.bind fun edgeConsumer data₃ h₃ => Takes.u64.bind fun attempt data₄ h₄ =>
    Takes.u64.bind fun wave data₅ h₅ => Takes.u64.bind fun shuffleGeneration data₆ h₆ =>
    Takes.u64.bind fun topologyGeneration data₇ h₇ =>
    Takes.u64.bind fun policyGeneration data₈ h₈ => Takes.u64.bind fun producer data₉ h₉ =>
    Takes.u64.bind fun producerIncarnation data₁₀ h₁₀ =>
    Takes.u64.bind fun consumer data₁₁ h₁₁ => Takes.u64.bind fun consumerIncarnation data₁₂ h₁₂ =>
    Takes.digest.bind fun manifestDigest data₁₃ h₁₃ =>
    Takes.digest.bind fun observed data₁₄ h₁₄ => Takes.boolean.bind fun verified data₁₅ h₁₅ =>
    Takes.u64.bind fun bytes data₁₆ h₁₆ => (Takes.collectionCount _).bind fun chunks data₁₇ h₁₇ =>
    Takes.checkOk.bind fun _ data₁₈ h₁₈ =>
    (Takes.many (Takes.digest.mono fun _ _ h => h.1) chunks).bind fun digests data₁₉ h₁₉ =>
    Takes.checkOk.bind fun _ data₂₀ h₂₀ => Takes.throwIf.bind fun _ data₂₁ h₂₁ => Takes.pure ?_
  obtain ⟨rfl, htaken⟩ := h₁₉
  simp only [writeCommitRequest, h₁.1, h₂.1, h₃.1, h₄.1, h₅.1, h₆.1, h₇.1, h₈.1, h₉.1, h₁₀.1,
    h₁₁.1, h₁₂.1, h₁₃.1, h₁₄.1, h₁₅.1, h₁₆.1, h₁₇.1, h₁₈, htaken, h₂₀, h₂₁.1, List.append_assoc,
    List.append_nil, List.nil_append]

/-- A commit record is read from its own bytes. -/
theorem takes_commit : Takes limits (CommitRecord.decode limits) fun r taken =>
    putU16 5 ++ taken = r.encode := by
  refine takes_commitRequest.bind fun request data₁ h₁ => Takes.u64.bind fun atTick data₂ h₂ =>
    Takes.checkOk.bind fun _ data₃ h₃ => Takes.pure ?_
  simp only [CommitRecord.encode, h₁, h₂.1, h₃, List.append_assoc, List.append_nil]

/-- A failure record is read from its own bytes. -/
theorem takes_failure : Takes limits FailureRecordDurable.decode fun r taken =>
    putU16 6 ++ taken = r.encode := by
  refine Takes.u64.bind fun partition data₁ h₁ => Takes.u64.bind fun generation data₂ h₂ =>
    Takes.u64.bind fun consumer data₃ h₃ => Takes.u16.bind fun code data₄ h₄ =>
    Takes.boolean.bind fun permanent data₅ h₅ => Takes.u32.bind fun attempts data₆ h₆ =>
    Takes.u64.bind fun recordedAt data₇ h₇ => Takes.u64.bind fun readyAt data₈ h₈ =>
    Takes.checkOk.bind fun _ data₉ h₉ => Takes.throwIf.bind fun _ data₁₀ h₁₀ => Takes.pure ?_
  simp only [FailureRecordDurable.encode, h₁.1, h₂.1, h₃.1, h₄.1, h₅.1, h₆.1, h₇.1, h₈.1, h₉,
    h₁₀.1, List.append_assoc, List.append_nil]

/-! ## Whole records -/

/-- The record does not embed a policy. -/
def DurableRecord.Plain (r : DurableRecord) : Prop := ∀ state, r ≠ .shuffleState state

/-- Whatever the kind tag is, the bytes behind it are those of the record. -/
theorem takes_kind (kind : UInt16) : Takes limits (readKind limits kind) fun r taken =>
    r.Plain → putU16 kind ++ taken = r.encode := by
  unfold readKind
  split
  · next h => exact takes_epoch.map fun a taken htaken _ => h ▸ htaken
  split
  · exact takes_shuffleState.map fun a _ _ hplain => absurd rfl (hplain a)
  split
  · next h => exact takes_participant.map fun a taken htaken _ => h ▸ htaken
  split
  · next h =>
      exact takes_manifestRecord.map fun a taken htaken _ => by rw [htaken, h]; rfl
  split
  · next h => exact takes_commit.map fun a taken htaken _ => h ▸ htaken
  split
  · next h => exact takes_failure.map fun a taken htaken _ => h ▸ htaken
  · exact ⟨fun hexec _ => by cases hexec⟩

/-- A record of any kind without 64-bit values in 32-bit fields. -/
theorem takes_tagged : Takes limits (readTagged limits) fun r taken =>
    r.Plain → taken = r.encode := by
  refine Takes.u16.bind fun kind data₁ h₁ => Takes.checkOk.bind fun _ data₂ h₂ =>
    (takes_kind kind).mono fun r taken h hplain => ?_
  rw [h₁.1, h₂, List.nil_append]
  exact h hplain

/-! ## Selections that were read -/

/-- A list that passes its check makes the selection canonical. -/
theorem takes_canonicalList (kind : SelectionKind) (first last : PartitionId)
    (list : List PartitionId) : Takes limits (checkSelectionList kind list) fun _ _ =>
      PartitionSelection.Canonical { kind, first, last, list } := by
  unfold checkSelectionList PartitionSelection.Canonical
  by_cases hkind : kind = .list
  · simp only [hkind, if_true]
    exact Takes.throwIf.mono fun _ _ h => ⟨fun hempty => h.2 (.inl hempty),
      not_not.mp fun hsorted => h.2 (.inr hsorted)⟩
  · simp only [hkind, if_false]
    exact Takes.throwIf.mono fun _ _ h => not_not.mp h.2

/-- A selection that is read is canonical. -/
theorem takes_canonicalSelection : Takes limits (readSelection limits) fun s _ => s.Canonical :=
  Takes.u8.bind fun _ _ _ => Takes.orThrow.bind fun kind _ _ => Takes.u64.bind fun first _ _ =>
    Takes.u64.bind fun last _ _ => (Takes.collectionCount _).bind fun count _ _ =>
    Takes.checkOk.bind fun _ _ _ =>
    (Takes.many (Takes.u64.mono fun _ _ h => h.1) count).bind fun list _ _ =>
    Takes.checkOk.bind fun _ _ _ => (takes_canonicalList kind first last list).bind fun _ _ h =>
    Takes.pure h

/-- So is that of a participant record. -/
theorem takes_canonicalParticipant :
    Takes limits (ParticipantRecord.decode limits) fun r _ => r.selection.Canonical :=
  Takes.u8.bind fun _ _ _ => Takes.u64.bind fun _ _ _ => Takes.u64.bind fun _ _ _ =>
    Takes.u8.bind fun _ _ _ => (Takes.string _).bind fun _ _ _ => Takes.checkOk.bind fun _ _ _ =>
    Takes.orThrow.bind fun _ _ _ => Takes.orThrow.bind fun _ _ _ =>
    takes_canonicalSelection.bind fun _ _ h => Takes.u64.bind fun _ _ _ =>
    Takes.checkOk.bind fun _ _ _ => Takes.pure h

/-- So is that of any record. -/
theorem takes_canonicalKind (kind : UInt16) : Takes limits (readKind limits kind) fun r _ =>
    ∀ record, r = .participant record → record.selection.Canonical := by
  unfold readKind
  split
  · exact takes_epoch.map fun a _ _ record h => by cases h
  split
  · exact takes_shuffleState.map fun a _ _ record h => by cases h
  split
  · exact takes_canonicalParticipant.map fun a _ hcanonical record h => by
      cases h
      exact hcanonical
  split
  · exact takes_manifestRecord.map fun a _ _ record h => by cases h
  split
  · exact takes_commit.map fun a _ _ record h => by cases h
  split
  · exact takes_failure.map fun a _ _ record h => by cases h
  · exact ⟨fun hexec _ => by cases hexec⟩

/-- Whatever bytes a participant record was read from, its selection is in canonical form. -/
theorem canonical_of_decodeRecord {bytes : Bytes} {record : ParticipantRecord}
    (h : decodeRecord limits bytes = .ok (.participant record)) : record.selection.Canonical := by
  have htagged : Takes limits (readTagged limits) fun r _ =>
      ∀ record, r = .participant record → record.selection.Canonical :=
    Takes.u16.bind fun kind _ _ => Takes.checkOk.bind fun _ _ _ => takes_canonicalKind kind
  exact htagged.decode_toEnd h record rfl

/-! ## The codec -/

/-- A record that the decoder accepts fits its 32-bit length fields. -/
theorem Decodable.measured {r : DurableRecord} (h : Decodable limits r) : Measured r := by
  cases r with
  | participant r => exact lt_of_le_of_lt h.2.1 limits.maxEndpointBytes.toNat_lt
  | commit r => exact lt_of_le_of_lt h.2.1.2.2 limits.maxCollectionItems.toNat_lt
  | epochAdvanced => trivial
  | shuffleState => trivial
  | manifest => trivial
  | failure => trivial

/-- What the decoder asks of the values of a record: a valid policy, a canonical selection, an
endpoint in UTF-8, codes it knows, one consumer, and counts within the limits. -/
def Stated (limits : Limits) : DurableRecord → Prop
  | .epochAdvanced _ => True
  | .shuffleState r => validatePolicy r.policy = .ok () ∧ (r.state = .open → r.reason = .ok)
  | .participant r =>
    r.endpoint.length ≤ limits.maxEndpointBytes.toNat ∧ isValidUtf8 r.endpoint ∧
      r.selection.list.length ≤ limits.maxSelectionItems.toNat ∧
      r.selection.list.length ≤ limits.maxCollectionItems.toNat ∧ r.selection.Canonical
  | .manifest r =>
    validateManifest r.manifest limits = .ok () ∧
      r.manifest.chunks.length ≤ limits.maxCollectionItems.toNat
  | .commit r =>
    r.request.observedChunkDigests.length ≤ limits.maxChunksPerPartition.toNat ∧
      r.request.observedChunkDigests.length ≤ limits.maxCollectionItems.toNat ∧
      r.request.edge.consumer = r.request.consumer
  | .failure r => r.code ≠ .ok ∧ r.code.value ≤ ErrorCode.tooManyTrackedEdges.value

/-- What the reader asks of the bytes: every slice it takes is within its bounds, the fixed
fields too. -/
def Sliced (limits : Limits) : DurableRecord → Prop
  | .epochAdvanced _ | .shuffleState _ | .failure _ => 8 ≤ limits.maxAllocationBytes.toNat
  | .participant r =>
    8 ≤ limits.maxAllocationBytes.toNat ∧
      r.endpoint.length ≤ limits.maxAllocationBytes.toNat
  | .manifest r =>
    (manifestBytes r.manifest).length < 2 ^ 32 ∧
      (manifestBytes r.manifest).length ≤ limits.maxMessagePayloadBytes.toNat ∧
      (manifestBytes r.manifest).length ≤ limits.maxAllocationBytes.toNat
  | .commit _ => 32 ≤ limits.maxAllocationBytes.toNat

instance (limits : Limits) : (r : DurableRecord) → Decidable (Stated limits r)
  | .epochAdvanced _ => inferInstanceAs (Decidable True)
  | .shuffleState _ | .participant _ | .manifest _ | .commit _ | .failure _ =>
    inferInstanceAs (Decidable (_ ∧ _))

instance (limits : Limits) : (r : DurableRecord) → Decidable (Sliced limits r)
  | .epochAdvanced _ | .shuffleState _ | .failure _ | .commit _ =>
    inferInstanceAs (Decidable (_ ≤ _))
  | .participant _ | .manifest _ => inferInstanceAs (Decidable (_ ∧ _))

/-- What a record has to state, and what the reader has to slice, is what the decoder asks for. -/
theorem decodable_iff (r : DurableRecord) :
    Decodable limits r ↔ Stated limits r ∧ Sliced limits r := by
  cases r with
  | epochAdvanced r => exact ⟨fun h => ⟨trivial, h⟩, fun h => h.2⟩
  | shuffleState r => exact ⟨fun ⟨h8, h⟩ => ⟨h, h8⟩, fun ⟨h, h8⟩ => ⟨h8, h⟩⟩
  | participant r =>
      constructor
      · rintro ⟨h8, hmax, hraw, hutf8, ⟨-, hselected, hitems⟩, hcanonical⟩
        exact ⟨⟨hmax, hutf8, hselected, hitems, hcanonical⟩, h8, hraw⟩
      · rintro ⟨⟨hmax, hutf8, hselected, hitems, hcanonical⟩, h8, hraw⟩
        exact ⟨h8, hmax, hraw, hutf8, ⟨by omega, hselected, hitems⟩, hcanonical⟩
  | manifest r =>
      exact ⟨fun h => ⟨⟨h.valid, h.items⟩, h.length, h.message, h.allocation⟩,
        fun ⟨⟨hvalid, hitems⟩, hlength, hmessage, halloc⟩ =>
          ⟨hlength, hmessage, halloc, hitems, hvalid⟩⟩
  | commit r =>
      constructor
      · rintro ⟨h32, ⟨-, hmax, hitems⟩, hsame⟩
        exact ⟨⟨hmax, hitems, hsame⟩, h32⟩
      · rintro ⟨⟨hmax, hitems, hsame⟩, h32⟩
        have h32 : 32 ≤ limits.maxAllocationBytes.toNat := h32
        exact ⟨h32, ⟨by omega, hmax, hitems⟩, hsame⟩
  | failure r => exact ⟨fun ⟨h8, h⟩ => ⟨h, h8⟩, fun ⟨h, h8⟩ => ⟨h8, h⟩⟩

/-- The encoder of a manifest record accepts what is stated. -/
theorem encode_manifestRecord {r : ManifestRecord} (h : Stated limits (.manifest r)) :
    r.encode limits = .ok (DurableRecord.manifest r).encode := by
  have hvalid : validateManifest r.manifest limits = .ok () := h.1
  simp only [ManifestRecord.encode, encodeManifest, hvalid]
  rfl

/-- A record that meets the conditions of the decoder, in bytes that its reader may slice, is
read back from them, and nothing is left; and unless a policy is embedded no other bytes are
read as the record. -/
theorem record_codec (limits : Limits) :
    (∀ r, Stated limits r → Sliced limits r → decodeRecord limits r.encode = .ok r) ∧
    (∀ r : ManifestRecord, Stated limits (.manifest r) →
      r.encode limits = .ok (DurableRecord.manifest r).encode) ∧
    ∀ bytes r, decodeRecord limits bytes = .ok r → r.Plain → bytes = r.encode := by
  refine ⟨fun r hstated hsliced => ?_, fun r h => encode_manifestRecord h,
    fun bytes r h hplain => takes_tagged.decode_toEnd h hplain⟩
  have hdecodable := (decodable_iff r).mpr ⟨hstated, hsliced⟩
  exact decodeRecord_encode hdecodable.measured hdecodable

/-- A digest that is not zero. -/
def smallDigest (byte : UInt8) : Digest := ⟨List.replicate 32 byte, by simp⟩

/-- A partition of two chunks. -/
def smallContent : PartitionManifest where
  shuffle := 1
  shuffleGeneration := 1
  partition := 3
  partitionGeneration := 2
  producer := 7
  producerIncarnation := 4
  topologyGeneration := 5
  totalBytes := 5
  chunks := [⟨0, 0, 3, smallDigest 1⟩, ⟨1, 3, 2, smallDigest 2⟩]

/-- The completion of its edge to consumer 2. -/
def smallCompletion : CommitRequest where
  edge := ⟨3, 2, 2⟩
  attempt := 9
  wave := 6
  shuffleGeneration := 1
  topologyGeneration := 5
  policyGeneration := 1
  producer := 7
  producerIncarnation := 4
  consumer := 2
  consumerIncarnation := 8
  manifestDigest := smallDigest 3
  observedPartitionDigest := smallDigest 4
  observedChunkDigests := [smallDigest 1, smallDigest 2]
  bytes := 5
  integrityVerified := true

/-- One record of each kind. -/
def smallRecords : List DurableRecord := [
  .epochAdvanced ⟨3, 17⟩,
  .shuffleState ⟨1, 1, 4, { shuffle := 1, shuffleGeneration := 1, generation := 1 }, .open, .ok, 2⟩,
  .participant ⟨.consumer, 2, 8, .suspect, [0x68, 0x69], { kind := .list, list := [1, 3] }, 5⟩,
  .manifest ⟨smallContent⟩, .commit ⟨smallCompletion, 6⟩,
  .failure ⟨⟨3, 2, 2⟩, .ambiguousOutcome, false, 1, 6, 11⟩]

/-- Six records, one of each kind, are read back under the default limits. -/
theorem record_codec_small : ∀ r ∈ smallRecords, decodeRecord {} r.encode = .ok r := by
  intro r hr
  have hfits : ∀ r ∈ smallRecords, Stated {} r ∧ Sliced {} r := by decide +kernel
  exact (record_codec {}).1 r (hfits r hr).1 (hfits r hr).2

/-- Limits that pass their own check: a slice of `bytes` bytes is the largest. -/
def sliceLimits (bytes : UInt64) : Limits where
  maxFramePayloadBytes := 1
  maxMessagePayloadBytes := bytes
  maxAllocationBytes := bytes
  maxStringBytes := 4
  maxEndpointBytes := 4

/-- A participant whose endpoint takes nine bytes. -/
def smallEndpoint : ParticipantRecord :=
  ⟨.producer, 2, 8, .active, List.replicate 9 0x68, {}, 5⟩

/-- The decoder states nothing about the bytes: under limits that are valid, it refuses an epoch
that it cannot slice, a completion whose digests it cannot slice, and a manifest that is longer
than a message; and an endpoint that it cannot slice, under limits that allow endpoints longer
than a slice. -/
theorem stated_records_refused :
    ((sliceLimits 4).validate = .ok () ∧ Stated (sliceLimits 4) (.epochAdvanced ⟨3, 17⟩) ∧
      decodeRecord (sliceLimits 4) (DurableRecord.epochAdvanced ⟨3, 17⟩).encode ≠
        .ok (.epochAdvanced ⟨3, 17⟩)) ∧
    ((sliceLimits 16).validate = .ok () ∧ Stated (sliceLimits 16) (.commit ⟨smallCompletion, 6⟩) ∧
      decodeRecord (sliceLimits 16) (DurableRecord.commit ⟨smallCompletion, 6⟩).encode ≠
        .ok (.commit ⟨smallCompletion, 6⟩)) ∧
    ((sliceLimits 64).validate = .ok () ∧ Stated (sliceLimits 64) (.manifest ⟨smallContent⟩) ∧
      decodeRecord (sliceLimits 64) (DurableRecord.manifest ⟨smallContent⟩).encode ≠
        .ok (.manifest ⟨smallContent⟩)) ∧
    Stated { maxAllocationBytes := 8 } (.participant smallEndpoint) ∧
      decodeRecord { maxAllocationBytes := 8 } (DurableRecord.participant smallEndpoint).encode ≠
        .ok (.participant smallEndpoint) := by
  have hrefused : ∀ {limits : Limits} {r : DurableRecord}, Measured r → ¬Sliced limits r →
      decodeRecord limits r.encode ≠ .ok r := by
    intro limits r hmeasured hsliced h
    exact hsliced ((decodable_iff r).mp (eq_of_decodeRecord hmeasured h).1).2
  have hfew : smallCompletion.observedChunkDigests.length < 2 ^ 32 := by decide
  have hshort : Measured (.participant smallEndpoint) := by
    unfold Measured
    decide
  refine ⟨⟨by decide +kernel, trivial, hrefused trivial (by decide +kernel)⟩,
    ⟨by decide +kernel, by decide +kernel, hrefused hfew (by decide +kernel)⟩,
    ⟨by decide +kernel, by decide +kernel, hrefused trivial (by decide +kernel)⟩,
    by decide +kernel, hrefused hshort (by decide +kernel)⟩

end ShuffleFabric
