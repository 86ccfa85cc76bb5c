import ShuffleFabric.Inspection
import ShuffleFabric.Records.Canonical
import ShuffleFabric.Server

/-!
# ShuffleFabric.Wire

The payload codecs that server and client share (`service.cpp`), and that each reader takes
back what its writer wrote.

Writers and readers are separate lists of fields; the request of a commit has a third one, its
durable form.
-/

namespace ShuffleFabric

open Lib Action ByteReader

-- The instance that makes a decoder sticky is as long as the decoder.
set_option synthInstance.maxSize 512

namespace Wire

/-! ## Commit requests -/

/-- `is_known_error_code`. -/
def isKnownErrorCode (raw : UInt16) : Bool :=
  raw ≤ ErrorCode.tooManyTrackedEdges.value && (raw == 0 || raw ≥ ErrorCode.invalidArgument.value)

/-- `write_commit_request`. -/
def writeCommitRequest (request : CommitRequest) : Bytes :=
  putU64 request.edge.partition ++ putU64 request.edge.partitionGeneration ++
  putU64 request.edge.consumer ++ putU64 request.attempt ++ putU64 request.wave ++
  putU64 request.shuffleGeneration ++ putU64 request.topologyGeneration ++
  putU64 request.policyGeneration ++ putU64 request.producer ++
  putU64 request.producerIncarnation ++ putU64 request.consumer ++
  putU64 request.consumerIncarnation ++ putDigest request.manifestDigest ++
  putDigest request.observedPartitionDigest ++ putBool request.integrityVerified ++
  putU64 request.bytes ++ putCount request.observedChunkDigests.length ++
  putMany putDigest request.observedChunkDigests

/-- `read_commit_request`; the two consumer identities are not compared. -/
def readCommitRequest (limits : Limits) : Read CommitRequest := do
  let partition ← u64
  let partitionGeneration ← u64
  let edgeConsumer ← u64
  let attempt ← u64
  let wave ← u64
  let shuffleGeneration ← u64
  let topologyGeneration ← u64
  let policyGeneration ← u64
  let producer ← u64
  let producerIncarnation ← u64
  let consumer ← u64
  let consumerIncarnation ← u64
  let manifestDigest ← digest
  let observedPartitionDigest ← digest
  let integrityVerified ← boolean
  let bytes ← u64
  checkOk
  let chunks ← collectionCount limits.maxChunksPerPartition.toNat
  checkOk
  let observedChunkDigests ← readMany digest chunks
  checkOk
  pure {
    edge := ⟨partition, partitionGeneration, edgeConsumer⟩, attempt, wave, shuffleGeneration
    topologyGeneration, policyGeneration, producer, producerIncarnation, consumer
    consumerIncarnation, manifestDigest, observedPartitionDigest, observedChunkDigests, bytes
    integrityVerified }

/-! ## Progress and status -/

/-- `write_progress_snapshot`. -/
def writeProgressSnapshot (snapshot : ProgressSnapshot) : Bytes :=
  putU64 snapshot.shuffle ++ putU64 snapshot.shuffleGeneration ++
  putU64 snapshot.partitionsTotal ++ putU64 snapshot.partitionsCommitted ++
  putU64 snapshot.partitionsFailed ++ putU64 snapshot.partitionsIncomplete ++
  putU64 snapshot.edgesRequired ++ putU64 snapshot.edgesCompleted ++
  putU64 snapshot.edgesFailed ++ putU64 snapshot.edgesIncomplete ++
  putU64 snapshot.edgesOverCounted ++ putU64 snapshot.bytesCommitted ++
  putU64 snapshot.bytesAttempted ++ putU64 snapshot.duplicateCommitsSuppressed ++
  putU64 snapshot.retriableFailures ++ putU64 snapshot.permanentFailures ++
  putU64 snapshot.authorityRefusals ++ putU64 snapshot.trackedPartitions ++
  putU64 snapshot.trackedEdges ++ putU64 snapshot.tick

/-- `read_progress_snapshot`. -/
def readProgressSnapshot : Read ProgressSnapshot := do
  let shuffle ← u64
  let shuffleGeneration ← u64
  let partitionsTotal ← u64
  let partitionsCommitted ← u64
  let partitionsFailed ← u64
  let partitionsIncomplete ← u64
  let edgesRequired ← u64
  let edgesCompleted ← u64
  let edgesFailed ← u64
  let edgesIncomplete ← u64
  let edgesOverCounted ← u64
  let bytesCommitted ← u64
  let bytesAttempted ← u64
  let duplicateCommitsSuppressed ← u64
  let retriableFailures ← u64
  let permanentFailures ← u64
  let authorityRefusals ← u64
  let trackedPartitions ← u64
  let trackedEdges ← u64
  let tick ← u64
  checkOk
  pure {
    shuffle, shuffleGeneration, partitionsTotal, partitionsCommitted, partitionsFailed
    partitionsIncomplete, edgesRequired, edgesCompleted, edgesFailed, edgesIncomplete
    edgesOverCounted, bytesCommitted, bytesAttempted, duplicateCommitsSuppressed
    retriableFailures, permanentFailures, authorityRefusals, trackedPartitions, trackedEdges
    tick }

/-- The cast of a shuffle state to a byte. -/
def stateByte (state : ShuffleState) : UInt8 := state.toUInt16.toUInt8

/-- The shuffle state of a byte, `Failed` being the last. -/
def stateOfByte (raw : UInt8) : Option ShuffleState := ShuffleState.ofUInt16 raw.toUInt16

@[simp] theorem stateOfByte_stateByte (state : ShuffleState) :
    stateOfByte (stateByte state) = some state := by
  cases state <;> rfl

/-- `write_status`. -/
def writeStatus (status : CoordinatorStatus) : Bytes :=
  putU8 (stateByte status.state) ++ putU16 status.reason.value ++ putU64 status.epoch ++
  putU64 status.shuffle ++ putU64 status.shuffleGeneration ++ putU64 status.topologyGeneration ++
  putU64 status.policyGeneration ++ putU64 status.tick ++ putU32 status.activeProducers ++
  putU32 status.activeConsumers ++ putU32 status.inFlight ++ putU64 status.persistedRecords ++
  putBool status.durable ++ putBool status.revalidationRequired ++
  putBool status.historyIncomplete ++ writeProgressSnapshot status.progress

/-- `read_status`. -/
def readStatus : Read CoordinatorStatus := do
  let rawState ← u8
  let rawReason ← u16
  let epoch ← u64
  let shuffle ← u64
  let shuffleGeneration ← u64
  let topologyGeneration ← u64
  let policyGeneration ← u64
  let tick ← u64
  let activeProducers ← u32
  let activeConsumers ← u32
  let inFlight ← u32
  let persistedRecords ← u64
  let durable ← boolean
  let revalidationRequired ← boolean
  let historyIncomplete ← boolean
  checkOk
  let state ← orThrow (stateOfByte rawState)
    ⟨.protocolViolation, "shuffle state is outside protocol version 1"⟩
  throwIf (¬isKnownErrorCode rawReason)
    ⟨.protocolViolation, "shuffle reason is outside protocol version 1"⟩
  let progress ← readProgressSnapshot
  checkOk
  pure {
    state, reason := ⟨rawReason⟩, epoch, shuffle, shuffleGeneration, topologyGeneration
    policyGeneration, tick, activeProducers, activeConsumers, inFlight, persistedRecords
    durable, revalidationRequired, historyIncomplete, progress }

/-! ## Wave plans -/

/-- `read_grant`. -/
def readGrant (limits : Limits) : Read DispatchGrant := do
  let attempt ← u64
  let wave ← u64
  let shuffle ← u64
  let shuffleGeneration ← u64
  let partition ← u64
  let partitionGeneration ← u64
  let producer ← u64
  let producerIncarnation ← u64
  let producerEndpoint ← string limits.maxEndpointBytes.toNat
  let consumer ← u64
  let consumerIncarnation ← u64
  let topologyGeneration ← u64
  let policyGeneration ← u64
  let manifestDigest ← digest
  let totalBytes ← u64
  let attemptOrdinal ← u32
  let issuedAt ← u64
  checkOk
  pure {
    attempt, wave, shuffle, shuffleGeneration, partition, partitionGeneration, producer
    producerIncarnation, producerEndpoint, consumer, consumerIncarnation, topologyGeneration
    policyGeneration, manifestDigest, totalBytes, attemptOrdinal, issuedAt }

/-- `read_wave_plan`. -/
def readWavePlan (limits : Limits) : Read WavePlan := do
  let id ← u64
  let count ← collectionCount limits.maxWaveGrants.toNat
  checkOk
  let grants ← readMany (readGrant limits) count
  let examined ← u32
  let skippedCompleted ← u32
  let skippedFailed ← u32
  let skippedInFlight ← u32
  let skippedUnproduced ← u32
  let deferredLimits ← u32
  let deferredSourcePressure ← u32
  let deferredDestinationPressure ← u32
  let deferredUnknownPressure ← u32
  let deferredRetryWait ← u32
  let cursorWrapped ← boolean
  let allResolved ← boolean
  checkOk
  pure {
    id, grants, examined, skippedCompleted, skippedFailed, skippedInFlight, skippedUnproduced
    deferredLimits, deferredSourcePressure, deferredDestinationPressure
    deferredUnknownPressure, deferredRetryWait, cursorWrapped, allResolved }

/-! ## Explanations -/

/-- An entry of an explanation as it travels: its texts are bytes. -/
structure ExplainText where
  code : ErrorCode
  subject : Bytes
  detail : Bytes
  count : UInt64
  deriving DecidableEq

/-- The loop body of `write_explanation`; the texts are cut at their bound. -/
def writeEntry (limits : Limits) (entry : ExplainText) : Bytes :=
  putU16 entry.code.value ++
  putByteString (entry.subject.take limits.maxStringBytes.toNat) ++
  putByteString (entry.detail.take limits.maxStringBytes.toNat) ++ putU64 entry.count

/-- `write_explanation`. -/
def writeExplanation (limits : Limits) (entries : List ExplainText) : Bytes :=
  putCount entries.length ++ putMany (writeEntry limits) entries

/-- The loop body of `read_explanation`. -/
def readEntry (limits : Limits) : Read ExplainText := do
  let rawCode ← u16
  let subject ← string limits.maxStringBytes.toNat
  let detail ← string limits.maxStringBytes.toNat
  let count ← u64
  checkOk
  throwIf (¬isKnownErrorCode rawCode)
    ⟨.protocolViolation, "explanation carries an unknown error code"⟩
  pure { code := ⟨rawCode⟩, subject, detail, count }

/-- `read_explanation`. -/
def readExplanation (limits : Limits) : Read (List ExplainText) := do
  let count ← collectionCount limits.maxCollectionItems.toNat
  checkOk
  readMany (readEntry limits) count

/-! ## Reading what was written -/

variable {limits : Limits}

instance : Sticky (readCommitRequest limits) := by unfold readCommitRequest; infer_instance
instance : Sticky readProgressSnapshot := by unfold readProgressSnapshot; infer_instance
instance : Sticky readStatus := by unfold readStatus; infer_instance
instance : Sticky (readGrant limits) := by unfold readGrant; infer_instance
instance : Sticky (readEntry limits) := by unfold readEntry; infer_instance

/-- Only the number of chunks can be refused, the two consumers are not compared. -/
theorem reads_commitRequest (r : CommitRequest) (hchunks : r.observedChunkDigests.length < 2 ^ 32) :
    Reads limits
      (32 ≤ limits.maxAllocationBytes.toNat ∧
        CountOk limits limits.maxChunksPerPartition.toNat r.observedChunkDigests.length)
      (readCommitRequest limits) (writeCommitRequest r) r := by
  have hmany : Reads limits (∀ d ∈ r.observedChunkDigests,
      32 ≤ limits.maxAllocationBytes.toNat) _ _ r.observedChunkDigests :=
    Reads.many fun d _ => Reads.digest d
  have hlen : r.observedChunkDigests.length ≤ (putMany putDigest r.observedChunkDigests).length :=
    length_le_putMany (fun d => by rw [length_putDigest]; decide) _
  have h : Reads limits _ (readCommitRequest limits) _ r :=
    (Reads.u64 r.edge.partition).bind <| (Reads.u64 r.edge.partitionGeneration).bind <|
    (Reads.u64 r.edge.consumer).bind <| (Reads.u64 r.attempt).bind <| (Reads.u64 r.wave).bind <|
    (Reads.u64 r.shuffleGeneration).bind <| (Reads.u64 r.topologyGeneration).bind <|
    (Reads.u64 r.policyGeneration).bind <| (Reads.u64 r.producer).bind <|
    (Reads.u64 r.producerIncarnation).bind <| (Reads.u64 r.consumer).bind <|
    (Reads.u64 r.consumerIncarnation).bind <| (Reads.digest r.manifestDigest).bind <|
    (Reads.digest r.observedPartitionDigest).bind <| (Reads.boolean r.integrityVerified).bind <|
    (Reads.u64 r.bytes).bind <| Reads.checkOk.bind <|
    Reads.count hchunks (by simpa using hlen) <| Reads.checkOk.bind <| hmany.bind <|
    Reads.checkOk.bind <| Reads.pure r
  refine h.congr ?_ ?_
  · constructor
    · rintro ⟨-, -, -, -, -, -, -, -, -, -, -, -, h32, -, -, -, -, hcount, -⟩
      exact ⟨h32, hcount⟩
    · rintro ⟨h32, hcount⟩
      refine ⟨?_, ?_, ?_, ?_, ?_, ?_, ?_, ?_, ?_, ?_, ?_, ?_, h32, h32, ?_, ?_, trivial, hcount,
        trivial, fun _ _ => h32, trivial, trivial⟩
      all_goals omega
  · unfold writeCommitRequest
    simp only [List.append_assoc, List.append_nil, List.nil_append]

/-- A snapshot of the progress is numbers of up to eight bytes. -/
theorem reads_progressSnapshot (s : ProgressSnapshot) :
    Reads limits (8 ≤ limits.maxAllocationBytes.toNat) readProgressSnapshot
      (writeProgressSnapshot s) s := by
  have h : Reads limits _ readProgressSnapshot _ s := (Reads.u64 s.shuffle).bind <|
    (Reads.u64 s.shuffleGeneration).bind <| (Reads.u64 s.partitionsTotal).bind <|
    (Reads.u64 s.partitionsCommitted).bind <| (Reads.u64 s.partitionsFailed).bind <|
    (Reads.u64 s.partitionsIncomplete).bind <| (Reads.u64 s.edgesRequired).bind <|
    (Reads.u64 s.edgesCompleted).bind <| (Reads.u64 s.edgesFailed).bind <|
    (Reads.u64 s.edgesIncomplete).bind <| (Reads.u64 s.edgesOverCounted).bind <|
    (Reads.u64 s.bytesCommitted).bind <| (Reads.u64 s.bytesAttempted).bind <|
    (Reads.u64 s.duplicateCommitsSuppressed).bind <| (Reads.u64 s.retriableFailures).bind <|
    (Reads.u64 s.permanentFailures).bind <| (Reads.u64 s.authorityRefusals).bind <|
    (Reads.u64 s.trackedPartitions).bind <| (Reads.u64 s.trackedEdges).bind <|
    (Reads.u64 s.tick).bind <| Reads.checkOk.bind <| Reads.pure s
  simp only [List.append_nil, and_true, and_self] at h
  unfold writeProgressSnapshot
  simp only [List.append_assoc]
  exact h

/-- A status is read back if its reason is a known code. -/
theorem reads_status (s : CoordinatorStatus) :
    Reads limits
      (8 ≤ limits.maxAllocationBytes.toNat ∧ isKnownErrorCode s.reason.value) readStatus
      (writeStatus s) s := by
  have h : Reads limits _ readStatus _ s := (Reads.u8 (stateByte s.state)).bind <|
    (Reads.u16 s.reason.value).bind <| (Reads.u64 s.epoch).bind <| (Reads.u64 s.shuffle).bind <|
    (Reads.u64 s.shuffleGeneration).bind <| (Reads.u64 s.topologyGeneration).bind <|
    (Reads.u64 s.policyGeneration).bind <| (Reads.u64 s.tick).bind <|
    (Reads.u32 s.activeProducers).bind <| (Reads.u32 s.activeConsumers).bind <|
    (Reads.u32 s.inFlight).bind <| (Reads.u64 s.persistedRecords).bind <|
    (Reads.boolean s.durable).bind <| (Reads.boolean s.revalidationRequired).bind <|
    (Reads.boolean s.historyIncomplete).bind <| Reads.checkOk.bind <|
    (Reads.orThrow (stateOfByte_stateByte s.state)).bind <| Reads.throwIf.bind <|
    (reads_progressSnapshot s.progress).bind <| Reads.checkOk.bind <| Reads.pure s
  refine h.congr ?_ ?_
  · constructor
    · rintro ⟨-, -, h8, -, -, -, -, -, -, -, -, -, -, -, -, -, -, hknown, -⟩
      exact ⟨h8, not_not.mp hknown⟩
    · rintro ⟨h8, hknown⟩
      refine ⟨?_, ?_, ?_, ?_, ?_, ?_, ?_, ?_, ?_, ?_, ?_, ?_, ?_, ?_, ?_, trivial, trivial,
        not_not.mpr hknown, h8, trivial, trivial⟩
      all_goals omega
  · unfold writeStatus
    simp only [List.append_assoc, List.append_nil, List.nil_append]

/-- An endpoint within its bound travels uncut. -/
theorem reads_grant (g : DispatchGrant)
    (hmax : g.producerEndpoint.length ≤ limits.maxEndpointBytes.toNat) :
    Reads limits
      (32 ≤ limits.maxAllocationBytes.toNat ∧
        g.producerEndpoint.length ≤ limits.maxAllocationBytes.toNat ∧
        isValidUtf8 g.producerEndpoint)
      (readGrant limits) (writeGrant limits g) g := by
  have hlen : g.producerEndpoint.length < 2 ^ 32 :=
    lt_of_le_of_lt hmax limits.maxEndpointBytes.toNat_lt
  have h : Reads limits _ (readGrant limits) _ g := (Reads.u64 g.attempt).bind <|
    (Reads.u64 g.wave).bind <| (Reads.u64 g.shuffle).bind <|
    (Reads.u64 g.shuffleGeneration).bind <| (Reads.u64 g.partition).bind <|
    (Reads.u64 g.partitionGeneration).bind <| (Reads.u64 g.producer).bind <|
    (Reads.u64 g.producerIncarnation).bind <|
    (Reads.string limits.maxEndpointBytes.toNat hlen).bind <| (Reads.u64 g.consumer).bind <|
    (Reads.u64 g.consumerIncarnation).bind <| (Reads.u64 g.topologyGeneration).bind <|
    (Reads.u64 g.policyGeneration).bind <| (Reads.digest g.manifestDigest).bind <|
    (Reads.u64 g.totalBytes).bind <| (Reads.u32 g.attemptOrdinal).bind <|
    (Reads.u64 g.issuedAt).bind <| Reads.checkOk.bind <| Reads.pure g
  refine h.congr ?_ ?_
  · constructor
    · rintro ⟨-, -, -, -, -, -, -, -, ⟨-, -, hraw, hutf⟩, -, -, -, -, h32, -⟩
      exact ⟨h32, hraw, hutf⟩
    · rintro ⟨h32, hraw, hutf⟩
      refine ⟨?_, ?_, ?_, ?_, ?_, ?_, ?_, ?_, ⟨?_, hmax, hraw, hutf⟩, ?_, ?_, ?_, ?_, h32, ?_, ?_,
        ?_, trivial, trivial⟩
      all_goals omega
  · unfold writeGrant
    simp only [List.take_of_length_le hmax, List.append_assoc, List.append_nil]

/-- A plan is read back if its grants are; a grant has a digest and an endpoint. -/
theorem reads_wavePlan (p : WavePlan) (hgrants : p.grants.length < 2 ^ 32)
    (hmax : ∀ g ∈ p.grants, g.producerEndpoint.length ≤ limits.maxEndpointBytes.toNat) :
    Reads limits
      (8 ≤ limits.maxAllocationBytes.toNat ∧
        CountOk limits limits.maxWaveGrants.toNat p.grants.length ∧
        ∀ g ∈ p.grants, 32 ≤ limits.maxAllocationBytes.toNat ∧
          g.producerEndpoint.length ≤ limits.maxAllocationBytes.toNat ∧
          isValidUtf8 g.producerEndpoint)
      (readWavePlan limits) (writeWavePlan limits p) p := by
  have hmany : Reads limits _ _ _ p.grants := Reads.many fun g hg => reads_grant g (hmax g hg)
  have hlen : p.grants.length ≤ (putMany (writeGrant limits) p.grants).length :=
    length_le_putMany (fun g => by rw [length_writeGrant]; omega) _
  have h : Reads limits _ (readWavePlan limits) _ p := (Reads.u64 p.id).bind <|
    Reads.count hgrants
      (by simp only [List.nil_append, List.length_append]; omega) <|
    Reads.checkOk.bind <| hmany.bind <|
    (Reads.u32 p.examined).bind <| (Reads.u32 p.skippedCompleted).bind <|
    (Reads.u32 p.skippedFailed).bind <| (Reads.u32 p.skippedInFlight).bind <|
    (Reads.u32 p.skippedUnproduced).bind <| (Reads.u32 p.deferredLimits).bind <|
    (Reads.u32 p.deferredSourcePressure).bind <|
    (Reads.u32 p.deferredDestinationPressure).bind <|
    (Reads.u32 p.deferredUnknownPressure).bind <| (Reads.u32 p.deferredRetryWait).bind <|
    (Reads.boolean p.cursorWrapped).bind <| (Reads.boolean p.allResolved).bind <|
    Reads.checkOk.bind <| Reads.pure p
  refine h.congr ?_ ?_
  · constructor
    · rintro ⟨h8, hcount, -, hall, -⟩
      exact ⟨h8, hcount, hall⟩
    · rintro ⟨h8, hcount, hall⟩
      refine ⟨h8, hcount, trivial, hall, ?_, ?_, ?_, ?_, ?_, ?_, ?_, ?_, ?_, ?_, ?_, ?_, trivial,
        trivial⟩
      all_goals omega
  · unfold writeWavePlan
    simp only [List.append_assoc, List.append_nil, List.nil_append]

/-- The texts of the entry are within their bound, in UTF-8, and its code is a known one. -/
structure EntryFits (limits : Limits) (e : ExplainText) : Prop where
  subject : e.subject.length ≤ limits.maxStringBytes.toNat
  detail : e.detail.length ≤ limits.maxStringBytes.toNat
  subjectUtf8 : isValidUtf8 e.subject
  detailUtf8 : isValidUtf8 e.detail
  known : isKnownErrorCode e.code.value

/-- An entry of an explanation has two byte strings. -/
theorem reads_entry {e : ExplainText} (hfits : EntryFits limits e) :
    Reads limits
      (8 ≤ limits.maxAllocationBytes.toNat ∧
        e.subject.length ≤ limits.maxAllocationBytes.toNat ∧
        e.detail.length ≤ limits.maxAllocationBytes.toNat)
      (readEntry limits) (writeEntry limits e) e := by
  obtain ⟨hsubject, hdetail, hsutf, hdutf, hknown⟩ := hfits
  have hs : e.subject.length < 2 ^ 32 := lt_of_le_of_lt hsubject limits.maxStringBytes.toNat_lt
  have hd : e.detail.length < 2 ^ 32 := lt_of_le_of_lt hdetail limits.maxStringBytes.toNat_lt
  have h : Reads limits _ (readEntry limits) _ e := (Reads.u16 e.code.value).bind <|
    (Reads.string limits.maxStringBytes.toNat hs).bind <|
    (Reads.string limits.maxStringBytes.toNat hd).bind <| (Reads.u64 e.count).bind <|
    Reads.checkOk.bind <| Reads.throwIf.bind <| Reads.pure e
  refine h.congr ?_ ?_
  · constructor
    · rintro ⟨-, ⟨-, -, hsraw, -⟩, ⟨-, -, hdraw, -⟩, h8, -⟩
      exact ⟨h8, hsraw, hdraw⟩
    · rintro ⟨h8, hsraw, hdraw⟩
      exact ⟨by omega, ⟨by omega, hsubject, hsraw, hsutf⟩, ⟨by omega, hdetail, hdraw, hdutf⟩, h8,
        trivial, not_not.mpr hknown, trivial⟩
  · unfold writeEntry
    simp only [List.take_of_length_le hsubject, List.take_of_length_le hdetail, List.append_assoc,
      List.append_nil]

/-- An explanation is read back if its entries are. -/
theorem reads_explanation {es : List ExplainText} (hcount : es.length < 2 ^ 32)
    (hfits : ∀ e ∈ es, EntryFits limits e) :
    Reads limits
      (CountOk limits limits.maxCollectionItems.toNat es.length ∧
        ∀ e ∈ es, 8 ≤ limits.maxAllocationBytes.toNat ∧
          e.subject.length ≤ limits.maxAllocationBytes.toNat ∧
          e.detail.length ≤ limits.maxAllocationBytes.toNat)
      (readExplanation limits) (writeExplanation limits es) es := by
  have hmany : Reads limits _ _ _ es := Reads.many fun e he => reads_entry (hfits e he)
  have hlen : es.length ≤ (putMany (writeEntry limits) es).length :=
    length_le_putMany (fun e => by simp [writeEntry]) _
  have h : Reads limits _ (readExplanation limits) _ es :=
    Reads.count hcount (by simpa using hlen) <| Reads.checkOk.bind hmany
  exact h.congr (by simp) (by simp [writeExplanation])

/-! ## Session limits -/

/-- What `Limits::validate` says about the texts of a session. -/
theorem text_bounds_of_validate (h : limits.validate = .ok ()) :
    limits.maxEndpointBytes.toNat ≤ limits.maxStringBytes.toNat ∧
      limits.maxStringBytes.toNat ≤ limits.maxAllocationBytes.toNat := by
  simp only [Limits.validate, bind_eq_ok, refuseIf_eq_ok, exists_const, not_or] at h
  obtain ⟨-, -, ⟨-, hstring⟩, ⟨-, hendpoint⟩, -⟩ := h
  have hs := UInt64.le_iff_toNat_le.mp (UInt64.not_lt.mp hstring)
  have he := UInt32.le_iff_toNat_le.mp (UInt32.not_lt.mp hendpoint)
  rw [UInt32.toNat_toUInt64] at hs
  exact ⟨he, hs⟩

/-- What bounds a commit request in a session. -/
structure RequestFits (limits : Limits) (r : CommitRequest) : Prop where
  chunks : r.observedChunkDigests.length ≤ limits.maxChunksPerPartition.toNat
  items : r.observedChunkDigests.length ≤ limits.maxCollectionItems.toNat

/-- What bounds a wave plan in a session. -/
structure PlanFits (limits : Limits) (p : WavePlan) : Prop where
  grants : p.grants.length ≤ limits.maxWaveGrants.toNat
  items : p.grants.length ≤ limits.maxCollectionItems.toNat
  endpoint : ∀ g ∈ p.grants, g.producerEndpoint.length ≤ limits.maxEndpointBytes.toNat
  utf8 : ∀ g ∈ p.grants, isValidUtf8 g.producerEndpoint

/-- What bounds an explanation in a session. -/
structure ExplanationFits (limits : Limits) (es : List ExplainText) : Prop where
  items : es.length ≤ limits.maxCollectionItems.toNat
  entries : ∀ e ∈ es, EntryFits limits e

/-- A count within both bounds passes. -/
theorem countOk_of_le {maxItems n : Nat} (h : 4 ≤ limits.maxAllocationBytes.toNat)
    (hmax : n ≤ maxItems) (hitems : n ≤ limits.maxCollectionItems.toNat) :
    n < 2 ^ 32 ∧ CountOk limits maxItems n :=
  ⟨lt_of_le_of_lt hitems limits.maxCollectionItems.toNat_lt, h, hmax, hitems⟩

/-- On the bytes of a value, whatever follows them, the reader returns the value and has
consumed exactly these bytes. -/
def ReadBack {α : Type} (limits : Limits) (read : Read α) (data : Bytes) (value : α) : Prop :=
  ∀ rest, read.exec ⟨data ++ rest, limits, none⟩ = (.ok value, ⟨rest, limits, none⟩)

/-- A value is read back exactly when its reader may slice its fields. -/
theorem readBack_iff {α : Type} {ok : Prop} {read : Read α} {data : Bytes} {value : α}
    (h : Reads limits ok read data value) : ReadBack limits read data value ↔ ok := by
  refine ⟨fun hback => ?_, h.exact⟩
  by_contra hno
  have hfailed := h.failed hno []
  rw [hback []] at hfailed
  obtain ⟨e, he⟩ | hsome := hfailed
  · cases he
  · cases hsome

/-- The widest fixed field of a plan: a grant carries a digest. -/
def planWidth (plan : WavePlan) : Nat := if plan.grants = [] then 8 else 32

/-- The widest fixed field of an explanation: without entries it is the count of them. -/
def explanationWidth (entries : List ExplainText) : Nat := if entries = [] then 4 else 8

/-- A plan that fits is read back exactly if the allocation bound covers its widest field. -/
theorem readBack_wavePlan (hvalid : limits.validate = .ok ()) {plan : WavePlan}
    (hfits : PlanFits limits plan) :
    ReadBack limits (readWavePlan limits) (writeWavePlan limits plan) plan ↔
      planWidth plan ≤ limits.maxAllocationBytes.toNat := by
  obtain ⟨hendpoint, hstring⟩ := text_bounds_of_validate hvalid
  have hlen := lt_of_le_of_lt hfits.items limits.maxCollectionItems.toNat_lt
  refine (readBack_iff (reads_wavePlan plan hlen hfits.endpoint)).trans ?_
  unfold planWidth
  split
  · next hnone => simp only [hnone, CountOk, List.length_nil]; constructor <;> intro h <;> grind
  · next hsome =>
      obtain ⟨grant, hgrant⟩ := List.exists_mem_of_ne_nil _ hsome
      refine ⟨fun h => (h.2.2 grant hgrant).1, fun h32 => ⟨by omega, ?_, fun g hg => ?_⟩⟩
      · exact ⟨by omega, hfits.grants, hfits.items⟩
      · have hmax := hfits.endpoint g hg
        exact ⟨h32, by omega, hfits.utf8 g hg⟩

/-- An explanation that fits is read back exactly if the allocation bound covers its widest field.
-/
theorem readBack_explanation (hvalid : limits.validate = .ok ()) {entries : List ExplainText}
    (hfits : ExplanationFits limits entries) :
    ReadBack limits (readExplanation limits) (writeExplanation limits entries) entries ↔
      explanationWidth entries ≤ limits.maxAllocationBytes.toNat := by
  obtain ⟨-, hstring⟩ := text_bounds_of_validate hvalid
  have hlen := lt_of_le_of_lt hfits.items limits.maxCollectionItems.toNat_lt
  refine (readBack_iff (reads_explanation hlen hfits.entries)).trans ?_
  unfold explanationWidth
  split
  · next hnone => simp [hnone, CountOk]
  · next hsome =>
      obtain ⟨entry, hentry⟩ := List.exists_mem_of_ne_nil _ hsome
      refine ⟨fun h => (h.2 entry hentry).1, fun h8 => ⟨?_, fun e he => ?_⟩⟩
      · exact ⟨by omega, hfits.items, hfits.items⟩
      · have hsubject := (hfits.entries e he).subject
        have hdetail := (hfits.entries e he).detail
        exact ⟨h8, by omega, by omega⟩

/-- Server and client agree on a value exactly when the session may allocate its widest fixed
field. -/
theorem wire_codecs (hvalid : limits.validate = .ok ()) :
    (∀ request, RequestFits limits request →
      (ReadBack limits (readCommitRequest limits) (writeCommitRequest request) request ↔
        32 ≤ limits.maxAllocationBytes.toNat)) ∧
    (∀ snapshot,
      ReadBack limits readProgressSnapshot (writeProgressSnapshot snapshot) snapshot ↔
        8 ≤ limits.maxAllocationBytes.toNat) ∧
    (∀ status, isKnownErrorCode status.reason.value →
      (ReadBack limits readStatus (writeStatus status) status ↔
        8 ≤ limits.maxAllocationBytes.toNat)) ∧
    (∀ plan, PlanFits limits plan →
      (ReadBack limits (readWavePlan limits) (writeWavePlan limits plan) plan ↔
        planWidth plan ≤ limits.maxAllocationBytes.toNat)) ∧
    (∀ entries, ExplanationFits limits entries →
      (ReadBack limits (readExplanation limits) (writeExplanation limits entries) entries ↔
        explanationWidth entries ≤ limits.maxAllocationBytes.toNat)) ∧
    ∀ record : CommitRecord,
      record.encode = putU16 5 ++ writeCommitRequest record.request ++ putU64 record.atTick := by
  refine ⟨fun request hfits => ?_, fun snapshot => readBack_iff (reads_progressSnapshot snapshot),
    fun status hknown => ?_, fun plan hfits => readBack_wavePlan hvalid hfits,
    fun entries hfits => readBack_explanation hvalid hfits, fun record => rfl⟩
  · have hlen := lt_of_le_of_lt hfits.items limits.maxCollectionItems.toNat_lt
    refine (readBack_iff (reads_commitRequest request hlen)).trans ⟨fun h => h.1, fun h32 => ?_⟩
    exact ⟨h32, by omega, hfits.chunks, hfits.items⟩
  · exact (readBack_iff (reads_status status)).trans ⟨fun h => h.1, fun h8 => ⟨h8, hknown⟩⟩

/-- Limits that pass their own check, with the largest allocation of so many bytes. -/
def sessionLimits (bytes : UInt64) : Limits where
  maxAllocationBytes := bytes
  maxStringBytes := 4
  maxEndpointBytes := 4

/-- A wave of one grant. -/
def smallPlan : WavePlan where
  id := 4
  grants := [⟨3, 4, 1, 1, 1, 1, 1, 7, [0x68, 0x69], 2, 8, 5, 6, smallDigest 1, 9, 1, 2⟩]
  examined := 3
  deferredLimits := 1
  cursorWrapped := true

/-- A shuffle on its way. -/
def smallSnapshot : ProgressSnapshot where
  shuffle := 1
  partitionsTotal := 4
  edgesRequired := 8
  edgesCompleted := 3
  bytesCommitted := 900
  tick := 11

/-- A status with a reason. -/
def smallStatus : CoordinatorStatus where
  state := .cancelled
  reason := .ambiguousOutcome
  epoch := 2
  shuffle := 1
  shuffleGeneration := 1
  policyGeneration := 6
  tick := 11
  inFlight := 1
  persistedRecords := 12
  durable := true
  revalidationRequired := false
  historyIncomplete := true
  progress := smallSnapshot

/-- One edge that may have been completed. -/
def smallExplanation : List ExplainText := [⟨.ambiguousOutcome, [0x65], [0x68, 0x69], 2⟩]

/-- One value of each kind, in a session that may just allocate a digest. -/
theorem wire_codecs_small :
    ReadBack (sessionLimits 32) (readCommitRequest (sessionLimits 32))
        (writeCommitRequest smallCompletion) smallCompletion ∧
      ReadBack (sessionLimits 32) readProgressSnapshot (writeProgressSnapshot smallSnapshot)
        smallSnapshot ∧
      ReadBack (sessionLimits 32) readStatus (writeStatus smallStatus) smallStatus ∧
      ReadBack (sessionLimits 32) (readWavePlan (sessionLimits 32))
        (writeWavePlan (sessionLimits 32) smallPlan) smallPlan ∧
      ReadBack (sessionLimits 32) (readExplanation (sessionLimits 32))
        (writeExplanation (sessionLimits 32) smallExplanation) smallExplanation := by
  obtain ⟨hrequest, hsnapshot, hstatus, hplan, hexplanation, -⟩ :=
    @wire_codecs (sessionLimits 32) (by decide +kernel)
  refine ⟨(hrequest _ ⟨by decide, by decide⟩).mpr (by decide), (hsnapshot _).mpr (by decide),
    (hstatus _ (by decide)).mpr (by decide),
    (hplan _ ⟨by decide, by decide, by decide, by decide +kernel⟩).mpr (by decide),
    (hexplanation _ ⟨by decide, fun e he => ?_⟩).mpr (by decide)⟩
  obtain rfl := List.mem_singleton.mp he
  exact ⟨by decide, by decide, by decide +kernel, by decide +kernel, by decide⟩

/-- Every slice of a reader is bounded, the fixed ones too: a session may be too narrow for a
digest, or for a number. -/
theorem narrow_session_loses_request :
    ((sessionLimits 16).validate = .ok () ∧ RequestFits (sessionLimits 16) smallCompletion ∧
      ¬ReadBack (sessionLimits 16) (readCommitRequest (sessionLimits 16))
        (writeCommitRequest smallCompletion) smallCompletion) ∧
    ((sessionLimits 16).validate = .ok () ∧ PlanFits (sessionLimits 16) smallPlan ∧
      ¬ReadBack (sessionLimits 16) (readWavePlan (sessionLimits 16))
        (writeWavePlan (sessionLimits 16) smallPlan) smallPlan) ∧
    (sessionLimits 4).validate = .ok () ∧
      ¬ReadBack (sessionLimits 4) readProgressSnapshot (writeProgressSnapshot smallSnapshot)
        smallSnapshot ∧
      ¬ReadBack (sessionLimits 4) readStatus (writeStatus smallStatus) smallStatus := by
  have hplan : PlanFits (sessionLimits 16) smallPlan :=
    ⟨by decide, by decide, by decide, by decide +kernel⟩
  have hvalid : (sessionLimits 16).validate = .ok () := by decide +kernel
  refine ⟨⟨hvalid, ⟨by decide, by decide⟩, fun hback => ?_⟩, ⟨hvalid, hplan, fun hback => ?_⟩,
    by decide +kernel, fun hback => ?_, fun hback => ?_⟩
  · have h := (readBack_iff (reads_commitRequest smallCompletion (by decide))).mp hback
    exact absurd h.1 (by decide)
  · have h := (readBack_wavePlan hvalid hplan).mp hback
    exact absurd h (by decide)
  · have h := (readBack_iff (reads_progressSnapshot smallSnapshot)).mp hback
    exact absurd h (by decide)
  · have h := (readBack_iff (reads_status smallStatus)).mp hback
    exact absurd h.1 (by decide)

end Wire

end ShuffleFabric
