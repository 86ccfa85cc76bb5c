import ShuffleFabric.Cancellation
import ShuffleFabric.Ledger.Attempted
import ShuffleFabric.Onward

/-!
# ShuffleFabric.Relive

A recovery from the records of a life, beside the life.

What a record does to the replayed coordinator it did to the live one, whether through
`apply_record` or directly, as long as the two agree on what records speak of (`Alike`); the
bytes of attempts, the registry, the readings and the clock are no part of that.
-/

namespace ShuffleFabric

open Lib Action

namespace Coordinator

/-! ## What records speak of -/

/-- A replayed and a live coordinator agree on what records speak of. -/
structure Alike (d c : Coordinator) : Prop where
  request : d.request = c.request
  phase : d.phase = c.phase
  epoch : d.epoch = c.epoch
  manifests : d.manifests = c.manifests
  facts : d.facts = c.facts
  ledger : ∃ bytes, d.ledger = c.ledger.attempted bytes

/-- Fields that records do not speak of. -/
theorem Alike.of_live {d c c' : Coordinator} (h : Alike d c) (hrequest : c'.request = c.request)
    (hphase : c'.phase = c.phase) (hepoch : c'.epoch = c.epoch)
    (hmanifests : c'.manifests = c.manifests) (hfacts : c'.facts = c.facts)
    (hledger : ∃ bytes, c'.ledger = c.ledger.attempted bytes) : Alike d c' := by
  obtain ⟨bytes, hbytes⟩ := h.ledger
  obtain ⟨bytes', hbytes'⟩ := hledger
  refine ⟨h.request.trans hrequest.symm, h.phase.trans hphase.symm, h.epoch.trans hepoch.symm,
    h.manifests.trans hmanifests.symm, h.facts.trans hfacts.symm, bytes, ?_⟩
  rw [hbytes, hbytes']
  rfl

/-- What was handed to the sink does not show. -/
theorem Alike.persisted {d c : Coordinator} (h : Alike d c) (record : Bytes) :
    Alike d (c.persisted record) :=
  h.of_live rfl rfl rfl rfl rfl ⟨c.ledger.attemptedBytes, rfl⟩

/-- From one state of the live coordinator to a later one: the records that were accepted on the
way carry a replayed coordinator along. -/
def Retells (c c' : Coordinator) : Prop :=
  Extends c c' ∧ ∀ new, c'.journal = c.journal ++ new →
    ∀ d d', d.limits = c.limits → (applyAll new).exec d = (.ok (), d') → Alike d c →
      Alike d' c' ∧ (d.topology = c.topology → d'.topology = c'.topology)

/-- A journal does not change the limits. -/
theorem applyAll_limits {records : List Bytes} {d d' : Coordinator}
    (h : (applyAll records).exec d = (.ok (), d')) : d'.limits = d.limits := by
  induction records generalizing d with
  | nil =>
      obtain rfl : d = d' := congrArg Prod.snd h
      rfl
  | cons record records ih =>
      obtain ⟨u, e, hfirst, hrest⟩ := exec_bind_ok h
      rw [exec_applyRecord] at hfirst
      cases hd : decodeRecord d.limits record with
      | error e => simp [hd] at hfirst
      | ok decoded =>
          rw [hd] at hfirst
          rw [ih hrest, (applied_of_exec hfirst).limits]

/-- Nothing was written, and nothing changed that records speak of. -/
theorem Retells.of_same {c c' : Coordinator} (hsink : c'.sink = c.sink)
    (hlimits : c'.limits = c.limits) (hrequest : c'.request = c.request)
    (hphase : c'.phase = c.phase) (hepoch : c'.epoch = c.epoch)
    (hmanifests : c'.manifests = c.manifests) (hfacts : c'.facts = c.facts)
    (hledger : ∃ bytes, c'.ledger = c.ledger.attempted bytes)
    (htopology : c'.topology = c.topology) : Retells c c' := by
  refine ⟨.of_sink hsink hlimits, fun new hnew d d' _ hrun h => ?_⟩
  have hjournal : c'.journal = c.journal := by rw [Coordinator.journal, Coordinator.journal, hsink]
  rw [hjournal] at hnew
  rw [List.self_eq_append_right.mp hnew] at hrun
  obtain rfl : d = d' := congrArg Prod.snd hrun
  exact ⟨h.of_live hrequest hphase hepoch hmanifests hfacts hledger,
    fun hsame => hsame.trans htopology.symm⟩

/-- Nothing was written, and nothing has changed. -/
theorem Retells.refl (c : Coordinator) : Retells c c :=
  .of_same rfl rfl rfl rfl rfl rfl rfl ⟨c.ledger.attemptedBytes, rfl⟩ rfl

/-- What two steps wrote tells of both. -/
theorem Retells.trans {c c' c'' : Coordinator} (h : Retells c c') (h' : Retells c' c'') :
    Retells c c'' := by
  refine ⟨h.1.trans h'.1, fun new hnew d d'' hlimits hrun halike => ?_⟩
  obtain ⟨first, hfirst⟩ := h.1.journal
  obtain ⟨second, hsecond⟩ := h'.1.journal
  have hboth : new = first ++ second := by
    rw [← hsecond, ← hfirst, List.append_assoc] at hnew
    exact (List.append_cancel_left hnew).symm
  rw [hboth] at hrun
  obtain ⟨d', hrun, hrun'⟩ := (exec_applyAll_append _ _ _ _).mp hrun
  obtain ⟨halike', htopology⟩ := h.2 first hfirst.symm d d' hlimits hrun halike
  obtain ⟨halike'', htopology'⟩ := h'.2 second hsecond.symm d' d''
    ((applyAll_limits hrun).trans (hlimits.trans h.1.limits.symm)) hrun' halike'
  exact ⟨halike'', fun hsame => htopology' (htopology hsame)⟩

/-- A record that the sink refused, or that cannot be replayed. -/
theorem retells_unstored {c : Coordinator} {r : DurableRecord} {e : Error}
    (h : c.storeAnswer r = .error e) : Retells c (c.persisted r.encode) := by
  refine ⟨extends_persisted c _, fun new hnew d d' hlimits hrun halike => ?_⟩
  rw [journal_persisted] at hnew
  split at hnew
  · next haccepted =>
      exfalso
      obtain ⟨e', he'⟩ := unreadable_of_unstored h haccepted.2
      rw [← List.append_cancel_left hnew] at hrun
      obtain ⟨decoded, hdecode, -⟩ := applyAll_singleton_ok hrun
      rw [hlimits, he'] at hdecode
      cases hdecode
  · rw [List.self_eq_append_right.mp hnew] at hrun
    obtain rfl : d = d' := congrArg Prod.snd hrun
    exact ⟨halike.persisted _, fun hsame => hsame⟩

/-- A record that was accepted, and what the live coordinator did besides. -/
theorem retells_stored {c c' : Coordinator} {r : DurableRecord} (hr : Measured r)
    (hsink : c.sink.isSome) (haccepted : c.sinkAnswer r.encode = .ok ())
    (hsame : c'.sink = (c.persisted r.encode).sink) (hlimits : c'.limits = c.limits)
    (hstep : ∀ d d', d.limits = c.limits → Applied d r d' → Alike d c →
      Alike d' c' ∧ (d.topology = c.topology → d'.topology = c'.topology)) : Retells c c' := by
  refine ⟨(extends_persisted c r.encode).trans (.of_sink hsame hlimits),
    fun new hnew d d' hbounds hrun halike => ?_⟩
  have hjournal : c'.journal = c.journal ++ [r.encode] := by
    have hpersisted := journal_persisted c r.encode
    rw [if_pos ⟨hsink, haccepted⟩] at hpersisted
    rw [← hpersisted, Coordinator.journal, Coordinator.journal, hsame]
  rw [hjournal] at hnew
  rw [← List.append_cancel_left hnew] at hrun
  obtain ⟨decoded, hdecode, happlied⟩ := applyAll_singleton_ok hrun
  obtain ⟨-, rfl⟩ := eq_of_decodeRecord hr hdecode
  exact hstep d d' hbounds happlied halike

/-! ## What one record does -/

/-- An epoch record makes like coordinators alike. -/
theorem Alike.epochAdvanced {d c : Coordinator} (h : Alike d c) (record : EpochRecord) :
    Alike (d.epochAdvanced record) (c.epochAdvanced record) := by
  rw [epochAdvanced_eq, epochAdvanced_eq]
  refine ⟨h.request, h.phase, ?_, h.manifests, h.facts, h.ledger⟩
  show (if record.epoch > d.epoch then _ else _) = if record.epoch > c.epoch then _ else _
  rw [h.epoch]

/-- So does a lifecycle record. -/
theorem Alike.entered {d c : Coordinator} (h : Alike d c) (record : ShuffleStateRecord) :
    Alike (d.entered record) (c.entered record) := by
  obtain ⟨bytes, hbytes⟩ := h.ledger
  rw [entered_eq, entered_eq]
  refine ⟨?_, rfl, h.epoch, h.manifests, h.facts, bytes, ?_⟩
  · simp only [openFrom, h.request]
  · simp only [openFrom, hbytes]
    split <;> rfl

/-- It makes the same topology of them. -/
theorem topology_entered {d c : Coordinator} (hlimits : d.limits = c.limits)
    (htopology : d.topology = c.topology) (record : ShuffleStateRecord) :
    (d.entered record).topology = (c.entered record).topology := by
  rw [entered_eq, entered_eq]
  simp only [openFrom, htopology, hlimits]

/-- The epoch record tells of the new epoch. -/
theorem retells_opening {c : Coordinator} (hsink : c.sink.isSome)
    (h : c.storeAnswer (.epochAdvanced c.nextEpoch) = .ok ()) : Retells c c.opening := by
  refine retells_stored (r := .epochAdvanced c.nextEpoch) trivial hsink
    (storeAnswer_ok (r := .epochAdvanced c.nextEpoch) trivial h).1 ?_ ?_ fun d d' _ happlied halike => ?_
  · rw [opening, epochAdvanced_eq]
  · rw [opening, epochAdvanced_eq]
    rfl
  · cases happlied with
    | epoch =>
        refine ⟨(halike.persisted _).epochAdvanced _, fun hsame => ?_⟩
        rw [opening, epochAdvanced_eq, epochAdvanced_eq]
        exact hsame

/-- The lifecycle record tells of the new state. -/
theorem retells_entered {c : Coordinator} (hsink : c.sink.isSome) {record : ShuffleStateRecord}
    (h : c.storeAnswer (.shuffleState record) = .ok ()) :
    Retells c ((c.persisted (DurableRecord.shuffleState record).encode).entered record) := by
  refine retells_stored (r := .shuffleState record) trivial hsink
    (storeAnswer_ok (r := .shuffleState record) trivial h).1 ?_ ?_
    fun d d' hlimits happlied halike => ?_
  · rw [entered_eq]
  · rw [entered_eq]
    rfl
  · cases happlied with
    | state =>
        exact ⟨(halike.persisted _).entered record, fun hsame =>
          topology_entered (c := c.persisted (DurableRecord.shuffleState record).encode) hlimits
            hsame record⟩

/-- A participant that was placed in the live topology is placed in an equal one alike. -/
theorem retells_joined {c : Coordinator} (hsink : c.sink.isSome) {record : ParticipantRecord}
    (hr : Measured (.participant record)) {t t' : Topology} (ht : c.topology = some t)
    (hplace : place t record = .ok t') (h : c.storeAnswer (.participant record) = .ok ()) :
    Retells c ((c.persisted (DurableRecord.participant record).encode).joinedBy t t' record) := by
  obtain ⟨producers, consumers, pending, heq⟩ := (c.persisted
    (DurableRecord.participant record).encode).joinedBy_eq t t' record
  rw [heq]
  refine retells_stored hr hsink (storeAnswer_ok hr h).1 rfl rfl fun d d' _ happlied halike => ?_
  cases happlied with
  | participant _ t₁ t₁' ht₁ hplace₁ =>
      obtain ⟨producers₁, consumers₁, pending₁, heq₁⟩ := d.joinedBy_eq t₁ t₁' record
      rw [heq₁]
      refine ⟨⟨halike.request, halike.phase, halike.epoch, halike.manifests, halike.facts,
        halike.ledger⟩, fun hsame => ?_⟩
      obtain rfl : t₁ = t := Option.some.inj (ht₁.symm.trans (hsame.trans ht))
      rw [hplace] at hplace₁
      exact congrArg some (Except.ok.inj hplace₁).symm

/-- The manifest record tells of the manifest, where the ledger lets it in. -/
theorem retells_manifested {c : Coordinator} (hsink : c.sink.isSome) {accepted : PartitionManifest}
    {ledger : CompletionLedger} (h : c.storeAnswer (.manifest ⟨accepted⟩) = .ok ())
    (hretired : c.ledger.retireGeneration accepted.partition accepted.partitionGeneration =
      .ok ledger) :
    Retells c ((c.persisted (DurableRecord.manifest ⟨accepted⟩).encode).manifested accepted
      ledger) := by
  refine retells_stored (r := .manifest ⟨accepted⟩) trivial hsink
    (storeAnswer_ok (r := .manifest ⟨accepted⟩) trivial h).1 rfl rfl
    fun d d' _ happlied halike => ?_
  obtain ⟨bytes, hbytes⟩ := halike.ledger
  cases happlied with
  | manifest _ t ledger₁ _ _ hretired₁ =>
      simp only [hbytes, CompletionLedger.retireGeneration_attempted bytes hretired] at hretired₁
      obtain rfl := Except.ok.inj hretired₁
      refine ⟨⟨halike.request, halike.phase, halike.epoch, ?_, ?_, bytes, rfl⟩, fun hsame => hsame⟩
      · simp only [manifested, halike.manifests]
        rfl
      · simp only [manifested, halike.facts]
        rfl

/-- A manifest that the live ledger could not follow cannot be replayed. -/
theorem retells_unretired {c : Coordinator} (hsink : c.sink.isSome) {accepted : PartitionManifest}
    {e : Error} (h : c.storeAnswer (.manifest ⟨accepted⟩) = .ok ())
    (hretired : c.ledger.retireGeneration accepted.partition accepted.partitionGeneration =
      .error e) :
    Retells c ((c.persisted (DurableRecord.manifest ⟨accepted⟩).encode).manifested accepted
      c.ledger) := by
  refine retells_stored (r := .manifest ⟨accepted⟩) trivial hsink
    (storeAnswer_ok (r := .manifest ⟨accepted⟩) trivial h).1 rfl rfl
    fun d d' _ happlied halike => ?_
  obtain ⟨bytes, hbytes⟩ := halike.ledger
  cases happlied with
  | manifest _ t ledger₁ _ _ hretired₁ =>
      exfalso
      have hlive := CompletionLedger.retireGeneration_attempted c.ledger.attemptedBytes hretired₁
      have hsame : d.ledger.attempted c.ledger.attemptedBytes = c.ledger := by
        rw [hbytes]
        rfl
      rw [hsame, hretired] at hlive
      cases hlive

/-- The commit record tells of the completion. -/
theorem retells_credited {c : Coordinator} (hsink : c.sink.isSome) {request : CommitRequest}
    (hr : Measured (.commit ⟨request, c.clock⟩)) {receipt : CommitReceipt}
    {ledger : CompletionLedger}
    (haccepted : c.sinkAnswer (DurableRecord.commit ⟨request, c.clock⟩).encode = .ok ())
    (hcommit : c.ledger.commit request c.clock = .ok (receipt, ledger)) :
    Retells c (((c.persisted (DurableRecord.commit ⟨request, c.clock⟩).encode).credited
      ledger).resolveAttempt request.attempt) := by
  refine retells_stored hr hsink haccepted rfl rfl fun d d' _ happlied halike => ?_
  obtain ⟨bytes, hbytes⟩ := halike.ledger
  cases happlied with
  | commit _ receipt₁ ledger₁ hcommit₁ =>
      simp only [hbytes, CompletionLedger.commit_attempted bytes hcommit] at hcommit₁
      obtain ⟨-, rfl⟩ := Prod.mk.inj (Except.ok.inj hcommit₁)
      rw [advanceClock_eq]
      exact ⟨⟨halike.request, halike.phase, halike.epoch, halike.manifests, halike.facts, bytes,
        rfl⟩, fun hsame => hsame⟩

/-- What a failure changes: the ledger, its counter and the clock. -/
theorem charged_eq (c : Coordinator) (ledger : CompletionLedger) (readyAt : TickId) :
    c.charged ledger readyAt = { c with
      ledger := ledger
      failuresApplied := c.failuresApplied + 1
      clock := c.clockAfter readyAt } := by
  rw [charged, advanceClock_eq]
  rfl

/-- The failure record tells of the failure. -/
theorem retells_charged {c : Coordinator} (attempt : TransferAttemptId) (hsink : c.sink.isSome)
    {record : FailureRecordDurable} {ledger : CompletionLedger}
    (haccepted : c.sinkAnswer (DurableRecord.failure record).encode = .ok ())
    (hfailure : c.ledger.recordFailure (ledgerFailure record) = .ok ledger) :
    Retells c (((c.persisted (DurableRecord.failure record).encode).charged ledger
      record.readyAt).resolveAttempt attempt) := by
  have hlive := charged_eq (c.persisted (DurableRecord.failure record).encode) ledger record.readyAt
  refine retells_stored (r := .failure record) trivial hsink haccepted ?_ ?_
    fun d d' _ happlied halike => ?_
  · rw [hlive]
    rfl
  · rw [hlive]
    rfl
  obtain ⟨bytes, hbytes⟩ := halike.ledger
  cases happlied with
  | failure _ ledger₁ hfailure₁ =>
      simp only [hbytes, CompletionLedger.recordFailure_attempted bytes hfailure] at hfailure₁
      obtain rfl := Except.ok.inj hfailure₁
      rw [hlive, charged_eq]
      exact ⟨⟨halike.request, halike.phase, halike.epoch, halike.manifests, halike.facts, bytes,
        rfl⟩, fun hsame => hsame⟩

/-! ## What one call does -/

/-- The record of the end tells of the end of the shuffle. -/
theorem Noted.retells {c c' : Coordinator} (h : Noted c c') (hsink : c.sink.isSome) :
    Retells c c' := by
  cases h with
  | incomplete => exact .of_same rfl rfl rfl rfl rfl rfl rfl ⟨c.ledger.attemptedBytes, rfl⟩ rfl
  | unstored e t required _ _ _ hanswer => exact retells_unstored hanswer
  | completed t required _ _ _ hanswer => exact retells_entered hsink hanswer

/-- The chunks of the accepted manifests can be counted in 32 bits, as records count them. -/
def Countable (c : Coordinator) : Prop :=
  ∀ (p : PartitionId) (m : PartitionManifest), c.manifests[p]? = some m → m.chunks.length < 2 ^ 32

/-- A manifest that was read back has a count of chunks that fits its field. -/
theorem Countable.insert {c c' : Coordinator} (h : c.Countable) {accepted : PartitionManifest}
    (hanswer : c.storeAnswer (.manifest ⟨accepted⟩) = .ok ())
    (hmanifests : c'.manifests = c.manifests.insert accepted.partition accepted) :
    c'.Countable := by
  intro p m hm
  rw [hmanifests, Std.ExtTreeMap.getElem?_insert] at hm
  split at hm
  · obtain rfl := Option.some.inj hm
    have hfits : ManifestFits c.limits accepted :=
      (storeAnswer_ok (r := .manifest ⟨accepted⟩) trivial hanswer).2
    have hlength := hfits.length
    rw [length_manifestBytes] at hlength
    omega
  · exact h p m hm

/-- Every call keeps the manifests countable. -/
theorem Transition.countable {c c' : Coordinator} {call : Call} {answer : Result Reply}
    (h : Transition c call answer c') (hc : c.Countable) : c'.Countable := by
  cases h.manifests with
  | kept hmanifests =>
      intro p m hm
      rw [hmanifests] at hm
      exact hc p m hm
  | accepted manifest accepted hcall =>
      subst hcall
      cases h with
      | refused => exact hc
      | unstored => exact hc
      | registered _ record t t' hregistration => cases hregistration
      | published _ accepted ledger _ hanswer => exact hc.insert hanswer rfl
      | unretired _ accepted e _ hanswer => exact hc.insert hanswer rfl

/-- The evidence of a completion can be counted like the chunks it speaks of. -/
theorem Countable.commit {c : Coordinator} (h : c.Countable) {request : CommitRequest}
    (hcheck : c.checkCommit request = .ok ()) : Measured (.commit ⟨request, c.clock⟩) := by
  obtain ⟨grant, t, manifest, -, -, -, -, -, hmanifest, -, hevidence, -⟩ := checkCommit_ok hcheck
  show request.observedChunkDigests.length < 2 ^ 32
  rw [(checkEvidence_ok hevidence).2.2.2, List.length_map]
  exact h _ manifest hmanifest

/-- A call, retold by the records it made durable. -/
theorem Transition.retells {c c' : Coordinator} {call : Call} {answer : Result Reply}
    (h : Transition c call answer c') (hsink : c.sink.isSome) (hc : c.Countable) :
    Retells c c' := by
  cases h with
  | refused => exact .refl c
  | unstored _ r e _ hanswer => exact retells_unstored hanswer
  | halfOpened request e _ hepoch hanswer =>
      exact (retells_opening hsink hepoch).trans (retells_unstored hanswer)
  | opened request _ hepoch hanswer =>
      refine (retells_opening hsink hepoch).trans (retells_entered ?_ hanswer)
      rw [c.extends_opening.sink]
      exact hsink
  | cancelledBefore => exact .refl c
  | cancelled reason _ _ hanswer => exact retells_entered hsink hanswer
  | ticked => exact .of_same rfl rfl rfl rfl rfl rfl rfl ⟨c.ledger.attemptedBytes, rfl⟩ rfl
  | registered _ record t t' hregistration hopen hanswer hregister =>
      exact retells_joined hsink (measured_of_registerFrom hregister) (ensureOpen_ok hopen).2
        (place_of_active (active_of_registration hregistration) hregister) hanswer
  | stateSet kind id incarnation state t t' hopen _ hanswer hplace =>
      exact retells_joined hsink (measured_of_place hplace) (ensureOpen_ok hopen).2 hplace hanswer
  | published manifest accepted ledger _ hanswer hretired =>
      exact retells_manifested hsink hanswer hretired
  | unretired manifest accepted e _ hanswer hretired =>
      exact retells_unretired hsink hanswer hretired
  | nothingLeft => exact .refl c
  | unplanned => exact .of_same rfl rfl rfl rfl rfl rfl rfl ⟨c.ledger.attemptedBytes, rfl⟩ rfl
  | planned t scheduler scheduler' plan =>
      obtain ⟨grants, bytes, heq, -⟩ :=
        exists_foldl_admitGrant plan.grants { c with scheduler := scheduler' }
      rw [heq]
      exact .of_same rfl rfl rfl rfl rfl rfl rfl ⟨bytes, rfl⟩ rfl
  | committed request receipt ledger _ hcheck haccepted hcommit hnoted =>
      have hcredited := retells_credited hsink (hc.commit hcheck) haccepted hcommit
      refine hcredited.trans (hnoted.retells ?_)
      rw [hcredited.1.sink]
      exact hsink
  | failed attempt code record ledger _ _ haccepted hfailure hnoted =>
      have hcharged := retells_charged attempt hsink haccepted hfailure
      refine hcharged.trans (hnoted.retells ?_)
      rw [hcharged.1.sink]
      exact hsink
  | pressured intent =>
      unfold recordPressure
      simp only
      split <;> exact .of_same rfl rfl rfl rfl rfl rfl rfl ⟨c.ledger.attemptedBytes, rfl⟩ rfl

/-! ## What a life does -/

/-- A life, retold by the records its sink accepted. -/
theorem retells_of_run {limits : Limits} {sink : Sink}
    {events : List (Event Coordinator Call (Result Reply))} {c : Coordinator}
    (run : Run perform (make limits (some sink)) events c) :
    c.Regular ∧ c.Countable ∧ Retells (make limits (some sink)) c := by
  induction run with
  | nil => exact ⟨regular_make _ _, fun p m h => (by simp [make] at h), .refl _⟩
  | @snoc events c run call ih =>
      obtain ⟨hregular, hcountable, hretells⟩ := ih
      have htransition := perform_transition hregular.inside hregular.consistent call
      have hsink : c.sink.isSome := by
        rw [hretells.1.sink]
        rfl
      exact ⟨(htransition.regular hregular).1, htransition.countable hcountable,
        hretells.trans (htransition.retells hsink hcountable)⟩

/-! ## Epochs and records -/

/-- No epoch was entered without a record of its own. -/
def Paced (c c' : Coordinator) : Prop :=
  c'.epoch.toNat + c.journal.length ≤ c.epoch.toNat + c'.journal.length

/-- Two stretches of a run, one after the other. -/
theorem Paced.trans {c c' c'' : Coordinator} (h : Paced c c') (h' : Paced c' c'') : Paced c c'' := by
  unfold Paced at *
  omega

/-- An epoch that stays, while the journal may grow. -/
theorem Paced.of_extends {c c' : Coordinator} (h : Extends c c') (hepoch : c'.epoch = c.epoch) :
    Paced c c' := by
  have hgrows := h.journal.length_le
  rw [Paced, hepoch]
  omega

/-- The next epoch, behind its record. -/
theorem paced_opening {c : Coordinator} (hsink : c.sink.isSome)
    (h : c.storeAnswer (.epochAdvanced c.nextEpoch) = .ok ()) : Paced c c.opening := by
  have haccepted := (storeAnswer_ok (r := .epochAdvanced c.nextEpoch) trivial h).1
  have hjournal : c.opening.journal =
      c.journal ++ [(DurableRecord.epochAdvanced c.nextEpoch).encode] := by
    have hpersisted := journal_persisted c (DurableRecord.epochAdvanced c.nextEpoch).encode
    rw [if_pos ⟨hsink, haccepted⟩] at hpersisted
    rw [← hpersisted, opening, epochAdvanced_eq]
    rfl
  have hepoch : c.opening.epoch.toNat ≤ c.epoch.toNat + 1 := by
    rw [opening, epochAdvanced_eq]
    show (if c.epoch + 1 > c.epoch then c.epoch + 1 else c.epoch).toNat ≤ _
    split
    · rw [UInt64.toNat_add]
      exact Nat.mod_le _ _
    · exact Nat.le_succ _
  rw [Paced, hjournal, List.length_append, List.length_singleton]
  omega

/-- The end of a shuffle leaves the epoch. -/
theorem Noted.epoch {c c' : Coordinator} (h : Noted c c') : c'.epoch = c.epoch := by
  cases h with
  | incomplete | unstored => rfl
  | completed =>
      rw [entered_eq]
      rfl

/-- A call that advances the epoch writes a record. -/
theorem Transition.paced {c c' : Coordinator} {call : Call} {answer : Result Reply}
    (h : Transition c call answer c') (hsink : c.sink.isSome) : Paced c c' := by
  have hextends := h.extends
  cases h with
  | refused | unstored | cancelledBefore | ticked | published | unretired | nothingLeft
  | unplanned => exact .of_extends hextends rfl
  | halfOpened request e _ hepoch =>
      exact (paced_opening hsink hepoch).trans (.of_extends (extends_persisted _ _) rfl)
  | opened request _ hepoch =>
      refine (paced_opening hsink hepoch).trans
        (.of_extends ((extends_persisted _ _).trans (extends_entered _ _)) ?_)
      rw [entered_eq]
      rfl
  | cancelled =>
      refine .of_extends hextends ?_
      rw [entered_eq]
      rfl
  | registered _ record t t' =>
      obtain ⟨producers, consumers, pending, heq⟩ := (c.persisted
        (DurableRecord.participant record).encode).joinedBy_eq t t' record
      refine .of_extends hextends ?_
      rw [heq]
      rfl
  | stateSet kind id incarnation state t t' =>
      obtain ⟨producers, consumers, pending, heq⟩ := (c.persisted (DurableRecord.participant
        (c.stateChange t kind id incarnation state)).encode).joinedBy_eq t t'
        (c.stateChange t kind id incarnation state)
      refine .of_extends hextends ?_
      rw [heq]
      rfl
  | planned t scheduler scheduler' plan =>
      obtain ⟨grants, bytes, heq, -⟩ :=
        exists_foldl_admitGrant plan.grants { c with scheduler := scheduler' }
      refine .of_extends hextends ?_
      rw [heq]
  | committed request receipt ledger _ _ _ _ hnoted => exact .of_extends hextends hnoted.epoch
  | failed attempt code record ledger _ _ _ _ hnoted =>
      refine .of_extends hextends (hnoted.epoch.trans ?_)
      rw [charged, advanceClock_eq]
      rfl
  | pressured intent =>
      refine .of_extends hextends ?_
      unfold recordPressure
      simp only
      split <;> rfl

/-- So the epoch is at most the number of records. -/
theorem paced_of_run {limits : Limits} {sink : Sink}
    {events : List (Event Coordinator Call (Result Reply))} {c : Coordinator}
    (run : Run perform (make limits (some sink)) events c) :
    Paced (make limits (some sink)) c := by
  induction run with
  | nil => exact Nat.le_refl _
  | snoc run call ih =>
      obtain ⟨hregular, -, hretells⟩ := retells_of_run run
      refine ih.trans ((perform_transition hregular.inside hregular.consistent call).paced ?_)
      rw [hretells.1.sink]
      rfl

/-- Nobody reports pressure to a coordinator while it recovers. -/
theorem recover_pressure {snapshot : Bytes} {journal : List Bytes} {historyIncomplete : Bool}
    {c c' : Coordinator} (hc : c.Regular)
    (h : (recover snapshot journal historyIncomplete).exec c = (.ok (), c')) :
    c'.producerPressure = {} ∧ c'.consumerPressure = {} ∧ c'.globalPressure = none := by
  obtain ⟨replayed, scratch, hregular, hpressure, hdemote, -, rfl, -, -⟩ := recover_rebuilt
    (P := fun d => d.producerPressure = {} ∧ d.consumerPressure = {} ∧ d.globalPressure = none)
    hc h ⟨rfl, rfl, rfl⟩
    (fun d d' _ record _ hd _ happlied => by
      cases happlied with
      | epoch => rw [epochAdvanced_eq]; exact hd
      | state record => rw [entered_eq]; exact hd
      | participant record t t' =>
          obtain ⟨producers, consumers, pending, heq⟩ := d.joinedBy_eq t t' record
          rw [heq]
          exact hd
      | manifest record t ledger => exact hd
      | commit record receipt ledger => rw [advanceClock_eq]; exact hd
      | failure record ledger => rw [charged_eq]; exact hd)
    fun d ledger hd => hd
  obtain ⟨topology, producers, consumers, pending, rfl⟩ := demote_frame hregular hdemote
  rw [opening, epochAdvanced_eq]
  exact hpressure

/-- What a recovered coordinator has of the one whose records it recovered from. -/
structure Relives (recovered c : Coordinator) : Prop where
  request : recovered.request = c.request
  state : recovered.state = c.state
  reason : recovered.reason = c.reason
  manifests : recovered.manifests = c.manifests
  facts : recovered.facts = c.facts
  ledger : ∃ bytes, recovered.ledger = c.ledger.attempted bytes
  roster : recovered.roster = c.roster.demoted
  grants : recovered.grants = {}
  pressure : recovered.producerPressure = {} ∧ recovered.consumerPressure = {} ∧
    recovered.globalPressure = none
  epoch : recovered.epoch = if c.epoch + 1 > c.epoch then c.epoch + 1 else c.epoch

/-- A coordinator that recovers from the records of a life relives it: only the attempts, the
pressure and the trust in the participants are gone, and it is in an epoch of its own.  (A
journal holds fewer records than there are epochs.) -/
theorem replay_relives {limits : Limits} {sink : Sink}
    {events : List (Event Coordinator Call (Result Reply))} {c : Coordinator}
    (run : Run perform (make limits (some sink)) events c) {records : List Bytes}
    (hrecords : c.journal = sink.accepted ++ records) {sink' : Option Sink}
    {historyIncomplete : Bool} {recovered : Coordinator}
    (hshort : records.length < 2 ^ 64 - 1)
    (h : (recover [] records historyIncomplete).exec (make limits sink') = (.ok (), recovered)) :
    Relives recovered c ∧ c.epoch < recovered.epoch := by
  obtain ⟨-, -, hretells⟩ := retells_of_run run
  have hfresh := regular_make limits sink'
  obtain ⟨scratch, -, hrebuild, -, hadopted⟩ := recover_ok hfresh.inside h
  obtain ⟨replayed, hreplay, hdemote⟩ := rebuild_eq_ok.mp hrebuild
  obtain ⟨restored, hrestore, hrun⟩ := replay_eq_ok.mp hreplay
  obtain rfl : ({ make limits none with historyIncomplete } : Coordinator) = restored :=
    Except.ok.inj hrestore
  obtain ⟨halike, htopology⟩ := hretells.2 records hrecords
    { make limits none with historyIncomplete } replayed rfl hrun
    ⟨rfl, rfl, rfl, rfl, rfl, 0, rfl⟩
  have hregular := (replay_regular hreplay).1
  have hroster : scratch.roster = c.roster.demoted := by
    rw [(demote_regular hregular hdemote).2, roster_congr (htopology rfl)]
  obtain ⟨-, -, hgrants⟩ := recover_scheduler hfresh h
  have hpressure := recover_pressure hfresh h
  have hepoch : recovered.epoch = if c.epoch + 1 > c.epoch then c.epoch + 1 else c.epoch := by
    obtain ⟨topology, producers, consumers, pending, rfl⟩ := demote_frame hregular hdemote
    rw [hadopted, opening, epochAdvanced_eq, ← halike.epoch]
    rfl
  refine ⟨?_, ?_⟩
  · have hsame : recovered.roster = scratch.roster := by
      rw [hadopted]
      exact roster_congr ((make limits sink').equipped scratch).opening_frame.2.1
    obtain ⟨topology, producers, consumers, pending, rfl⟩ := demote_frame hregular hdemote
    have hrecovered : recovered.request = replayed.request ∧ recovered.phase = replayed.phase ∧
        recovered.manifests = replayed.manifests ∧ recovered.facts = replayed.facts ∧
        recovered.ledger = replayed.ledger := by
      rw [hadopted, opening, epochAdvanced_eq]
      exact ⟨rfl, rfl, rfl, rfl, rfl⟩
    obtain ⟨hrequest, hphase, hmanifests, hfacts, hledger⟩ := hrecovered
    have hphase' := hphase.trans halike.phase
    exact {
      request := hrequest.trans halike.request
      state := congrArg Prod.fst hphase'
      reason := congrArg Prod.snd hphase'
      manifests := hmanifests.trans halike.manifests
      facts := hfacts.trans halike.facts
      ledger := by rw [hledger]; exact halike.ledger
      roster := hsame.trans hroster
      grants := hgrants
      pressure := hpressure
      epoch := hepoch }
  · have hpaced := paced_of_run run
    rw [Paced, hrecords, List.length_append] at hpaced
    have hstart : (make limits (some sink)).epoch.toNat = 0 ∧
        (make limits (some sink)).journal.length = sink.accepted.length := ⟨rfl, rfl⟩
    have hnext : c.epoch < c.epoch + 1 := by
      rw [UInt64.lt_iff_toNat_lt, UInt64.toNat_add, UInt64.toNat_one, Nat.mod_eq_of_lt (by omega)]
      exact Nat.lt_succ_self _
    rw [hepoch, if_pos hnext]
    exact hnext

/-- The small shuffle, recovered from its records while its attempt is in flight. -/
theorem replay_relives_small :
    Relives ((recover [] (final perform (make {} (some acceptAll)) smallCalls).journal false).exec
        (make {} none)).2 (final perform (make {} (some acceptAll)) smallCalls) ∧
      (final perform (make {} (some acceptAll)) smallCalls).epoch <
        ((recover [] (final perform (make {} (some acceptAll)) smallCalls).journal false).exec
          (make {} none)).2.epoch := by
  have run := Run.of_inputs perform (make {} (some acceptAll)) smallCalls
  obtain ⟨hrecover, hshort⟩ :
      ((recover [] (final perform (make {} (some acceptAll)) smallCalls).journal false).exec
        (make {} none)).1 = .ok () ∧
      (final perform (make {} (some acceptAll)) smallCalls).journal.length < 2 ^ 64 - 1 := by
    decide +kernel
  exact replay_relives run (List.nil_append _).symm hshort (Prod.ext hrecover rfl)

end Coordinator

end ShuffleFabric
