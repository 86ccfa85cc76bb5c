import ShuffleFabric.Backoff
import ShuffleFabric.Granted
import ShuffleFabric.Ledger.Step

/-!
# ShuffleFabric.Onward

What an opened shuffle never takes back: its identity, its bounds, the latest generation of
a partition, and the manifest accepted for a generation.

`LedgerStep` says which of its operations the ledger went through in a call; with
`ManifestStep` it is all that the laws of generations need to know about a call.
-/

namespace ShuffleFabric

open Lib Action CompletionLedger

namespace Coordinator

/-! ## What a call does to the ledger -/

/-- What a call does to the ledger. -/
inductive LedgerStep (c : Coordinator) (call : Call) (c' : Coordinator) : Prop
  | kept (ledger : c'.ledger = c.ledger)
  | bound (request : ShuffleOpenRequest) (call_eq : call = .openShuffle request)
      (check : c.checkOpen request = .ok ())
      (ledger : c'.ledger =
        c.ledger.bind request.shuffle request.generation request.partitionCount)
  | retired (manifest accepted : PartitionManifest) (call_eq : call = .publishManifest manifest)
      (check : c.checkPublish manifest = .ok accepted)
      (ledger : c.ledger.retireGeneration accepted.partition accepted.partitionGeneration =
        .ok c'.ledger)
  | committed (request : CommitRequest) (receipt : CommitReceipt)
      (call_eq : call = .commitTransfer request) (check : c.checkCommit request = .ok ())
      (ledger : c.ledger.commit request c.clock = .ok (receipt, c'.ledger))
  | failed (attempt : TransferAttemptId) (code : ErrorCode) (record : FailureRecordDurable)
      (call_eq : call = .reportFailure attempt code)
      (check : c.checkFailure attempt code = .ok record)
      (ledger : c.ledger.recordFailure (ledgerFailure record) = .ok c'.ledger)
  | attempted (bytes : UInt64) (call_eq : call = .nextWave)
      (ledger : c'.ledger = { c.ledger with attemptedBytes := bytes })

/-- Noting the completion leaves the ledger and the settings alone. -/
theorem Noted.ledger {c c' : Coordinator} (h : Noted c c') :
    c'.ledger = c.ledger ∧ c'.request = c.request ∧ c'.limits = c.limits := by
  cases h with
  | incomplete => exact ⟨rfl, rfl, rfl⟩
  | unstored => exact ⟨rfl, rfl, rfl⟩
  | completed =>
      rw [entered_eq]
      exact ⟨rfl, rfl, rfl⟩

/-- A reading is nothing to the ledger or the request. -/
theorem recordPressure_frame (c : Coordinator) (intent : CongestionIntent) :
    (c.recordPressure intent).ledger = c.ledger ∧ (c.recordPressure intent).request = c.request ∧
      (c.recordPressure intent).limits = c.limits := by
  unfold recordPressure
  simp only
  split <;> exact ⟨rfl, rfl, rfl⟩

/-- What each call does to the ledger. -/
theorem Transition.ledger {c c' : Coordinator} {call : Call} {answer : Result Reply}
    (h : Transition c call answer c') : LedgerStep c call c' := by
  cases h with
  | refused => exact .kept rfl
  | unstored => exact .kept rfl
  | halfOpened request =>
      rw [opening, epochAdvanced_eq]
      exact .kept rfl
  | opened request hcheck =>
      refine .bound request rfl hcheck ?_
      rw [entered_eq, opening, epochAdvanced_eq]
      rfl
  | cancelledBefore => exact .kept rfl
  | cancelled reason =>
      rw [entered_eq]
      exact .kept rfl
  | ticked => exact .kept rfl
  | registered _ record t t' =>
      obtain ⟨producers, consumers, pending, heq⟩ := (c.persisted
        (DurableRecord.participant record).encode).joinedBy_eq t t' record
      rw [heq]
      exact .kept rfl
  | stateSet kind id incarnation state t t' =>
      obtain ⟨producers, consumers, pending, heq⟩ := (c.persisted (DurableRecord.participant
        (c.stateChange t kind id incarnation state)).encode).joinedBy_eq t t'
        (c.stateChange t kind id incarnation state)
      rw [heq]
      exact .kept rfl
  | published manifest accepted ledger hcheck _ hretired =>
      exact .retired manifest accepted rfl hcheck hretired
  | unretired => exact .kept rfl
  | nothingLeft => exact .kept rfl
  | unplanned => exact .kept rfl
  | planned t scheduler scheduler' plan =>
      obtain ⟨grants, bytes, heq, -⟩ :=
        exists_foldl_admitGrant plan.grants { c with scheduler := scheduler' }
      rw [heq]
      exact .attempted bytes rfl rfl
  | committed request receipt ledger _ hcheck _ hcommit hnoted =>
      refine .committed request receipt rfl hcheck ?_
      rw [hnoted.ledger.1]
      exact hcommit
  | failed attempt code record ledger _ hcheck _ hfailure hnoted =>
      refine .failed attempt code record rfl hcheck ?_
      have hledger := hnoted.ledger.1
      rw [charged, advanceClock_eq] at hledger
      rw [hledger]
      exact hfailure
  | pressured intent => exact .kept (c.recordPressure_frame intent).1

/-! ## Settings -/

/-- Only the opening sets the identity of the shuffle; nothing sets the bounds. -/
theorem Transition.settings {c c' : Coordinator} {call : Call} {answer : Result Reply}
    (h : Transition c call answer c') : c'.limits = c.limits ∧
      (c'.request = c.request ∨ ∃ request, call = .openShuffle request ∧
        c.checkOpen request = .ok () ∧ c'.request = request) := by
  cases h with
  | refused => exact ⟨rfl, .inl rfl⟩
  | unstored => exact ⟨rfl, .inl rfl⟩
  | halfOpened request =>
      rw [opening, epochAdvanced_eq]
      exact ⟨rfl, .inl rfl⟩
  | opened request hcheck =>
      rw [entered_eq, opening, epochAdvanced_eq]
      exact ⟨rfl, .inr ⟨request, rfl, hcheck, rfl⟩⟩
  | cancelledBefore => exact ⟨rfl, .inl rfl⟩
  | cancelled reason =>
      rw [entered_eq]
      exact ⟨rfl, .inl rfl⟩
  | ticked => exact ⟨rfl, .inl rfl⟩
  | registered _ record t t' =>
      obtain ⟨producers, consumers, pending, heq⟩ := (c.persisted
        (DurableRecord.participant record).encode).joinedBy_eq t t' record
      rw [heq]
      exact ⟨rfl, .inl rfl⟩
  | stateSet kind id incarnation state t t' =>
      obtain ⟨producers, consumers, pending, heq⟩ := (c.persisted (DurableRecord.participant
        (c.stateChange t kind id incarnation state)).encode).joinedBy_eq t t'
        (c.stateChange t kind id incarnation state)
      rw [heq]
      exact ⟨rfl, .inl rfl⟩
  | published => exact ⟨rfl, .inl rfl⟩
  | unretired => exact ⟨rfl, .inl rfl⟩
  | nothingLeft => exact ⟨rfl, .inl rfl⟩
  | unplanned => exact ⟨rfl, .inl rfl⟩
  | planned t scheduler scheduler' plan =>
      obtain ⟨grants, bytes, heq, -⟩ :=
        exists_foldl_admitGrant plan.grants { c with scheduler := scheduler' }
      rw [heq]
      exact ⟨rfl, .inl rfl⟩
  | committed request receipt ledger _ _ _ _ hnoted =>
      exact ⟨hnoted.ledger.2.2, .inl hnoted.ledger.2.1⟩
  | failed attempt code record ledger _ _ _ _ hnoted =>
      have hcharged := hnoted.ledger.2
      rw [charged, advanceClock_eq] at hcharged
      exact ⟨hcharged.2, .inl hcharged.1⟩
  | pressured intent =>
      exact ⟨(c.recordPressure_frame intent).2.2, .inl (c.recordPressure_frame intent).2.1⟩

/-! ## Onward -/

/-- A step of the ledger that follows it and lets no generation fall. -/
structure Rises (l l' : CompletionLedger) : Prop where
  follows : l.Follows l'
  latest : ∀ (p : PartitionId) (known : PartitionGeneration), l.latestGeneration[p]? = some known →
    ∃ later, l'.latestGeneration[p]? = some later ∧ known ≤ later

/-- The latest generations are as they were. -/
theorem Rises.of_latest {l l' : CompletionLedger} (h : l.Follows l')
    (hlatest : l'.latestGeneration = l.latestGeneration) : Rises l l' :=
  ⟨h, fun _ known hknown => ⟨known, by rw [hlatest, hknown], UInt64.le_refl _⟩⟩

/-- The latest generation of one partition is raised. -/
theorem Rises.of_raised {l l' : CompletionLedger} (h : l.Follows l') {partition : PartitionId}
    {generation : PartitionGeneration}
    (hlatest : l'.latestGeneration = raised l.latestGeneration partition generation) : Rises l l' :=
  ⟨h, fun _ _ hknown => hlatest ▸ le_raised hknown partition generation⟩

/-- One state of an opened shuffle and a later one. -/
structure Onward (c c' : Coordinator) : Prop where
  bound : c'.state ≠ .closed
  request : c'.request = c.request
  limits : c'.limits = c.limits
  ledger : Rises c.ledger c'.ledger
  manifests : ∀ (p : PartitionId) (m : PartitionManifest), c.manifests[p]? = some m →
    ∃ m', c'.manifests[p]? = some m' ∧ (m' = m ∨ m.partitionGeneration < m'.partitionGeneration)

theorem Onward.refl {c : Coordinator} (h : c.state ≠ .closed) : Onward c c where
  bound := h
  request := rfl
  limits := rfl
  ledger := .of_latest (.refl _) rfl
  manifests _ m hm := ⟨m, hm, .inl rfl⟩

/-- What only goes onward in each part goes onward in the whole. -/
theorem Onward.trans {c c' c'' : Coordinator} (h : Onward c c') (h' : Onward c' c'') :
    Onward c c'' where
  bound := h'.bound
  request := h'.request.trans h.request
  limits := h'.limits.trans h.limits
  ledger := by
    refine ⟨h.ledger.follows.trans h'.ledger.follows, fun p known hknown => ?_⟩
    obtain ⟨later, hlater, hle⟩ := h.ledger.latest p known hknown
    obtain ⟨latest, hlatest, hle'⟩ := h'.ledger.latest p later hlater
    exact ⟨latest, hlatest, UInt64.le_trans hle hle'⟩
  manifests p m hm := by
    obtain ⟨m', hm', hnewer⟩ := h.manifests p m hm
    obtain ⟨m'', hm'', hnewer'⟩ := h'.manifests p m' hm'
    refine ⟨m'', hm'', ?_⟩
    rcases hnewer with rfl | hlt
    · exact hnewer'
    · rcases hnewer' with rfl | hlt'
      · exact .inr hlt
      · exact .inr (UInt64.lt_trans hlt hlt')

/-- Only a closed coordinator opens a shuffle. -/
theorem checkOpen_closed {c : Coordinator} {request : ShuffleOpenRequest}
    (h : c.checkOpen request = .ok ()) : c.state = .closed := by
  simp only [checkOpen, bind_eq_ok, refuseIf_eq_ok, exists_const, not_not] at h
  exact h.1

/-- The accepted manifest of a partition is replaced by a newer one only. -/
theorem ManifestStep.newer {c c' : Coordinator} {call : Call} (h : ManifestStep c call c')
    {p : PartitionId} {m : PartitionManifest} (hm : c.manifests[p]? = some m) :
    ∃ m', c'.manifests[p]? = some m' ∧ (m' = m ∨ m.partitionGeneration < m'.partitionGeneration) := by
  cases h with
  | kept hmanifests => exact ⟨m, by rw [hmanifests, hm], .inl rfl⟩
  | accepted manifest accepted _ hcheck hmanifests =>
      obtain ⟨t, -, haccepted, -, -, -, -, -, -, hexisting⟩ := checkPublish_ok hcheck
      have hpartition : accepted.partition = manifest.partition := by rw [haccepted]
      rw [hmanifests, Std.ExtTreeMap.getElem?_insert]
      split
      · next hcmp =>
          have hsame : accepted.partition = p := Std.LawfulEqOrd.eq_of_compare hcmp
          rw [← hpartition, hsame, hm] at hexisting
          simp only [checkExisting, bind_eq_ok, refuseIf_eq_ok, exists_const, not_and, not_not]
            at hexisting
          refine ⟨accepted, rfl, ?_⟩
          by_cases heq : m.partitionGeneration = accepted.partitionGeneration
          · exact .inl (hexisting.2 heq).symm
          · exact .inr (UInt64.lt_of_le_of_ne (UInt64.not_lt.mp hexisting.1) heq)
      · exact ⟨m, hm, .inl rfl⟩

/-- While a shuffle is bound its ledger is not replaced. -/
theorem LedgerStep.rises {c c' : Coordinator} {call : Call} (h : LedgerStep c call c')
    (hopen : c.state ≠ .closed) : Rises c.ledger c'.ledger := by
  cases h with
  | kept hledger => exact hledger ▸ .of_latest (.refl _) rfl
  | bound request _ hcheck => exact absurd (checkOpen_closed hcheck) hopen
  | retired manifest accepted _ _ hledger =>
      exact .of_raised (follows_retireGeneration hledger).2 (latestGeneration_retireGeneration hledger)
  | committed request receipt _ _ hledger =>
      rcases latestGeneration_commit hledger with hsame | hraised
      · exact .of_latest (follows_commit hledger) hsame
      · exact .of_raised (follows_commit hledger) hraised
  | failed attempt code record _ _ hledger =>
      exact .of_latest (follows_recordFailure hledger) (spares_recordFailure hledger).latestGeneration
  | attempted bytes _ hledger =>
      rw [hledger]
      exact .of_latest (.of_tables rfl rfl rfl rfl rfl) rfl

/-- A call takes a shuffle onward. -/
theorem Transition.onward {c c' : Coordinator} {call : Call} {answer : Result Reply}
    (h : Transition c call answer c') (hopen : c.state ≠ .closed) : Onward c c' where
  bound := h.not_closed hopen
  request := by
    rcases h.settings.2 with hsame | ⟨request, -, hcheck, -⟩
    · exact hsame
    · exact absurd (checkOpen_closed hcheck) hopen
  limits := h.settings.1
  ledger := h.ledger.rises hopen
  manifests _ _ hm := h.manifests.newer hm

/-- An opened coordinator refuses to recover, so every move leads onward. -/
theorem onward_of_run {c d : Coordinator} (hc : c.Regular) (hopen : c.state ≠ .closed)
    {events : List (Event Coordinator Move (Result Reply))} (run : Run move c events d) :
    Onward c d ∧ d.Regular := by
  induction run with
  | nil => exact ⟨.refl hopen, hc⟩
  | @snoc events d run m ih =>
      obtain ⟨honward, hd⟩ := ih
      refine ⟨honward.trans ?_, hd.move m⟩
      cases m with
      | call call => exact (perform_transition hd.inside hd.consistent call).onward honward.bound
      | recover snapshot journal historyIncomplete =>
          obtain ⟨e, hmove⟩ := recover_of_not_closed hd.inside honward.bound snapshot journal
            historyIncomplete
          rw [hmove]
          exact .refl honward.bound

end Coordinator

end ShuffleFabric
