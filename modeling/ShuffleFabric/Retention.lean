import ShuffleFabric.Ledger.History
import ShuffleFabric.Onward
import ShuffleFabric.Replay

/-!
# ShuffleFabric.Retention

How much the ledger stores in every reachable state, restarts included.

A turn keeps to the bounds if the ledger finds room for what the turn adds.  A checkpoint
says nothing about the index of retained keys, and nothing checks its tables against the
bounds; so a restart needs a checkpoint within the bounds, and room for every record behind it.
-/

namespace ShuffleFabric

open Lib Action CompletionLedger

namespace CompletionLedger

/-! ## Ledgers that were read back -/

/-- What is left to ask of a ledger that was read back: the decoder counts its partition
records, but neither those of a single partition nor its edges. -/
structure WithinBounds (l : CompletionLedger) : Prop where
  generations : ∀ entry ∈ l.partitions.toList,
    l.generationsOf entry.2.anchor.partition ≤ l.limits.maxRetainedGenerations.toNat
  edges : l.storedEdges ≤ l.limits.maxTrackedEdges.toNat

instance (l : CompletionLedger) : Decidable l.WithinBounds :=
  decidable_of_iff (_ ∧ _) ⟨fun h => ⟨h.1, h.2⟩, fun h => ⟨h.generations, h.edges⟩⟩

/-- A ledger that was decoded within the bounds keeps to them. -/
theorem WithinBounds.bounded {l : CompletionLedger} (h : l.WithinBounds)
    (hsize : l.partitions.size ≤ l.limits.maxTrackedPartitions.toNat) : l.HistoryBounded := by
  refine ⟨fun partition => ?_, hsize, h.edges⟩
  by_cases hstored : ∃ entry ∈ l.partitions.toList, entry.2.anchor.partition = partition
  · obtain ⟨entry, hentry, rfl⟩ := hstored
    exact h.generations entry hentry
  · have hnone : l.generationsOf partition ≤ ([] : List UInt64).length := by
      refine tally_le_length fun k r hr hpartition => absurd ?_ hstored
      exact ⟨(k, r), Std.ExtTreeMap.mem_toList_iff_getElem?_eq_some.mpr hr,
        beq_iff_eq.mp hpartition⟩
    exact hnone.trans (Nat.zero_le _)

/-- A new ledger stores nothing. -/
theorem historyBounded_empty (limits : Limits) :
    ({ limits } : CompletionLedger).HistoryBounded := by
  refine WithinBounds.bounded ⟨fun entry hentry => ?_, ?_⟩ (Nat.zero_le _)
  · have hnone := Std.ExtTreeMap.mem_toList_iff_getElem?_eq_some.mp hentry
    simp at hnone
  · have hweight := weigh_empty (κ := UInt64) (β := PartitionCommitRecord)
      (·.completedConsumers.length)
    unfold storedEdges
    simp only [hweight]
    exact Nat.zero_le _

/-- A count that is read is within its bound. -/
theorem collectionCount_le {maxItems count : Nat} {r r' : ByteReader}
    (h : (ByteReader.collectionCount maxItems).exec r = (.ok count, r')) : count ≤ maxItems := by
  obtain ⟨declared, s, -, h⟩ := exec_bind_ok h
  rw [exec_bind_of_ok (exec_get s)] at h
  split at h
  · cases h
    exact Nat.zero_le _
  · split at h
    · cases h
      exact Nat.zero_le _
    · next hmax =>
        split at h
        · cases h
          exact Nat.zero_le _
        · split at h
          · cases h
            exact Nat.zero_le _
          · cases h
            exact Nat.not_lt.mp hmax

/-- The records that are read are at most as many as the count. -/
theorem size_readCommitRecords {limits : Limits} {partitionCount : UInt32} {count : Nat}
    {records read : Std.ExtTreeMap UInt64 PartitionCommitRecord} {r r' : ByteReader}
    (h : (readCommitRecords limits partitionCount count records).exec r = (.ok read, r')) :
    read.size ≤ records.size + count := by
  induction count generalizing records r with
  | zero =>
      cases h
      exact Nat.le_refl _
  | succ count ih =>
      obtain ⟨record, _, -, h⟩ := exec_bind_ok h
      obtain ⟨_, _, -, h⟩ := exec_bind_ok h
      obtain ⟨_, _, -, h⟩ := exec_bind_ok h
      obtain ⟨_, _, -, h⟩ := exec_bind_ok h
      have hlater := ih h
      have hgrown : (records.insert (partitionKey record.anchor.partition
          record.anchor.partitionGeneration) record).size ≤ records.size + 1 :=
        Std.ExtTreeMap.size_insert_le
      omega

/-- Recounting changes counters only. -/
theorem sameTables_recount (l : CompletionLedger) : SameTables l l.recount := by
  have hcommit : ∀ (d : CompletionLedger) (record : PartitionCommitRecord),
      SameTables d (d.recountCommit record) := by
    intro d record
    unfold recountCommit
    split <;> exact ⟨rfl, rfl, rfl, rfl⟩
  have hfailure : ∀ (d : CompletionLedger) (record : FailureRecord),
      SameTables d (d.recountFailure record) := by
    intro d record
    unfold recountFailure failPartition
    split
    · split <;> exact ⟨rfl, rfl, rfl, rfl⟩
    · exact ⟨rfl, rfl, rfl, rfl⟩
  have hcommits : ∀ (records : List (UInt64 × PartitionCommitRecord)) (d : CompletionLedger),
      SameTables d (records.foldl (fun d entry => d.recountCommit entry.2) d) := fun records d =>
    List.foldlRecOn records _ (.refl d) fun _ hd entry _ => hd.trans (hcommit _ entry.2)
  have hfailures : ∀ (records : List (EdgeKey × FailureRecord)) (d : CompletionLedger),
      SameTables d (records.foldl (fun d entry => d.recountFailure entry.2) d) := fun records d =>
    List.foldlRecOn records _ (.refl d) fun _ hd entry _ => hd.trans (hfailure _ entry.2)
  unfold recount
  simp only [Std.ExtTreeMap.foldl_eq_foldl_toList]
  obtain ⟨hlimits, hpartitions, hfailed, hretained⟩ :=
    (hcommits l.partitions.toList { l with
      completedEdges := 0, committedPartitions := 0, permanentFailures := 0
      currentPermanentFailures := {}, failedPartitions := ∅ }).trans (hfailures _ _)
  exact ⟨hlimits, hpartitions, hfailed, hretained⟩

/-- A ledger that was read back has the bounds it was read with, and as many partition
records as these allow. -/
theorem decode_ok {limits : Limits} {l : CompletionLedger} {r r' : ByteReader}
    (h : (decode limits).exec r = (.ok l, r')) :
    l.limits = limits ∧ l.partitions.size ≤ limits.maxTrackedPartitions.toNat := by
  obtain ⟨_, _, -, h⟩ := exec_bind_ok h
  obtain ⟨_, _, -, h⟩ := exec_bind_ok h
  obtain ⟨_, _, -, h⟩ := exec_bind_ok h
  obtain ⟨_, _, -, h⟩ := exec_bind_ok h
  obtain ⟨_, _, -, h⟩ := exec_bind_ok h
  obtain ⟨_, _, -, h⟩ := exec_bind_ok h
  obtain ⟨_, _, -, h⟩ := exec_bind_ok h
  obtain ⟨_, _, -, h⟩ := exec_bind_ok h
  obtain ⟨_, _, -, h⟩ := exec_bind_ok h
  obtain ⟨_, _, -, h⟩ := exec_bind_ok h
  obtain ⟨_, _, -, h⟩ := exec_bind_ok h
  obtain ⟨count, _, hcount, h⟩ := exec_bind_ok h
  obtain ⟨partitions, _, hpartitions, h⟩ := exec_bind_ok h
  obtain ⟨_, _, -, h⟩ := exec_bind_ok h
  obtain ⟨_, _, -, h⟩ := exec_bind_ok h
  obtain ⟨_, _, -, h⟩ := exec_bind_ok h
  obtain ⟨_, _, -, h⟩ := exec_bind_ok h
  obtain ⟨_, _, -, h⟩ := exec_bind_ok h
  have hread := size_readCommitRecords hpartitions
  have hmax := collectionCount_le hcount
  obtain rfl := Except.ok.inj (congrArg Prod.fst h)
  obtain ⟨hlimits, htables, -, -⟩ := sameTables_recount _
  refine ⟨hlimits, ?_⟩
  rw [htables]
  have hempty : (∅ : Std.ExtTreeMap UInt64 PartitionCommitRecord).size = 0 := rfl
  simp only at hread ⊢
  omega

/-- What `record_failure` takes is what `validate_failure` lets through. -/
theorem validateFailure_of_recordFailure {l l' : CompletionLedger} {record : FailureRecord}
    (h : l.recordFailure record = .ok l') : l.validateFailure record.key record.code = .ok () := by
  simp only [recordFailure, bind_eq_ok, refuseIf_eq_ok, exists_const] at h
  obtain ⟨hpartition, hcode, h⟩ := h
  simp only [validateFailure, bind_eq_ok, refuseIf_eq_ok, exists_const]
  refine ⟨hpartition, hcode, fun hfull => ?_⟩
  rw [Option.isNone_iff_eq_none.mp hfull.1] at h
  simp only [if_pos hfull.2] at h
  cases h

end CompletionLedger

namespace Coordinator

/-! ## Room -/

/-- There is room for what a record adds when it is replayed. -/
def RoomForRecord (c : Coordinator) : DurableRecord → Prop
  | .commit record =>
    c.ledger.validateCommit record.request = .ok () → c.ledger.RoomForCommit record.request
  | .failure record =>
    c.ledger.validateFailure record.key record.code = .ok () → c.ledger.RoomForFailure record.key
  | _ => True

instance (c : Coordinator) : DecidablePred c.RoomForRecord
  | .commit _ => inferInstanceAs (Decidable (_ → _))
  | .failure _ => inferInstanceAs (Decidable (_ → _))
  | .epochAdvanced _ | .shuffleState _ | .participant _ | .manifest _ =>
    inferInstanceAs (Decidable True)

/-- Every record of a journal finds room in the state that it is replayed on. -/
def RoomForJournal : List Bytes → Coordinator → Prop
  | [], _ => True
  | record :: journal, c =>
    (∀ decoded ∈ (decodeRecord c.limits record).toOption, c.RoomForRecord decoded) ∧
      (((applyRecord record).exec c).1 = .ok () →
        RoomForJournal journal ((applyRecord record).exec c).2)

/-- Whether there is room is decided record by record. -/
instance decidableRoomForJournal : ∀ journal c, Decidable (RoomForJournal journal c)
  | [], _ => inferInstanceAs (Decidable True)
  | record :: journal, c =>
    have := decidableRoomForJournal journal ((applyRecord record).exec c).2
    inferInstanceAs (Decidable (_ ∧ (_ → _)))

/-- There is room for what a turn adds. -/
def RoomFor (c : Coordinator) : Turn → Prop
  | .call (.commitTransfer request) =>
    c.checkCommit request = .ok () → c.ledger.RoomForCommit request
  | .call (.reportFailure attempt code) =>
    ∀ record ∈ (c.checkFailure attempt code).toOption, c.ledger.RoomForFailure record.key
  | .call _ => True
  | .restart snapshot journal historyIncomplete =>
    ∀ restored ∈ (restoreSnapshot snapshot
        { make c.limits none with historyIncomplete }).toOption,
      restored.ledger.WithinBounds ∧ RoomForJournal journal restored

instance (c : Coordinator) : DecidablePred c.RoomFor
  | .call (.commitTransfer _) => inferInstanceAs (Decidable (_ → _))
  | .call (.reportFailure attempt code) =>
    inferInstanceAs (Decidable (∀ record ∈ (c.checkFailure attempt code).toOption, _))
  | .call (.openShuffle _) | .call (.cancelShuffle _) | .call .advanceTick
  | .call (.registerProducer _ _ _) | .call (.registerConsumer _ _ _ _)
  | .call (.setParticipantState _ _ _ _) | .call (.publishManifest _) | .call .nextWave
  | .call (.updateCongestion _) => inferInstanceAs (Decidable True)
  | .restart snapshot _ historyIncomplete =>
    inferInstanceAs (Decidable (∀ restored ∈ (restoreSnapshot snapshot
      { make c.limits none with historyIncomplete }).toOption, _))

/-! ## Replay -/

/-- The ledger has these bounds, and what it stores keeps to them. -/
structure Retains (c : Coordinator) (limits : Limits) : Prop where
  limits : c.ledger.limits = limits
  bounded : c.ledger.HistoryBounded

/-- The ledger decides what is retained. -/
theorem Retains.of_ledger {c c' : Coordinator} {limits : Limits} (h : c.Retains limits)
    (hledger : c'.ledger = c.ledger) : c'.Retains limits :=
  ⟨hledger ▸ h.limits, hledger ▸ h.bounded⟩

/-- Its tables do. -/
theorem Retains.of_tables {c c' : Coordinator} {limits : Limits} (h : c.Retains limits)
    (htables : SameTables c.ledger c'.ledger) : c'.Retains limits :=
  ⟨htables.limits.trans h.limits,
    h.bounded.of_tables htables.limits htables.partitions htables.failures⟩

/-- A generation that is retired adds nothing. -/
theorem Retains.retired {c c' : Coordinator} {limits : Limits} (h : c.Retains limits)
    {partition : PartitionId} {generation : PartitionGeneration}
    (hledger : c.ledger.retireGeneration partition generation = .ok c'.ledger) :
    c'.Retains limits :=
  ⟨(follows_retireGeneration hledger).2.limits.trans h.limits, h.bounded.retireGeneration hledger⟩

/-- A completion, if there is room for it. -/
theorem Retains.committed {c c' : Coordinator} {limits : Limits} (h : c.Retains limits)
    {request : CommitRequest} {now : TickId} {receipt : CommitReceipt}
    (hroom : c.ledger.RoomForCommit request)
    (hledger : c.ledger.commit request now = .ok (receipt, c'.ledger)) : c'.Retains limits :=
  ⟨(follows_commit hledger).limits.trans h.limits, h.bounded.commit hroom hledger⟩

/-- A failure, if there is room for it. -/
theorem Retains.failed {c c' : Coordinator} {limits : Limits} (h : c.Retains limits)
    {record : FailureRecord} (hroom : c.ledger.RoomForFailure record.key)
    (hledger : c.ledger.recordFailure record = .ok c'.ledger) : c'.Retains limits :=
  ⟨(follows_recordFailure hledger).limits.trans h.limits, h.bounded.recordFailure hroom hledger⟩

/-- A record that is replayed, if there is room for what it adds. -/
theorem Applied.retains {c c' : Coordinator} {record : DurableRecord} {limits : Limits}
    (h : Applied c record c') (hroom : c.RoomForRecord record) (hc : c.Retains limits) :
    c'.Retains limits := by
  cases h with
  | epoch record => exact hc.of_ledger (by rw [epochAdvanced_eq])
  | state record =>
      refine hc.of_tables ?_
      rw [entered_eq]
      by_cases hopen : record.state = .open
      · simp only [hopen, if_true]
        exact ⟨rfl, rfl, rfl, rfl⟩
      · simp only [hopen, if_false]
        exact .refl _
  | participant record t t' =>
      obtain ⟨producers, consumers, pending, heq⟩ := c.joinedBy_eq t t' record
      exact hc.of_ledger (by rw [heq])
  | manifest record t ledger _ _ hretired => exact hc.retired hretired
  | commit record receipt ledger hcommit =>
      rw [advanceClock_eq]
      obtain ⟨u, hvalid, -⟩ := bind_eq_ok.mp hcommit
      exact hc.committed (hroom hvalid) hcommit
  | failure record ledger hfailure =>
      rw [charged, advanceClock_eq]
      exact hc.failed (hroom (validateFailure_of_recordFailure hfailure)) hfailure

/-- A journal, if there is room for each of its records. -/
theorem Retains.applyAll {journal : List Bytes} {c c' : Coordinator} {limits : Limits}
    (hc : c.Retains limits) (hroom : RoomForJournal journal c)
    (hrun : (applyAll journal).exec c = (.ok (), c')) : c'.Retains limits := by
  induction journal generalizing c with
  | nil =>
      obtain rfl : c = c' := congrArg Prod.snd hrun
      exact hc
  | cons record journal ih =>
      obtain ⟨hrecord, hjournal⟩ := hroom
      obtain ⟨u, d, hfirst, hrest⟩ := exec_bind_ok hrun
      rw [hfirst] at hjournal
      rw [exec_applyRecord] at hfirst
      cases hdecode : decodeRecord c.limits record with
      | error e => simp [hdecode] at hfirst
      | ok decoded =>
          rw [hdecode] at hfirst
          have hdecoded := hrecord decoded (by simp [hdecode, Except.toOption])
          exact ih ((applied_of_exec hfirst).retains hdecoded hc) (hjournal rfl) hrest

/-! ## Turns -/

/-- Replaying records leaves the bounds alone. -/
theorem limits_replayRecords {limits : Limits} {count : Nat} {reader reader' : ByteReader}
    {c c' : Coordinator} (h : replayRecords limits count reader c = .ok (reader', c')) :
    c'.limits = c.limits := by
  induction count generalizing reader c with
  | zero =>
      cases h
      rfl
  | succ count ih =>
      obtain ⟨⟨record, _⟩, -, h⟩ := bind_eq_ok.mp h
      obtain ⟨⟨u, d⟩, happly, h⟩ := bind_eq_ok.mp h
      have hrun := result_eq_ok.mp happly
      rw [exec_applyRecord] at hrun
      cases hdecode : decodeRecord c.limits record with
      | error e => simp [hdecode] at hrun
      | ok decoded =>
          rw [hdecode] at hrun
          exact (ih h).trans (applied_of_exec hrun).limits

/-- A checkpoint whose ledger is within the bounds. -/
theorem retains_restoreSnapshot {limits : Limits} {snapshot : Bytes} {historyIncomplete : Bool}
    {restored : Coordinator}
    (h : restoreSnapshot snapshot { make limits none with historyIncomplete } = .ok restored)
    (hwithin : restored.ledger.WithinBounds) : restored.Retains limits := by
  suffices hdecoded : restored.ledger.limits = limits ∧
      restored.ledger.partitions.size ≤ limits.maxTrackedPartitions.toNat from
    ⟨hdecoded.1, hwithin.bounded (hdecoded.1 ▸ hdecoded.2)⟩
  unfold restoreSnapshot at h
  split at h
  · cases h
    exact ⟨rfl, Nat.zero_le _⟩
  · obtain ⟨⟨count, _⟩, -, h⟩ := bind_eq_ok.mp h
    obtain ⟨⟨_, d⟩, hrecords, h⟩ := bind_eq_ok.mp h
    obtain ⟨⟨bytes, _⟩, -, h⟩ := bind_eq_ok.mp h
    obtain ⟨ledger, hledger, h⟩ := bind_eq_ok.mp h
    obtain ⟨-, -, h⟩ := bind_eq_ok.mp h
    obtain rfl := Except.ok.inj h
    have hlimits : d.limits = limits := limits_replayRecords hrecords
    rw [hlimits] at hledger
    obtain ⟨_, _, hread, hend⟩ := exec_bind_ok (Prod.ext hledger rfl)
    obtain ⟨_, _, -, hvalue⟩ := exec_bind_ok hend
    obtain rfl := Except.ok.inj (congrArg Prod.fst hvalue)
    exact decode_ok hread

/-- A recovery keeps to the bounds if its snapshot and its journal do. -/
theorem Retains.recovered {limits : Limits} {c c' : Coordinator} {snapshot : Bytes}
    {journal : List Bytes} {historyIncomplete : Bool} (hregular : c.Regular)
    (hlimits : c.limits = limits)
    (hrun : (recover snapshot journal historyIncomplete).exec c = (.ok (), c'))
    (hroom : c.RoomFor (.restart snapshot journal historyIncomplete)) : c'.Retains limits := by
  subst hlimits
  obtain ⟨scratch, -, hrebuild, -, rfl⟩ := recover_ok hregular.inside hrun
  obtain ⟨replayed, hreplay, hdemote⟩ := rebuild_eq_ok.mp hrebuild
  obtain ⟨restored, hrestore, hjournal⟩ := replay_eq_ok.mp hreplay
  obtain ⟨hwithin, hrecords⟩ := hroom restored (by simp [hrestore, Except.toOption])
  have hreplayed := (retains_restoreSnapshot hrestore hwithin).applyAll hrecords hjournal
  obtain ⟨topology, producers, consumers, pending, rfl⟩ :=
    demote_frame (replay_regular hreplay).1 hdemote
  refine hreplayed.of_ledger ?_
  rw [opening, epochAdvanced_eq]
  rfl

/-- A turn of a run with restarts leaves a coordinator in order. -/
theorem Regular.turn {c : Coordinator} (hc : c.Regular) (t : Turn) :
    (c.turn t).2.Regular ∧ (c.turn t).2.limits = c.limits := by
  cases t with
  | call call =>
      exact ⟨hc.move (.call call), (perform_transition hc.inside hc.consistent call).settings.1⟩
  | restart snapshot journal historyIncomplete =>
      simp only [Coordinator.turn]
      rcases hrun : (Coordinator.recover snapshot journal historyIncomplete).exec
        (make c.limits c.sink) with ⟨answer, recovered⟩
      cases answer with
      | error e => exact ⟨hc.of_topology_eq rfl rfl rfl, rfl⟩
      | ok u =>
          have hfresh := regular_make c.limits c.sink
          obtain ⟨scratch, -, -, -, hrecovered⟩ := recover_ok hfresh.inside hrun
          exact ⟨(hfresh.recover hrun).1, by rw [hrecovered]; rfl⟩

/-- A turn keeps to the bounds, if there is room for what it adds. -/
theorem Retains.turn {c : Coordinator} {limits : Limits} (hregular : c.Regular)
    (hlimits : c.limits = limits) (hc : c.Retains limits) {t : Turn} (hroom : c.RoomFor t) :
    (c.turn t).2.Retains limits := by
  cases t with
  | call call =>
      cases (perform_transition hregular.inside hregular.consistent call).ledger with
      | kept hledger => exact hc.of_ledger hledger
      | bound request _ _ hledger =>
          exact hc.of_tables (hledger ▸ ⟨rfl, rfl, rfl, rfl⟩)
      | retired manifest accepted _ _ hledger => exact hc.retired hledger
      | committed request receipt hcall hcheck hledger =>
          subst hcall
          exact hc.committed (hroom hcheck) hledger
      | failed attempt code record hcall hcheck hledger =>
          subst hcall
          exact hc.failed (hroom record (by simp [hcheck, Except.toOption])) hledger
      | attempted bytes _ hledger => exact hc.of_tables (hledger ▸ ⟨rfl, rfl, rfl, rfl⟩)
  | restart snapshot journal historyIncomplete =>
      simp only [Coordinator.turn]
      rcases hrun : (recover snapshot journal historyIncomplete).exec (make c.limits c.sink) with
        ⟨answer, recovered⟩
      cases answer with
      | error e => exact hc.of_ledger rfl
      | ok u => exact .recovered (regular_make c.limits c.sink) hlimits hrun hroom

/-- If every turn of a run finds room for what it adds, then in every state that is reached the
ledger keeps to the bounds it was created with. -/
theorem history_bounded {limits : Limits} {sink : Option Sink}
    {events : List (Event Coordinator Turn (Result Reply))} {c : Coordinator}
    (run : Run turn (make limits sink) events c)
    (hroom : ∀ e ∈ events, e.before.RoomFor e.input) :
    c.ledger.limits = limits ∧ c.ledger.HistoryBounded := by
  have hkept : c.Regular ∧ c.limits = limits ∧ c.Retains limits := by
    refine run.invariant_of (P := fun c => c.Regular ∧ c.limits = limits ∧ c.Retains limits)
      ⟨regular_make limits sink, rfl, rfl, historyBounded_empty limits⟩ ?_ hroom
    intro c t ht hc
    obtain ⟨hregular, hlimits, hretains⟩ := hc
    obtain ⟨hregular', hlimits'⟩ := hregular.turn t
    exact ⟨hregular', hlimits'.trans hlimits, hretains.turn hregular hlimits ht⟩
  exact ⟨hkept.2.2.limits, hkept.2.2.bounded⟩

/-- A failed attempt is stored, and a restart from the journal stores it again. -/
theorem history_bounded_small :
    let c := final turn (make {} (some acceptAll))
      (smallCalls.map .call ++ [.call (.reportFailure 1 .ambiguousOutcome)])
    let d := (c.turn (.restart [] c.journal false)).2
    d.ledger.storedEdges = 1 ∧ d.ledger.HistoryBounded := by
  intro c d
  have hroom : (∀ e ∈ record turn (make {} (some acceptAll))
        (smallCalls.map .call ++ [.call (.reportFailure 1 .ambiguousOutcome)]),
      e.before.RoomFor e.input) ∧ c.RoomFor (.restart [] c.journal false) ∧
      d.ledger.storedEdges = 1 := by
    decide +kernel
  refine ⟨hroom.2.2, (history_bounded (Run.snoc (Run.of_inputs turn _ _)
    (.restart [] c.journal false)) fun e he => ?_).2⟩
  obtain he | he := List.mem_append.mp he
  · exact hroom.1 e he
  · rw [List.mem_singleton.mp he]
    exact hroom.2.1

/-- A partition whose content is committed and produced again, up to the next attempt. -/
def smallRenewal : List Turn :=
  [.call (.openShuffle (smallOpen 2)), .call (.registerProducer 1 1 []),
    .call (.registerConsumer 2 1 [] {}), .call (.publishManifest (smallManifest 0 1 0)),
    .call .nextWave, .call (.commitTransfer (smallCommit (smallManifest 0 1 2) 1 2)),
    .call (.publishManifest (smallManifest 0 2 0)), .call .nextWave, .call .nextWave,
    .call .nextWave]

/-- With room for one tracked edge, the failure of the second attempt is stored all the same:
the counters it is checked against no longer count the completion of the first content. -/
theorem history_grows :
    ¬∀ (limits : Limits) (sink : Option Sink)
      (events : List (Event Coordinator Turn (Result Reply))) (c : Coordinator),
      limits.validate = .ok () → Run turn (make limits sink) events c →
      c.ledger.HistoryBounded := by
  intro h
  have hgrown : ∃ c, final turn (make { maxTrackedEdges := 1, maxWaveGrants := 1 } (some acceptAll))
      (smallRenewal ++ [.call (.reportFailure 2 .ambiguousOutcome)]) = c ∧
      c.ledger.limits.maxTrackedEdges.toNat < c.ledger.storedEdges := by
    refine ⟨_, rfl, ?_⟩
    decide +kernel
  obtain ⟨c, hc, hgrown⟩ := hgrown
  have hbounded := h { maxTrackedEdges := 1, maxWaveGrants := 1 } (some acceptAll) _ c
    (by decide +kernel) (hc ▸ Run.of_inputs turn _ _)
  exact hbounded.edges.not_gt hgrown

end Coordinator

end ShuffleFabric
