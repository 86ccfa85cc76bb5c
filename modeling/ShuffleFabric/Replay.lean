import ShuffleFabric.Twin

/-!
# ShuffleFabric.Replay

The coordinator a recovery rebuilds, beside the one that wrote the records.

`chronicle` is what a run leaves behind for a recovery: the bytes the coordinator itself
recovered from, if it did, and the records its sink accepted since.  A relation between the
replayed and the live coordinator that every step of the live one keeps, when the records of
that step are replayed, holds after every run (`mirror_of_run`).
-/

namespace ShuffleFabric

open Lib Action

namespace Coordinator

/-! ## Replaying -/

/-- A journal that is applied in two parts. -/
theorem exec_applyAll_append (xs ys : List Bytes) (c c' : Coordinator) :
    (applyAll (xs ++ ys)).exec c = (.ok (), c') ↔
      ∃ d, (applyAll xs).exec c = (.ok (), d) ∧ (applyAll ys).exec d = (.ok (), c') := by
  induction xs generalizing c with
  | nil =>
      simp only [List.nil_append, applyAll, exec_pure, Prod.mk.injEq, true_and, exists_eq_left']
  | cons x xs ih =>
      simp only [List.cons_append, applyAll]
      constructor
      · intro h
        obtain ⟨u, d, hfirst, hrest⟩ := exec_bind_ok h
        obtain ⟨d', hxs, hys⟩ := (ih d).mp hrest
        exact ⟨d', by rw [exec_bind_of_ok hfirst]; exact hxs, hys⟩
      · rintro ⟨d', hxs, hys⟩
        obtain ⟨u, d, hfirst, hrest⟩ := exec_bind_ok hxs
        rw [exec_bind_of_ok hfirst]
        exact (ih d).mpr ⟨d', hrest, hys⟩

/-- Records behind a journal are applied to what the journal rebuilt. -/
theorem replay_append {limits : Limits} {snapshot : Bytes} {journal later : List Bytes}
    {historyIncomplete : Bool} {replayed : Coordinator} :
    replay limits snapshot (journal ++ later) historyIncomplete = .ok replayed ↔
      ∃ d, replay limits snapshot journal historyIncomplete = .ok d ∧
        (applyAll later).exec d = (.ok (), replayed) := by
  rw [replay_eq_ok]
  constructor
  · rintro ⟨restored, hrestore, hjournal⟩
    obtain ⟨d, hearlier, hlater⟩ := (exec_applyAll_append _ _ _ _).mp hjournal
    exact ⟨d, replay_eq_ok.mpr ⟨restored, hrestore, hearlier⟩, hlater⟩
  · rintro ⟨d, hreplay, hlater⟩
    obtain ⟨restored, hrestore, hearlier⟩ := replay_eq_ok.mp hreplay
    exact ⟨restored, hrestore, (exec_applyAll_append _ _ _ _).mpr ⟨d, hearlier, hlater⟩⟩

/-! ## Twins replay alike -/

/-- A journal is applied to twins alike. -/
theorem respects_applyAll (journal : List Bytes) : (applyAll journal).Respects Twin := by
  induction journal with
  | nil => exact .pure _
  | cons record journal ih => exact .bind (respects_applyRecord record) fun _ => ih

/-- What succeeds on a coordinator succeeds on its twin. -/
theorem Twin.exec_ok {x : Op Unit} (hx : x.Respects Twin) {c c' d : Coordinator} (h : Twin c d)
    (hrun : x.exec c = (.ok (), c')) : ∃ d', x.exec d = (.ok (), d') ∧ Twin c' d' := by
  obtain ⟨hanswer, htwin⟩ := hx c d h
  rw [hrun] at hanswer htwin
  exact ⟨(x.exec d).2, Prod.ext hanswer.symm rfl, htwin⟩

/-- The records of a snapshot are replayed on twins alike. -/
theorem twin_replayRecords {limits : Limits} {count : Nat} {reader reader' : ByteReader}
    {c c' d : Coordinator} (h : Twin c d)
    (hrun : replayRecords limits count reader c = .ok (reader', c')) :
    ∃ d', replayRecords limits count reader d = .ok (reader', d') ∧ Twin c' d' := by
  induction count generalizing reader c d with
  | zero =>
      cases hrun
      exact ⟨d, rfl, h⟩
  | succ count ih =>
      obtain ⟨⟨record, reader₁⟩, hread, hrun⟩ := bind_eq_ok.mp hrun
      obtain ⟨⟨u, c₁⟩, happly, hrun⟩ := bind_eq_ok.mp hrun
      obtain ⟨d₁, happly', htwin⟩ := h.exec_ok (respects_applyRecord record) (result_eq_ok.mp happly)
      obtain ⟨d', hrest, htwin'⟩ := ih htwin hrun
      exact ⟨d', bind_eq_ok.mpr ⟨(record, reader₁), hread,
        bind_eq_ok.mpr ⟨(u, d₁), result_eq_ok.mpr happly', hrest⟩⟩, htwin'⟩

/-- A snapshot is restored on twins alike. -/
theorem twin_restoreSnapshot {snapshot : Bytes} {c c' d : Coordinator} (h : Twin c d)
    (hrun : restoreSnapshot snapshot c = .ok c') :
    ∃ d', restoreSnapshot snapshot d = .ok d' ∧ Twin c' d' := by
  have hlimits : d.limits = c.limits := by
    obtain ⟨n, incomplete, rfl⟩ := h
    rfl
  unfold restoreSnapshot at hrun ⊢
  split at hrun
  · next hempty =>
      cases hrun
      rw [if_pos hempty]
      exact ⟨d, rfl, h⟩
  · next hempty =>
      rw [if_neg hempty, hlimits]
      obtain ⟨⟨count, reader⟩, hheader, hrun⟩ := bind_eq_ok.mp hrun
      obtain ⟨⟨reader', c₁⟩, hrecords, hrun⟩ := bind_eq_ok.mp hrun
      obtain ⟨⟨bytes, reader''⟩, hbytes, hrun⟩ := bind_eq_ok.mp hrun
      obtain ⟨ledger, hledger, hrun⟩ := bind_eq_ok.mp hrun
      obtain ⟨out, hend, hrun⟩ := bind_eq_ok.mp hrun
      obtain ⟨d₁, hrecords', htwin⟩ := twin_replayRecords h hrecords
      have hlimits₁ : d₁.limits = c₁.limits := by
        obtain ⟨n, incomplete, rfl⟩ := htwin
        rfl
      rw [← hlimits₁] at hbytes hledger
      refine ⟨{ d₁ with ledger }, bind_eq_ok.mpr ⟨_, hheader, bind_eq_ok.mpr ⟨_, hrecords',
        bind_eq_ok.mpr ⟨_, hbytes, bind_eq_ok.mpr ⟨ledger, hledger,
        bind_eq_ok.mpr ⟨out, hend, rfl⟩⟩⟩⟩⟩, ?_⟩
      obtain rfl : ({ c₁ with ledger } : Coordinator) = c' := Except.ok.inj hrun
      obtain ⟨n, incomplete, rfl⟩ := htwin
      exact ⟨n, incomplete, rfl⟩

/-- Whether the history is held for complete makes no difference to what is replayed. -/
theorem twin_replay {limits : Limits} {snapshot : Bytes} {journal : List Bytes}
    {historyIncomplete : Bool} {replayed : Coordinator}
    (h : replay limits snapshot journal historyIncomplete = .ok replayed) (other : Bool) :
    ∃ replayed', replay limits snapshot journal other = .ok replayed' ∧ Twin replayed replayed' := by
  obtain ⟨restored, hrestore, hjournal⟩ := replay_eq_ok.mp h
  have hstart : Twin { make limits none with historyIncomplete }
      { make limits none with historyIncomplete := other } := ⟨0, other, rfl⟩
  obtain ⟨restored', hrestore', htwin⟩ := twin_restoreSnapshot hstart hrestore
  obtain ⟨replayed', hjournal', htwin'⟩ := htwin.exec_ok (respects_applyAll journal) hjournal
  exact ⟨replayed', replay_eq_ok.mpr ⟨restored', hrestore', hjournal'⟩, htwin'⟩

/-! ## What a sink accepted -/

/-- The coordinator still has its sink and its limits, and the sink lost nothing. -/
structure Extends (c c' : Coordinator) : Prop where
  journal : c.journal <+: c'.journal
  sink : c'.sink.isSome = c.sink.isSome
  limits : c'.limits = c.limits

/-- Nothing is written. -/
theorem Extends.refl (c : Coordinator) : Extends c c := ⟨List.prefix_rfl, rfl, rfl⟩

/-- What is written by two steps. -/
theorem Extends.trans {c c' c'' : Coordinator} (h : Extends c c') (h' : Extends c' c'') :
    Extends c c'' :=
  ⟨h.journal.trans h'.journal, h'.sink.trans h.sink, h'.limits.trans h.limits⟩

/-- The sink is what is written to. -/
theorem Extends.of_sink {c c' : Coordinator} (hsink : c'.sink = c.sink)
    (hlimits : c'.limits = c.limits) : Extends c c' :=
  ⟨by rw [Coordinator.journal, Coordinator.journal, hsink], by rw [hsink], hlimits⟩

/-- A record is appended, if the sink takes it. -/
theorem extends_persisted (c : Coordinator) (record : Bytes) : Extends c (c.persisted record) := by
  refine ⟨?_, ?_, rfl⟩
  · rw [journal_persisted]
    split
    · exact List.prefix_append _ _
    · exact List.prefix_rfl
  · show (c.sink.map _).isSome = c.sink.isSome
    rw [Option.isSome_map]

/-- A new epoch appends its record. -/
theorem extends_opening (c : Coordinator) : Extends c c.opening := by
  rw [opening, epochAdvanced_eq]
  exact (extends_persisted c (DurableRecord.epochAdvanced c.nextEpoch).encode).trans
    (.of_sink rfl rfl)

/-- A lifecycle record is entered behind its append. -/
theorem extends_entered (c : Coordinator) (record : ShuffleStateRecord) :
    Extends c (c.entered record) := by
  rw [entered_eq]
  exact .of_sink rfl rfl

/-- So is a participant record. -/
theorem extends_joinedBy (c : Coordinator) (t t' : Topology) (record : ParticipantRecord) :
    Extends c (c.joinedBy t t' record) := by
  obtain ⟨producers, consumers, pending, heq⟩ := c.joinedBy_eq t t' record
  rw [heq]
  exact .of_sink rfl rfl

/-- The end of a shuffle may append its record. -/
theorem Noted.extends {c c' : Coordinator} (h : Noted c c') : Extends c c' := by
  cases h with
  | incomplete => exact .refl c
  | unstored => exact extends_persisted c _
  | completed => exact (extends_persisted c _).trans (extends_entered _ _)

/-- Every call appends at most. -/
theorem Transition.extends {c c' : Coordinator} {call : Call} {answer : Result Reply}
    (h : Transition c call answer c') : Extends c c' := by
  cases h with
  | refused => exact .refl c
  | unstored => exact extends_persisted c _
  | halfOpened request => exact (extends_opening c).trans (extends_persisted _ _)
  | opened request =>
      exact ((extends_opening c).trans (extends_persisted _ _)).trans (extends_entered _ _)
  | cancelledBefore => exact .refl c
  | cancelled reason => exact (extends_persisted c _).trans (extends_entered _ _)
  | ticked => exact .of_sink rfl rfl
  | registered => exact (extends_persisted c _).trans (extends_joinedBy _ _ _ _)
  | stateSet => exact (extends_persisted c _).trans (extends_joinedBy _ _ _ _)
  | published => exact (extends_persisted c _).trans (.of_sink rfl rfl)
  | unretired => exact (extends_persisted c _).trans (.of_sink rfl rfl)
  | nothingLeft => exact .refl c
  | unplanned => exact .of_sink rfl rfl
  | planned t scheduler scheduler' plan =>
      obtain ⟨grants, bytes, heq, -⟩ :=
        exists_foldl_admitGrant plan.grants { c with scheduler := scheduler' }
      rw [heq]
      exact .of_sink rfl rfl
  | committed request receipt ledger _ _ _ _ hnoted =>
      have hcredited : Extends (c.persisted (DurableRecord.commit ⟨request, c.clock⟩).encode)
          (((c.persisted (DurableRecord.commit ⟨request, c.clock⟩).encode).credited
            ledger).resolveAttempt request.attempt) := .of_sink rfl rfl
      exact ((extends_persisted c _).trans hcredited).trans hnoted.extends
  | failed attempt code record ledger _ _ _ _ hnoted =>
      have hcharged : Extends (c.persisted (DurableRecord.failure record).encode)
          (((c.persisted (DurableRecord.failure record).encode).charged ledger
            record.readyAt).resolveAttempt attempt) := by
        rw [charged, advanceClock_eq]
        exact .of_sink rfl rfl
      exact ((extends_persisted c _).trans hcharged).trans hnoted.extends
  | pressured intent =>
      unfold recordPressure
      simp only
      split <;> exact .of_sink rfl rfl

/-- What the sink accepted during an event. -/
def written (e : Event Coordinator Move (Result Reply)) : List Bytes :=
  e.after.journal.drop e.before.journal.length

/-- The journal behind an event is the one before and what was written. -/
theorem Extends.written {e : Event Coordinator Move (Result Reply)} (h : Extends e.before e.after) :
    e.after.journal = e.before.journal ++ written e := by
  obtain ⟨new, hnew⟩ := h.journal
  rw [Coordinator.written, ← hnew, List.drop_left]

/-- The bytes a coordinator's state rests on: a snapshot, and the records behind it. -/
def Chronicle.after (chronicle : Bytes × List Bytes) (e : Event Coordinator Move (Result Reply)) :
    Bytes × List Bytes :=
  match e.input, e.output with
  | .recover snapshot journal _, .ok _ => (snapshot, journal ++ written e)
  | _, _ => (chronicle.1, chronicle.2 ++ written e)

/-- What a run leaves behind for a recovery. -/
def chronicle (events : List (Event Coordinator Move (Result Reply))) : Bytes × List Bytes :=
  events.foldl Chronicle.after ([], [])

/-- The chronicle is kept event by event. -/
theorem chronicle_snoc (events : List (Event Coordinator Move (Result Reply)))
    (e : Event Coordinator Move (Result Reply)) :
    chronicle (events ++ [e]) = Chronicle.after (chronicle events) e := by
  simp [chronicle]

/-! ## Mirrors -/

/-- What a replay leaves is in order, under the same limits. -/
theorem replay_regular {limits : Limits} {snapshot : Bytes} {journal : List Bytes}
    {historyIncomplete : Bool} {replayed : Coordinator}
    (h : replay limits snapshot journal historyIncomplete = .ok replayed) :
    replayed.Regular ∧ replayed.limits = limits :=
  replay_induction (P := fun d => d.Regular ∧ d.limits = limits) h
    ⟨⟨rfl, fun _ h => (by cases h), fun _ h => (by cases h)⟩, rfl⟩
    (fun d d' _ record hd _ hrun => ⟨(applied_of_exec hrun).regular hd.1,
      (applied_of_exec hrun).limits.trans hd.2⟩)
    fun d ledger hd => ⟨hd.1.of_topology_eq rfl rfl rfl, hd.2⟩

/-- A relation between a replayed and a live coordinator that the life of the latter keeps. -/
structure Mirrors (M : Coordinator → Coordinator → Prop) : Prop where
  start : ∀ (limits : Limits) (sink : Sink) (historyIncomplete : Bool),
    M { make limits none with historyIncomplete } (make limits (some sink))
  twin : ∀ {replayed replayed' c : Coordinator}, Twin replayed replayed' → M replayed c →
    M replayed' c
  sink : ∀ {replayed c : Coordinator} (sink : Option Sink), M replayed c →
    M replayed { c with sink }
  call : ∀ {replayed replayed' c c' : Coordinator} {call : Call} {answer : Result Reply}
    {new : List Bytes}, replayed.Regular → c.Regular → replayed.limits = c.limits →
    c.sink.isSome → Transition c call answer c' → c'.journal = c.journal ++ new →
    (applyAll new).exec replayed = (.ok (), replayed') → M replayed c → M replayed' c'
  recovered : ∀ {replayed scratch c : Coordinator}, replayed.Regular →
    replayed.demote = .ok scratch → M (replayed.epochAdvanced scratch.nextEpoch)
      (({ c with sink := (c.equipped scratch).opening.sink } : Coordinator).adopt
        (c.equipped scratch).opening)

/-- A journal of one record. -/
theorem applyAll_singleton_ok {c c' : Coordinator} {record : Bytes}
    (h : (applyAll [record]).exec c = (.ok (), c')) :
    ∃ decoded, decodeRecord c.limits record = .ok decoded ∧ Applied c decoded c' := by
  obtain ⟨u, d, hfirst, hrest⟩ := exec_bind_ok h
  obtain rfl : d = c' := congrArg Prod.snd hrest
  rw [exec_applyRecord] at hfirst
  cases hd : decodeRecord c.limits record with
  | error e => simp [hd] at hfirst
  | ok decoded =>
      rw [hd] at hfirst
      exact ⟨decoded, rfl, applied_of_exec hfirst⟩

/-- An epoch record is replayed as it was applied. -/
theorem applied_epoch {c c' : Coordinator} {record : EpochRecord}
    (h : (applyAll [(DurableRecord.epochAdvanced record).encode]).exec c = (.ok (), c')) :
    c' = c.epochAdvanced record := by
  obtain ⟨decoded, hdecode, happlied⟩ := applyAll_singleton_ok h
  obtain ⟨-, rfl⟩ := eq_of_decodeRecord (r := .epochAdvanced record) trivial hdecode
  cases happlied with
  | epoch => rfl

/-- Behind the event the relation holds of whatever the grown chronicle is replayed to. -/
def Mirrored (M : Coordinator → Coordinator → Prop) (chronicle : Bytes × List Bytes)
    (e : Event Coordinator Move (Result Reply)) : Prop :=
  Extends e.before e.after ∧ ∀ historyIncomplete replayed,
    replay e.before.limits (Chronicle.after chronicle e).1 (Chronicle.after chronicle e).2
      historyIncomplete = .ok replayed → M replayed e.after

section Mirroring

variable {M : Coordinator → Coordinator → Prop} {c : Coordinator} {chronicle : Bytes × List Bytes}

/-- A call is mirrored by the records it appended. -/
theorem Mirrors.called (hM : Mirrors M) (hc : c.Regular) (hsink : c.sink.isSome)
    (ih : ∀ historyIncomplete replayed,
      replay c.limits chronicle.1 chronicle.2 historyIncomplete = .ok replayed → M replayed c)
    {call : Call} {answer : Result Reply} {c' : Coordinator}
    (htransition : Transition c call answer c') :
    Mirrored M chronicle ⟨c, .call call, answer, c'⟩ := by
  refine ⟨htransition.extends, fun historyIncomplete replayed hreplay => ?_⟩
  have hwritten : c'.journal = c.journal ++ written ⟨c, .call call, answer, c'⟩ :=
    htransition.extends.written (e := ⟨c, .call call, answer, c'⟩)
  obtain ⟨d, hd, hrest⟩ := replay_append.mp hreplay
  obtain ⟨hregular, hlimits⟩ := replay_regular hd
  exact hM.call hregular hc hlimits hsink htransition hwritten hrest (ih _ d hd)

/-- A recovery that was refused has reached the sink at most, with an epoch record that does
not decode. -/
theorem Mirrors.unrecovered (hM : Mirrors M)
    (ih : ∀ historyIncomplete replayed,
      replay c.limits chronicle.1 chronicle.2 historyIncomplete = .ok replayed → M replayed c)
    (snapshot : Bytes) (journal : List Bytes) (incomplete : Bool) (e : Error) {sink : Option Sink}
    (htrace : sink = c.sink ∨ ∃ record : EpochRecord,
      sink = (c.persisted (DurableRecord.epochAdvanced record).encode).sink ∧
      (c.sinkAnswer (DurableRecord.epochAdvanced record).encode = .ok () →
        ∃ e', decodeRecord c.limits (DurableRecord.epochAdvanced record).encode = .error e')) :
    Mirrored M chronicle ⟨c, .recover snapshot journal incomplete, .error e, { c with sink }⟩ := by
  rcases htrace with rfl | ⟨record, rfl, hunreadable⟩
  · refine ⟨.refl c, fun historyIncomplete replayed hreplay => ?_⟩
    have hwritten : written ⟨c, .recover snapshot journal incomplete, .error e, c⟩ = [] := by
      simp [written]
    refine ih historyIncomplete replayed ?_
    simpa [Chronicle.after, hwritten] using hreplay
  · refine ⟨(extends_persisted c _).trans (.of_sink rfl rfl),
      fun historyIncomplete replayed hreplay => ?_⟩
    obtain ⟨d, hd, hrest⟩ := replay_append.mp hreplay
    obtain ⟨-, hlimits⟩ := replay_regular hd
    have hwritten : written ⟨c, .recover snapshot journal incomplete, .error e,
        { c with sink := (c.persisted (DurableRecord.epochAdvanced record).encode).sink }⟩ =
        if c.sink.isSome ∧
            c.sinkAnswer (DurableRecord.epochAdvanced record).encode = .ok () then
          [(DurableRecord.epochAdvanced record).encode] else [] := by
      show ((c.persisted (DurableRecord.epochAdvanced record).encode).journal).drop _ = _
      rw [journal_persisted]
      split
      · rw [List.drop_left]
      · rw [List.drop_length]
    rw [hwritten] at hrest
    split at hrest
    · next haccepted =>
        -- the record was accepted, and fails to decode here as it did there
        exfalso
        obtain ⟨e', he'⟩ := hunreadable haccepted.2
        obtain ⟨decoded, hdecode, -⟩ := applyAll_singleton_ok hrest
        rw [hlimits, he'] at hdecode
        cases hdecode
    · obtain rfl : d = replayed := congrArg Prod.snd hrest
      exact hM.sink _ (ih _ d hd)

/-- A recovery has appended the epoch record it found acceptable. -/
theorem journal_adopt (hsink : c.sink.isSome) {scratch : Coordinator}
    (hanswer : (c.equipped scratch).storeAnswer (.epochAdvanced scratch.nextEpoch) = .ok ()) :
    (({ c with sink := (c.equipped scratch).opening.sink } : Coordinator).adopt
      (c.equipped scratch).opening).journal =
        c.journal ++ [(DurableRecord.epochAdvanced scratch.nextEpoch).encode] ∧
    (c.equipped scratch).opening.sink =
      (c.persisted (DurableRecord.epochAdvanced scratch.nextEpoch).encode).sink := by
  have hsinkAnswer : c.sinkAnswer (DurableRecord.epochAdvanced scratch.nextEpoch).encode = .ok () :=
    (storeAnswer_ok (r := .epochAdvanced scratch.nextEpoch) trivial hanswer).1
  have hopening : (c.equipped scratch).opening.sink =
      (c.persisted (DurableRecord.epochAdvanced scratch.nextEpoch).encode).sink := by
    rw [opening, epochAdvanced_eq]
    rfl
  have hpersisted := journal_persisted c (DurableRecord.epochAdvanced scratch.nextEpoch).encode
  rw [if_pos ⟨hsink, hsinkAnswer⟩] at hpersisted
  refine ⟨?_, hopening⟩
  rw [← hpersisted, Coordinator.journal, Coordinator.journal, ← hopening]
  rfl

/-- A recovery is mirrored by what it recovered from, and the epoch record behind it. -/
theorem Mirrors.readopted (hM : Mirrors M) (hin : c.inside = false) (hsink : c.sink.isSome)
    {snapshot : Bytes} {journal : List Bytes} {incomplete : Bool} {c' : Coordinator}
    (hrun : (Coordinator.recover snapshot journal incomplete).exec c = (.ok (), c')) :
    Mirrored M chronicle ⟨c, .recover snapshot journal incomplete, .ok .done, c'⟩ := by
  obtain ⟨scratch, -, hrebuild, hanswer, rfl⟩ := recover_ok hin hrun
  obtain ⟨base, hbase, hdemote⟩ := rebuild_eq_ok.mp hrebuild
  obtain ⟨hregular, -⟩ := replay_regular hbase
  obtain ⟨hjournal, hopening⟩ := journal_adopt hsink hanswer
  refine ⟨⟨⟨_, hjournal.symm⟩, ?_, rfl⟩, fun historyIncomplete replayed hreplay => ?_⟩
  · show (c.equipped scratch).opening.sink.isSome = c.sink.isSome
    rw [hopening]
    exact (extends_persisted c _).sink
  · obtain ⟨d, hd, hrest⟩ := replay_append.mp hreplay
    have hwritten : written ⟨c, .recover snapshot journal incomplete, .ok .done,
        ({ c with sink := (c.equipped scratch).opening.sink } : Coordinator).adopt
          (c.equipped scratch).opening⟩ =
        [(DurableRecord.epochAdvanced scratch.nextEpoch).encode] := by
      rw [written, hjournal, List.drop_left]
    rw [hwritten] at hrest
    obtain ⟨base', hbase', htwin⟩ := twin_replay hbase historyIncomplete
    obtain rfl : base' = d := Except.ok.inj (hbase'.symm.trans hd)
    obtain rfl := applied_epoch hrest
    refine hM.twin ?_ (hM.recovered hregular hdemote)
    obtain ⟨n, flag, rfl⟩ := htwin
    rw [epochAdvanced_eq, epochAdvanced_eq]
    exact ⟨n, flag, rfl⟩

/-- One move: whatever could be replayed before it, what it wrote can be replayed behind it. -/
theorem Mirrors.move (hM : Mirrors M) (hc : c.Regular) (hsink : c.sink.isSome) (m : Move)
    (ih : ∀ historyIncomplete replayed,
      replay c.limits chronicle.1 chronicle.2 historyIncomplete = .ok replayed → M replayed c) :
    Mirrored M chronicle (happen Coordinator.move c m) := by
  have hstep := move_step hc m
  rw [happen]
  generalize (c.move m).1 = answer at hstep ⊢
  generalize (c.move m).2 = c' at hstep ⊢
  cases hstep with
  | called call _ _ htransition => exact hM.called hc hsink ih htransition
  | unrecovered snapshot journal incomplete e sink htrace =>
      exact hM.unrecovered ih snapshot journal incomplete e htrace
  | recovered snapshot journal incomplete _ hrun => exact hM.readopted hc.inside hsink hrun

end Mirroring

/-- After every run the relation holds of whatever the chronicle is replayed to. -/
theorem mirror_of_run {M : Coordinator → Coordinator → Prop} (hM : Mirrors M) {limits : Limits}
    {sink : Sink} {events : List (Event Coordinator Move (Result Reply))} {c : Coordinator}
    (run : Run Coordinator.move (make limits (some sink)) events c) :
    Extends (make limits (some sink)) c ∧ ∀ historyIncomplete replayed,
      replay limits (chronicle events).1 (chronicle events).2 historyIncomplete = .ok replayed →
      M replayed c := by
  induction run with
  | nil =>
      refine ⟨.refl _, fun historyIncomplete replayed hreplay => ?_⟩
      obtain rfl : ({ make limits none with historyIncomplete } : Coordinator) = replayed :=
        Except.ok.inj hreplay
      exact hM.start limits sink historyIncomplete
  | @snoc events c run m ih =>
      obtain ⟨hextends, hmirror⟩ := ih
      have hlimits : c.limits = limits := hextends.limits
      have hsink : c.sink.isSome := by
        rw [hextends.sink]
        rfl
      rw [← hlimits] at hmirror
      obtain ⟨hextends', hmirror'⟩ := hM.move (regular_of_run run) hsink m hmirror
      rw [show (happen Coordinator.move c m).before.limits = limits from hlimits] at hmirror'
      rw [chronicle_snoc]
      exact ⟨hextends.trans hextends', hmirror'⟩

end Coordinator

end ShuffleFabric
