import ShuffleFabric.Transition

/-!
# ShuffleFabric.Regular

What holds of every coordinator, whatever it was asked and whatever it recovered from,
and what a call and a recovery do to its roster.

`rebuild_induction` is the rule for recoveries: what a fresh coordinator has and every
applied record keeps holds when the restart demotes the participants.
-/

namespace ShuffleFabric

open Lib Action

namespace Coordinator

/-- Every coordinator outside of a call. -/
structure Regular (c : Coordinator) : Prop where
  inside : c.inside = false
  consistent : ∀ t, c.topology = some t → t.Consistent
  limits : ∀ t, c.topology = some t → t.limits = c.limits

/-- Who is registered. -/
def roster (c : Coordinator) : Roster :=
  match c.topology with
  | some t => t.roster
  | none => fun _ _ => none

/-- The roster of a coordinator is that of its topology. -/
theorem roster_of_topology {c : Coordinator} {t : Topology} (h : c.topology = some t) :
    c.roster = t.roster := by
  rw [roster, h]

/-- It changes with the topology only. -/
theorem roster_congr {c c' : Coordinator} (h : c'.topology = c.topology) : c'.roster = c.roster := by
  rw [roster, roster, h]

/-- A coordinator with the same topology and limits, and no call inside. -/
theorem Regular.of_topology_eq {c c' : Coordinator} (h : c.Regular) (hinside : c'.inside = c.inside)
    (htopology : c'.topology = c.topology) (hlimits : c'.limits = c.limits) : c'.Regular :=
  ⟨hinside.trans h.inside, htopology ▸ h.consistent, by rw [htopology, hlimits]; exact h.limits⟩

/-! ## Participant records -/

/-- A participant record does to the topology what `enter` does to the roster. -/
theorem place_spec {t t' : Topology} {record : ParticipantRecord} (ht : t.Consistent)
    (h : place t record = .ok t') :
    t'.Consistent ∧ t.Continues t' ∧ t'.roster = t.roster.enter record := by
  obtain ⟨registered, hregister, h⟩ := bind_eq_ok.mp h
  have hconsistent := consistent_registerFrom ht hregister
  have hcontinues := continues_registerFrom hregister
  have hroster := registerFrom_roster ht hregister
  by_cases hactive : record.state = .active
  · rw [if_pos hactive] at h
    cases h
    exact ⟨hconsistent, hcontinues, by rw [hroster, Roster.enter, Roster.joined, if_pos hactive]⟩
  · rw [if_neg hactive] at h
    obtain ⟨m, hm, -, hset⟩ := setStateFrom_roster hconsistent h
    rw [hroster, Roster.put_same] at hm
    refine ⟨consistent_setStateFrom hconsistent h, hcontinues.trans (continues_setStateFrom h), ?_⟩
    rw [hset, hroster, Roster.put_put, Roster.enter, Roster.joined, if_neg hactive,
      Option.some.inj hm]

/-- A participant that joins enters the roster. -/
theorem Regular.joinedBy {c : Coordinator} (h : c.Regular) {t t' : Topology}
    {record : ParticipantRecord} (ht : c.topology = some t) (hplace : place t record = .ok t') :
    (c.joinedBy t t' record).Regular ∧
      (c.joinedBy t t' record).roster = c.roster.enter record := by
  obtain ⟨hconsistent, hcontinues, hroster⟩ := place_spec (h.consistent t ht) hplace
  obtain ⟨producers, consumers, pending, heq⟩ := c.joinedBy_eq t t' record
  have htopology := topology_joinedBy c t t' record
  refine ⟨⟨by rw [heq]; exact h.inside, ?_, ?_⟩, ?_⟩
  · rw [htopology]
    rintro _ ⟨⟩
    exact hconsistent
  · rw [htopology]
    rintro _ ⟨⟩
    rw [hcontinues.limits, h.limits t ht, heq]
  · rw [roster_of_topology htopology, roster_of_topology ht, hroster]

/-- A lifecycle record opens an empty topology, if it opens one. -/
theorem Regular.entered {c : Coordinator} (h : c.Regular) (record : ShuffleStateRecord) :
    (c.entered record).Regular ∧ (c.entered record).roster = c.roster := by
  rw [entered_eq]
  by_cases hopen : record.state = .open
  · simp only [hopen, if_true]
    cases ht : c.topology with
    | some t =>
        have htopology : (c.openFrom record).topology = some t := by simp [openFrom, ht]
        refine ⟨⟨h.inside, ?_, ?_⟩, ?_⟩
        · rw [htopology]
          rintro _ ⟨⟩
          exact h.consistent t ht
        · rw [htopology]
          rintro _ ⟨⟩
          exact h.limits t ht
        · exact (roster_of_topology htopology).trans (roster_of_topology ht).symm
    | none =>
        obtain ⟨t, htopology, hempty, hlimits, hroster⟩ : ∃ t,
            (c.openFrom record).topology = some t ∧ t.Consistent ∧ t.limits = c.limits ∧
            t.roster = fun _ _ => none := by
          refine ⟨_, by rw [openFrom, ht, Option.getD_none], ?_, rfl, ?_⟩
          · exact Topology.consistent_of_empty rfl rfl rfl rfl rfl rfl
          · funext kind id
            cases kind <;> rfl
        refine ⟨⟨h.inside, ?_, ?_⟩, ?_⟩
        · rw [htopology]
          rintro _ ⟨⟩
          exact hempty
        · rw [htopology]
          rintro _ ⟨⟩
          exact hlimits
        · have hnone : c.roster = fun _ _ => none := by rw [roster, ht]
          exact ((roster_of_topology htopology).trans hroster).trans hnone.symm
  · simp only [hopen, if_false]
    exact ⟨h.of_topology_eq rfl rfl rfl, roster_congr rfl⟩

/-! ## Calls -/

/-- The record with which a call changes the roster. -/
inductive Enters (c : Coordinator) : Call → ParticipantRecord → Prop
  | registers {call : Call} {record : ParticipantRecord}
      (registration : c.registration call = some record) : Enters c call record
  | sets {kind : ParticipantKind} {id : UInt64} {incarnation : IncarnationId}
      {state : ParticipantState} {t : Topology} (topology : c.topology = some t)
      (check : t.checkParticipantState kind id incarnation = .ok ()) :
      Enters c (.setParticipantState kind id incarnation state)
        (c.stateChange t kind id incarnation state)

/-- What a call does to the roster: nothing, or what its record says. -/
inductive RosterStep (c : Coordinator) (call : Call) (answer : Result Reply) (c' : Coordinator) :
    Prop
  | kept (roster : c'.roster = c.roster)
      (quiet : ∀ record, c.registration call = some record → ∃ e, answer = .error e)
  | entered (record : ParticipantRecord) (reply : Reply) (enters : Enters c call record)
      (open_ : c.state = .open) (answer_eq : answer = .ok reply)
      (stored : Decodable c.limits (.participant record))
      (roster : c'.roster = c.roster.enter record)

/-- The look at the end of a shuffle leaves the roster. -/
theorem Noted.regular {c c' : Coordinator} (h : Noted c c') (hc : c.Regular) :
    c'.Regular ∧ c'.roster = c.roster := by
  cases h with
  | incomplete => exact ⟨hc, rfl⟩
  | unstored => exact ⟨hc.of_topology_eq rfl rfl rfl, roster_congr rfl⟩
  | completed =>
      have hpersisted : (c.persisted (DurableRecord.shuffleState c.completion).encode).Regular :=
        hc.of_topology_eq rfl rfl rfl
      exact hpersisted.entered _

/-- Admitting grants leaves the topology and the limits. -/
theorem foldl_admitGrant_frame (plan : List DispatchGrant) (c : Coordinator) :
    (plan.foldl admitGrant c).inside = c.inside ∧ (plan.foldl admitGrant c).topology = c.topology ∧
      (plan.foldl admitGrant c).limits = c.limits := by
  obtain ⟨grants, bytes, heq, -⟩ := exists_foldl_admitGrant plan c
  rw [heq]
  exact ⟨rfl, rfl, rfl⟩

/-- So does a new epoch. -/
theorem opening_frame (c : Coordinator) :
    c.opening.inside = c.inside ∧ c.opening.topology = c.topology ∧ c.opening.limits = c.limits ∧
      c.opening.state = c.state := by
  rw [opening, epochAdvanced_eq]
  exact ⟨rfl, rfl, rfl, rfl⟩

/-- A registration that was made has a length that fits its field. -/
theorem measured_of_registerFrom {record : ParticipantRecord} {t t' : Topology}
    (h : registerFrom t record = .ok t') : Measured (.participant record) := by
  show record.endpoint.length < 2 ^ 32
  unfold registerFrom at h
  split at h
  · obtain ⟨-, -, hendpoint, -⟩ := Topology.checkProducerRegistration_ok
      (Topology.registerProducer_cases h).1
    exact lt_of_le_of_lt hendpoint t.limits.maxEndpointBytes.toNat_lt
  · obtain ⟨-, -, hendpoint, -⟩ := Topology.checkConsumerRegistration_ok
      (Topology.registerConsumer_cases h).1
    exact lt_of_le_of_lt hendpoint t.limits.maxEndpointBytes.toNat_lt

/-- So has any participant record that was placed. -/
theorem measured_of_place {record : ParticipantRecord} {t t' : Topology}
    (h : place t record = .ok t') : Measured (.participant record) := by
  obtain ⟨registered, hregister, -⟩ := bind_eq_ok.mp h
  exact measured_of_registerFrom hregister

/-- A call keeps the coordinator regular, and changes the roster by its own record only. -/
theorem Transition.regular {c c' : Coordinator} {call : Call} {answer : Result Reply}
    (h : Transition c call answer c') (hc : c.Regular) :
    c'.Regular ∧ RosterStep c call answer c' := by
  cases h with
  | refused _ e => exact ⟨hc, .kept rfl fun _ _ => ⟨e, rfl⟩⟩
  | unstored _ r e =>
      exact ⟨hc.of_topology_eq rfl rfl rfl, .kept (roster_congr rfl) fun _ _ => ⟨e, rfl⟩⟩
  | halfOpened request e =>
      obtain ⟨hinside, htopology, hlimits, -⟩ := c.opening_frame
      exact ⟨hc.of_topology_eq hinside htopology hlimits,
        .kept (roster_congr htopology) fun _ h => by cases h⟩
  | opened request =>
      obtain ⟨hinside, htopology, hlimits, -⟩ := c.opening_frame
      have hopening : (c.opening.persisted (DurableRecord.shuffleState
          (stateRecord request .open .ok c.opening.clock)).encode).Regular :=
        hc.of_topology_eq hinside htopology hlimits
      obtain ⟨hregular, hroster⟩ := hopening.entered (stateRecord request .open .ok c.opening.clock)
      exact ⟨hregular, .kept (hroster.trans (roster_congr htopology)) fun _ h => by cases h⟩
  | cancelledBefore reason => exact ⟨hc, .kept rfl fun _ h => by cases h⟩
  | cancelled reason =>
      have hpersisted : (c.persisted (DurableRecord.shuffleState
          (stateRecord c.request .cancelled reason c.clock)).encode).Regular :=
        hc.of_topology_eq rfl rfl rfl
      obtain ⟨hregular, hroster⟩ := hpersisted.entered (stateRecord c.request .cancelled reason c.clock)
      exact ⟨hregular, .kept hroster fun _ h => by cases h⟩
  | ticked => exact ⟨hc.of_topology_eq rfl rfl rfl, .kept (roster_congr rfl) fun _ h => by cases h⟩
  | registered _ record t t' hregistration hopen hanswer hregister =>
      have hpersisted : (c.persisted (DurableRecord.participant record).encode).Regular :=
        hc.of_topology_eq rfl rfl rfl
      have hplace := place_of_active (active_of_registration hregistration) hregister
      obtain ⟨hstate, ht⟩ := ensureOpen_ok hopen
      obtain ⟨hregular, hroster⟩ := hpersisted.joinedBy ht hplace
      exact ⟨hregular, .entered record _ (.registers hregistration) hstate rfl
        (storeAnswer_ok (measured_of_registerFrom hregister) hanswer).2 hroster⟩
  | stateSet kind id incarnation state t t' hopen hcheck hanswer hplace =>
      have hpersisted : (c.persisted (DurableRecord.participant
          (c.stateChange t kind id incarnation state)).encode).Regular :=
        hc.of_topology_eq rfl rfl rfl
      obtain ⟨hstate, ht⟩ := ensureOpen_ok hopen
      obtain ⟨hregular, hroster⟩ := hpersisted.joinedBy ht hplace
      exact ⟨hregular, .entered _ _ (.sets ht hcheck) hstate rfl
        (storeAnswer_ok (measured_of_place hplace) hanswer).2 hroster⟩
  | published manifest accepted ledger =>
      exact ⟨hc.of_topology_eq rfl rfl rfl, .kept (roster_congr rfl) fun _ h => by cases h⟩
  | unretired manifest accepted e =>
      exact ⟨hc.of_topology_eq rfl rfl rfl, .kept (roster_congr rfl) fun _ h => by cases h⟩
  | nothingLeft => exact ⟨hc, .kept rfl fun _ h => by cases h⟩
  | unplanned t scheduler e =>
      exact ⟨hc.of_topology_eq rfl rfl rfl, .kept (roster_congr rfl) fun _ h => by cases h⟩
  | planned t scheduler scheduler' plan =>
      obtain ⟨hinside, htopology, hlimits⟩ :=
        foldl_admitGrant_frame plan.grants { c with scheduler := scheduler' }
      exact ⟨hc.of_topology_eq hinside htopology hlimits,
        .kept (roster_congr htopology) fun _ h => by cases h⟩
  | committed request receipt ledger _ hcheck hsink hcommit hnoted =>
      obtain ⟨hregular, hroster⟩ := hnoted.regular (hc.of_topology_eq rfl rfl rfl)
      exact ⟨hregular, .kept (hroster.trans (roster_congr rfl)) fun _ h => by cases h⟩
  | failed attempt code record ledger _ hcheck hsink hfailure hnoted =>
      have hframe : ((c.persisted (DurableRecord.failure record).encode).charged ledger
          record.readyAt).topology = c.topology ∧ ((c.persisted
          (DurableRecord.failure record).encode).charged ledger record.readyAt).inside = c.inside ∧
          ((c.persisted (DurableRecord.failure record).encode).charged ledger
          record.readyAt).limits = c.limits := by
        rw [charged, advanceClock_eq]
        exact ⟨rfl, rfl, rfl⟩
      obtain ⟨hregular, hroster⟩ := hnoted.regular (hc.of_topology_eq hframe.2.1 hframe.1 hframe.2.2)
      exact ⟨hregular, .kept (hroster.trans (roster_congr hframe.1)) fun _ h => by cases h⟩
  | pressured intent =>
      have hframe : (c.recordPressure intent).topology = c.topology ∧
          (c.recordPressure intent).inside = c.inside ∧
          (c.recordPressure intent).limits = c.limits := by
        unfold recordPressure
        simp only
        split <;> exact ⟨rfl, rfl, rfl⟩
      exact ⟨hc.of_topology_eq hframe.2.1 hframe.1 hframe.2.2,
        .kept (roster_congr hframe.1) fun _ h => by cases h⟩

/-! ## Recovery -/

/-- The scratch coordinator of `recover` before its participants are demoted. -/
def replay (limits : Limits) (snapshot : Bytes) (journal : List Bytes)
    (historyIncomplete : Bool) : Result Coordinator := do
  let scratch ← restoreSnapshot snapshot { make limits none with historyIncomplete }
  let ((), scratch) ← (applyAll journal).result scratch
  pure scratch

/-- A rebuild is a replay and the demotion behind it. -/
theorem rebuild_eq_ok {limits : Limits} {snapshot : Bytes} {journal : List Bytes}
    {historyIncomplete : Bool} {scratch : Coordinator} :
    rebuild limits snapshot journal historyIncomplete = .ok scratch ↔
      ∃ replayed, replay limits snapshot journal historyIncomplete = .ok replayed ∧
        replayed.demote = .ok scratch := by
  unfold rebuild replay
  constructor
  · intro h
    obtain ⟨restored, hrestore, h⟩ := bind_eq_ok.mp h
    obtain ⟨⟨u, replayed⟩, hjournal, hdemote⟩ := bind_eq_ok.mp h
    exact ⟨replayed, bind_eq_ok.mpr ⟨restored, hrestore,
      bind_eq_ok.mpr ⟨(u, replayed), hjournal, rfl⟩⟩, hdemote⟩
  · rintro ⟨replayed, h, hdemote⟩
    obtain ⟨restored, hrestore, h⟩ := bind_eq_ok.mp h
    obtain ⟨⟨u, replayed'⟩, hjournal, h⟩ := bind_eq_ok.mp h
    obtain rfl : replayed' = replayed := Except.ok.inj h
    exact bind_eq_ok.mpr ⟨restored, hrestore, bind_eq_ok.mpr ⟨(u, replayed'), hjournal, hdemote⟩⟩

/-- A replay restores the snapshot, and then applies the journal. -/
theorem replay_eq_ok {limits : Limits} {snapshot : Bytes} {journal : List Bytes}
    {historyIncomplete : Bool} {replayed : Coordinator} :
    replay limits snapshot journal historyIncomplete = .ok replayed ↔
      ∃ restored, restoreSnapshot snapshot { make limits none with historyIncomplete } =
        .ok restored ∧ (applyAll journal).exec restored = (.ok (), replayed) := by
  unfold replay
  constructor
  · intro h
    obtain ⟨restored, hrestore, h⟩ := bind_eq_ok.mp h
    obtain ⟨⟨u, replayed'⟩, hjournal, h⟩ := bind_eq_ok.mp h
    obtain rfl : replayed' = replayed := Except.ok.inj h
    exact ⟨restored, hrestore, result_eq_ok.mp hjournal⟩
  · rintro ⟨restored, hrestore, hjournal⟩
    exact bind_eq_ok.mpr ⟨restored, hrestore,
      bind_eq_ok.mpr ⟨((), replayed), result_eq_ok.mpr hjournal, rfl⟩⟩

/-- What a fresh coordinator has, and every applied record and a replaced ledger keep, holds of
the scratch coordinator before its participants are demoted. -/
theorem replay_induction {P : Coordinator → Prop} {limits : Limits} {snapshot : Bytes}
    {journal : List Bytes} {historyIncomplete : Bool} {replayed : Coordinator}
    (h : replay limits snapshot journal historyIncomplete = .ok replayed)
    (hstart : P { make limits none with historyIncomplete })
    (happly : ∀ c c' bytes record, P c → decodeRecord c.limits bytes = .ok record →
      (applyDecoded record).exec c = (.ok (), c') → P c')
    (hledger : ∀ c ledger, P c → P { c with ledger }) : P replayed := by
  have hrecord {c c' : Coordinator} {record : Bytes} (hc : P c)
      (hrun : (applyRecord record).exec c = (.ok (), c')) : P c' := by
    rw [exec_applyRecord] at hrun
    cases hd : decodeRecord c.limits record with
    | error e => simp [hd] at hrun
    | ok decoded =>
        rw [hd] at hrun
        exact happly c c' record decoded hc hd hrun
  have hmany {c c' : Coordinator} {records : List Bytes} (hc : P c)
      (hrun : (applyAll records).exec c = (.ok (), c')) : P c' := by
    induction records generalizing c with
    | nil =>
        obtain rfl : c = c' := congrArg Prod.snd hrun
        exact hc
    | cons record records ih =>
        obtain ⟨u, d, hfirst, hrest⟩ := exec_bind_ok hrun
        exact ih (hrecord hc hfirst) hrest
  have hreplay {count : Nat} {reader reader' : ByteReader} {c c' : Coordinator} (hc : P c)
      (hrun : replayRecords limits count reader c = .ok (reader', c')) : P c' := by
    induction count generalizing reader c with
    | zero =>
        cases hrun
        exact hc
    | succ count ih =>
        obtain ⟨⟨record, reader''⟩, -, hrun⟩ := bind_eq_ok.mp hrun
        obtain ⟨⟨u, d⟩, happly, hrun⟩ := bind_eq_ok.mp hrun
        exact ih (hrecord hc (result_eq_ok.mp happly)) hrun
  obtain ⟨restored, hrestore, hjournal⟩ := replay_eq_ok.mp h
  refine hmany ?_ hjournal
  unfold restoreSnapshot at hrestore
  split at hrestore
  · cases hrestore
    exact hstart
  · obtain ⟨⟨count, reader⟩, -, hrestore⟩ := bind_eq_ok.mp hrestore
    obtain ⟨⟨reader', d⟩, hrecords, hrestore⟩ := bind_eq_ok.mp hrestore
    obtain ⟨⟨bytes, reader''⟩, -, hrestore⟩ := bind_eq_ok.mp hrestore
    obtain ⟨ledger, -, hrestore⟩ := bind_eq_ok.mp hrestore
    obtain ⟨-, -, hrestore⟩ := bind_eq_ok.mp hrestore
    cases hrestore
    exact hledger _ _ (hreplay hstart hrecords)

/-- As for a replay; the demotion comes last. -/
theorem rebuild_induction {P : Coordinator → Prop} {limits : Limits} {snapshot : Bytes}
    {journal : List Bytes} {historyIncomplete : Bool} {scratch : Coordinator}
    (h : rebuild limits snapshot journal historyIncomplete = .ok scratch)
    (hstart : P { make limits none with historyIncomplete })
    (happly : ∀ c c' bytes record, P c → decodeRecord c.limits bytes = .ok record →
      (applyDecoded record).exec c = (.ok (), c') → P c')
    (hledger : ∀ c ledger, P c → P { c with ledger }) :
    ∃ replayed, P replayed ∧ replayed.demote = .ok scratch := by
  obtain ⟨replayed, hreplay, hdemote⟩ := rebuild_eq_ok.mp h
  exact ⟨replayed, replay_induction hreplay hstart happly hledger, hdemote⟩

/-- The scratch coordinator of a recovery, handed the sink. -/
def equipped (c scratch : Coordinator) : Coordinator :=
  { scratch with sink := c.sink, durable := c.durable }

/-- What `recover` does, step by step. -/
theorem exec_recover {c : Coordinator} (hin : c.inside = false) (snapshot : Bytes)
    (journal : List Bytes) (historyIncomplete : Bool) :
    (recover snapshot journal historyIncomplete).exec c =
      if c.state ≠ .closed then
        (.error ⟨.invalidState, "recovery requires a fresh coordinator"⟩, c)
      else
        match rebuild c.limits snapshot journal historyIncomplete with
        | .error e => (.error e, c)
        | .ok scratch =>
          match (c.equipped scratch).storeAnswer (.epochAdvanced scratch.nextEpoch) with
          | .error e => (.error e, { c with sink := ((c.equipped scratch).persisted
              (DurableRecord.epochAdvanced scratch.nextEpoch).encode).sink })
          | .ok () => (.ok (),
              ({ c with sink := (c.equipped scratch).opening.sink } : Coordinator).adopt
                (c.equipped scratch).opening) := by
  by_cases hclosed : c.state = .closed
  · have hclosed' : ¬(c.flagged true).state ≠ .closed := not_not.mpr hclosed
    rw [if_neg (not_not.mpr hclosed)]
    have hrebuild : rebuild (c.flagged true).limits snapshot journal historyIncomplete =
      rebuild c.limits snapshot journal historyIncomplete := rfl
    have hstart : (recover snapshot journal historyIncomplete).exec c = _ := exec_guarded _ hin
    rw [hstart, exec_bind_of_ok (exec_get _),
      exec_bind_of_ok (exec_throwIf_neg hclosed' _ _), hrebuild]
    cases rebuild c.limits snapshot journal historyIncomplete with
    | error e =>
        rw [exec_bind_of_error (exec_liftM _ _)]
        exact congrArg (Prod.mk _) (flagged_eq_self hin)
    | ok scratch =>
        have hepoch : persistEpoch.exec { scratch with
            sink := (c.flagged true).sink, durable := (c.flagged true).durable } = _ :=
          exec_persistEpoch (c.equipped scratch)
        have hnext : (c.equipped scratch).nextEpoch = scratch.nextEpoch := rfl
        rw [hnext] at hepoch
        rw [exec_bind_of_ok (exec_liftM _ _), hepoch]
        cases hanswer : (c.equipped scratch).storeAnswer (.epochAdvanced scratch.nextEpoch) with
        | error e =>
            simp only [hanswer]
            rw [exec_bind_of_ok (exec_modify _ _), exec_bind_of_error (exec_liftM _ _)]
            exact congrArg (Prod.mk _) (flagged_eq_self (c := { c with sink := _ }) hin)
        | ok u =>
            simp only [hanswer]
            rw [exec_bind_of_ok (exec_modify _ _), exec_bind_of_ok (exec_liftM _ _), exec_modify]
            refine congrArg (Prod.mk _) ?_
            simp only [adopt, flagged, hin]
  · have hclosed' : (c.flagged true).state ≠ .closed := hclosed
    rw [if_pos hclosed]
    have hstart : (recover snapshot journal historyIncomplete).exec c = _ := exec_guarded _ hin
    rw [hstart, exec_bind_of_ok (exec_get _), exec_bind_of_error (exec_throwIf_pos hclosed' _ _)]
    exact congrArg (Prod.mk _) (flagged_eq_self hin)

/-- A recovery that succeeds adopts what it rebuilt, in an epoch of its own. -/
theorem recover_ok {snapshot : Bytes} {journal : List Bytes} {historyIncomplete : Bool}
    {c c' : Coordinator} (hin : c.inside = false)
    (h : (recover snapshot journal historyIncomplete).exec c = (.ok (), c')) :
    ∃ scratch, c.state = .closed ∧
      rebuild c.limits snapshot journal historyIncomplete = .ok scratch ∧
      (c.equipped scratch).storeAnswer (.epochAdvanced scratch.nextEpoch) = .ok () ∧
      c' = ({ c with sink := (c.equipped scratch).opening.sink } : Coordinator).adopt
        (c.equipped scratch).opening := by
  rw [exec_recover hin] at h
  split at h
  · cases h
  · next hclosed =>
      cases hrebuild : rebuild c.limits snapshot journal historyIncomplete with
      | error e => simp [hrebuild] at h
      | ok scratch =>
          cases hanswer : (c.equipped scratch).storeAnswer (.epochAdvanced scratch.nextEpoch) with
          | error e => simp [hrebuild, hanswer] at h
          | ok u =>
              simp only [hrebuild, hanswer] at h
              exact ⟨scratch, not_not.mp hclosed, rfl, hanswer, (congrArg Prod.snd h).symm⟩

/-! ## Demotion -/

/-- The part of a roster that a list of records demotes. -/
def demotedIn (r : Roster) (kind : ParticipantKind) (ids : List UInt64) : Roster := fun kind' id =>
  if kind' = kind ∧ id ∈ ids then (r kind' id).map fun m => { m with state := .suspect }
  else r kind' id

/-- One participant after another. -/
theorem demotedIn_put (r : Roster) (kind : ParticipantKind) (id : UInt64) (ids : List UInt64)
    {m : Member} (h : r kind id = some m) :
    demotedIn (r.put kind id { m with state := .suspect }) kind ids = demotedIn r kind (id :: ids) := by
  funext kind' id'
  unfold demotedIn Roster.put
  by_cases hsame : kind' = kind ∧ id' = id
  · obtain ⟨rfl, rfl⟩ := hsame
    simp [h]
  · rw [if_neg hsame]
    by_cases hmem : kind' = kind ∧ id' ∈ ids
    · rw [if_pos hmem, if_pos ⟨hmem.1, List.mem_cons_of_mem _ hmem.2⟩]
    · rw [if_neg hmem, if_neg]
      rintro ⟨hkind, hid⟩
      rcases List.mem_cons.mp hid with hid | hid
      · exact hsame ⟨hkind, hid⟩
      · exact hmem ⟨hkind, hid⟩

/-- The producers among the records that held authority. -/
def activeIds {α : Type} (id : α → UInt64) (state : α → ParticipantState) (records : List α) :
    List UInt64 := (records.filter (holdsAuthority <| state ·)).map id

/-- What the demotion of a list of producers does. -/
theorem demoteProducers_ok {records : List ProducerRecord} {c c' : Coordinator} {t : Topology}
    {suspect suspect' : UInt32} (ht : c.topology = some t) (hconsistent : t.Consistent)
    (h : demoteProducers records c suspect = .ok (c', suspect')) :
    ∃ t', t'.Consistent ∧ t.Continues t' ∧ t'.consumers = t.consumers ∧
      t'.roster = demotedIn t.roster .producer (activeIds (·.id) (·.state) records) ∧
      suspect' = suspect + UInt32.ofNat (activeIds (·.id) (·.state) records).length ∧
      c' = { c with
        topology := some t'
        unrevalidatedProducers := c.unrevalidatedProducers ∪
          (activeIds (·.id) (·.state) records).toFinset } := by
  induction records generalizing c t suspect with
  | nil =>
      cases h
      refine ⟨t, hconsistent, Topology.continues_refl t, rfl, ?_, by simp [activeIds], ?_⟩
      · funext kind id
        simp [demotedIn, activeIds]
      · simp [activeIds, ← ht]
  | cons record records ih =>
      unfold demoteProducers at h
      split at h
      · next hidle =>
          have hids : activeIds (·.id) (·.state) (record :: records) =
              activeIds (·.id) (·.state) records := by
            simp [activeIds, hidle]
          rw [hids]
          exact ih ht hconsistent h
      · next hactive =>
          have hids : activeIds (·.id) (·.state) (record :: records) =
              record.id :: activeIds (·.id) (·.state) records := by
            have hactive : holdsAuthority record.state = true := by simpa using hactive
            simp [activeIds, hactive]
          rw [ht] at h
          obtain ⟨demoted, hset, h⟩ := bind_eq_ok.mp h
          let change : ParticipantRecord := {
            kind := .producer, id := record.id, incarnation := record.incarnation
            state := .suspect, endpoint := [], atTick := 0 }
          have hchange : setStateFrom t change = .ok demoted := hset
          obtain ⟨m, hm, -, hroster⟩ := setStateFrom_roster hconsistent hchange
          have hsame : demoted.consumers = t.consumers := by
            obtain ⟨-, -, -, ⟨-, rfl⟩ | ⟨-, rfl⟩⟩ := Topology.setProducerState_cases hset <;> rfl
          obtain ⟨t', hconsistent', hcontinues, hconsumers, hroster', hsuspect, rfl⟩ :=
            ih rfl (consistent_setStateFrom hconsistent hchange) h
          refine ⟨t', hconsistent', (continues_setStateFrom hchange).trans hcontinues,
            hconsumers.trans hsame, ?_, ?_, ?_⟩
          · rw [hroster', hroster, hids]
            exact demotedIn_put t.roster .producer record.id _ hm
          · rw [hsuspect, hids, List.length_cons, Nat.add_comm _ 1, UInt32.ofNat_add,
              UInt32.add_assoc]
            rfl
          · rw [hids]
            simp only [List.toFinset_cons]
            congr 1
            rw [Finset.insert_union, Finset.union_insert]

/-- What the demotion of a list of consumers does. -/
theorem demoteConsumers_ok {records : List ConsumerRecord} {c c' : Coordinator} {t : Topology}
    {suspect suspect' : UInt32} (ht : c.topology = some t) (hconsistent : t.Consistent)
    (h : demoteConsumers records c suspect = .ok (c', suspect')) :
    ∃ t', t'.Consistent ∧ t.Continues t' ∧ t'.producers = t.producers ∧
      t'.roster = demotedIn t.roster .consumer (activeIds (·.id) (·.state) records) ∧
      suspect' = suspect + UInt32.ofNat (activeIds (·.id) (·.state) records).length ∧
      c' = { c with
        topology := some t'
        unrevalidatedConsumers := c.unrevalidatedConsumers ∪
          (activeIds (·.id) (·.state) records).toFinset } := by
  induction records generalizing c t suspect with
  | nil =>
      cases h
      refine ⟨t, hconsistent, Topology.continues_refl t, rfl, ?_, by simp [activeIds], ?_⟩
      · funext kind id
        simp [demotedIn, activeIds]
      · simp [activeIds, ← ht]
  | cons record records ih =>
      unfold demoteConsumers at h
      split at h
      · next hidle =>
          have hids : activeIds (·.id) (·.state) (record :: records) =
              activeIds (·.id) (·.state) records := by
            simp [activeIds, hidle]
          rw [hids]
          exact ih ht hconsistent h
      · next hactive =>
          have hids : activeIds (·.id) (·.state) (record :: records) =
              record.id :: activeIds (·.id) (·.state) records := by
            have hactive : holdsAuthority record.state = true := by simpa using hactive
            simp [activeIds, hactive]
          rw [ht] at h
          obtain ⟨demoted, hset, h⟩ := bind_eq_ok.mp h
          let change : ParticipantRecord := {
            kind := .consumer, id := record.id, incarnation := record.incarnation
            state := .suspect, endpoint := [], atTick := 0 }
          have hchange : setStateFrom t change = .ok demoted := hset
          obtain ⟨m, hm, -, hroster⟩ := setStateFrom_roster hconsistent hchange
          have hsame : demoted.producers = t.producers := by
            obtain ⟨-, -, -, ⟨-, rfl⟩ | ⟨-, rfl⟩⟩ := Topology.setConsumerState_cases hset
            · rfl
            · exact Topology.producers_shifted _ _ _
          obtain ⟨t', hconsistent', hcontinues, hproducers, hroster', hsuspect, rfl⟩ :=
            ih rfl (consistent_setStateFrom hconsistent hchange) h
          refine ⟨t', hconsistent', (continues_setStateFrom hchange).trans hcontinues,
            hproducers.trans hsame, ?_, ?_, ?_⟩
          · rw [hroster', hroster, hids]
            exact demotedIn_put t.roster .consumer record.id _ hm
          · rw [hsuspect, hids, List.length_cons, Nat.add_comm _ 1, UInt32.ofNat_add,
              UInt32.add_assoc]
            rfl
          · rw [hids]
            simp only [List.toFinset_cons]
            congr 1
            rw [Finset.insert_union, Finset.union_insert]

/-- The producers that are demoted are the active ones. -/
theorem mem_activeProducers {t : Topology} (ht : t.Consistent) {id : UInt64} :
    id ∈ activeIds (·.id) (·.state) t.producers ↔
      ∃ m, t.roster .producer id = some m ∧ m.state = .active := by
  simp only [activeIds, List.mem_map, List.mem_filter, holdsAuthority, beq_iff_eq]
  constructor
  · rintro ⟨p, ⟨hmem, hactive⟩, rfl⟩
    have hfind : t.findProducer p.id = some p :=
      (search_eq_some_iff ht.producers_sorted).mpr ⟨hmem, rfl⟩
    exact ⟨_, by simp only [Topology.roster, hfind]; rfl, hactive⟩
  · rintro ⟨m, hm, hactive⟩
    simp only [Topology.roster, Option.map_eq_some_iff] at hm
    obtain ⟨p, hfind, rfl⟩ := hm
    exact ⟨p, ⟨Topology.mem_of_findProducer hfind, hactive⟩, Topology.id_of_findProducer hfind⟩

/-- So are the consumers. -/
theorem mem_activeConsumers {t : Topology} (ht : t.Consistent) {id : UInt64} :
    id ∈ activeIds (·.id) (·.state) t.consumers ↔
      ∃ m, t.roster .consumer id = some m ∧ m.state = .active := by
  simp only [activeIds, List.mem_map, List.mem_filter, holdsAuthority, beq_iff_eq]
  constructor
  · rintro ⟨p, ⟨hmem, hactive⟩, rfl⟩
    have hfind : t.findConsumer p.id = some p :=
      (search_eq_some_iff ht.consumers_sorted).mpr ⟨hmem, rfl⟩
    exact ⟨_, by simp only [Topology.roster, hfind]; rfl, hactive⟩
  · rintro ⟨m, hm, hactive⟩
    simp only [Topology.roster, Option.map_eq_some_iff] at hm
    obtain ⟨p, hfind, rfl⟩ := hm
    exact ⟨p, ⟨Topology.mem_of_findConsumer hfind, hactive⟩, Topology.id_of_findConsumer hfind⟩

/-- A coordinator after a restart: nobody is active, and everybody who was is left to
revalidate. -/
theorem demote_ok {c c' : Coordinator} {t : Topology} (ht : c.topology = some t)
    (hconsistent : t.Consistent) (h : c.demote = .ok c') :
    ∃ t', t'.Consistent ∧ t.Continues t' ∧ t'.roster = t.roster.demoted ∧
      c' = { c with
        topology := some t'
        unrevalidatedProducers := c.unrevalidatedProducers ∪
          (activeIds (·.id) (·.state) t.producers).toFinset
        unrevalidatedConsumers := c.unrevalidatedConsumers ∪
          (activeIds (·.id) (·.state) t.consumers).toFinset
        pendingRevalidation := UInt32.ofNat ((activeIds (·.id) (·.state) t.producers).length +
          (activeIds (·.id) (·.state) t.consumers).length) } := by
  simp only [demote, ht, Option.map_some, Option.getD_some] at h
  obtain ⟨⟨d, suspect⟩, hproducers, h⟩ := bind_eq_ok.mp h
  obtain ⟨t₁, hconsistent₁, hcontinues₁, hconsumers, hroster₁, hsuspect₁, rfl⟩ :=
    demoteProducers_ok ht hconsistent hproducers
  simp only [Option.map_some, Option.getD_some, hconsumers] at h
  obtain ⟨⟨d', suspect'⟩, hdemote, h⟩ := bind_eq_ok.mp h
  obtain ⟨t₂, hconsistent₂, hcontinues₂, -, hroster₂, hsuspect₂, rfl⟩ :=
    demoteConsumers_ok rfl hconsistent₁ hdemote
  cases h
  refine ⟨t₂, hconsistent₂, hcontinues₁.trans hcontinues₂, ?_, ?_⟩
  · rw [hroster₂, hroster₁]
    funext kind id
    cases kind with
    | producer =>
        simp only [demotedIn, reduceCtorEq, false_and, if_false, true_and, Roster.demoted]
        split
        · next hmem =>
            obtain ⟨m, hm, hactive⟩ := (mem_activeProducers hconsistent).mp hmem
            simp [hm, Member.demoted, hactive]
        · next hmem =>
            cases hm : t.roster .producer id with
            | none => rfl
            | some m =>
                have hidle : m.state ≠ .active := fun hactive =>
                  hmem ((mem_activeProducers hconsistent).mpr ⟨m, hm, hactive⟩)
                simp [Member.demoted, hidle]
    | consumer =>
        simp only [demotedIn, reduceCtorEq, false_and, if_false, true_and, Roster.demoted]
        split
        · next hmem =>
            obtain ⟨m, hm, hactive⟩ := (mem_activeConsumers hconsistent).mp hmem
            simp [hm, Member.demoted, hactive]
        · next hmem =>
            cases hm : t.roster .consumer id with
            | none => rfl
            | some m =>
                have hidle : m.state ≠ .active := fun hactive =>
                  hmem ((mem_activeConsumers hconsistent).mpr ⟨m, hm, hactive⟩)
                simp [Member.demoted, hidle]
  · rw [hsuspect₂, hsuspect₁, UInt32.ofNat_add, UInt32.zero_add]

/-- Without a topology there is nobody to demote. -/
theorem demote_of_none {c c' : Coordinator} (ht : c.topology = none) (h : c.demote = .ok c') :
    c' = { c with pendingRevalidation := 0 } := by
  simp only [demote, ht, Option.map_none, Option.getD_none] at h
  have hproducers : demoteProducers [] c 0 = .ok (c, 0) := rfl
  rw [hproducers] at h
  simp only [bind, Except.bind, ht] at h
  cases h
  rfl

/-! ## Recovered coordinators -/

/-- What a manifest that is applied on replay passed. -/
theorem applyManifest_ok {record : ManifestRecord} {c c' : Coordinator}
    (h : (applyManifest record).exec c = (.ok (), c')) :
    ∃ t ledger, c.topology = some t ∧
      checkExisting c.manifests[record.manifest.partition]? record.manifest = .ok () ∧
      c.ledger.retireGeneration record.manifest.partition record.manifest.partitionGeneration =
        .ok ledger ∧ c' = c.manifested record.manifest ledger := by
  have hrun := h
  rw [applyManifest, exec_bind_of_ok (exec_get c)] at hrun
  obtain ⟨u, s, hthrow, hrun⟩ := exec_bind_ok hrun
  rw [exec_throwIf] at hthrow
  split at hthrow
  · cases hthrow
  next htopology =>
  obtain ⟨t, ht⟩ : ∃ t, c.topology = some t := by
    cases ht : c.topology with
    | none => simp [ht] at htopology
    | some t => exact ⟨t, rfl⟩
  obtain ⟨u', s', hexisting, -⟩ := exec_bind_ok hrun
  have hexisting : checkExisting c.manifests[record.manifest.partition]? record.manifest = .ok () :=
    congrArg Prod.fst hexisting
  rw [exec_applyManifest record.manifest ht hexisting] at h
  cases hretire : c.ledger.retireGeneration record.manifest.partition
      record.manifest.partitionGeneration with
  | error e => simp [hretire] at h
  | ok ledger =>
      rw [hretire] at h
      exact ⟨t, ledger, ht, hexisting, rfl, (congrArg Prod.snd h).symm⟩

/-- A completion that is applied on replay was accepted by the ledger. -/
theorem applyCommit_ok {record : CommitRecord} {c c' : Coordinator}
    (h : (applyCommit record).exec c = (.ok (), c')) :
    ∃ receipt ledger, c.ledger.commit record.request record.atTick = .ok (receipt, ledger) ∧
      c' = (c.credited ledger).advanceClock record.atTick := by
  rw [applyCommit, exec_bind_of_ok (exec_get c)] at h
  obtain ⟨⟨receipt, ledger⟩, s, hcommit, h⟩ := exec_bind_ok h
  obtain rfl : c = s := congrArg Prod.snd hcommit
  exact ⟨receipt, ledger, congrArg Prod.fst hcommit, (congrArg Prod.snd h).symm⟩

/-- So was a failure. -/
theorem applyFailure_ok {record : FailureRecordDurable} {c c' : Coordinator}
    (h : (applyFailure record).exec c = (.ok (), c')) :
    ∃ ledger, c.ledger.recordFailure (ledgerFailure record) = .ok ledger ∧
      c' = c.charged ledger record.readyAt := by
  rw [applyFailure, exec_bind_of_ok (exec_get c)] at h
  obtain ⟨ledger, s, hfailure, h⟩ := exec_bind_ok h
  obtain rfl : c = s := congrArg Prod.snd hfailure
  exact ⟨ledger, congrArg Prod.fst hfailure, (congrArg Prod.snd h).symm⟩

/-- What a successfully applied record did. -/
inductive Applied (c : Coordinator) : DurableRecord → Coordinator → Prop
  | epoch (record : EpochRecord) : Applied c (.epochAdvanced record) (c.epochAdvanced record)
  | state (record : ShuffleStateRecord) (fits : ¬c.Misfits record) :
      Applied c (.shuffleState record) (c.entered record)
  | participant (record : ParticipantRecord) (t t' : Topology) (topology : c.topology = some t)
      (placed : place t record = .ok t') :
      Applied c (.participant record) (c.joinedBy t t' record)
  | manifest (record : ManifestRecord) (t : Topology) (ledger : CompletionLedger)
      (topology : c.topology = some t)
      (existing : checkExisting c.manifests[record.manifest.partition]? record.manifest = .ok ())
      (retired : c.ledger.retireGeneration record.manifest.partition
        record.manifest.partitionGeneration = .ok ledger) :
      Applied c (.manifest record) (c.manifested record.manifest ledger)
  | commit (record : CommitRecord) (receipt : CommitReceipt) (ledger : CompletionLedger)
      (commit : c.ledger.commit record.request record.atTick = .ok (receipt, ledger)) :
      Applied c (.commit record) ((c.credited ledger).advanceClock record.atTick)
  | failure (record : FailureRecordDurable) (ledger : CompletionLedger)
      (failure : c.ledger.recordFailure (ledgerFailure record) = .ok ledger) :
      Applied c (.failure record) (c.charged ledger record.readyAt)

/-- Every record that is applied, by its kind. -/
theorem applied_of_exec {record : DurableRecord} {c c' : Coordinator}
    (h : (applyDecoded record).exec c = (.ok (), c')) : Applied c record c' := by
  cases record with
  | epochAdvanced record =>
      obtain rfl : c.epochAdvanced record = c' := congrArg Prod.snd h
      exact .epoch record
  | shuffleState record =>
      obtain ⟨hfits, rfl⟩ := applyShuffleState_ok h
      exact .state record hfits
  | participant record =>
      obtain ⟨t, t', ht, hplace, rfl⟩ := applyParticipant_ok h
      exact .participant record t t' ht hplace
  | manifest record =>
      obtain ⟨t, ledger, ht, hexisting, hretire, rfl⟩ := applyManifest_ok h
      exact .manifest record t ledger ht hexisting hretire
  | commit record =>
      obtain ⟨receipt, ledger, hcommit, rfl⟩ := applyCommit_ok h
      exact .commit record receipt ledger hcommit
  | failure record =>
      obtain ⟨ledger, hfailure, rfl⟩ := applyFailure_ok h
      exact .failure record ledger hfailure

/-- A record keeps the coordinator in order. -/
theorem Applied.regular {c c' : Coordinator} {record : DurableRecord} (h : Applied c record c')
    (hc : c.Regular) : c'.Regular := by
  cases h with
  | epoch record =>
      rw [epochAdvanced_eq]
      exact hc.of_topology_eq rfl rfl rfl
  | state record => exact (hc.entered record).1
  | participant record t t' ht hplace => exact (hc.joinedBy ht hplace).1
  | manifest record t ledger => exact hc.of_topology_eq rfl rfl rfl
  | commit record receipt ledger =>
      rw [advanceClock_eq]
      exact hc.of_topology_eq rfl rfl rfl
  | failure record ledger =>
      rw [charged, advanceClock_eq]
      exact hc.of_topology_eq rfl rfl rfl

/-- No record changes the limits. -/
theorem Applied.limits {c c' : Coordinator} {record : DurableRecord} (h : Applied c record c') :
    c'.limits = c.limits := by
  cases h with
  | epoch record => rw [epochAdvanced_eq]
  | state record => rw [entered_eq]
  | participant record t t' =>
      obtain ⟨producers, consumers, pending, heq⟩ := c.joinedBy_eq t t' record
      rw [heq]
  | manifest record t ledger => rfl
  | commit record receipt ledger => rw [advanceClock_eq]; rfl
  | failure record ledger => rw [charged, advanceClock_eq]

/-- A demotion touches the topology and what is left to revalidate. -/
theorem demote_frame {c c' : Coordinator} (hc : c.Regular) (h : c.demote = .ok c') :
    ∃ topology producers consumers pending, c' = { c with
      topology, unrevalidatedProducers := producers, unrevalidatedConsumers := consumers
      pendingRevalidation := pending } := by
  cases ht : c.topology with
  | none =>
      rw [demote_of_none ht h]
      exact ⟨_, _, _, _, rfl⟩
  | some t =>
      obtain ⟨t', -, -, -, rfl⟩ := demote_ok ht (hc.consistent t ht) h
      exact ⟨_, _, _, _, rfl⟩

/-- A new coordinator is in order. -/
theorem regular_make (limits : Limits) (sink : Option Sink) : (make limits sink).Regular :=
  ⟨rfl, fun _ h => (by cases h), fun _ h => (by cases h)⟩

/-- A coordinator that recovered: what it rebuilt, demoted, in an epoch of its own. -/
theorem recover_rebuilt {P : Coordinator → Prop} {snapshot : Bytes} {journal : List Bytes}
    {historyIncomplete : Bool} {c c' : Coordinator} (hc : c.Regular)
    (h : (recover snapshot journal historyIncomplete).exec c = (.ok (), c'))
    (hstart : P { make c.limits none with historyIncomplete })
    (happly : ∀ d d' bytes record, d.Regular → P d → decodeRecord d.limits bytes = .ok record →
      Applied d record d' → P d')
    (hledger : ∀ d ledger, P d → P { d with ledger }) :
    ∃ replayed scratch, replayed.Regular ∧ P replayed ∧ replayed.demote = .ok scratch ∧
      c.state = .closed ∧
      c' = ({ c with sink := (c.equipped scratch).opening.sink } : Coordinator).adopt
        (c.equipped scratch).opening ∧
      (c.equipped scratch).storeAnswer (.epochAdvanced scratch.nextEpoch) = .ok () ∧
      replayed.limits = c.limits := by
  obtain ⟨scratch, hclosed, hrebuild, hanswer, rfl⟩ := recover_ok hc.inside h
  obtain ⟨replayed, ⟨hregular, hP, hlimits⟩, hdemote⟩ := rebuild_induction
    (P := fun d => d.Regular ∧ P d ∧ d.limits = c.limits) hrebuild
    ⟨⟨rfl, fun _ h => (by cases h), fun _ h => (by cases h)⟩, hstart, rfl⟩
    (fun d d' bytes record hd hdecode hrun =>
      ⟨(applied_of_exec hrun).regular hd.1,
        happly d d' bytes record hd.1 hd.2.1 hdecode (applied_of_exec hrun),
        (applied_of_exec hrun).limits.trans hd.2.2⟩)
    fun d ledger hd => ⟨hd.1.of_topology_eq rfl rfl rfl, hledger d ledger hd.2.1, hd.2.2⟩
  exact ⟨replayed, scratch, hregular, hP, hdemote, hclosed, rfl, hanswer, hlimits⟩

/-- The participants of a coordinator that was restarted. -/
theorem demote_regular {c c' : Coordinator} (hc : c.Regular) (h : c.demote = .ok c') :
    c'.Regular ∧ c'.roster = c.roster.demoted := by
  cases ht : c.topology with
  | none =>
      rw [demote_of_none ht h]
      have hnone : c.roster = fun _ _ => none := by rw [roster, ht]
      refine ⟨hc.of_topology_eq rfl rfl rfl, ?_⟩
      show c.roster = _
      rw [hnone]
      rfl
  | some t =>
      obtain ⟨t', hconsistent, hcontinues, hroster, rfl⟩ := demote_ok ht (hc.consistent t ht) h
      refine ⟨⟨hc.inside, ?_, ?_⟩, ?_⟩
      · rintro _ ⟨⟩
        exact hconsistent
      · rintro _ ⟨⟩
        rw [hcontinues.limits]
        exact hc.limits t ht
      · rw [roster_of_topology (t := t') rfl, roster_of_topology ht, hroster]

/-- A recovery leaves a coordinator in order, whose participants are all demoted. -/
theorem Regular.recover {snapshot : Bytes} {journal : List Bytes} {historyIncomplete : Bool}
    {c c' : Coordinator} (hc : c.Regular)
    (h : (recover snapshot journal historyIncomplete).exec c = (.ok (), c')) :
    c'.Regular ∧ ∃ r : Roster, c'.roster = r.demoted := by
  obtain ⟨replayed, scratch, hregular, -, hdemote, -, rfl, -, hlimits⟩ :=
    recover_rebuilt (P := fun _ => True) hc h trivial (fun _ _ _ _ _ _ _ _ => trivial)
      fun _ _ _ => trivial
  obtain ⟨hscratch, hroster⟩ := demote_regular hregular hdemote
  obtain ⟨-, htopology, -, -⟩ := (c.equipped scratch).opening_frame
  have hscratchLimits : scratch.limits = c.limits := by
    obtain ⟨topology, producers, consumers, pending, rfl⟩ := demote_frame hregular hdemote
    exact hlimits
  refine ⟨⟨hc.inside, ?_, ?_⟩, replayed.roster, ?_⟩
  · show ∀ t, (c.equipped scratch).opening.topology = some t → _
    rw [htopology]
    exact hscratch.consistent
  · show ∀ t, (c.equipped scratch).opening.topology = some t → t.limits = c.limits
    rw [htopology, ← hscratchLimits]
    exact hscratch.limits
  · rw [← hroster]
    exact roster_congr htopology

/-- A record that could not be stored cannot be replayed either. -/
theorem unreadable_of_unstored {c : Coordinator} {r : DurableRecord} {e : Error}
    (hanswer : c.storeAnswer r = .error e) (hsink : c.sinkAnswer r.encode = .ok ()) :
    ∃ e', decodeRecord c.limits r.encode = .error e' := by
  cases hd : decodeRecord c.limits r.encode with
  | error e' => exact ⟨e', rfl⟩
  | ok d => simp [storeAnswer, hsink, hd, bind, Except.bind, pure, Except.pure] at hanswer

/-- A recovery that is refused leaves its trace in the sink alone, and if the sink took the
record of the new epoch then that record cannot be read back. -/
theorem recover_error {snapshot : Bytes} {journal : List Bytes} {historyIncomplete : Bool}
    {c c' : Coordinator} {e : Error} (hc : c.Regular)
    (h : (recover snapshot journal historyIncomplete).exec c = (.error e, c')) :
    ∃ sink, c' = { c with sink } ∧ (sink = c.sink ∨ ∃ record : EpochRecord,
      sink = (c.persisted (DurableRecord.epochAdvanced record).encode).sink ∧
      (c.sinkAnswer (DurableRecord.epochAdvanced record).encode = .ok () →
        ∃ e', decodeRecord c.limits (DurableRecord.epochAdvanced record).encode = .error e')) := by
  rw [exec_recover hc.inside] at h
  split at h
  · cases h
    exact ⟨c.sink, rfl, .inl rfl⟩
  · cases hrebuild : rebuild c.limits snapshot journal historyIncomplete with
    | error e' =>
        simp only [hrebuild] at h
        cases h
        exact ⟨c.sink, rfl, .inl rfl⟩
    | ok scratch =>
        cases hanswer : (c.equipped scratch).storeAnswer (.epochAdvanced scratch.nextEpoch) with
        | ok u => simp [hrebuild, hanswer] at h
        | error e' =>
            simp only [hrebuild, hanswer] at h
            cases h
            have hlimits : scratch.limits = c.limits := by
              obtain ⟨replayed, ⟨hregular, hlimits⟩, hdemote⟩ := rebuild_induction
                (P := fun d => d.Regular ∧ d.limits = c.limits) hrebuild
                ⟨regular_make c.limits none |>.of_topology_eq rfl rfl rfl, rfl⟩
                (fun d d' _ record hd _ hrun => ⟨(applied_of_exec hrun).regular hd.1,
                  (applied_of_exec hrun).limits.trans hd.2⟩)
                fun d ledger hd => ⟨hd.1.of_topology_eq rfl rfl rfl, hd.2⟩
              obtain ⟨topology, producers, consumers, pending, rfl⟩ := demote_frame hregular hdemote
              exact hlimits
            refine ⟨_, rfl, .inr ⟨scratch.nextEpoch, rfl, fun hsink => ?_⟩⟩
            have hunreadable := unreadable_of_unstored (c := c.equipped scratch) hanswer hsink
            rw [← hlimits]
            exact hunreadable

/-- Every way a move ends. -/
inductive MoveStep (c : Coordinator) : Move → Result Reply → Coordinator → Prop
  | called (call : Call) (answer : Result Reply) (c' : Coordinator)
      (transition : Transition c call answer c') : MoveStep c (.call call) answer c'
  | unrecovered (snapshot : Bytes) (journal : List Bytes) (historyIncomplete : Bool) (e : Error)
      (sink : Option Sink) (trace : sink = c.sink ∨ ∃ record : EpochRecord,
        sink = (c.persisted (DurableRecord.epochAdvanced record).encode).sink ∧
        (c.sinkAnswer (DurableRecord.epochAdvanced record).encode = .ok () →
          ∃ e', decodeRecord c.limits (DurableRecord.epochAdvanced record).encode = .error e')) :
      MoveStep c (.recover snapshot journal historyIncomplete) (.error e) { c with sink }
  | recovered (snapshot : Bytes) (journal : List Bytes) (historyIncomplete : Bool)
      (c' : Coordinator)
      (run : (Coordinator.recover snapshot journal historyIncomplete).exec c = (.ok (), c')) :
      MoveStep c (.recover snapshot journal historyIncomplete) (.ok .done) c'

/-- Every move of a coordinator in order, by its outcome. -/
theorem move_step {c : Coordinator} (hc : c.Regular) (m : Move) :
    MoveStep c m (c.move m).1 (c.move m).2 := by
  cases m with
  | call call => exact .called call _ _ (perform_transition hc.inside hc.consistent call)
  | recover snapshot journal historyIncomplete =>
      show MoveStep c _ ((_ <$> Coordinator.recover snapshot journal historyIncomplete).exec c).1
        ((_ <$> Coordinator.recover snapshot journal historyIncomplete).exec c).2
      rcases hexec : (Coordinator.recover snapshot journal historyIncomplete).exec c with
        ⟨answer, c'⟩
      rw [exec_map, hexec]
      cases answer with
      | error e =>
          obtain ⟨sink, rfl, htrace⟩ := recover_error hc hexec
          exact .unrecovered snapshot journal historyIncomplete e sink htrace
      | ok u => exact .recovered snapshot journal historyIncomplete c' hexec

/-- Every move keeps the coordinator in order. -/
theorem MoveStep.regular {c c' : Coordinator} {m : Move} {answer : Result Reply}
    (h : MoveStep c m answer c') (hc : c.Regular) : c'.Regular := by
  cases h with
  | called call _ _ htransition => exact (htransition.regular hc).1
  | unrecovered => exact hc.of_topology_eq rfl rfl rfl
  | recovered snapshot journal historyIncomplete _ hrun => exact (hc.recover hrun).1

/-- So does the function. -/
theorem Regular.move {c : Coordinator} (hc : c.Regular) (m : Move) : (c.move m).2.Regular :=
  (move_step hc m).regular hc

/-- Every reachable coordinator is regular. -/
theorem regular_of_run {limits : Limits} {sink : Option Sink}
    {events : List (Event Coordinator Move (Result Reply))} {c : Coordinator}
    (run : Run move (make limits sink) events c) : c.Regular :=
  run.invariant (regular_make limits sink) fun _ m hc => hc.move m

end Coordinator

end ShuffleFabric
