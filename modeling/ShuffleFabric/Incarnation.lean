import ShuffleFabric.InFlight

/-!
# ShuffleFabric.Incarnation

Incarnations over whole runs: what a registration and a state change may do to one
participant, what a superseded incarnation is worth, and the attempts of participants
that came back under another one.
-/

namespace ShuffleFabric

open Lib Action

namespace Coordinator

/-! ## One participant, one call -/

theorem registered_incarnation (m : Option Member) (record : ParticipantRecord) :
    (Roster.registered m record).incarnation = record.incarnation := by
  unfold Roster.registered
  split
  · split
    · next hrepeats => exact hrepeats.1
    · rfl
  · rfl

/-- The record of a state change repeats the registration it finds. -/
theorem stateChange_repeats {c : Coordinator} {t : Topology} {kind : ParticipantKind} {id : UInt64}
    {incarnation : IncarnationId} (state : ParticipantState)
    (h : t.checkParticipantState kind id incarnation = .ok ()) :
    ∃ m, t.roster kind id = some m ∧ m.Repeats (c.stateChange t kind id incarnation state) := by
  simp only [Topology.checkParticipantState, bind_eq_ok, refuseIf_eq_ok, exists_const] at h
  obtain ⟨-, h⟩ := h
  cases kind with
  | producer =>
      cases hfind : t.findProducer id with
      | none => simp [hfind, makeFailure] at h
      | some record =>
          simp only [hfind, refuseIf_eq_ok, not_not] at h
          refine ⟨_, by simp only [Topology.roster, hfind]; rfl, h, ?_, rfl⟩
          simp [stateChange, registeredAs, hfind]
  | consumer =>
      cases hfind : t.findConsumer id with
      | none => simp [hfind, makeFailure] at h
      | some record =>
          simp only [hfind, refuseIf_eq_ok, not_not] at h
          refine ⟨_, by simp only [Topology.roster, hfind]; rfl, h, ?_, ?_⟩
          · simp [stateChange, registeredAs, hfind]
          · simp [stateChange, registeredAs, hfind, ParticipantRecord.key]

/-- What a call does to one participant. -/
inductive MemberStep (c : Coordinator) (call : Call) (answer : Result Reply) (c' : Coordinator)
    (kind : ParticipantKind) (id : UInt64) : Prop
  | same (roster : c'.roster kind id = c.roster kind id)
      (quiet : ∀ record, c.registration call = some record → record.kind = kind →
        record.id = id → ∃ e, answer = .error e)
  | changed (m : Member) (state : ParticipantState) (before : c.roster kind id = some m)
      (idle : state ≠ .active) (after : c'.roster kind id = some { m with state })
      (quiet : c.registration call = none)
  | registered (record : ParticipantRecord) (registration : c.registration call = some record)
      (kind_eq : record.kind = kind) (id_eq : record.id = id) (reply : Reply)
      (answered : answer = .ok reply) (open_ : c.state = .open)
      (after : c'.roster kind id = some (Roster.registered (c.roster kind id) record))

theorem RosterStep.member {c c' : Coordinator} {call : Call} {answer : Result Reply}
    (h : RosterStep c call answer c') (kind : ParticipantKind) (id : UInt64) :
    MemberStep c call answer c' kind id := by
  cases h with
  | kept roster quiet => exact .same (by rw [roster]) fun record hr _ _ => quiet record hr
  | entered record reply enters hopen hanswer hstored hroster =>
      by_cases hsame : kind = record.kind ∧ id = record.id
      · obtain ⟨rfl, rfl⟩ := hsame
        have hafter : c'.roster record.kind record.id =
            some (Roster.joined (c.roster record.kind record.id) record) := by
          rw [hroster, Roster.enter, Roster.put_same]
        cases enters with
        | registers hregistration =>
            rw [Roster.joined, if_pos (active_of_registration hregistration)] at hafter
            exact .registered record hregistration rfl rfl reply hanswer hopen hafter
        | @sets kind id incarnation state t htopology hcheck =>
            obtain ⟨m, hm, hrepeats⟩ := stateChange_repeats (c := c) state hcheck
            have hbefore : c.roster kind id = some m := by
              rw [roster_of_topology htopology]
              exact hm
            have hafter : c'.roster kind id =
                some (Roster.joined (c.roster kind id) (c.stateChange t kind id incarnation state)) :=
              hafter
            rw [Roster.joined, hbefore, Roster.registered, if_pos hrepeats] at hafter
            split at hafter
            · refine .same (hafter.trans hbefore.symm) fun record hr => ?_
              cases hr
            · next hidle => exact .changed m state hbefore hidle hafter rfl
      · refine .same ?_ fun record' hr hkind hid => ?_
        · rw [hroster, Roster.enter, Roster.put_other _ _ hsame]
        · cases enters with
          | registers hregistration =>
              rw [hregistration] at hr
              obtain rfl := Option.some.inj hr
              exact absurd ⟨hkind.symm, hid.symm⟩ hsame
          | sets => cases hr

theorem member_of_perform {c : Coordinator} (hc : c.Regular) (call : Call) (kind : ParticipantKind)
    (id : UInt64) : MemberStep c call (c.perform call).1 (c.perform call).2 kind id :=
  ((perform_transition hc.inside hc.consistent call).regular hc).2.member kind id

/-! ## Acting under an incarnation -/

/-- The call acts for the participant under the incarnation. -/
def Carries (kind : ParticipantKind) (id : UInt64) (i : IncarnationId) : Call → Prop
  | .commitTransfer request =>
    (kind = .consumer ∧ request.consumer = id ∧ request.consumerIncarnation = i) ∨
      (kind = .producer ∧ request.producer = id ∧ request.producerIncarnation = i)
  | .publishManifest manifest =>
    kind = .producer ∧ manifest.producer = id ∧ manifest.producerIncarnation = i
  | .setParticipantState kind' id' incarnation _ => kind' = kind ∧ id' = id ∧ incarnation = i
  | .updateCongestion intent =>
    intent.reporterKind = kind ∧ intent.reporterId = id ∧ intent.reporterIncarnation = i
  | _ => False

theorem checkReporter_ok {registered : Option (IncarnationId × ParticipantState)}
    {incarnation : IncarnationId} (h : checkReporter registered incarnation = .ok ()) :
    ∃ state, registered = some (incarnation, state) ∧ state = .active := by
  unfold checkReporter at h
  split at h
  · simp [makeFailure] at h
  · next current state =>
      simp only [bind_eq_ok, refuseIf_eq_ok, exists_const, not_not, holdsAuthority,
        beq_iff_eq] at h
      obtain ⟨rfl, rfl⟩ := h
      exact ⟨_, rfl, rfl⟩

/-- Who acts successfully is registered with the incarnation it acts under. -/
theorem Transition.acts {c c' : Coordinator} {call : Call} {reply : Reply}
    (h : Transition c call (.ok reply) c') {kind : ParticipantKind} {id : UInt64}
    {i : IncarnationId} (hcarries : Carries kind id i call) :
    ∃ m, c.roster kind id = some m ∧ m.incarnation = i := by
  cases h with
  | committed request receipt ledger _ hcheck =>
      obtain ⟨grant, t, manifest, -, hopen, -, hconsumer, hproducer, -⟩ := checkCommit_ok hcheck
      rw [roster_of_topology (ensureOpen_ok hopen).2]
      rcases hcarries with ⟨rfl, rfl, rfl⟩ | ⟨rfl, rfl, rfl⟩
      · obtain ⟨record, hfind, hincarnation, -⟩ := checkConsumer_ok hconsumer
        exact ⟨_, by simp only [Topology.roster, hfind]; rfl, hincarnation⟩
      · obtain ⟨-, record, hfind, hincarnation, -⟩ := checkProducer_ok hproducer
        exact ⟨_, by simp only [Topology.roster, hfind]; rfl, hincarnation⟩
  | published manifest accepted ledger hcheck =>
      obtain ⟨rfl, rfl, rfl⟩ := hcarries
      obtain ⟨t, hopen, -, -, -, -, -, -, ⟨record, hfind, hincarnation, -⟩, -⟩ :=
        checkPublish_ok hcheck
      rw [roster_of_topology (ensureOpen_ok hopen).2]
      exact ⟨_, by simp only [Topology.roster, hfind]; rfl, hincarnation⟩
  | stateSet kind id incarnation state t t' hopen hcheck =>
      obtain ⟨rfl, rfl, rfl⟩ := hcarries
      obtain ⟨m, hm, hrepeats⟩ := stateChange_repeats (c := c) state hcheck
      rw [roster_of_topology (ensureOpen_ok hopen).2]
      exact ⟨m, hm, hrepeats.1⟩
  | pressured intent hcheck =>
      obtain ⟨rfl, rfl, rfl⟩ := hcarries
      simp only [checkCongestion, bind_eq_ok, refuseIf_eq_ok, exists_const] at hcheck
      obtain ⟨t, hopen, -, -, -, hcheck⟩ := hcheck
      rw [roster_of_topology (ensureOpen_ok hopen).2]
      cases hkind : intent.reporterKind with
      | producer =>
          rw [hkind] at hcheck
          obtain ⟨state, hsome, -⟩ := checkReporter_ok hcheck
          obtain ⟨record, hfind, hpair⟩ := Option.map_eq_some_iff.mp hsome
          exact ⟨_, by simp only [Topology.roster, hfind]; rfl, congrArg Prod.fst hpair⟩
      | consumer =>
          rw [hkind] at hcheck
          obtain ⟨state, hsome, -⟩ := checkReporter_ok hcheck
          obtain ⟨record, hfind, hpair⟩ := Option.map_eq_some_iff.mp hsome
          exact ⟨_, by simp only [Topology.roster, hfind]; rfl, congrArg Prod.fst hpair⟩
  | registered call record t t' hregistration =>
      cases call with
      | registerProducer => cases hcarries
      | registerConsumer => cases hcarries
      | _ => cases hregistration
  | _ => cases hcarries

/-! ## Superseded incarnations -/

/-- The shuffle is open, the topology takes the registration and so does the sink. -/
def admits (c : Coordinator) (record : ParticipantRecord) : Bool :=
  (do
    let t ← c.ensureOpen
    let _ ← registerFrom t record
    c.storeAnswer (.participant record)).isOk

theorem admits_of_ok {c : Coordinator} {record : ParticipantRecord} {t t' : Topology}
    (hopen : c.ensureOpen = .ok t) (hregister : registerFrom t record = .ok t')
    (hanswer : c.storeAnswer (.participant record) = .ok ()) : c.admits record = true := by
  rw [admits, hopen]
  show (registerFrom t record >>= fun _ => c.storeAnswer (.participant record)).isOk = true
  rw [hregister]
  show (c.storeAnswer (.participant record)).isOk = true
  rw [hanswer]
  rfl

/-- A registration that was answered `Ok` was let through. -/
theorem Transition.admits {c c' : Coordinator} {call : Call} {reply : Reply}
    (h : Transition c call (.ok reply) c') {record : ParticipantRecord}
    (hrecord : c.registration call = some record) : c.admits record = true := by
  cases h with
  | registered _ record' t t' hregistration hopen hanswer hregister =>
      obtain rfl := Option.some.inj (hrecord.symm.trans hregistration)
      exact admits_of_ok hopen hregister hanswer
  | _ => cases hrecord

/-- The incarnation a registration replaced by another. -/
def supersedes (e : Event Coordinator Move (Result Reply)) :
    Option (ParticipantKind × UInt64 × IncarnationId) :=
  match e.input, e.output with
  | .call call, .ok _ =>
    match e.before.registration call with
    | some record =>
      match e.before.roster record.kind record.id with
      | some m =>
        if m.incarnation ≠ record.incarnation then some (record.kind, record.id, m.incarnation)
        else none
      | none => none
    | none => none
  | _, _ => none

/-- The incarnations that were replaced in a run. -/
def superseded (events : List (Event Coordinator Move (Result Reply))) :
    List (ParticipantKind × UInt64 × IncarnationId) := events.filterMap supersedes

/-- The participant and the incarnation of a registration that is let through. -/
def registering (e : Event Coordinator Move (Result Reply)) :
    List (ParticipantKind × UInt64 × IncarnationId) :=
  match e.input with
  | .call call =>
    ((e.before.registration call).toList.filter (e.before.admits ·)).map fun record =>
      (record.kind, record.id, record.incarnation)
  | _ => []

/-- A registration that is let through does not bring back an incarnation that was replaced
before. -/
def NeverBack (earlier : List (Event Coordinator Move (Result Reply)))
    (e : Event Coordinator Move (Result Reply)) : Prop :=
  ∀ x ∈ registering e, x ∉ superseded earlier

instance (earlier : List (Event Coordinator Move (Result Reply)))
    (e : Event Coordinator Move (Result Reply)) : Decidable (NeverBack earlier e) :=
  List.decidableBAll _ _

/-- Where somebody was replaced the shuffle is not closed again, and the replaced
incarnation is not the current one. -/
def Replaced (events : List (Event Coordinator Move (Result Reply))) (c : Coordinator) : Prop :=
  ∀ kind id i, (kind, id, i) ∈ superseded events →
    c.state ≠ .closed ∧ ∃ m, c.roster kind id = some m ∧ m.incarnation ≠ i

theorem mem_supersedes {c : Coordinator} {m : Move} {kind : ParticipantKind} {id : UInt64}
    {i : IncarnationId} (h : supersedes (happen move c m) = some (kind, id, i)) :
    ∃ call record reply member, m = .call call ∧ c.registration call = some record ∧
      (c.perform call).1 = .ok reply ∧ record.kind = kind ∧ record.id = id ∧
      c.roster kind id = some member ∧ member.incarnation = i ∧ record.incarnation ≠ i := by
  unfold supersedes at h
  split at h
  · next call reply hinput houtput =>
      split at h
      · next record hrecord =>
          split at h
          · next member hmember =>
              split at h
              · next hne =>
                  obtain ⟨rfl, rfl, rfl⟩ : record.kind = kind ∧ record.id = id ∧
                      member.incarnation = i := by simpa using h
                  obtain rfl : m = .call call := hinput
                  exact ⟨call, record, reply, member, rfl, hrecord, houtput, rfl, rfl, hmember, rfl,
                    Ne.symm hne⟩
              · cases h
          · cases h
      · cases h
  · cases h

/-- A call never closes a shuffle. -/
theorem Transition.not_closed {c c' : Coordinator} {call : Call} {answer : Result Reply}
    (h : Transition c call answer c') (hc : c.state ≠ .closed) : c'.state ≠ .closed := by
  have hnoted : ∀ {d d' : Coordinator}, Noted d d' → d.state ≠ .closed → d'.state ≠ .closed := by
    intro d d' hn hd
    cases hn with
    | incomplete => exact hd
    | unstored => exact hd
    | completed =>
        rw [entered_eq]
        simp [completion, stateRecord]
  cases h with
  | refused => exact hc
  | unstored => exact hc
  | halfOpened request e hcheck =>
      obtain ⟨-, -, -, hstate⟩ := c.opening_frame
      show c.opening.state ≠ .closed
      rw [hstate]
      exact hc
  | opened request =>
      rw [entered_eq]
      simp [stateRecord]
  | cancelledBefore => exact hc
  | cancelled =>
      rw [entered_eq]
      simp [stateRecord]
  | ticked => exact hc
  | registered _ record t t' =>
      obtain ⟨producers, consumers, pending, heq⟩ := (c.persisted
        (DurableRecord.participant record).encode).joinedBy_eq t t' record
      rw [heq]
      exact hc
  | stateSet kind id incarnation state t t' =>
      obtain ⟨producers, consumers, pending, heq⟩ := (c.persisted (DurableRecord.participant
        (c.stateChange t kind id incarnation state)).encode).joinedBy_eq t t'
        (c.stateChange t kind id incarnation state)
      rw [heq]
      exact hc
  | published => exact hc
  | unretired => exact hc
  | nothingLeft => exact hc
  | unplanned => exact hc
  | planned t scheduler scheduler' plan =>
      obtain ⟨grants, bytes, heq, -⟩ :=
        exists_foldl_admitGrant plan.grants { c with scheduler := scheduler' }
      rw [heq]
      exact hc
  | committed request receipt ledger _ hcheck hsink hcommit hn => exact hnoted hn hc
  | failed attempt code record ledger _ hcheck hsink hfailure hn =>
      refine hnoted hn ?_
      show ((c.persisted (DurableRecord.failure record).encode).charged ledger
        record.readyAt).state ≠ .closed
      rw [charged, advanceClock_eq]
      exact hc
  | pressured intent =>
      unfold recordPressure
      simp only
      split <;> exact hc

/-- Only a closed coordinator recovers. -/
theorem recover_of_not_closed {c : Coordinator} (hin : c.inside = false) (h : c.state ≠ .closed)
    (snapshot : Bytes) (journal : List Bytes) (historyIncomplete : Bool) :
    ∃ e, c.move (.recover snapshot journal historyIncomplete) = (.error e, c) := by
  refine ⟨⟨.invalidState, "recovery requires a fresh coordinator"⟩, ?_⟩
  show (_ <$> recover snapshot journal historyIncomplete).exec c = _
  rw [exec_map, exec_recover hin, if_pos h]
  rfl

/-- What was superseded after one more move was so before, or the move superseded it. -/
theorem mem_superseded_snoc {events : List (Event Coordinator Move (Result Reply))}
    {e : Event Coordinator Move (Result Reply)} {x : ParticipantKind × UInt64 × IncarnationId}
    (hmem : x ∈ superseded (events ++ [e])) : x ∈ superseded events ∨ supersedes e = some x := by
  simp only [superseded, List.filterMap_append, List.mem_append] at hmem
  rcases hmem with hmem | hmem
  · exact .inl hmem
  · simp only [List.filterMap_cons, List.filterMap_nil] at hmem
    split at hmem
    · cases hmem
    · next hx => exact .inr (hx.trans (congrArg some (List.mem_singleton.mp hmem).symm))

section Snoc

variable {events : List (Event Coordinator Move (Result Reply))} {c : Coordinator} {call : Call}
  {kind : ParticipantKind} {id : UInt64} {i : IncarnationId}

/-- A registration that is let through carries another incarnation than the superseded one. -/
theorem NeverBack.incarnation_ne (hback : NeverBack events (happen move c (.call call)))
    (hmem : (kind, id, i) ∈ superseded events ∨
      supersedes (happen move c (.call call)) = some (kind, id, i))
    {record : ParticipantRecord} (hrecord : c.registration call = some record)
    (hadmits : c.admits record = true) (hkind : record.kind = kind) (hid : record.id = id) :
    record.incarnation ≠ i := by
  intro hsame
  subst hkind hid
  rcases hmem with hmem | hmem
  · refine hback (record.kind, record.id, record.incarnation) ?_ (hsame ▸ hmem)
    simp only [registering, happen, hrecord, Option.toList_some, List.filter_cons, hadmits,
      if_true, List.filter_nil, List.map_cons, List.map_nil, List.mem_singleton]
  · obtain ⟨call', record', reply, member, hcall, hrecord', -, -, -, -, -, hne⟩ :=
      mem_supersedes hmem
    obtain rfl : call = call' := by simpa using hcall
    rw [hrecord] at hrecord'
    obtain rfl := Option.some.inj hrecord'
    exact hne hsame

/-- Before the call the participant is there, under another incarnation than the superseded one
unless the call is the registration that supersedes it. -/
theorem Replaced.before (h : Replaced events c)
    (hstep : MemberStep c call (c.perform call).1 (c.perform call).2 kind id)
    (hmem : (kind, id, i) ∈ superseded events ∨
      supersedes (happen move c (.call call)) = some (kind, id, i)) :
    c.state ≠ .closed ∧ ∃ m, c.roster kind id = some m ∧
      (m.incarnation ≠ i ∨ ∃ record, c.registration call = some record ∧ record.kind = kind ∧
        record.id = id ∧ ∃ reply, (c.perform call).1 = .ok reply) := by
  rcases hmem with hmem | hmem
  · obtain ⟨hopen, m, hm, hne⟩ := h kind id i hmem
    exact ⟨hopen, m, hm, .inl hne⟩
  · obtain ⟨call', record, reply, member, hcall, hrecord, hreply, hkind, hid, hmember, -⟩ :=
      mem_supersedes hmem
    obtain rfl : call = call' := by simpa using hcall
    refine ⟨?_, member, hmember, .inr ⟨record, hrecord, hkind, hid, reply, hreply⟩⟩
    cases hstep with
    | same roster quiet =>
        obtain ⟨e, he⟩ := quiet record hrecord hkind hid
        rw [hreply] at he
        cases he
    | changed m state before idle after quiet =>
        rw [hrecord] at quiet
        cases quiet
    | registered record' _ _ _ _ _ hopen => rw [hopen]; simp

/-- What was superseded is still replaced after a call that brings nobody back. -/
theorem Replaced.perform (h : Replaced events c) (hc : c.Regular)
    (hback : NeverBack events (happen move c (.call call)))
    (hmem : (kind, id, i) ∈ superseded events ∨
      supersedes (happen move c (.call call)) = some (kind, id, i)) :
    (c.perform call).2.state ≠ .closed ∧
      ∃ m, (c.perform call).2.roster kind id = some m ∧ m.incarnation ≠ i := by
  have hstep := member_of_perform hc call kind id
  obtain ⟨hopen, m, hm, hnow⟩ := h.before hstep hmem
  refine ⟨(perform_transition hc.inside hc.consistent call).not_closed hopen, ?_⟩
  cases hstep with
  | same roster quiet =>
      refine ⟨m, roster.trans hm, hnow.resolve_right ?_⟩
      rintro ⟨record, hrecord, hkind, hid, reply, hreply⟩
      obtain ⟨e, he⟩ := quiet record hrecord hkind hid
      rw [hreply] at he
      cases he
  | changed m' state before idle after quiet =>
      refine ⟨_, after, ?_⟩
      obtain rfl : m = m' := Option.some.inj (hm.symm.trans before)
      refine hnow.resolve_right ?_
      rintro ⟨record, hrecord, -⟩
      rw [hrecord] at quiet
      cases quiet
  | registered record hrecord hkind hid reply hreply _ after =>
      refine ⟨_, after, ?_⟩
      have htransition := perform_transition hc.inside hc.consistent call
      rw [hreply] at htransition
      rw [registered_incarnation]
      exact hback.incarnation_ne hmem hrecord (htransition.admits hrecord) hkind hid

end Snoc

/-- What was superseded stays replaced through a move that brings nobody back. -/
theorem Replaced.snoc {events : List (Event Coordinator Move (Result Reply))} {c : Coordinator}
    (h : Replaced events c) (hc : c.Regular) (m : Move)
    (hback : NeverBack events (happen move c m)) :
    Replaced (events ++ [happen move c m]) (c.move m).2 := by
  intro kind id i hmem
  have hmem := mem_superseded_snoc hmem
  cases m with
  | call call => exact h.perform hc hback hmem
  | recover snapshot journal historyIncomplete =>
      have hold : (kind, id, i) ∈ superseded events := by
        rcases hmem with hmem | hmem
        · exact hmem
        · obtain ⟨call, record, reply, member, hcall, -⟩ := mem_supersedes hmem
          cases hcall
      obtain ⟨hopen, hmember⟩ := h kind id i hold
      obtain ⟨e, he⟩ := recover_of_not_closed hc.inside hopen snapshot journal historyIncomplete
      rw [he]
      exact ⟨hopen, hmember⟩

theorem replaced_of_run {limits : Limits} {sink : Option Sink}
    {events : List (Event Coordinator Move (Result Reply))} {c : Coordinator}
    (run : Run move (make limits sink) events c) (hback : Along NeverBack [] events) :
    Replaced events c := by
  induction run with
  | nil => intro kind id i h; cases h
  | @snoc events c run m ih =>
      obtain ⟨hbefore, hlast⟩ := (along_snoc events _).mp hback
      exact (ih hbefore).snoc (regular_of_run run) m hlast

/-- As long as no registration that is let through brings a replaced incarnation back, a
replaced incarnation never is the registered one again, and nothing done under it succeeds. -/
theorem superseded_stays_out {limits : Limits} {sink : Option Sink}
    {events : List (Event Coordinator Move (Result Reply))} {c : Coordinator}
    (run : Run move (make limits sink) events c) (hback : Along NeverBack [] events)
    {kind : ParticipantKind} {id : UInt64} {i : IncarnationId}
    (hsuperseded : (kind, id, i) ∈ superseded events) :
    (∀ m, c.roster kind id = some m → m.incarnation ≠ i) ∧
      ∀ call, Carries kind id i call → ∃ e, (c.move (.call call)).1 = .error e := by
  obtain ⟨-, m, hm, hne⟩ := replaced_of_run run hback kind id i hsuperseded
  refine ⟨fun m' hm' => ?_, fun call hcarries => ?_⟩
  · obtain rfl : m = m' := Option.some.inj (hm.symm.trans hm')
    exact hne
  · have hc := regular_of_run run
    have htransition := perform_transition hc.inside hc.consistent call
    show ∃ e, (c.perform call).1 = .error e
    cases hanswer : (c.perform call).1 with
    | error e => exact ⟨e, rfl⟩
    | ok reply =>
        rw [hanswer] at htransition
        obtain ⟨m', hm', hcurrent⟩ := htransition.acts hcarries
        obtain rfl : m = m' := Option.some.inj (hm.symm.trans hm')
        exact absurd hcurrent hne

/-- Producer 1 comes back under a second incarnation. -/
def smallReplacement : List Move :=
  [.call (.openShuffle (smallOpen 1)), .call (.registerProducer 1 1 []),
    .call (.registerProducer 1 2 [])]

/-- Under its first incarnation producer 1 can no longer report itself failed. -/
theorem superseded_stays_out_small :
    ((.producer, 1, 1) : ParticipantKind × UInt64 × IncarnationId) ∈
        superseded (record move (make {} (some acceptAll)) smallReplacement) ∧
      ∃ e, ((final move (make {} (some acceptAll)) smallReplacement).move
        (.call (.setParticipantState .producer 1 1 .failed))).1 = .error e := by
  have hmem : ((.producer, 1, 1) : ParticipantKind × UInt64 × IncarnationId) ∈
      superseded (record move (make {} (some acceptAll)) smallReplacement) := by
    decide +kernel
  have h := superseded_stays_out (Run.of_inputs move (make {} (some acceptAll)) smallReplacement)
    (by decide +kernel) hmem
  exact ⟨hmem, h.2 _ ⟨rfl, rfl, rfl⟩⟩

/-- The topology knows the current incarnation only: registering the first one again
replaces the second. -/
theorem superseded_returns :
    ¬∀ (limits : Limits) (sink : Option Sink)
      (events : List (Event Coordinator Move (Result Reply))) (c : Coordinator),
      Run move (make limits sink) events c → ∀ kind id i, (kind, id, i) ∈ superseded events →
      (∀ m, c.roster kind id = some m → m.incarnation ≠ i) ∧
        ∀ call, Carries kind id i call → ∃ e, (c.move (.call call)).1 = .error e := by
  intro h
  have hrun := h {} (some acceptAll) _ _
    (Run.of_inputs move _ (smallReplacement ++ [.call (.registerProducer 1 1 [])])) .producer 1 1
    (by decide +kernel)
  have hmember : (final move (make {} (some acceptAll)) (smallReplacement ++
      [.call (.registerProducer 1 1 [])])).roster .producer 1 = some ⟨1, .active, [], []⟩ := by
    decide +kernel
  exact hrun.1 _ hmember rfl

/-! ## The same incarnation again -/

/-- A registration that repeats the one it finds leaves the topology alone. -/
theorem registerFrom_of_repeats {t t' : Topology} {record : ParticipantRecord} {m : Member}
    (ht : t.Consistent) (hm : t.roster record.kind record.id = some m) (hrepeats : m.Repeats record)
    (h : registerFrom t record = .ok t') : t' = t := by
  obtain ⟨hincarnation, hendpoint, hkey⟩ := hrepeats
  unfold registerFrom at h
  split at h
  · next hkind =>
      rw [hkind] at hm
      obtain ⟨existing, hfind, rfl⟩ := Option.map_eq_some_iff.mp hm
      obtain ⟨-, ⟨-, -, -, -, rfl⟩ | ⟨hother, -⟩⟩ := Topology.registerProducer_cases h
      · rfl
      · exact absurd hincarnation (hother existing hfind)
  · next hkind =>
      rw [hkind] at hm
      obtain ⟨existing, hfind, rfl⟩ := Option.map_eq_some_iff.mp hm
      obtain ⟨-, pattern, t₁, hintern, hcases⟩ := Topology.registerConsumer_cases h
      have hmem := Topology.mem_of_findConsumer hfind
      have hpattern : existing.pattern = pattern := by
        refine (internPattern_of_repeated ht hmem hintern).mpr ?_
        simpa [ParticipantRecord.key, hkind] using hkey
      rcases hcases with ⟨-, -, -, -, -, rfl⟩ | ⟨hother, -⟩
      · rcases Topology.internPattern_cases hintern with ⟨-, rfl⟩ | ⟨-, -, hlength, -⟩
        · rfl
        · obtain ⟨-, -, -, hlt⟩ := ht.consumers existing hmem
          rw [Topology.selections, List.length_map] at hlt
          omega
      · exact absurd ⟨hincarnation, hpattern, hendpoint⟩ (hother existing hfind)

/-- A consumer whose registration under the incarnation it has is let through repeats its
endpoint and its selection. -/
def Restates (c : Coordinator) : Move → Prop
  | .call call =>
    ∀ record, c.registration call = some record → record.kind = .consumer →
      c.admits record = true → ∀ m, c.roster .consumer record.id = some m →
        m.incarnation = record.incarnation → m.endpoint = record.endpoint ∧ m.key = record.key
  | .recover _ _ _ => True

/-- A producer under the same incarnation has to repeat its endpoint. -/
theorem repeats_of_registered {c : Coordinator} {call : Call}
    (hrestates : c.Restates (.call call)) {record : ParticipantRecord} {m : Member} {t t' : Topology}
    (hregistration : c.registration call = some record) (hopen : c.ensureOpen = .ok t)
    (hanswer : c.storeAnswer (.participant record) = .ok ())
    (hm : c.roster record.kind record.id = some m) (hsame : m.incarnation = record.incarnation)
    (h : registerFrom t record = .ok t') : m.Repeats record := by
  cases hkind : record.kind with
  | consumer =>
      obtain ⟨hendpoint, hkey⟩ := hrestates record hregistration hkind
        (admits_of_ok hopen h hanswer) m (hkind ▸ hm) hsame
      exact ⟨hsame, hendpoint, hkey⟩
  | producer =>
      rw [roster_of_topology (ensureOpen_ok hopen).2, hkind] at hm
      obtain ⟨existing, hfind, rfl⟩ := Option.map_eq_some_iff.mp hm
      simp only [registerFrom, hkind] at h
      obtain ⟨-, ⟨other, hother, -, hendpoint, -⟩ | ⟨hother, -⟩⟩ := Topology.registerProducer_cases h
      · obtain rfl := Option.some.inj (hother.symm.trans hfind)
        exact ⟨hsame, hendpoint, by simp [ParticipantRecord.key, hkind]⟩
      · exact absurd hsame (hother existing hfind)

/-- If a consumer whose registration under the incarnation it has is let through repeats what
is registered, then an incarnation is immutable: registering it again is refused or changes
nothing, and a participant that lost its authority regains it under another incarnation only. -/
theorem incarnation_immutable {limits : Limits} {sink : Option Sink}
    {events : List (Event Coordinator Move (Result Reply))} {c : Coordinator}
    (run : Run move (make limits sink) events c) (mv : Move) (hrestates : c.Restates mv) :
    (∀ call record m, mv = .call call → c.registration call = some record →
      c.roster record.kind record.id = some m → m.incarnation = record.incarnation →
      (∃ e, (c.move mv).1 = .error e) ∨ (c.move mv).2.topology = c.topology) ∧
    ∀ kind id m m', c.roster kind id = some m → m.state ≠ .active →
      (c.move mv).2.roster kind id = some m' → m'.state = .active →
      ∃ call record, mv = .call call ∧ c.registration call = some record ∧ record.kind = kind ∧
        record.id = id ∧ record.incarnation ≠ m.incarnation := by
  have hc := regular_of_run run
  refine ⟨?_, ?_⟩
  · rintro call record m rfl hregistration hm hsame
    have htransition := perform_transition hc.inside hc.consistent call
    show (∃ e, (c.perform call).1 = .error e) ∨ (c.perform call).2.topology = c.topology
    generalize (c.perform call).1 = answer at htransition ⊢
    generalize (c.perform call).2 = c' at htransition ⊢
    cases htransition with
    | registered _ record' t t' hregistration' hopen hanswer hregister =>
        right
        obtain rfl := Option.some.inj (hregistration.symm.trans hregistration')
        have ht := (ensureOpen_ok hopen).2
        have hrepeats :=
          repeats_of_registered hrestates hregistration hopen hanswer hm hsame hregister
        rw [roster_of_topology ht] at hm
        rw [topology_joinedBy, registerFrom_of_repeats (hc.consistent t ht) hm hrepeats hregister, ht]
    | refused _ e => exact .inl ⟨e, rfl⟩
    | unstored _ r e => exact .inl ⟨e, rfl⟩
    | _ => cases hregistration
  · intro kind id m m' hm hidle hm' hactive
    have hstep := move_step hc mv
    generalize (c.move mv).1 = answer at hstep
    generalize (c.move mv).2 = c' at hstep hm'
    cases hstep with
    | unrecovered =>
        obtain rfl : m = m' := Option.some.inj (hm.symm.trans hm')
        exact absurd hactive hidle
    | recovered snapshot journal historyIncomplete _ hrun =>
        obtain ⟨-, r, hroster⟩ := hc.recover hrun
        rw [hroster] at hm'
        obtain ⟨n, -, rfl⟩ := Option.map_eq_some_iff.mp hm'
        unfold Member.demoted at hactive
        split at hactive
        · cases hactive
        · next hn => exact absurd hactive hn
    | called call _ _ htransition =>
        cases (htransition.regular hc).2.member kind id with
        | same roster =>
            rw [roster, hm] at hm'
            obtain rfl := Option.some.inj hm'
            exact absurd hactive hidle
        | changed n state before hstate after =>
            rw [after] at hm'
            obtain rfl := Option.some.inj hm'
            exact absurd hactive hstate
        | registered record hregistration hkind hid reply hanswer hopen after =>
            refine ⟨call, record, rfl, hregistration, hkind, hid, fun hsame => ?_⟩
            subst hkind
            subst hid
            subst hanswer
            cases htransition with
            | registered _ record' t t' hregistration' hopen hanswer hregister =>
                obtain rfl := Option.some.inj (hregistration.symm.trans hregistration')
                have hrepeats := repeats_of_registered hrestates hregistration hopen hanswer hm
                  hsame.symm hregister
                rw [hm, Roster.registered, if_pos hrepeats, hm'] at after
                obtain rfl := Option.some.inj after
                exact hidle hactive
            | _ => cases hregistration

/-- A consumer that was suspected repeats its registration. -/
def smallSuspected : List Move :=
  [.call (.openShuffle (smallOpen 1)), .call (.registerConsumer 2 1 [] {}),
    .call (.setParticipantState .consumer 2 1 .suspect)]

/-- The repeated registration leaves consumer 2 suspect. -/
theorem incarnation_immutable_small :
    (final move (make {} (some acceptAll)) smallSuspected).roster .consumer 2 =
        some ⟨1, .suspect, [], (({} : PartitionSelection).canonicalKey)⟩ ∧
      ((∃ e, ((final move (make {} (some acceptAll)) smallSuspected).move
          (.call (.registerConsumer 2 1 [] {}))).1 = .error e) ∨
        ((final move (make {} (some acceptAll)) smallSuspected).move
          (.call (.registerConsumer 2 1 [] {}))).2.topology =
          (final move (make {} (some acceptAll)) smallSuspected).topology) := by
  have hm : (final move (make {} (some acceptAll)) smallSuspected).roster .consumer 2 =
      some ⟨1, .suspect, [], (({} : PartitionSelection).canonicalKey)⟩ := by
    decide +kernel
  have hrestates : (final move (make {} (some acceptAll)) smallSuspected).Restates
      (.call (.registerConsumer 2 1 [] {})) := by
    rintro record hrecord - - m hm' -
    obtain rfl := Option.some.inj hrecord
    obtain rfl := Option.some.inj (hm.symm.trans hm')
    exact ⟨rfl, rfl⟩
  have h := incarnation_immutable
    (Run.of_inputs move (make {} (some acceptAll)) smallSuspected) _ hrestates
  exact ⟨hm, h.1 _ _ _ rfl rfl hm rfl⟩

/-- A consumer keeps its incarnation, names another endpoint and is active again. -/
theorem incarnation_rewritten :
    ¬∀ (limits : Limits) (sink : Option Sink)
      (events : List (Event Coordinator Move (Result Reply))) (c : Coordinator),
      Run move (make limits sink) events c → ∀ call record m, c.registration call = some record →
      c.roster record.kind record.id = some m → m.incarnation = record.incarnation →
      (∃ e, (c.move (.call call)).1 = .error e) ∨
        (c.move (.call call)).2.roster record.kind record.id = some m := by
  intro h
  have hm : (final move (make {} (some acceptAll)) smallSuspected).roster .consumer 2 =
      some ⟨1, .suspect, [], (({} : PartitionSelection).canonicalKey)⟩ := by
    decide +kernel
  have hafter : ((final move (make {} (some acceptAll)) smallSuspected).move
      (.call (.registerConsumer 2 1 [7] {}))).2.roster .consumer 2 =
        some ⟨1, .active, [7], (({} : PartitionSelection).canonicalKey)⟩ := by
    decide +kernel
  have hanswer : ¬∃ e, ((final move (make {} (some acceptAll)) smallSuspected).move
      (.call (.registerConsumer 2 1 [7] {}))).1 = .error e := by
    rintro ⟨e, he⟩
    have hok : ((final move (make {} (some acceptAll)) smallSuspected).move
        (.call (.registerConsumer 2 1 [7] {}))).1.isOk := by
      decide +kernel
    rw [he] at hok
    cases hok
  rcases h {} (some acceptAll) _ _ (Run.of_inputs move _ smallSuspected)
    (.registerConsumer 2 1 [7] {}) _ _ rfl hm rfl with herror | hroster
  · exact hanswer herror
  · cases hafter.symm.trans hroster

end Coordinator

end ShuffleFabric
