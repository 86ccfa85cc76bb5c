import ShuffleFabric.Replay
import ShuffleFabric.Granted

/-!
# ShuffleFabric.Cancellation

A cancelled shuffle stays cancelled.

The lifecycle of a coordinator is what the last lifecycle record says, live (`Followed`) and
replayed (`applyAll_phase`), so a recovery finds the cancellation; and in a cancelled
coordinator nothing but the clock moves.
-/

namespace ShuffleFabric

open Lib Action

/-- Every record begins with its kind. -/
theorem DurableRecord.encode_tag (r : DurableRecord) : ∃ rest, r.encode = putU16 r.tag ++ rest := by
  cases r with
  | epochAdvanced record =>
      exact ⟨_, by rw [DurableRecord.encode, EpochRecord.encode, List.append_assoc]; rfl⟩
  | shuffleState record =>
      exact ⟨_, by simp only [DurableRecord.encode, ShuffleStateRecord.encode, List.append_assoc]; rfl⟩
  | participant record =>
      exact ⟨_, by simp only [DurableRecord.encode, ParticipantRecord.encode, List.append_assoc]; rfl⟩
  | manifest record => exact ⟨_, rfl⟩
  | commit record =>
      exact ⟨_, by simp only [DurableRecord.encode, CommitRecord.encode, List.append_assoc]; rfl⟩
  | failure record =>
      exact ⟨_, by
        simp only [DurableRecord.encode, FailureRecordDurable.encode, List.append_assoc]; rfl⟩

namespace Coordinator

/-! ## The lifecycle and its records -/

/-- Where a shuffle is in its life, and why. -/
def phase (c : Coordinator) : ShuffleState × ErrorCode := (c.state, c.reason)

/-- The lifecycle behind a record. -/
def phaseAfter (phase : ShuffleState × ErrorCode) : DurableRecord → ShuffleState × ErrorCode
  | .shuffleState record => (record.state, record.reason)
  | _ => phase

/-- The lifecycle behind the bytes of a record. -/
def follow (limits : Limits) (phase : ShuffleState × ErrorCode) (record : Bytes) :
    ShuffleState × ErrorCode :=
  match decodeRecord limits record with
  | .ok record => phaseAfter phase record
  | .error _ => phase

/-- Only a lifecycle record moves the lifecycle. -/
theorem follow_of_tag {limits : Limits} {r : DurableRecord} (h : r.tag ≠ 2)
    (p : ShuffleState × ErrorCode) : follow limits p r.encode = p := by
  unfold follow
  split
  · next record hd =>
      obtain ⟨rest, hrest⟩ := r.encode_tag
      rw [hrest] at hd
      have htag := tag_of_decodeRecord hd
      cases record with
      | shuffleState record => exact absurd htag.symm h
      | _ => rfl
  · rfl

/-- What a record that is replayed does to the lifecycle. -/
theorem Applied.phase {c c' : Coordinator} {record : DurableRecord} (h : Applied c record c') :
    c'.phase = phaseAfter c.phase record := by
  cases h with
  | epoch record =>
      rw [epochAdvanced_eq]
      rfl
  | state record =>
      rw [entered_eq]
      rfl
  | participant record t t' =>
      obtain ⟨producers, consumers, pending, heq⟩ := c.joinedBy_eq t t' record
      rw [heq]
      rfl
  | manifest => rfl
  | commit =>
      rw [advanceClock_eq]
      rfl
  | failure =>
      rw [charged, advanceClock_eq]
      rfl

/-- A replay leaves the lifecycle where its records lead. -/
theorem applyAll_phase {records : List Bytes} {c c' : Coordinator}
    (h : (applyAll records).exec c = (.ok (), c')) :
    c'.phase = records.foldl (follow c.limits) c.phase := by
  induction records generalizing c with
  | nil =>
      obtain rfl : c = c' := congrArg Prod.snd h
      rfl
  | cons record records ih =>
      obtain ⟨u, d, hfirst, hrest⟩ := exec_bind_ok h
      rw [exec_applyRecord] at hfirst
      cases hd : decodeRecord c.limits record with
      | error e => simp [hd] at hfirst
      | ok decoded =>
          rw [hd] at hfirst
          have happlied := applied_of_exec hfirst
          have hphase : d.phase = follow c.limits c.phase record := by
            rw [happlied.phase, follow, hd]
          rw [ih hrest, happlied.limits, hphase, List.foldl_cons]

/-- The lifecycle moved as the records say that were accepted on the way. -/
def Followed (c c' : Coordinator) : Prop :=
  Extends c c' ∧ ∀ new, c'.journal = c.journal ++ new →
    c'.phase = new.foldl (follow c.limits) c.phase

/-- Nothing was written, and the lifecycle did not move. -/
theorem Followed.of_same {c c' : Coordinator} (hsink : c'.sink = c.sink)
    (hlimits : c'.limits = c.limits) (hphase : c'.phase = c.phase) : Followed c c' := by
  refine ⟨.of_sink hsink hlimits, fun new hnew => ?_⟩
  have hjournal : c'.journal = c.journal := by rw [Coordinator.journal, Coordinator.journal, hsink]
  rw [hjournal] at hnew
  rw [List.self_eq_append_right.mp hnew]
  exact hphase

/-- The records of two stretches lead where the stretches lead one after the other. -/
theorem Followed.trans {c c' c'' : Coordinator} (h : Followed c c') (h' : Followed c' c'') :
    Followed c c'' := by
  refine ⟨h.1.trans h'.1, fun new hnew => ?_⟩
  obtain ⟨first, hfirst⟩ := h.1.journal
  obtain ⟨second, hsecond⟩ := h'.1.journal
  have hboth : new = first ++ second := by
    rw [← hsecond, ← hfirst, List.append_assoc] at hnew
    exact (List.append_cancel_left hnew).symm
  rw [hboth, List.foldl_append, ← h.2 first hfirst.symm, h'.2 second hsecond.symm, h.1.limits]

/-- A record that says nothing about the lifecycle, or cannot be read. -/
theorem followed_persisted {c : Coordinator} {record : Bytes}
    (h : c.sinkAnswer record = .ok () → follow c.limits c.phase record = c.phase) :
    Followed c (c.persisted record) := by
  refine ⟨extends_persisted c record, fun new hnew => ?_⟩
  rw [journal_persisted] at hnew
  split at hnew
  · next haccepted =>
      rw [← List.append_cancel_left hnew, List.foldl_cons, List.foldl_nil, h haccepted.2]
      rfl
  · rw [List.self_eq_append_right.mp hnew]
    rfl

/-- A record of another kind was written, and the lifecycle did not move. -/
theorem followed_of_tag {c : Coordinator} {r : DurableRecord} (h : r.tag ≠ 2) :
    Followed c (c.persisted r.encode) := followed_persisted fun _ => follow_of_tag h _

/-- A record that is refused moves nothing. -/
theorem followed_unstored {c : Coordinator} {r : DurableRecord} {e : Error}
    (h : c.storeAnswer r = .error e) : Followed c (c.persisted r.encode) := by
  refine followed_persisted fun hsink => ?_
  obtain ⟨e', he'⟩ := unreadable_of_unstored h hsink
  rw [follow, he']

/-- A lifecycle record that was stored and entered. -/
theorem followed_entered {c : Coordinator} {record : ShuffleStateRecord} (hsink : c.sink.isSome)
    (h : c.storeAnswer (.shuffleState record) = .ok ()) :
    Followed c ((c.persisted (DurableRecord.shuffleState record).encode).entered record) := by
  refine ⟨(extends_persisted c _).trans (extends_entered _ _), fun new hnew => ?_⟩
  simp only [storeAnswer, bind_eq_ok] at h
  obtain ⟨u, haccepted, d, hdecode, -⟩ := h
  obtain ⟨-, rfl⟩ := eq_of_decodeRecord (r := .shuffleState record) trivial hdecode
  have hjournal : ((c.persisted (DurableRecord.shuffleState record).encode).entered
      record).journal = c.journal ++ [(DurableRecord.shuffleState record).encode] := by
    have hpersisted := journal_persisted c (DurableRecord.shuffleState record).encode
    rw [if_pos ⟨hsink, haccepted⟩] at hpersisted
    rw [← hpersisted, entered_eq]
    rfl
  rw [hjournal] at hnew
  rw [← List.append_cancel_left hnew, List.foldl_cons, List.foldl_nil, follow, hdecode, entered_eq]
  rfl

/-- The completion of a shuffle is written down. -/
theorem Noted.followed {c c' : Coordinator} (h : Noted c c') (hsink : c.sink.isSome) :
    Followed c c' := by
  cases h with
  | incomplete => exact .of_same rfl rfl rfl
  | unstored e t required _ _ _ hanswer => exact followed_unstored hanswer
  | completed t required _ _ _ hanswer => exact followed_entered hsink hanswer

/-- A call moves the lifecycle as its records say. -/
theorem Transition.followed {c c' : Coordinator} {call : Call} {answer : Result Reply}
    (h : Transition c call answer c') (hsink : c.sink.isSome) : Followed c c' := by
  have hopening : Followed c c.opening := by
    refine (followed_of_tag (r := .epochAdvanced c.nextEpoch) (by simp [DurableRecord.tag])).trans ?_
    rw [opening, epochAdvanced_eq]
    exact .of_same rfl rfl rfl
  have hsink' : c.opening.sink.isSome := by
    rw [hopening.1.sink]
    exact hsink
  cases h with
  | refused => exact .of_same rfl rfl rfl
  | unstored _ r e _ hanswer => exact followed_unstored hanswer
  | halfOpened request e _ _ hanswer => exact hopening.trans (followed_unstored hanswer)
  | opened request _ _ hanswer => exact hopening.trans (followed_entered hsink' hanswer)
  | cancelledBefore => exact .of_same rfl rfl rfl
  | cancelled reason _ _ hanswer => exact followed_entered hsink hanswer
  | ticked => exact .of_same rfl rfl rfl
  | registered _ record t t' =>
      obtain ⟨producers, consumers, pending, heq⟩ := (c.persisted
        (DurableRecord.participant record).encode).joinedBy_eq t t' record
      rw [heq]
      exact (followed_of_tag (r := .participant record) (by simp [DurableRecord.tag])).trans
        (.of_same rfl rfl rfl)
  | stateSet kind id incarnation state t t' =>
      obtain ⟨producers, consumers, pending, heq⟩ := (c.persisted (DurableRecord.participant
        (c.stateChange t kind id incarnation state)).encode).joinedBy_eq t t'
        (c.stateChange t kind id incarnation state)
      rw [heq]
      exact (followed_of_tag (r := .participant (c.stateChange t kind id incarnation state))
        (by simp [DurableRecord.tag])).trans (.of_same rfl rfl rfl)
  | published manifest accepted ledger =>
      exact (followed_of_tag (r := .manifest ⟨accepted⟩) (by simp [DurableRecord.tag])).trans
        (.of_same rfl rfl rfl)
  | unretired manifest accepted e =>
      exact (followed_of_tag (r := .manifest ⟨accepted⟩) (by simp [DurableRecord.tag])).trans
        (.of_same rfl rfl rfl)
  | nothingLeft => exact .of_same rfl rfl rfl
  | unplanned => exact .of_same rfl rfl rfl
  | planned t scheduler scheduler' plan =>
      obtain ⟨grants, bytes, heq, -⟩ :=
        exists_foldl_admitGrant plan.grants { c with scheduler := scheduler' }
      rw [heq]
      exact .of_same rfl rfl rfl
  | committed request receipt ledger _ _ _ _ hnoted =>
      have hcredited : Followed c (((c.persisted (DurableRecord.commit
          ⟨request, c.clock⟩).encode).credited ledger).resolveAttempt request.attempt) :=
        (followed_of_tag (r := .commit ⟨request, c.clock⟩) (by simp [DurableRecord.tag])).trans
          (.of_same rfl rfl rfl)
      refine hcredited.trans (hnoted.followed ?_)
      rw [hcredited.1.sink]
      exact hsink
  | failed attempt code record ledger _ _ _ _ hnoted =>
      have hcharged : Followed c (((c.persisted (DurableRecord.failure record).encode).charged
          ledger record.readyAt).resolveAttempt attempt) := by
        refine (followed_of_tag (r := .failure record) (by simp [DurableRecord.tag])).trans ?_
        rw [charged, advanceClock_eq]
        exact .of_same rfl rfl rfl
      refine hcharged.trans (hnoted.followed ?_)
      rw [hcharged.1.sink]
      exact hsink
  | pressured intent =>
      unfold recordPressure
      simp only
      split <;> exact .of_same rfl rfl rfl

/-- The replayed lifecycle is the live one. -/
theorem mirrors_phase : Mirrors fun replayed c => replayed.phase = c.phase where
  start _ _ _ := rfl
  twin := by
    rintro replayed _ c ⟨n, incomplete, rfl⟩ h
    exact h
  sink _ h := h
  call := by
    intro replayed replayed' c c' call answer new _ _ hlimits hsink htransition hjournal hrun h
    rw [applyAll_phase hrun, hlimits, h]
    exact ((htransition.followed hsink).2 new hjournal).symm
  recovered := by
    intro replayed scratch c hregular hdemote
    obtain ⟨topology, producers, consumers, pending, rfl⟩ := demote_frame hregular hdemote
    rw [epochAdvanced_eq, opening, epochAdvanced_eq]
    rfl

/-! ## Nothing moves -/

/-- The calls that grant, use or change authority. -/
def Authoritative : Call → Prop
  | .openShuffle _ | .cancelShuffle _ | .advanceTick => False
  | _ => True

/-- In a cancelled coordinator only the clock, and the sink, move. -/
theorem Transition.of_cancelled {c c' : Coordinator} {call : Call} {answer : Result Reply}
    (h : Transition c call answer c') (hcancelled : c.state = .cancelled) :
    (∃ sink clock n, c' = { c with sink, clock, persistedRecords := n }) ∧
      (Authoritative call → ∃ e, answer = .error e) := by
  have hclosed : ∀ request, c.checkOpen request ≠ .ok () := by
    intro request h
    simp only [checkOpen, bind_eq_ok, refuseIf_eq_ok, not_not, exists_const] at h
    rw [hcancelled] at h
    cases h.1
  have hopen : ∀ t, c.ensureOpen ≠ .ok t := by
    intro t h
    have hstate := (ensureOpen_ok h).1
    rw [hcancelled] at hstate
    cases hstate
  cases h with
  | refused _ e => exact ⟨⟨_, _, _, rfl⟩, fun _ => ⟨e, rfl⟩⟩
  | unstored _ r e => exact ⟨⟨_, _, _, rfl⟩, fun _ => ⟨e, rfl⟩⟩
  | halfOpened request e hcheck => exact absurd hcheck (hclosed request)
  | opened request hcheck => exact absurd hcheck (hclosed request)
  | cancelledBefore => exact ⟨⟨_, _, _, rfl⟩, fun h => h.elim⟩
  | cancelled reason hstate =>
      rw [hcancelled] at hstate
      cases hstate
  | ticked => exact ⟨⟨_, _, _, rfl⟩, fun h => h.elim⟩
  | registered _ record t t' _ h => exact absurd h (hopen t)
  | stateSet kind id incarnation state t t' h => exact absurd h (hopen t)
  | published manifest accepted ledger hcheck =>
      obtain ⟨t, h, -⟩ := checkPublish_ok hcheck
      exact absurd h (hopen t)
  | unretired manifest accepted e hcheck =>
      obtain ⟨t, h, -⟩ := checkPublish_ok hcheck
      exact absurd h (hopen t)
  | nothingLeft hstate =>
      rw [hcancelled] at hstate
      cases hstate
  | unplanned t scheduler e h => exact absurd h (hopen t)
  | planned t scheduler scheduler' plan h => exact absurd h (hopen t)
  | committed request receipt ledger _ hcheck =>
      obtain ⟨grant, t, manifest, -, h, -⟩ := checkCommit_ok hcheck
      exact absurd h (hopen t)
  | failed attempt code record ledger _ hcheck =>
      obtain ⟨grant, t, -, h, -⟩ := checkFailure_ok hcheck
      exact absurd h (hopen t)
  | pressured intent hcheck =>
      simp only [checkCongestion, bind_eq_ok] at hcheck
      obtain ⟨t, h, -⟩ := hcheck
      exact absurd h (hopen t)

/-- A coordinator that is cancelled has nothing in flight. -/
def Released (c : Coordinator) : Prop :=
  c.state = .cancelled → c.grants = {} ∧ c.scheduler.Grounded

/-- Of a cancelled coordinator only the sink and the clock move. -/
theorem MoveStep.of_cancelled {c c' : Coordinator} {m : Move} {answer : Result Reply}
    (h : MoveStep c m answer c') (hregular : c.Regular) (hcancelled : c.state = .cancelled) :
    ∃ sink clock n, c' = { c with sink, clock, persistedRecords := n } := by
  cases h with
  | called call _ _ htransition => exact (htransition.of_cancelled hcancelled).1
  | unrecovered => exact ⟨_, _, _, rfl⟩
  | recovered snapshot journal historyIncomplete _ hrun =>
      obtain ⟨-, hclosed, -⟩ := recover_ok hregular.inside hrun
      rw [hcancelled] at hclosed
      cases hclosed

/-- A completion is all that may follow a commit or a failure. -/
theorem Noted.state {c c' : Coordinator} (h : Noted c c') :
    c'.state = c.state ∨ c'.state = .completed := by
  cases h with
  | incomplete => exact .inl rfl
  | unstored => exact .inl rfl
  | completed =>
      right
      rw [entered_eq]
      rfl

/-- No call gives a cancelled coordinator an attempt. -/
theorem Transition.released {c c' : Coordinator} {call : Call} {answer : Result Reply}
    (h : Transition c call answer c') (hc : c.Released) : c'.Released := by
  intro hcancelled
  by_cases hbefore : c.state = .cancelled
  · obtain ⟨⟨sink, clock, n, rfl⟩, -⟩ := h.of_cancelled hbefore
    exact hc hbefore
  · have hnoted : ∀ {d d' : Coordinator}, Noted d d' → d.state = c.state → d'.state = .cancelled →
        False := by
      intro d d' hnoted hsame hstate
      rcases hnoted.state with hd | hd
      · exact hbefore (hsame.symm.trans (hd.symm.trans hstate))
      · rw [hd] at hstate
        cases hstate
    cases h with
    | cancelled reason =>
        rw [entered_eq]
        have hended : (stateRecord c.request .cancelled reason c.clock).state = .cancelled ∨
            (stateRecord c.request .cancelled reason c.clock).state = .cancelling := .inl rfl
        simp only [if_pos hended]
        exact ⟨trivial, WaveScheduler.grounded_abandonAll _⟩
    | halfOpened request =>
        rw [opening, epochAdvanced_eq] at hcancelled
        exact absurd hcancelled hbefore
    | opened request =>
        rw [entered_eq] at hcancelled
        cases hcancelled
    | registered _ record t t' =>
        obtain ⟨producers, consumers, pending, heq⟩ := (c.persisted
          (DurableRecord.participant record).encode).joinedBy_eq t t' record
        rw [heq] at hcancelled
        exact absurd hcancelled hbefore
    | stateSet kind id incarnation state t t' =>
        obtain ⟨producers, consumers, pending, heq⟩ := (c.persisted (DurableRecord.participant
          (c.stateChange t kind id incarnation state)).encode).joinedBy_eq t t'
          (c.stateChange t kind id incarnation state)
        rw [heq] at hcancelled
        exact absurd hcancelled hbefore
    | planned t scheduler scheduler' plan =>
        obtain ⟨grants, bytes, heq, -⟩ :=
          exists_foldl_admitGrant plan.grants { c with scheduler := scheduler' }
        rw [heq] at hcancelled
        exact absurd hcancelled hbefore
    | committed request receipt ledger _ _ _ _ h => exact (hnoted h rfl hcancelled).elim
    | failed attempt code record ledger _ _ _ _ h =>
        refine (hnoted h ?_ hcancelled).elim
        rw [charged, advanceClock_eq]
        rfl
    | pressured intent =>
        have hstate : (c.recordPressure intent).state = c.state := by
          unfold recordPressure
          simp only
          split <;> rfl
        rw [hstate] at hcancelled
        exact absurd hcancelled hbefore
    | _ => exact absurd hcancelled hbefore

/-- In every run a cancelled coordinator has no attempts. -/
theorem released_of_run {limits : Limits} {sink : Option Sink}
    {events : List (Event Coordinator Move (Result Reply))} {c : Coordinator}
    (run : Run move (make limits sink) events c) : c.Released := by
  induction run with
  | nil => exact fun h => (by cases h)
  | @snoc events c run m ih =>
      have hregular := regular_of_run run
      have hstep := move_step hregular m
      generalize (c.move m).1 = answer at hstep
      generalize (c.move m).2 = c' at hstep
      cases hstep with
      | called call _ _ htransition => exact htransition.released ih
      | unrecovered => exact ih
      | recovered snapshot journal historyIncomplete _ hrun =>
          obtain ⟨hgrounded, -, hgrants⟩ := recover_scheduler hregular hrun
          exact fun _ => ⟨hgrants, hgrounded⟩

/-- What no continuation of a cancelled run changes. -/
theorem final_of_cancelled {c : Coordinator} (hregular : c.Regular)
    (hcancelled : c.state = .cancelled) (later : List Move) :
    (final move c later).Regular ∧ ∃ sink clock n,
      final move c later = { c with sink, clock, persistedRecords := n } := by
  induction later generalizing c with
  | nil => exact ⟨hregular, c.sink, c.clock, c.persistedRecords, rfl⟩
  | cons m later ih =>
      obtain ⟨sink, clock, n, heq⟩ := (move_step hregular m).of_cancelled hregular hcancelled
      have hstate : (c.move m).2.state = .cancelled := by
        rw [heq]
        exact hcancelled
      obtain ⟨hlater, sink', clock', n', heq'⟩ := ih (hregular.move m) hstate
      refine ⟨hlater, sink', clock', n', ?_⟩
      show final move (c.move m).2 later = _
      rw [heq', heq]

/-- A cancelled coordinator, and how it answers. -/
structure Final (reason : ErrorCode) (c : Coordinator) : Prop where
  state : c.state = .cancelled
  reason : c.reason = reason
  grants : c.grants = {}
  grounded : c.scheduler.Grounded
  refuses : ∀ call, Authoritative call → ∃ e, (c.move (.call call)).1 = .error e

/-- What it means for a cancelled coordinator to have no attempts. -/
theorem final_of_released {c : Coordinator} (hregular : c.Regular) (hreleased : c.Released)
    (hcancelled : c.state = .cancelled) : Final c.reason c := by
  refine ⟨hcancelled, rfl, (hreleased hcancelled).1, (hreleased hcancelled).2, fun call hcall => ?_⟩
  exact ((perform_transition hregular.inside hregular.consistent call).of_cancelled hcancelled).2
    hcall

/-- Cancellation is final: whatever follows, the coordinator stays cancelled for the same
reason, grants nothing, has nothing in flight, refuses every use of authority and keeps its
ledger, topology and manifests; and where there is a sink, a fresh coordinator that recovers
from what the run left behind is cancelled for that reason and grants nothing. -/
theorem cancellation_final {limits : Limits} {sink : Option Sink}
    {events : List (Event Coordinator Move (Result Reply))} {c : Coordinator}
    (run : Run move (make limits sink) events c) (hcancelled : c.state = .cancelled)
    (later : List Move) :
    (Final c.reason (final move c later) ∧ (final move c later).ledger = c.ledger ∧
      (final move c later).topology = c.topology ∧
      (final move c later).manifests = c.manifests) ∧
    ∀ kept, sink = some kept →
    ∀ (sink' : Option Sink) (historyIncomplete : Bool) (recovered : Coordinator),
      (recover (chronicle (events ++ record move c later)).1
        (chronicle (events ++ record move c later)).2 historyIncomplete).exec
          (make limits sink') = (.ok (), recovered) → Final c.reason recovered := by
  have hregular := regular_of_run run
  obtain ⟨hlater, sink₁, clock, n, heq⟩ := final_of_cancelled hregular hcancelled later
  have hstate : (final move c later).state = .cancelled := by
    rw [heq]
    exact hcancelled
  have hreason : (final move c later).reason = c.reason := by rw [heq]
  have hfinal := final_of_released hlater (released_of_run (run.append later)) hstate
  rw [hreason] at hfinal
  refine ⟨⟨hfinal, by rw [heq], by rw [heq], by rw [heq]⟩, ?_⟩
  rintro kept rfl sink' historyIncomplete recovered hrun
  obtain ⟨scratch, -, hrebuild, -, hadopted⟩ := recover_ok (regular_make limits sink').inside hrun
  obtain ⟨replayed, hreplay, hdemote⟩ := rebuild_eq_ok.mp hrebuild
  have hphase : replayed.phase = (final move c later).phase :=
    (mirror_of_run mirrors_phase (run.append later)).2 historyIncomplete replayed hreplay
  have hrecovered : recovered.phase = replayed.phase := by
    obtain ⟨topology, producers, consumers, pending, rfl⟩ :=
      demote_frame (replay_regular hreplay).1 hdemote
    rw [hadopted, opening, epochAdvanced_eq]
    rfl
  have hstate' : recovered.state = .cancelled :=
    (congrArg Prod.fst (hrecovered.trans hphase)).trans hstate
  have hreason' : recovered.reason = c.reason :=
    (congrArg Prod.snd (hrecovered.trans hphase)).trans hreason
  obtain ⟨hgrounded, -, hgrants⟩ := recover_scheduler (regular_make limits sink') hrun
  have hfinal' := final_of_released ((regular_make limits sink').recover hrun).1
    (fun _ => ⟨hgrants, hgrounded⟩) hstate'
  rw [hreason'] at hfinal'
  exact hfinal'

/-- The small shuffle, cancelled while its attempt is in flight. -/
def smallCancelled : List Move :=
  smallCalls.map .call ++ [.call (.cancelShuffle .cancelled)]

/-- The attempt of the small shuffle ends with it, and a recovery finds it cancelled. -/
theorem cancellation_final_small :
    Final .cancelled (final move (make {} (some acceptAll)) (smallCancelled ++ [.call .nextWave])) ∧
      Final .cancelled ((recover
        (chronicle (record move (make {} (some acceptAll)) smallCancelled)).1
        (chronicle (record move (make {} (some acceptAll)) smallCancelled)).2 false).exec
          (make {} none)).2 := by
  have run := Run.of_inputs move (make {} (some acceptAll)) smallCancelled
  obtain ⟨hcancelled, hreason, hrecover⟩ :
      (final move (make {} (some acceptAll)) smallCancelled).state = .cancelled ∧
      (final move (make {} (some acceptAll)) smallCancelled).reason = .cancelled ∧
      ((recover
        (chronicle (record move (make {} (some acceptAll)) smallCancelled)).1
        (chronicle (record move (make {} (some acceptAll)) smallCancelled)).2 false).exec
          (make {} none)).1 = .ok () := by
    decide +kernel
  have hwave := (cancellation_final run hcancelled [.call .nextWave]).1.1
  have hreplay := (cancellation_final run hcancelled []).2 _ rfl none false _ (Prod.ext hrecover rfl)
  rw [hreason] at hwave hreplay
  exact ⟨hwave, by simpa [record] using hreplay⟩

end Coordinator

end ShuffleFabric
