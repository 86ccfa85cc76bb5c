import ShuffleFabric.DurableStore.Crash

/-!
# ShuffleFabric.DurableStore.Compaction

Compaction is crash atomic.

The runs here have no failing operation: the process only stops, anywhere, and the
directory is opened again.  `view` says what the caller of the store has been told is
in it.  The one thing that can go wrong is a journal that `append` let grow past the
size `open` is ready to read.
-/

namespace ShuffleFabric

open Lib Action

namespace Host

/-! ## What the caller knows -/

/-- The installed snapshot and the records not folded into it: what the last `open`
recovered, and what was acknowledged since. -/
def View.after (view : View) (e : StoreEvent) : View :=
  match e.input.call, e.output with
  | .openStore, .ok _ => ⟨e.before.adopted, e.after.store.records⟩
  | .append payload, .ok _ => { view with records := view.records ++ [payload] }
  | .compact state uptoSequence, .ok _ => ⟨some ⟨uptoSequence, state.bytes⟩, []⟩
  | _, _ => view

/-- The view after all these calls. -/
def view (events : List StoreEvent) : View := events.foldl View.after ⟨none, []⟩

theorem view_snoc (events : List StoreEvent) (e : StoreEvent) :
    view (events ++ [e]) = (view events).after e := by
  simp [view]

/-! ## Without failures -/

/-- Without failures the store object always agrees with its directory. -/
structure Agrees (limits : Limits) (events : List StoreEvent) (h : Host)
    (base : Option SnapshotImage) (entries extra : List JournalEntry) (torn : Bytes) : Prop where
  sound : Sound limits h base entries extra torn
  intact : h.store.opened = true → h.store.journalDegraded = false
  aligned : h.store.opened = true → Aligned h
  view_eq : h.store.opened = true → view events = ⟨base, replayed (sequenceOf base) entries⟩

/-- A closed store shows nothing. -/
theorem agrees_closed {limits : Limits} {events : List StoreEvent} {h : Host}
    {base : Option SnapshotImage} {entries extra : List JournalEntry} {torn : Bytes}
    (sound : Sound limits h base entries extra torn) (hclosed : h.store.opened = false) :
    Agrees limits events h base entries extra torn :=
  ⟨sound, fun hopen => absurd (hopen.symm.trans hclosed) (by decide),
    fun hopen => absurd (hopen.symm.trans hclosed) (by decide),
    fun hopen => absurd (hopen.symm.trans hclosed) (by decide)⟩

/-- What `open` recovers is what the view has. -/
theorem agrees_openStore {limits : Limits} {events : List StoreEvent} {h : Host}
    {base : Option SnapshotImage} {entries extra : List JournalEntry} {torn : Bytes}
    (ha : Agrees limits events h base entries extra torn) (answers : List Answer) :
    ∃ base entries extra torn, Agrees limits (events ++ [happen step h ⟨.openStore, answers⟩])
      (h.step ⟨.openStore, answers⟩).2 base entries extra torn := by
  have hopen := step_openStore ha.sound answers
  have hevent : (view (events ++ [happen step h ⟨.openStore, answers⟩])) =
      (view events).after ⟨h, ⟨.openStore, answers⟩, (h.step ⟨.openStore, answers⟩).1,
        (h.step ⟨.openStore, answers⟩).2⟩ := view_snoc _ _
  rcases hstep : h.step ⟨.openStore, answers⟩ with ⟨r, h'⟩
  rw [hstep] at hopen hevent
  cases hopen with
  | opened reopened =>
      refine ⟨base, entries ++ extra, [], [], reopened.sound, fun _ => reopened.intact,
        fun _ => reopened.aligned, fun _ => ?_⟩
      rw [hevent, ← reopened.records, ← ha.sound.adopted_eq]
      rfl
  | closed halt blamed torn sound closed =>
      exact ⟨base, entries, extra, torn, agrees_closed sound closed⟩

/-- Without failures an append is in the view and in the journal. -/
theorem agrees_append {limits : Limits} {events : List StoreEvent} {h : Host}
    {base : Option SnapshotImage} {entries extra : List JournalEntry} {torn : Bytes}
    (ha : Agrees limits events h base entries extra torn) {payload : Bytes} {answers : List Answer}
    (hfaultless : Faultless answers) (hroom : Appending Room h ⟨.append payload, answers⟩) :
    ∃ base entries extra torn, Agrees limits (events ++ [happen step h ⟨.append payload, answers⟩])
      (h.step ⟨.append payload, answers⟩).2 base entries extra torn := by
  have happend : AppendOutcome limits answers h base entries payload
      (h.step ⟨.append payload, answers⟩).1 (h.step ⟨.append payload, answers⟩).2 :=
    step_append ha.sound (fun _ hcheck =>
      ⟨ha.aligned (checkAppend_ok hcheck).1, hroom (isOk_of_eq hcheck)⟩) answers
  have hevent : (view (events ++ [happen step h ⟨.append payload, answers⟩])) =
      (view events).after ⟨h, ⟨.append payload, answers⟩, (h.step ⟨.append payload, answers⟩).1,
        (h.step ⟨.append payload, answers⟩).2⟩ := view_snoc _ _
  have hstopped := step_stopped (h := h) (i := ⟨.append payload, answers⟩)
  have hopened {reply : StoreReply} (hok : (h.step ⟨.append payload, answers⟩).1 = .ok reply) :=
    opened_of_append hok
  rcases hstep : h.step ⟨.append payload, answers⟩ with ⟨r, h'⟩
  rw [hstep] at happend hevent hstopped hopened
  cases happend with
  | refused e =>
      refine ⟨base, entries, extra, torn, ha.sound.asked answers, ha.intact, ha.aligned,
        fun hopen => ?_⟩
      rw [hevent]
      exact ha.view_eq hopen
  | appended sequence above last sound aligned intact =>
      have hlive := ha.sound.live (hopened rfl)
      refine ⟨base, entries ++ [⟨sequence, payload⟩], [], [], sound, fun _ => intact,
        fun _ => aligned, fun _ => ?_⟩
      have hnew : replayed (sequenceOf base) [⟨sequence, payload⟩] = [payload] := by
        have : sequenceOf base < sequence := UInt64.lt_of_le_of_lt hlive.base_le above
        simp [replayed, this]
      rw [hevent, replayed_append, hnew]
      show View.mk (view events).snapshot ((view events).records ++ [payload]) = _
      rw [ha.view_eq (hopened rfl)]
  | failed halt opened blamed extra torn sound last =>
      cases halt with
      | refused e => exact absurd blamed (hfaultless.not_blamed e)
      | stopped => exact ⟨base, entries, extra, torn, agrees_closed sound (hstopped rfl)⟩

/-- Without failures a compaction is in the view and on disk. -/
theorem agrees_compact {limits : Limits} {events : List StoreEvent} {h : Host}
    {base : Option SnapshotImage} {entries extra : List JournalEntry} {torn : Bytes}
    (ha : Agrees limits events h base entries extra torn) {state : Buffer} {uptoSequence : UInt64}
    {answers : List Answer} (hfaultless : Faultless answers) :
    ∃ base entries extra torn,
      Agrees limits (events ++ [happen step h ⟨.compact state uptoSequence, answers⟩])
        (h.step ⟨.compact state uptoSequence, answers⟩).2 base entries extra torn := by
  have hcompact := step_compact ha.sound state uptoSequence answers
  have hevent : (view (events ++ [happen step h ⟨.compact state uptoSequence, answers⟩])) =
      (view events).after ⟨h, ⟨.compact state uptoSequence, answers⟩,
        (h.step ⟨.compact state uptoSequence, answers⟩).1,
        (h.step ⟨.compact state uptoSequence, answers⟩).2⟩ := view_snoc _ _
  have hstopped := step_stopped (h := h) (i := ⟨.compact state uptoSequence, answers⟩)
  have hopened {reply : StoreReply}
      (hok : (h.step ⟨.compact state uptoSequence, answers⟩).1 = .ok reply) := opened_of_compact hok
  rcases hstep : h.step ⟨.compact state uptoSequence, answers⟩ with ⟨r, h'⟩
  rw [hstep] at hcompact hevent hstopped hopened
  cases hcompact with
  | refused e rejected =>
      refine ⟨base, entries, extra, torn, ha.sound.asked answers, ha.intact, ha.aligned,
        fun hopen => ?_⟩
      rw [hevent]
      exact ha.view_eq hopen
  | compacted accepted primary sound aligned degraded last =>
      refine ⟨_, [], [], [], sound, fun _ => ?_, fun _ => aligned, fun _ => hevent⟩
      rw [degraded]
      exact ha.intact (hopened rfl)
  | kept halt opened blamed primary sound last =>
      cases halt with
      | refused e => exact absurd blamed (hfaultless.not_blamed e)
      | stopped => exact ⟨base, entries, extra, torn, agrees_closed sound (hstopped rfl)⟩
  | installed halt opened accepted blamed primary sound last =>
      cases halt with
      | refused e => exact absurd blamed (hfaultless.not_blamed e)
      | stopped =>
          rcases sound with sound | sound
          · exact ⟨_, entries, extra, torn, agrees_closed sound (hstopped rfl)⟩
          · exact ⟨_, [], [], [], agrees_closed sound (hstopped rfl)⟩

/-- In every run without failures the directory agrees with the view. -/
theorem agrees_of_run {limits : Limits} {events : List StoreEvent} {h : Host}
    (run : Run step (empty limits) events h)
    (hfaultless : ∀ e ∈ events, Faultless e.input.answers)
    (hroom : ∀ e ∈ events, Appending Room e.before e.input) :
    ∃ base entries extra torn, Agrees limits events h base entries extra torn := by
  induction run with
  | nil => exact ⟨none, [], [], [], agrees_closed (sound_empty limits) rfl⟩
  | @snoc events h run i ih =>
      obtain ⟨base, entries, extra, torn, ha⟩ :=
        ih (fun e he => hfaultless e (List.mem_append_left _ he))
          fun e he => hroom e (List.mem_append_left _ he)
      have hlast : happen step h i ∈ events ++ [happen step h i] :=
        List.mem_append_right _ List.mem_cons_self
      have hfaultless := hfaultless _ hlast
      have hroom := hroom _ hlast
      obtain ⟨call, answers⟩ := i
      cases call with
      | openStore => exact agrees_openStore ha answers
      | append payload => exact agrees_append ha hfaultless hroom
      | compact state uptoSequence => exact agrees_compact ha hfaultless

/-! ## Crash atomicity -/

/-- Whatever point of a compaction the process stops at, a later `open` recovers the
snapshot and the records of before, or the new snapshot and nothing to replay. -/
theorem compact_crash_atomic {limits : Limits} {events : List StoreEvent} {h : Host}
    (run : Run step (empty limits) events h)
    (hfaultless : ∀ e ∈ events, Faultless e.input.answers)
    (hroom : ∀ e ∈ events, Appending Room e.before e.input) (hopen : h.store.opened = true)
    (state : Buffer) (answers : List Answer) :
    let h' := (h.step ⟨.compact state h.store.lastSequence, answers⟩).2
    h'.recovery = some (view events) ∨
      h'.recovery = some ⟨some ⟨h.store.lastSequence, state.bytes⟩, []⟩ := by
  obtain ⟨base, entries, extra, torn, ha⟩ := agrees_of_run run hfaultless hroom
  have hlive := ha.sound.live hopen
  obtain ⟨rfl, rfl⟩ := hlive.clean (ha.intact hopen)
  have hview : view events = ⟨base, replayed (sequenceOf base) (entries ++ [])⟩ := by
    rw [List.append_nil]
    exact ha.view_eq hopen
  have hcompact := step_compact ha.sound state h.store.lastSequence answers
  rcases hstep : h.step ⟨.compact state h.store.lastSequence, answers⟩ with ⟨r, h'⟩
  rw [hstep] at hcompact
  rw [hview]
  cases hcompact with
  | refused e rejected => exact .inl (ha.sound.asked answers).recovery_eq
  | compacted accepted primary sound aligned degraded last => exact .inr sound.recovery_eq
  | kept halt opened blamed primary sound last => exact .inl sound.recovery_eq
  | installed halt opened accepted blamed primary sound last =>
      right
      rcases sound with sound | sound
      · show h'.recovery = _
        rw [sound.recovery_eq, List.append_nil]
        have hnone : replayed (sequenceOf (some ⟨h.store.lastSequence, state.bytes⟩)) entries = [] :=
          replayed_of_le hlive.entries_le
        rw [hnone]
      · exact sound.recovery_eq

/-- Two appends, the second cut short by a crash, and a reopening. -/
def smallLife : List StoreInput :=
  [⟨.openStore, []⟩, ⟨.append [1], []⟩, ⟨.append [2], [.done, .stopped 0]⟩, ⟨.openStore, []⟩]

/-- The same when the process stops between the two renames of the compaction. -/
theorem compact_crash_atomic_small :
    (final step (empty {}) smallLife).store.opened = true ∧
      let h := final step (empty {}) smallLife
      let h' := (h.step ⟨.compact ⟨[7], by decide⟩ h.store.lastSequence,
        [.done, .done, .done, .done, .stopped 0]⟩).2
      h'.recovery = some (view (record step (empty {}) smallLife)) ∨
        h'.recovery = some ⟨some ⟨h.store.lastSequence, [7]⟩, []⟩ := by
  have hopen : (final step (empty {}) smallLife).store.opened = true := by decide +kernel
  exact ⟨hopen, compact_crash_atomic (Run.of_inputs step (empty {}) smallLife) (by decide +kernel)
    (by decide +kernel) hopen ⟨[7], by decide⟩ _⟩

/-- A journal of one record is already larger than four snapshots of one byte, and is
refused by the next `open`. -/
theorem compact_crash_loses_journal :
    ¬∀ (limits : Limits) (events : List StoreEvent) (h : Host),
      Run step (empty limits) events h → (∀ e ∈ events, Faultless e.input.answers) →
      h.store.opened = true → ∀ (state : Buffer) (answers : List Answer),
      let h' := (h.step ⟨.compact state h.store.lastSequence, answers⟩).2
      h'.recovery = some (view events) ∨
        h'.recovery = some ⟨some ⟨h.store.lastSequence, state.bytes⟩, []⟩ := by
  intro h
  have hlife := h { maxStateBytes := 1, maxJournalRecordBytes := 1 } _ _
    (Run.of_inputs step _ [⟨.openStore, []⟩, ⟨.append [1], []⟩]) (by decide +kernel)
    (by decide +kernel) ⟨[], by decide⟩ [.stopped 0]
  have hnone : ((final step (empty { maxStateBytes := 1, maxJournalRecordBytes := 1 })
      [⟨.openStore, []⟩, ⟨.append [1], []⟩]).step ⟨.compact ⟨[], by decide⟩
        (final step (empty { maxStateBytes := 1, maxJournalRecordBytes := 1 })
          [⟨.openStore, []⟩, ⟨.append [1], []⟩]).store.lastSequence, [.stopped 0]⟩).2.recovery =
      none := by
    decide +kernel
  rcases hlife with hlife | hlife
  · exact absurd (hnone.symm.trans hlife) (by simp)
  · exact absurd (hnone.symm.trans hlife) (by simp)

end Host

end ShuffleFabric
