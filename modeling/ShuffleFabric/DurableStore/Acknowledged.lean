import ShuffleFabric.DurableStore.Crash

/-!
# ShuffleFabric.DurableStore.Acknowledged

An acknowledged record survives every pattern of failing operations.

`acknowledged` and `installed` are read off the history of the calls alone.  What a
later `open` recovers is the newest installed snapshot, every acknowledged record above
it, and at most one record whose append failed.  The pattern that breaks it is a
compaction that has cut the journal but was told that it had not (`astray`): the store goes
on with the old length, and rolls a failed append back to it.
-/

namespace ShuffleFabric

open Lib Action

namespace Host

/-! ## The history of the calls -/

/-- The records whose append returned a sequence. -/
def acknowledged (events : List StoreEvent) : List JournalEntry :=
  events.filterMap fun e =>
    match e.input.call, e.output with
    | .append payload, .ok (.appended sequence) => some ⟨sequence, payload⟩
    | _, _ => none

/-- The snapshot a call made the primary one. -/
def installs (e : StoreEvent) : Option SnapshotImage :=
  match e.input.call with
  | .compact state uptoSequence =>
    let image : SnapshotImage := ⟨uptoSequence, state.bytes⟩
    if (checkCompact e.before.store image).isOk ∧ e.after.files .primary = some image.encode then
      some image
    else none
  | _ => none

/-- The newest installed snapshot. -/
def installed (events : List StoreEvent) : Option SnapshotImage :=
  events.foldl (fun newest e => (installs e).or newest) none

/-- The calls of one life of the store, after its directory was opened: appends, and
compactions up to the last sequence. -/
def OneLife (h : Host) (i : StoreInput) : Prop :=
  match i.call with
  | .openStore => False
  | .append _ => True
  | .compact _ uptoSequence => uptoSequence = h.store.lastSequence

instance (h : Host) (i : StoreInput) : Decidable (OneLife h i) :=
  match i with
  | ⟨.openStore, _⟩ => .isFalse id
  | ⟨.append _, _⟩ => .isTrue trivial
  | ⟨.compact _ uptoSequence, _⟩ =>
    inferInstanceAs (Decidable (uptoSequence = h.store.lastSequence))

/-- The last compaction that touched the journal has cut it and was refused all the same. -/
def astray (events : List StoreEvent) : Bool :=
  events.foldl (fun lost e =>
    match e.input.call, e.output with
    | .compact _ _, .ok _ => false
    | .compact _ _, .error _ => lost || decide (e.after.content .journal ≠ e.before.content .journal)
    | _, _ => lost) false

/-- An append whose checks pass is made by a store that has not gone astray, and keeps the
journal within the size `open` accepts. -/
def InStep (earlier : List StoreEvent) (e : StoreEvent) : Prop :=
  Appending (fun h payload => astray earlier = false ∧ Room h payload) e.before e.input

instance (earlier : List StoreEvent) (e : StoreEvent) : Decidable (InStep earlier e) :=
  inferInstanceAs (Decidable (Appending _ _ _))

theorem acknowledged_snoc (events : List StoreEvent) (e : StoreEvent) :
    acknowledged (events ++ [e]) = acknowledged events ++ acknowledged [e] := by
  simp [acknowledged]

theorem installed_snoc (events : List StoreEvent) (e : StoreEvent) :
    installed (events ++ [e]) = (installs e).or (installed events) := by
  simp [installed]

/-- An append leaves a store astray or not. -/
theorem astray_append (events : List StoreEvent) (h : Host) (payload : Bytes)
    (answers : List Answer) :
    astray (events ++ [happen step h ⟨.append payload, answers⟩]) = astray events := by
  simp [astray, happen]

/-- A compaction that was refused may have cut the journal. -/
theorem astray_refused (events : List StoreEvent) {h : Host} {state : Buffer}
    {uptoSequence : UInt64} {answers : List Answer} {halt : Halt Error}
    (hrefused : (h.step ⟨.compact state uptoSequence, answers⟩).1 = .error halt)
    (hastray : astray (events ++ [happen step h ⟨.compact state uptoSequence, answers⟩]) = false) :
    astray events = false ∧ (h.step ⟨.compact state uptoSequence, answers⟩).2.content .journal =
      h.content .journal := by
  simpa [astray, happen, hrefused] using hastray

/-! ## What survives -/

/-- The entries above a sequence. -/
def above (sequence : UInt64) (entries : List JournalEntry) : List JournalEntry :=
  entries.filter (sequence < ·.sequence)

theorem above_append (sequence : UInt64) (xs ys : List JournalEntry) :
    above sequence (xs ++ ys) = above sequence xs ++ above sequence ys := by
  simp [above]

theorem above_of_le {sequence : UInt64} {entries : List JournalEntry}
    (h : ∀ entry ∈ entries, entry.sequence ≤ sequence) : above sequence entries = [] := by
  refine List.filter_eq_nil_iff.mpr fun entry hentry => ?_
  simpa using UInt64.not_lt.mpr (h entry hentry)

/-- The directory holds the newest installed snapshot and the acknowledged records above it; a
store that is not astray knows where its journal ends. -/
structure Survives (limits : Limits) (events : List StoreEvent) (h : Host)
    (entries extra : List JournalEntry) (torn : Bytes) : Prop where
  sound : Sound limits h (installed events) entries extra torn
  same : above (sequenceOf (installed events)) entries =
    above (sequenceOf (installed events)) (acknowledged events)
  le : h.store.opened = true → ∀ entry ∈ acknowledged events, entry.sequence ≤ h.store.lastSequence
  aligned : h.store.opened = true → h.store.journalDegraded = false → astray events = false →
    Aligned h

/-- A call that acknowledges nothing leaves what is acknowledged where it was. -/
theorem Survives.unacknowledged {limits : Limits} {events : List StoreEvent} {h h' : Host}
    {entries extra entries' extra' : List JournalEntry} {torn torn' : Bytes}
    {base : Option SnapshotImage} {e : StoreEvent} (hs : Survives limits events h entries extra torn)
    (hnone : acknowledged [e] = []) (hinstalled : installed (events ++ [e]) = base)
    (sound : Sound limits h' base entries' extra' torn')
    (same : above (sequenceOf base) entries' = above (sequenceOf base) (acknowledged events))
    (last : h'.store.opened = true →
      h.store.opened = true ∧ h'.store.lastSequence = h.store.lastSequence)
    (aligned : h'.store.opened = true → h'.store.journalDegraded = false →
      astray (events ++ [e]) = false → Aligned h') :
    Survives limits (events ++ [e]) h' entries' extra' torn' := by
  have hacknowledged : acknowledged (events ++ [e]) = acknowledged events := by
    rw [acknowledged_snoc, hnone, List.append_nil]
  refine ⟨?_, ?_, fun hopen => ?_, aligned⟩
  · rw [hinstalled]
    exact sound
  · rw [hinstalled, hacknowledged]
    exact same
  · obtain ⟨hopened, hlast⟩ := last hopen
    rw [hacknowledged, hlast]
    exact hs.le hopened

/-- Nothing that is acknowledged lies above the last sequence, and nothing in the journal. -/
theorem Survives.folded {limits : Limits} {events : List StoreEvent} {h : Host}
    {entries extra : List JournalEntry} {torn : Bytes}
    (hs : Survives limits events h entries extra torn) (hopen : h.store.opened = true) :
    above h.store.lastSequence entries = [] ∧
      above h.store.lastSequence (acknowledged events) = [] :=
  ⟨above_of_le (hs.sound.live hopen).entries_le, above_of_le (hs.le hopen)⟩

/-- An append that is in step keeps what was acknowledged, and adds its own record if it returns a
sequence. -/
theorem survives_append {limits : Limits} {events : List StoreEvent} {h : Host}
    {entries extra : List JournalEntry} {torn : Bytes}
    (hs : Survives limits events h entries extra torn) {payload : Bytes} {answers : List Answer}
    (hinstep : InStep events (happen step h ⟨.append payload, answers⟩)) :
    ∃ entries extra torn, Survives limits (events ++ [happen step h ⟨.append payload, answers⟩])
      (h.step ⟨.append payload, answers⟩).2 entries extra torn := by
  have happend : AppendOutcome limits answers h (installed events) entries payload
      (h.step ⟨.append payload, answers⟩).1 (h.step ⟨.append payload, answers⟩).2 :=
    step_append hs.sound (fun _ hcheck =>
      have ⟨htracked, hroom⟩ := hinstep (isOk_of_eq hcheck)
      have ⟨hopened, hintact, _⟩ := checkAppend_ok hcheck
      ⟨hs.aligned hopened hintact htracked, hroom⟩) answers
  have hinstalled : installed (events ++ [happen step h ⟨.append payload, answers⟩]) =
      installed events := installed_snoc _ _
  have hastray := astray_append events h payload answers
  have hopened {reply : StoreReply} (hok : (h.step ⟨.append payload, answers⟩).1 = .ok reply) :=
    opened_of_append hok
  rcases hstep : h.step ⟨.append payload, answers⟩ with ⟨r, h'⟩
  rw [hstep] at happend hopened
  cases happend with
  | refused e =>
      refine ⟨entries, extra, torn, hs.unacknowledged (by simp [acknowledged, happen, hstep])
        hinstalled (hs.sound.asked answers) hs.same (fun hopen => ⟨hopen, rfl⟩) ?_⟩
      rw [hastray]
      exact hs.aligned
  | appended sequence above last sound aligned intact =>
      have hgrown : acknowledged (events ++ [happen step h ⟨.append payload, answers⟩]) =
          acknowledged events ++ [⟨sequence, payload⟩] := by
        rw [acknowledged_snoc]
        simp [acknowledged, happen, hstep]
      refine ⟨entries ++ [⟨sequence, payload⟩], [], [], ?_, ?_, fun _ => ?_, fun _ _ _ => aligned⟩
      · rw [hinstalled]
        exact sound
      · rw [hinstalled, hgrown, above_append, above_append, hs.same]
      · rw [hgrown, last]
        intro entry hentry
        rcases List.mem_append.mp hentry with hentry | hentry
        · exact UInt64.le_trans (hs.le (hopened rfl) entry hentry) (UInt64.le_of_lt above)
        · exact UInt64.le_of_eq (by rw [List.mem_singleton.mp hentry])
  | failed halt opened blamed extra torn sound last aligned =>
      exact ⟨entries, extra, torn, hs.unacknowledged (by simp [acknowledged, happen, hstep])
        hinstalled sound hs.same (fun hopen => ⟨opened, last hopen⟩)
        fun hopen hintact _ => aligned hopen hintact⟩

/-- Where a compaction that was refused has not cut the journal, the store stands where it
stood. -/
theorem Survives.uncut {limits : Limits} {events : List StoreEvent} {h h' : Host}
    {entries extra : List JournalEntry} {torn : Bytes}
    (hs : Survives limits events h entries extra torn) (opened : h.store.opened = true)
    (degraded : h'.store.opened = true → h'.store.journalDegraded = h.store.journalDegraded)
    (aligned : h'.store.opened = true → h'.content .journal = h.content .journal →
      Aligned h → Aligned h')
    (hopen : h'.store.opened = true) (hintact : h'.store.journalDegraded = false)
    (huncut : astray events = false ∧ h'.content .journal = h.content .journal) : Aligned h' :=
  aligned hopen huncut.2 (hs.aligned opened ((degraded hopen).symm.trans hintact) huncut.1)

/-- The snapshot a compaction up to the last sequence installs, if it does. -/
theorem installed_compact (events : List StoreEvent) (h : Host) (state : Buffer)
    (answers : List Answer) :
    installed (events ++ [happen step h ⟨.compact state h.store.lastSequence, answers⟩]) =
      (if (checkCompact h.store ⟨h.store.lastSequence, state.bytes⟩).isOk = true ∧
          (h.step ⟨.compact state h.store.lastSequence, answers⟩).2.files .primary =
            some (SnapshotImage.encode ⟨h.store.lastSequence, state.bytes⟩) then
        some ⟨h.store.lastSequence, state.bytes⟩
      else none).or (installed events) :=
  installed_snoc _ _

/-- A compaction up to the last sequence keeps what was acknowledged, in the journal or in its
snapshot, wherever it stops. -/
theorem survives_compact {limits : Limits} {events : List StoreEvent} {h : Host}
    {entries extra : List JournalEntry} {torn : Bytes}
    (hs : Survives limits events h entries extra torn) {state : Buffer} {answers : List Answer} :
    ∃ entries extra torn,
      Survives limits (events ++ [happen step h ⟨.compact state h.store.lastSequence, answers⟩])
        (h.step ⟨.compact state h.store.lastSequence, answers⟩).2 entries extra torn := by
  have hcompact := step_compact hs.sound state h.store.lastSequence answers
  have hinstalled := installed_compact events h state answers
  have hnone : acknowledged [happen step h ⟨.compact state h.store.lastSequence, answers⟩] = [] := by
    simp [acknowledged, happen]
  have hopened {reply : StoreReply}
      (hok : (h.step ⟨.compact state h.store.lastSequence, answers⟩).1 = .ok reply) :=
    opened_of_compact hok
  have hastray {halt : Halt Error} (hrefused :
      (h.step ⟨.compact state h.store.lastSequence, answers⟩).1 = .error halt) :=
    astray_refused events hrefused
  rcases hstep : h.step ⟨.compact state h.store.lastSequence, answers⟩ with ⟨r, h'⟩
  rw [hstep] at hcompact hinstalled hopened hastray
  cases hcompact with
  | refused e rejected =>
      rw [if_neg fun h => absurd (rejected.symm.trans h.1) (by decide)] at hinstalled
      exact ⟨entries, extra, torn, hs.unacknowledged hnone hinstalled (hs.sound.asked answers)
        hs.same (fun hopen => ⟨hopen, rfl⟩) fun hopen hintact htracked =>
          hs.aligned hopen hintact (hastray rfl htracked).1⟩
  | compacted accepted primary sound aligned degraded last =>
      rw [if_pos ⟨accepted, primary⟩] at hinstalled
      exact ⟨[], [], [], hs.unacknowledged hnone hinstalled sound
        (hs.folded (hopened rfl)).2.symm (fun _ => ⟨hopened rfl, last⟩) fun _ _ _ => aligned⟩
  | kept halt opened blamed primary sound last degraded aligned =>
      rw [if_neg fun h => primary h.2] at hinstalled
      exact ⟨entries, extra, torn, hs.unacknowledged hnone hinstalled sound hs.same
        (fun hopen => ⟨opened, last hopen⟩) fun hopen hintact htracked =>
          hs.uncut opened degraded aligned hopen hintact (hastray rfl htracked)⟩
  | installed halt opened accepted blamed primary sound last degraded aligned =>
      rw [if_pos ⟨accepted, primary⟩] at hinstalled
      obtain ⟨hentries, hacknowledged⟩ := hs.folded opened
      -- the snapshot is the primary one now, and the journal may have been emptied or not
      rcases sound with sound | sound
      · exact ⟨entries, extra, torn, hs.unacknowledged hnone hinstalled sound
          (hentries.trans hacknowledged.symm) (fun hopen => ⟨opened, last hopen⟩)
          fun hopen hintact htracked =>
            hs.uncut opened degraded aligned hopen hintact (hastray rfl htracked)⟩
      · exact ⟨[], [], [], hs.unacknowledged hnone hinstalled sound hacknowledged.symm
          (fun hopen => ⟨opened, last hopen⟩) fun hopen hintact htracked =>
            hs.uncut opened degraded aligned hopen hintact (hastray rfl htracked)⟩

/-- A store on a fresh directory. -/
def fresh (limits : Limits) : Host := ((empty limits).step ⟨.openStore, []⟩).2

/-- A fresh directory has nothing to lose. -/
theorem survives_fresh (limits : Limits) : Survives limits [] (fresh limits) [] [] [] := by
  have hopen := step_openStore (sound_empty limits) []
  unfold fresh
  rcases hstep : (empty limits).step ⟨.openStore, []⟩ with ⟨r, h'⟩
  rw [hstep] at hopen
  cases hopen with
  | opened reopened =>
      exact ⟨reopened.sound, rfl, fun _ _ he => (by cases he), fun _ _ _ => reopened.aligned⟩
  | closed halt blamed torn sound closed =>
      cases halt with
      | refused e => exact absurd blamed.choose_spec (by simp)
      | stopped => exact absurd blamed.choose_spec (by simp)

/-- In a run that is in step everything acknowledged survives. -/
theorem survives_of_run {limits : Limits} {events : List StoreEvent} {h : Host}
    (run : Run step (fresh limits) events h) (hlife : ∀ e ∈ events, OneLife e.before e.input)
    (hinstep : Along InStep [] events) :
    ∃ entries extra torn, Survives limits events h entries extra torn := by
  induction run with
  | nil => exact ⟨[], [], [], survives_fresh limits⟩
  | @snoc events h run i ih =>
      obtain ⟨hbefore, hinstep⟩ := (along_snoc events _).mp hinstep
      obtain ⟨entries, extra, torn, hs⟩ :=
        ih (fun e he => hlife e (List.mem_append_left _ he)) hbefore
      have hlast : happen step h i ∈ events ++ [happen step h i] :=
        List.mem_append_right _ List.mem_cons_self
      have hlife := hlife _ hlast
      obtain ⟨call, answers⟩ := i
      cases call with
      | openStore => cases hlife
      | append payload => exact survives_append hs hinstep
      | compact state uptoSequence =>
          obtain rfl : uptoSequence = h.store.lastSequence := hlife
          exact survives_compact hs

/-- As long as no append is made after a compaction that was refused although it had cut the
journal, or onto a journal that `open` would find too large, every acknowledged record above
the newest installed snapshot is recovered, in order and once, with at most one more behind
them. -/
theorem acknowledged_survive {limits : Limits} {events : List StoreEvent} {h : Host}
    (run : Run step (fresh limits) events h) (hlife : ∀ e ∈ events, OneLife e.before e.input)
    (hinstep : Along InStep [] events) :
    ∃ unacknowledged : List Bytes, unacknowledged.length ≤ 1 ∧
      h.recovery = some ⟨installed events,
        replayed (sequenceOf (installed events)) (acknowledged events) ++ unacknowledged⟩ := by
  obtain ⟨entries, extra, torn, hs⟩ := survives_of_run run hlife hinstep
  refine ⟨replayed (sequenceOf (installed events)) extra, ?_, ?_⟩
  · rw [replayed, List.length_map]
    exact Nat.le_trans (List.length_filter_le _ _) hs.sound.single
  · rw [hs.sound.recovery_eq, replayed_append]
    have hsame : replayed (sequenceOf (installed events)) entries =
        replayed (sequenceOf (installed events)) (acknowledged events) :=
      congrArg (List.map JournalEntry.payload) hs.same
    rw [hsame]

/-- An append, a compaction that could not cut the journal, an append that was rolled back,
and one more. -/
def smallFailures : List StoreInput :=
  [⟨.append [1], []⟩,
    ⟨.compact ⟨[7], by decide⟩ 1, [.done, .done, .done, .done, .done, .failed 0]⟩,
    ⟨.append [2], [.done, .failed 0]⟩, ⟨.append [3], []⟩]

/-- The records of the failing calls are recovered. -/
theorem acknowledged_survive_small :
    (∀ e ∈ record step (fresh {}) smallFailures, OneLife e.before e.input) ∧
      ∃ unacknowledged : List Bytes, unacknowledged.length ≤ 1 ∧
        (final step (fresh {}) smallFailures).recovery =
          some ⟨installed (record step (fresh {}) smallFailures),
            replayed (sequenceOf (installed (record step (fresh {}) smallFailures)))
              (acknowledged (record step (fresh {}) smallFailures)) ++ unacknowledged⟩ := by
  have hlife : ∀ e ∈ record step (fresh {}) smallFailures, OneLife e.before e.input := by
    decide +kernel
  exact ⟨hlife, acknowledged_survive (Run.of_inputs step (fresh {}) smallFailures) hlife
    (by decide +kernel)⟩

/-- An append, a compaction that cuts the journal and is told that it could not, an append
that is rolled back to the length of before the cut, and one more. -/
def smallLoss : List StoreInput :=
  [⟨.append [1], []⟩,
    ⟨.compact ⟨[7], by decide⟩ 1, [.done, .done, .done, .done, .done, .done, .done, .failed 0]⟩,
    ⟨.append [2], [.done, .failed 0]⟩, ⟨.append [3], []⟩]

/-- The last append is acknowledged, and lies behind what the rolled back one left. -/
theorem acknowledged_lost :
    ¬∀ (limits : Limits) (events : List StoreEvent) (h : Host),
      Run step (fresh limits) events h → (∀ e ∈ events, OneLife e.before e.input) →
      ∃ unacknowledged : List Bytes, unacknowledged.length ≤ 1 ∧
        h.recovery = some ⟨installed events,
          replayed (sequenceOf (installed events)) (acknowledged events) ++ unacknowledged⟩ := by
  intro h
  obtain ⟨unacknowledged, -, hrecovery⟩ := h {} _ _ (Run.of_inputs step (fresh {}) smallLoss)
    (by decide +kernel)
  have hlost : (final step (fresh {}) smallLoss).recovery = some ⟨some ⟨1, [7]⟩, []⟩ := by
    decide +kernel
  have hexpected : replayed (sequenceOf (installed (record step (fresh {}) smallLoss)))
      (acknowledged (record step (fresh {}) smallLoss)) = [[3]] := by
    decide +kernel
  rw [hlost, hexpected] at hrecovery
  simp at hrecovery

end Host

end ShuffleFabric
