import ShuffleFabric.DurableStore.Record

/-!
# ShuffleFabric.DurableStore.Reopen

Opening a directory of arbitrary bytes when the system carries every operation out.

`exec_openStore` says what `open` leaves behind to the byte.  The scan of the journal that it
cut finds the same records, because they are all that is left.
-/

namespace ShuffleFabric

open Lib Action

namespace Host

/-! ## What `open` leaves behind -/

/-- Without failures an operation has its effect. -/
theorem exec_onDisk_atomic {h : Host} (hcalm : h.volume.answers = [])
    (effect : Volume StoreFile → Volume StoreFile) (e : Error) :
    (onDisk (Volume.atomic effect e)).exec h = (.ok (), { h with volume := effect h.volume }) := by
  have hexec : (Volume.atomic effect e).exec h.volume = (.ok (), effect h.volume) :=
    Action.exec_operate hcalm effect _ e
  show (((Volume.atomic effect e).exec h.volume).1,
    ({ h with volume := ((Volume.atomic effect e).exec h.volume).2 } : Host)) = _
  rw [hexec]

/-- A file cut to a length, with its descriptor at the end. -/
def cutTo (file : StoreFile) (length : Nat) (v : Volume StoreFile) : Volume StoreFile :=
  (v.put file (resize (v.content file) length)).point file length

/-- Without failures the file is cut and its descriptor stands at the end. -/
theorem exec_openForAppend {h : Host} (hcalm : h.volume.answers = []) (file : StoreFile)
    (offset : Nat) (what : String) :
    (openForAppend file offset what).exec h =
      (.ok (), { h with volume := cutTo file offset h.volume }) := by
  refine (exec_bind_of_ok (exec_onDisk_atomic hcalm _ _)).trans ?_
  refine (exec_bind_of_ok (exec_onDisk_atomic ?_ _ _)).trans ?_
  · exact hcalm
  refine (exec_onDisk_atomic ?_ _ _).trans ?_
  · exact hcalm
  · simp [cutTo, Volume.put, Volume.point, Volume.content]

theorem exec_check_bind {α β : Type} {r : Result α} {a : α} (hr : r = .ok a)
    (f : α → Operation β) (h : Host) : (check r >>= f).exec h = (f a).exec h := by
  subst hr
  rfl

theorem exec_check_bind_error {α β : Type} {r : Result α} {e : Error} (hr : r = .error e)
    (f : α → Operation β) (h : Host) : (check r >>= f).exec h = (.error (.refused e), h) := by
  subst hr
  rfl

/-- The directory `open` leaves behind, and the store on it. -/
def reopened (h : Host) (adopted : Option (SnapshotImage × Bool)) (scan : JournalScan) : Host where
  store := { recovered h.store.limits adopted (h.files .journal).isSome scan with
    journal := (h.files .journal).isSome
    opened := true }
  volume :=
    if (h.files .journal).isSome then cutTo .journal scan.replayableBytes h.volume else h.volume

/-- `open` when no operation fails. -/
theorem exec_openStore {h : Host} (hcalm : h.volume.answers = [])
    {adopted : Option (SnapshotImage × Bool)} {scan : JournalScan}
    (hadopt : adoptSnapshot h.store.limits h.files = .ok adopted)
    (hscan : scanJournal h.store.limits (h.files .journal)
      ((adopted.map (·.1.sequence)).getD 0) = .ok scan) :
    openStore.exec h = (.ok (), h.reopened adopted scan) := by
  refine (exec_bind_of_ok (exec_modify _ _)).trans ?_
  refine (exec_bind_of_ok (exec_get _)).trans ?_
  refine (exec_check_bind hadopt _ _).trans ?_
  refine (exec_check_bind hscan _ _).trans ?_
  refine (exec_bind_of_ok (exec_modify _ _)).trans ?_
  cases hfile : (h.files .journal).isSome with
  | false =>
      rw [runIf, if_neg (by decide)]
      simp only [reopened, hfile]
      rfl
  | true =>
      rw [runIf, if_pos rfl, bind_assoc]
      refine (exec_bind_of_ok (exec_openForAppend ?_ _ _ _)).trans ?_
      · exact hcalm
      · simp only [reopened, hfile]
        rfl

/-- `open` refuses a directory before it changes a file. -/
theorem exec_openStore_adopt_error {h : Host} {e : Error}
    (hadopt : adoptSnapshot h.store.limits h.files = .error e) :
    openStore.exec h = (.error (.refused e), { h with store := { limits := h.store.limits } }) := by
  refine (exec_bind_of_ok (exec_modify _ _)).trans ?_
  refine (exec_bind_of_ok (exec_get _)).trans ?_
  exact exec_check_bind_error hadopt _ _

/-- A journal that is refused refuses the store. -/
theorem exec_openStore_scan_error {h : Host} {adopted : Option (SnapshotImage × Bool)} {e : Error}
    (hadopt : adoptSnapshot h.store.limits h.files = .ok adopted)
    (hscan : scanJournal h.store.limits (h.files .journal)
      ((adopted.map (·.1.sequence)).getD 0) = .error e) :
    openStore.exec h = (.error (.refused e), { h with store := { limits := h.store.limits } }) := by
  refine (exec_bind_of_ok (exec_modify _ _)).trans ?_
  refine (exec_bind_of_ok (exec_get _)).trans ?_
  refine (exec_check_bind hadopt _ _).trans ?_
  exact exec_check_bind_error hscan _ _

/-- How `open` ends when no operation fails. -/
theorem step_openStore_calm (h : Host) :
    (∃ adopted scan, adoptSnapshot h.store.limits h.files = .ok adopted ∧
      scanJournal h.store.limits (h.files .journal)
        ((adopted.map (·.1.sequence)).getD 0) = .ok scan ∧
      h.step ⟨.openStore, []⟩ = (.ok .opened, (h.asked []).reopened adopted scan)) ∨
    (∃ e h', h.step ⟨.openStore, []⟩ = (.error (.refused e), h') ∧ h'.files = h.files) := by
  have hcalm : (h.asked []).volume.answers = [] := rfl
  unfold step
  simp only [StoreCall.operation, exec_map]
  cases hadopt : adoptSnapshot h.store.limits h.files with
  | error e =>
      rw [exec_openStore_adopt_error (h := h.asked []) hadopt]
      exact .inr ⟨e, _, rfl, rfl⟩
  | ok adopted =>
      cases hscan : scanJournal h.store.limits (h.files .journal)
          ((adopted.map (·.1.sequence)).getD 0) with
      | error e =>
          rw [exec_openStore_scan_error (h := h.asked []) hadopt hscan]
          exact .inr ⟨e, _, rfl, rfl⟩
      | ok scan =>
          rw [exec_openStore hcalm hadopt hscan]
          exact .inl ⟨adopted, scan, rfl, hscan, rfl⟩

end Host

/-! ## The second scan -/

theorem ok_of_refuseIf {p : Prop} [Decidable p] {code : ErrorCode} {detail : String} {α : Type}
    {f : Unit → Result α} {a : α} (h : (refuseIf p code detail >>= f) = .ok a) :
    ¬p ∧ f () = .ok a := by
  obtain ⟨u, hrefuse, hf⟩ := bind_eq_ok.mp h
  exact ⟨refuseIf_eq_ok.mp hrefuse, hf⟩

/-- A scan that accepts a journal splits it into the records it took in and the part it refused. -/
theorem scanJournal_parts {limits : Limits} {bytes : Bytes} {snapshotSequence : UInt64}
    {scan : JournalScan} (h : scanJournal limits (some bytes) snapshotSequence = .ok scan) :
    ∃ entries rest, bytes = journalImage entries ++ rest ∧
      (∀ entry ∈ entries, entry.Fits limits) ∧ Ordered 0 entries ∧
      journalSizeOk limits bytes.length = true ∧
      ∃ tail discarded, scan = { JournalScan.adoptAll {} snapshotSequence entries with
        tail := tail, bytesDiscarded := discarded } := by
  obtain ⟨hsize, hscan⟩ := ok_of_refuseIf h
  obtain ⟨entries, rest, hbytes, hfits, hordered, tail, discarded, hframes⟩ :=
    exists_scanFrames limits snapshotSequence bytes
  exact ⟨entries, rest, hbytes, hfits, hordered, not_not.mp hsize, tail, discarded,
    (Except.ok.inj hscan).symm.trans hframes⟩

/-- A journal of whole records is taken in to its end. -/
theorem scanJournal_image {limits : Limits} {entries : List JournalEntry}
    (hfits : ∀ entry ∈ entries, entry.Fits limits) (hordered : Ordered 0 entries)
    (hsize : journalSizeOk limits (journalImage entries).length = true)
    (snapshotSequence : UInt64) :
    scanJournal limits (some (journalImage entries)) snapshotSequence =
      .ok (JournalScan.adoptAll {} snapshotSequence entries) := by
  obtain ⟨fuel, hfuel⟩ : ∃ fuel, (journalImage entries).length + 1 = entries.length + (fuel + 1) :=
    ⟨(journalImage entries).length - entries.length, by
      have := Host.length_le_journalImage entries
      omega⟩
  have hordered : Ordered ({} : JournalScan).lastSequence entries := hordered
  have hscan := scanFrames_append snapshotSequence hfits [] hordered (fuel + 1)
  rw [List.append_nil, ← hfuel] at hscan
  simp only [scanJournal, hsize, not_true_eq_false, not_false_eq_true, refuseIf_of_not, ok_bind]
  rw [hscan]
  rfl

namespace Host

/-- The snapshot `open` finds in the directory. -/
def adopts (h : Host) : Result (Option (SnapshotImage × Bool)) :=
  adoptSnapshot h.store.limits h.files

/-- The store has recovered what another one recovered, from the same files. -/
structure RecoversAlike (h h' : Host) : Prop where
  adopted : h'.adopts = h.adopts
  loaded : h'.store.report.snapshotLoaded = h.store.report.snapshotLoaded
  fromPrevious : h'.store.report.snapshotFromPrevious = h.store.report.snapshotFromPrevious
  snapshotSequence : h'.store.snapshotSequence = h.store.snapshotSequence
  records : h'.store.records = h.store.records
  lastSequence : h'.store.lastSequence = h.store.lastSequence
  files : h'.files = h.files

/-- The snapshot files stay. -/
theorem files_reopened_of_ne {h : Host} {adopted : Option (SnapshotImage × Bool)}
    {scan : JournalScan} {file : StoreFile} (hne : file ≠ .journal) :
    (h.reopened adopted scan).files file = h.files file := by
  unfold reopened files
  split
  · simp [cutTo, hne]
  · rfl

/-- The journal keeps what can be replayed. -/
theorem files_reopened (h : Host) (adopted : Option (SnapshotImage × Bool)) (scan : JournalScan) :
    (h.reopened adopted scan).files .journal =
      (h.files .journal).map (resize · scan.replayableBytes) := by
  unfold reopened files
  cases hfile : h.volume.files .journal with
  | none => simp [hfile]
  | some bytes => simp [hfile, cutTo, Volume.content]

/-- The journal is appended to behind what can be replayed. -/
theorem cursors_reopened {h : Host} (hsome : (h.files .journal).isSome = true)
    (adopted : Option (SnapshotImage × Bool)) (scan : JournalScan) :
    (h.reopened adopted scan).volume.cursors .journal = scan.replayableBytes := by
  simp [reopened, hsome, cutTo]

/-- The journal that `open` left behind is scanned to its end, with the same result, and is not
cut again. -/
theorem scanJournal_again {limits : Limits} {file : Option Bytes} {snapshotSequence : UInt64}
    {scan : JournalScan} (h : scanJournal limits file snapshotSequence = .ok scan) :
    ∃ scan', scanJournal limits (file.map (resize · scan.replayableBytes)) snapshotSequence =
        .ok scan' ∧
      scan'.records = scan.records ∧ scan'.lastSequence = scan.lastSequence ∧
      (file.map (resize · scan.replayableBytes)).map (resize · scan'.replayableBytes) =
        file.map (resize · scan.replayableBytes) := by
  cases file with
  | none => exact ⟨scan, h, rfl, rfl, rfl⟩
  | some bytes =>
      obtain ⟨entries, rest, rfl, hfits, hordered, hsize, tail, discarded, rfl⟩ :=
        scanJournal_parts h
      obtain ⟨-, hreplayable, -, -⟩ := JournalScan.adoptAll_spec {} snapshotSequence entries
      have hreplayable : (JournalScan.adoptAll {} snapshotSequence entries).replayableBytes =
          (journalImage entries).length := by
        rw [hreplayable]
        exact Nat.zero_add _
      have hcut : resize (journalImage entries ++ rest)
          (JournalScan.adoptAll {} snapshotSequence entries).replayableBytes =
            journalImage entries := resize_append hreplayable
      have hsize : journalSizeOk limits (journalImage entries).length = true :=
        journalSizeOk_of_le (by simp) hsize
      refine ⟨JournalScan.adoptAll {} snapshotSequence entries, ?_, rfl, rfl, ?_⟩
      · rw [Option.map_some, hcut]
        exact scanJournal_image hfits hordered hsize snapshotSequence
      · rw [Option.map_some, hcut, Option.map_some, hreplayable, resize_length]

/-- Recovery is idempotent, whatever the files hold: a directory that `open` accepted is accepted
again, with the same result and without a change; one that it refuses is not changed. -/
theorem recovery_idempotent (h : Host) :
    match h.step ⟨.openStore, []⟩ with
    | (.ok _, first) => first.adopts = h.adopts ∧ ∃ second,
        first.step ⟨.openStore, []⟩ = (.ok .opened, second) ∧ RecoversAlike first second
    | (.error _, refused) => refused.files = h.files := by
  rcases step_openStore_calm h with ⟨adopted, scan, hadopt, hscan, hstep⟩ | ⟨e, h', hstep, hfiles⟩
  · rw [hstep]
    obtain ⟨scan', hscan', hrecords, hlast, hcut⟩ := scanJournal_again hscan
    have hjournal : ((h.asked []).reopened adopted scan).files .journal =
        (h.files .journal).map (resize · scan.replayableBytes) :=
      files_reopened (h.asked []) adopted scan
    have hadopts : ((h.asked []).reopened adopted scan).adopts = h.adopts :=
      adoptSnapshot_congr fun _ hfile => files_reopened_of_ne hfile
    refine ⟨hadopts, ?_⟩
    have hfirst : ((h.asked []).reopened adopted scan).store.limits = h.store.limits := rfl
    rw [← hjournal, ← hfirst] at hscan'
    have hexec := exec_openStore (h := ((h.asked []).reopened adopted scan).asked []) rfl
      (hadopts.trans hadopt) hscan'
    refine ⟨(((h.asked []).reopened adopted scan).asked []).reopened adopted scan', ?_, ?_⟩
    · unfold step
      simp only [StoreCall.operation, exec_map, hexec]
      rfl
    · refine ⟨?_, rfl, rfl, rfl, hrecords, ?_, ?_⟩
      · exact adoptSnapshot_congr fun _ hfile => files_reopened_of_ne hfile
      · show max _ scan'.lastSequence = max _ scan.lastSequence
        rw [hlast]
      · funext file
        by_cases hfile : file = .journal
        · subst hfile
          rw [files_reopened]
          show (((h.asked []).reopened adopted scan).files .journal).map _ = _
          rw [hjournal, hcut]
        · exact files_reopened_of_ne hfile
  · rw [hstep]
    exact hfiles

end Host

end ShuffleFabric
