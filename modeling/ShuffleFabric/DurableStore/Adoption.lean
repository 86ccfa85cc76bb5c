import ShuffleFabric.DurableStore.Crash
import ShuffleFabric.Recovery

/-!
# ShuffleFabric.DurableStore.Adoption

Which of the two snapshot files is the good one.

`open` falls back to the previous snapshot when the primary one does not decode.  Two
other places decide by name: `replace_file` moves the primary over the previous one
without looking at either, and the coordinator process reads the primary again at its
start.  Both are right exactly when the primary file is not damaged.
-/

namespace ShuffleFabric

open Lib Action

namespace Host

/-- A closed store on a directory. -/
def on (limits : Limits) (files : StoreFile → Option Bytes) : Host :=
  ⟨{ limits := limits }, ⟨files, fun _ => 0, []⟩⟩

/-! ## Opening any directory -/

theorem length_of_readFrame {limits : Limits} {bytes rest : Bytes} {entry : JournalEntry}
    (h : readFrame limits bytes = .record entry rest) :
    journalHeaderBytes + entry.payload.length + rest.length ≤ bytes.length := by
  unfold readFrame at h
  split at h
  · cases h
  split at h
  · cases h
  next hshort =>
    simp only at h
    split at h
    · cases h
    split at h
    · cases h
    split at h
    · cases h
    split at h
    · cases h
    next hpayload =>
      split at h
      · cases h
      · cases h
        simp only [List.length_take, List.length_drop, not_lt] at hpayload hshort ⊢
        omega

/-- The replayable part of a journal lies within it. -/
theorem scanFrames_le (limits : Limits) (snapshotSequence : UInt64) (fuel : Nat) (bytes : Bytes)
    (scan : JournalScan) :
    (scanFrames limits snapshotSequence fuel bytes scan).replayableBytes ≤
      scan.replayableBytes + bytes.length := by
  induction fuel generalizing bytes scan with
  | zero => simp [scanFrames]
  | succ fuel ih =>
      unfold scanFrames
      split
      · simp
      · simp [JournalScan.stop]
      · simp [JournalScan.stop]
      · next entry rest hframe =>
          split
          · simp [JournalScan.stop]
          · have hlength := length_of_readFrame hframe
            have hadopt : (scan.adopt snapshotSequence entry).replayableBytes =
                scan.replayableBytes + journalHeaderBytes + entry.payload.length := by
              unfold JournalScan.adopt
              split <;> rfl
            have := ih rest (scan.adopt snapshotSequence entry)
            omega

/-- A journal of an acceptable size can be scanned, whatever it holds. -/
theorem scanJournal_of_size {limits : Limits} {file : Option Bytes}
    (h : journalSizeOk limits (file.getD []).length = true) (snapshotSequence : UInt64) :
    ∃ scan, scanJournal limits file snapshotSequence = .ok scan ∧
      scan.replayableBytes ≤ (file.getD []).length := by
  cases file with
  | none => exact ⟨_, rfl, Nat.le_refl _⟩
  | some bytes =>
      have hsize : journalSizeOk limits bytes.length = true := h
      refine ⟨scanFrames limits snapshotSequence (bytes.length + 1) bytes {}, ?_, ?_⟩
      · simp only [scanJournal, hsize, not_true_eq_false, not_false_eq_true, refuseIf_of_not, ok_bind]
        rfl
      · simpa using scanFrames_le limits snapshotSequence (bytes.length + 1) bytes {}

theorem size_of_scanJournal {limits : Limits} {file : Option Bytes} {snapshotSequence : UInt64}
    {scan : JournalScan} (h : scanJournal limits file snapshotSequence = .ok scan) :
    journalSizeOk limits (file.getD []).length = true := by
  cases file with
  | none =>
      show journalSizeOk limits 0 = true
      unfold journalSizeOk
      split <;> simp
  | some bytes =>
      simp only [scanJournal, bind_eq_ok, refuseIf_eq_ok, Decidable.not_not] at h
      exact h.choose_spec.1

/-- What a successful `open` found, and what it left. -/
structure Found (limits : Limits) (h h' : Host) (adopted : Option (SnapshotImage × Bool)) :
    Prop where
  adopts : adoptSnapshot limits h.files = .ok adopted
  limits_eq : h'.store.limits = limits
  opened : h'.store.opened = true
  report : h'.store.report.snapshotLoaded = adopted.isSome
  continues : h'.store.snapshotSequence = (adopted.map (·.1.sequence)).getD 0
  others : ∀ f, f ≠ .journal → h'.files f = h.files f
  size : journalSizeOk limits (h'.content .journal).length = true
  ready : Ready h'
  sequence : h'.store.snapshotSequence ≤ h'.store.lastSequence

theorem exec_check_ok {α : Type} {r : Result α} {a : α} {h h' : Host}
    (hexec : (check r).exec h = (.ok a, h')) : r = .ok a ∧ h' = h := by
  cases r with
  | ok b =>
      cases hexec
      exact ⟨rfl, rfl⟩
  | error e => cases hexec

/-- A successful `open` understood the snapshot files and the journal. -/
theorem understood_of_open {h : Host} {answers : List Answer} {reply : StoreReply}
    (hok : (h.step ⟨.openStore, answers⟩).1 = .ok reply) :
    ∃ adopted scan, adoptSnapshot h.store.limits h.files = .ok adopted ∧
      scanJournal h.store.limits (h.files .journal)
        ((adopted.map (·.1.sequence)).getD 0) = .ok scan := by
  have hexec : ∃ u h', openStore.exec (h.asked answers) = (.ok u, h') := by
    unfold step StoreCall.operation at hok
    rw [exec_map] at hok
    rcases hexec : openStore.exec (h.asked answers) with ⟨r, h'⟩
    rw [hexec] at hok
    cases r with
    | ok u => exact ⟨u, h', rfl⟩
    | error halt => cases halt <;> cases hok
  obtain ⟨u, h', hexec⟩ := hexec
  obtain ⟨_, _, hmodify, hexec⟩ := exec_bind_ok hexec
  cases hmodify
  obtain ⟨_, _, hget, hexec⟩ := exec_bind_ok hexec
  cases hget
  obtain ⟨adopted, _, hadopt, hexec⟩ := exec_bind_ok hexec
  obtain ⟨hadopted, rfl⟩ := exec_check_ok hadopt
  obtain ⟨scan, _, hscan, -⟩ := exec_bind_ok hexec
  exact ⟨adopted, scan, hadopted, (exec_check_ok hscan).1⟩

theorem found_of_open {h : Host} {answers : List Answer} {reply : StoreReply}
    (hok : (h.step ⟨.openStore, answers⟩).1 = .ok reply) :
    ∃ adopted, Found h.store.limits h (h.step ⟨.openStore, answers⟩).2 adopted := by
  obtain ⟨adopted, scan, hadopt, hscan⟩ := understood_of_open hok
  refine ⟨adopted, ?_⟩
  revert hok
  refine step_ends (Q := fun r h' => r = .ok reply → Found h.store.limits h h' adopted) rfl
    (ends_openStore (h := h.asked answers) hadopt hscan) (fun _ h' hr _ => ?_)
    (fun e h' _ hok => (by cases hok)) fun h' _ hok => (by cases hok)
  obtain ⟨htouched, -, hcases, hok, -⟩ := hr
  obtain ⟨hstore, hfile⟩ := hok rfl
  have hsize := size_of_scanJournal hscan
  obtain ⟨scan', hscan', hle⟩ := scanJournal_of_size hsize ((adopted.map (·.1.sequence)).getD 0)
  rw [hscan] at hscan'
  cases hscan'
  refine ⟨hadopt, by rw [hstore]; rfl, by rw [hstore], by rw [hstore]; rfl,
    by rw [hstore]; rfl, htouched.others, ?_, ?_, ?_⟩
  · refine journalSizeOk_of_le ?_ hsize
    rcases hcases with hcases | hcases
    · rw [hcases]
      exact Nat.le_refl _
    · rw [hcases, resize]
      show (List.take _ ((h.files .journal).getD []) ++ _).length ≤ _
      simp only [List.length_append, List.length_take, List.length_replicate]
      show min _ ((h.files .journal).getD []).length +
        (_ - ((h.files .journal).getD []).length) ≤ _
      omega
  · intro hclosed
    have hmissing : (h.files .journal).isSome = false := by
      rwa [hstore] at hclosed
    have hnone : h.files .journal = none := by simpa using hmissing
    rw [hnone] at hscan
    cases hscan
    have hempty : (h.asked answers).content .journal = [] := by
      show (h.files .journal).getD [] = []
      rw [hnone]
      rfl
    refine ⟨by rw [hstore]; rfl, ?_⟩
    rw [hempty] at hcases
    rcases hcases with hcases | hcases
    · exact hcases
    · rw [hcases]
      rfl
  · rw [hstore]
    exact (le_maximum _ _).1

/-- A directory with understood snapshot files and a journal of an acceptable size can be
opened. -/
theorem recovery_isSome {limits : Limits} {h : Host} {adopted : Option (SnapshotImage × Bool)}
    (hlimits : h.store.limits = limits) (hadopt : adoptSnapshot limits h.files = .ok adopted)
    (hsize : journalSizeOk limits (h.content .journal).length = true) :
    h.recovery.isSome = true := by
  obtain ⟨scan, hscan, -⟩ := scanJournal_of_size hsize
    ((adopted.map (·.1.sequence)).getD 0)
  subst hlimits
  have hstep : ∃ reply, (h.step ⟨.openStore, []⟩).1 = .ok reply := by
    refine step_ends (Q := fun r _ => ∃ reply, r = .ok reply) rfl
      (ends_openStore (h := h.asked []) hadopt hscan) (fun _ h' _ => ⟨_, rfl⟩)
      (fun e h' hr => ?_) fun h' hr => ?_
    · exact absurd (hr.blamed _ rfl).choose_spec (List.not_mem_nil)
    · exact absurd (hr.blamed _ rfl).choose_spec (List.not_mem_nil)
  obtain ⟨reply, hreply⟩ := hstep
  unfold recovery
  rcases hstep : h.step ⟨.openStore, []⟩ with ⟨r, h'⟩
  rw [hstep] at hreply
  cases hreply
  rfl

/-! ## Compaction over a damaged snapshot -/

/-- One of the two snapshot files decodes to one of two images, and the directory can be
opened. -/
structure Preserved (limits : Limits) (h : Host) (old new : SnapshotImage) : Prop where
  decodes : ∃ image, (image = old ∨ image = new) ∧
    (decodeSnapshotFile limits (h.files .primary) = .ok image ∨
      decodeSnapshotFile limits (h.files .previous) = .ok image)
  reopens : h.recovery.isSome = true

/-- One operation fails or is the last one; the ones before it, and after a failure the ones
behind it, are carried out. -/
def Interruption (answers : List Answer) : Prop :=
  ∃ (done : Nat) (answer : Answer), answers = List.replicate done .done ++ [answer]

theorem Holds.preserved {limits : Limits} {h : Host} {image old new : SnapshotImage}
    (hlimits : h.store.limits = limits) (hholds : Holds limits h.files (some image))
    (himage : image = old ∨ image = new)
    (hsize : journalSizeOk limits (h.content .journal).length = true) :
    Preserved limits h old new := by
  obtain ⟨fromPrevious, hadopt⟩ := adoptSnapshot_of_holds hholds
  refine ⟨⟨image, himage, ?_⟩, recovery_isSome hlimits hadopt hsize⟩
  rcases hholds with ⟨_, hsome, hdecode⟩ | ⟨-, ⟨_, hsome, hdecode⟩ | ⟨hsome, -⟩⟩
  · cases hsome
    exact .inl hdecode
  · cases hsome
    exact .inr hdecode
  · cases hsome

/-- A good primary, or none, makes what was adopted what the files hold. -/
theorem holds_of_adoptSnapshot {limits : Limits} {files : StoreFile → Option Bytes}
    {image : SnapshotImage} {fromPrevious : Bool}
    (hadopt : adoptSnapshot limits files = .ok (some (image, fromPrevious)))
    (hprimary : files .primary = none ∨ (decodeSnapshotFile limits (files .primary)).isOk = true) :
    Holds limits files (some image) := by
  unfold adoptSnapshot at hadopt
  cases hdecode : decodeSnapshotFile limits (files .primary) with
  | ok primary =>
      rw [hdecode] at hadopt
      cases hadopt
      exact .inl ⟨image, rfl, hdecode⟩
  | error e =>
      rw [hdecode] at hadopt hprimary
      have hnone : files .primary = none := hprimary.resolve_right (by simp [Except.isOk, Except.toBool])
      cases hprevious : decodeSnapshotFile limits (files .previous) with
      | ok previous =>
          rw [hprevious] at hadopt
          cases hadopt
          exact .inr ⟨hnone, .inl ⟨image, rfl, hprevious⟩⟩
      | error e' =>
          simp only [hprevious] at hadopt
          split at hadopt <;> cases hadopt

/-- With a good primary, or none, a compaction keeps a good snapshot wherever it is cut. -/
theorem preserved_of_compact {limits : Limits} {h : Host} {image : SnapshotImage}
    (hlimits : h.store.limits = limits) (hready : Ready h)
    (hholds : Holds limits h.files (some image))
    (hsize : journalSizeOk limits (h.content .journal).length = true) (state : Buffer)
    (uptoSequence : UInt64) (answers : List Answer) :
    Preserved limits (h.step ⟨.compact state uptoSequence, answers⟩).2 image
      ⟨uptoSequence, state.bytes⟩ := by
  cases hcheck : checkCompact h.store ⟨uptoSequence, state.bytes⟩ with
  | error e =>
      rw [step_compact_refused hcheck]
      exact Holds.preserved (h := h.asked answers) hlimits hholds (.inl rfl) hsize
  | ok u =>
      obtain ⟨-, hfits, -⟩ := checkCompact_ok hcheck
      rw [hlimits] at hfits
      have hdecode := SnapshotImage.decode_encode ⟨uptoSequence, state.bytes⟩ hfits state.size_lt
      have hcut {t : Host} (hlimits : t.store.limits = limits)
          (hplaced : Placed (SnapshotImage.encode ⟨uptoSequence, state.bytes⟩) h.files t.files)
          (hcases : t.content .journal = h.content .journal ∨ t.content .journal = [] ∧
            t.files .primary = some (SnapshotImage.encode ⟨uptoSequence, state.bytes⟩)) :
          Preserved limits t image ⟨uptoSequence, state.bytes⟩ := by
        have hsize' : journalSizeOk limits (t.content .journal).length = true := by
          rcases hcases with hcases | ⟨hcases, -⟩
          · rwa [hcases]
          · rw [hcases]
            exact journalSizeOk_of_le (Nat.zero_le _) hsize
        rcases hholds.placed hdecode hplaced with ⟨-, hholds'⟩ | ⟨-, hholds'⟩
        · exact hholds'.preserved hlimits (.inr rfl) hsize'
        · exact hholds'.preserved hlimits (.inl rfl) hsize'
      refine step_ends (Q := fun _ h' => Preserved limits h' image ⟨uptoSequence, state.bytes⟩) rfl
        (ends_compact (h := h.asked answers) hready hcheck) (fun _ h' hr => ?_) (fun e h' hr => ?_)
        fun h' hr => ?_
      · obtain ⟨-, hplaced, hcases, hok, -⟩ := hr
        obtain ⟨-, -, -, hstore⟩ := hok rfl
        exact hcut (by rw [hstore]; exact hlimits) hplaced hcases
      · obtain ⟨-, hplaced, hcases, -, herror⟩ := hr
        refine hcut ?_ hplaced hcases
        rcases herror _ rfl with hstore | hstore <;> rw [hstore] <;> exact hlimits
      · obtain ⟨-, hplaced, hcases, -, herror⟩ := hr
        refine hcut (t := h'.crashed) ?_ hplaced hcases
        show h'.store.limits = limits
        rcases herror _ rfl with hstore | hstore <;> rw [hstore] <;> exact hlimits

/-! ## Where it goes wrong -/

theorem exec_onDisk {α : Type} (x : Action (Volume StoreFile) (Halt Error) α) (h : Host) :
    (onDisk x).exec h = ((x.exec h.volume).1, { h with volume := (x.exec h.volume).2 }) := rfl

theorem exec_operate (effect : Volume StoreFile → Volume StoreFile)
    (cut : Nat → Volume StoreFile → Volume StoreFile) (e : Error) (v : Volume StoreFile) :
    (Volume.operate effect cut e).exec v =
      match v.answers.headD .done with
      | .done => (.ok (), effect v.next)
      | .failed part => (.error (.refused e), cut part v.next)
      | .stopped part => (.error .stopped, cut part v.next) := rfl

/-- The operation consists of `n` file operations, and succeeds if they are carried out. -/
def Proceeds (x : Operation Unit) (n : Nat) : Prop :=
  ∀ (h : Host) (rest : List Answer), h.volume.answers = List.replicate n .done ++ rest →
    ∃ h', x.exec h = (.ok (), h') ∧ h'.volume.answers = rest

theorem Proceeds.operate {effect : Volume StoreFile → Volume StoreFile}
    (heffect : ∀ v, (effect v).answers = v.answers)
    (cut : Nat → Volume StoreFile → Volume StoreFile) (e : Error) :
    Proceeds (onDisk (Volume.operate effect cut e)) 1 := by
  intro h rest hanswers
  have hanswers : h.volume.answers = .done :: rest := hanswers
  refine ⟨h.under effect, ?_, ?_⟩
  · rw [exec_onDisk, exec_operate, hanswers]
    rfl
  · show (effect h.volume.next).answers = rest
    rw [heffect, Volume.next, hanswers]
    rfl

theorem Proceeds.bind {x y : Operation Unit} {m n : Nat} (hx : Proceeds x m) (hy : Proceeds y n) :
    Proceeds (x >>= fun _ => y) (m + n) := by
  intro h rest hanswers
  rw [List.replicate_add, List.append_assoc] at hanswers
  obtain ⟨h₁, hexec₁, hanswers₁⟩ := hx h _ hanswers
  obtain ⟨h₂, hexec₂, hanswers₂⟩ := hy h₁ rest hanswers₁
  exact ⟨h₂, by rw [exec_bind_of_ok hexec₁, hexec₂], hanswers₂⟩

theorem Proceeds.onRefusal {x : Operation Unit} {n : Nat} (hx : Proceeds x n)
    (f : Error → Operation Unit) : Proceeds (x.onRefusal f) n := by
  intro h rest hanswers
  obtain ⟨h', hexec, hanswers'⟩ := hx h rest hanswers
  exact ⟨h', by rw [exec_onRefusal, hexec], hanswers'⟩

theorem proceeds_writeAll (file : StoreFile) (data : Bytes) (what : String) :
    Proceeds (writeAll file data what) (if data = [] then 0 else 1) := by
  unfold writeAll Volume.write
  by_cases hdata : data = []
  · rw [if_pos hdata, if_pos hdata]
    exact fun h rest hanswers => ⟨h, rfl, by simpa using hanswers⟩
  · rw [if_neg hdata, if_neg hdata]
    exact Proceeds.operate (local_writeThrough file data).answers _ _

/-- How many operations writing a snapshot aside takes. -/
def temporaryWrites (image : SnapshotImage) : Nat := 3 + if image.payload = [] then 0 else 1

theorem proceeds_writeTemporary (image : SnapshotImage) :
    Proceeds (writeTemporary image) (temporaryWrites image) := by
  have hheader : image.header ≠ [] := by
    intro hnil
    have := congrArg List.length hnil
    simp at this
  have hempty (v : Volume StoreFile) :
      ((v.put .temporary []).point .temporary 0).answers = v.answers := rfl
  have hcreate : Proceeds (createForWrite .temporary "snapshot temporary file") 1 := by
    unfold createForWrite Volume.create Volume.atomic
    exact Proceeds.operate hempty _ _
  have hflush : Proceeds (flushFile "snapshot") 1 := by
    unfold flushFile Volume.flush Volume.atomic
    exact Proceeds.operate (fun _ => rfl) _ _
  have hwrite := (proceeds_writeAll .temporary image.header "snapshot header").bind
    ((proceeds_writeAll .temporary image.payload "snapshot payload").bind hflush)
  rw [if_neg hheader] at hwrite
  have hall := hcreate.bind (hwrite.onRefusal fun e => do
    removeQuietly .temporary
    throw (.refused (persistenceFailure e.detail)))
  have hcount : temporaryWrites image = 1 + (1 + ((if image.payload = [] then 0 else 1) + 1)) := by
    unfold temporaryWrites
    omega
  rw [hcount]
  exact hall

/-- If the process stops between the two renames, the old primary is the only snapshot left. -/
theorem exec_compact_between {h : Host} {image : SnapshotImage}
    (hcheck : checkCompact h.store image = .ok ()) (hpresent : (h.files .primary).isSome = true)
    (hanswers : h.volume.answers =
      List.replicate (temporaryWrites image) .done ++ [.done, .stopped 0]) :
    ∃ h', (compact image).exec h = (.error .stopped, h') ∧ h'.files .primary = none ∧
      h'.files .previous = h.files .primary := by
  obtain ⟨h₁, hexec₁, hanswers₁⟩ := proceeds_writeTemporary image h _ hanswers
  have hwritten := affects_writeTemporary h image
  unfold Affects Ends at hwritten
  rw [hexec₁] at hwritten
  obtain ⟨hframe, -, -⟩ := hwritten
  have hprimary : h₁.files .primary = h.files .primary := hframe.others .primary (by decide)
  let aside : Host := h₁.under fun v => { v with
    files := Function.update (Function.update v.files .previous (v.files .primary)) .primary none }
  have hanswers₂ : aside.volume.answers = [.stopped 0] := by
    show h₁.volume.answers.tail = _
    rw [hanswers₁]
    rfl
  have hrename₁ (e : Error) : (onDisk (Volume.rename .primary .previous e)).exec h₁ =
      (.ok (), aside) := by
    rw [Volume.rename, Volume.atomic, exec_onDisk, exec_operate, hanswers₁]
    rfl
  have hrename₂ (e : Error) : (onDisk (Volume.rename .temporary .primary e)).exec aside =
      (.error .stopped, aside.under id) := by
    rw [Volume.rename, Volume.atomic, exec_onDisk, exec_operate, hanswers₂]
    rfl
  have hreplace : (replaceFile .temporary .primary .previous).exec h₁ =
      (.error .stopped, aside.under id) := by
    unfold replaceFile
    rw [exec_bind_of_ok (exec_get _), runIf, if_pos (by rw [hprimary]; exact hpresent),
      exec_bind_of_ok (hrename₁ _), hrename₂]
  refine ⟨aside.under id, ?_, ?_, ?_⟩
  · unfold compact installTemporary
    rw [exec_bind_of_ok (exec_get _), hcheck]
    show (writeTemporary image >>= _).exec h = _
    rw [exec_bind_of_ok hexec₁]
    exact exec_bind_of_error (by rw [exec_onRefusal, hreplace])
  · show Function.update (Function.update h₁.files .previous (h₁.files .primary)) .primary none
      .primary = none
    simp
  · show Function.update (Function.update h₁.files .previous (h₁.files .primary)) .primary none
      .previous = h.files .primary
    simpa using hprimary

/-- What `open` adopted is in one of the two files. -/
theorem decodes_of_adoptSnapshot {limits : Limits} {files : StoreFile → Option Bytes}
    {image : SnapshotImage} {fromPrevious : Bool}
    (hadopt : adoptSnapshot limits files = .ok (some (image, fromPrevious))) :
    decodeSnapshotFile limits (files .primary) = .ok image ∨
      decodeSnapshotFile limits (files .previous) = .ok image := by
  unfold adoptSnapshot at hadopt
  cases hprimary : decodeSnapshotFile limits (files .primary) with
  | ok primary =>
      rw [hprimary] at hadopt
      cases hadopt
      exact .inl rfl
  | error e =>
      rw [hprimary] at hadopt
      cases hprevious : decodeSnapshotFile limits (files .previous) with
      | ok previous =>
          rw [hprevious] at hadopt
          cases hadopt
          exact .inr rfl
      | error e' =>
          simp only [hprevious] at hadopt
          split at hadopt <;> cases hadopt

theorem adopted_eq_some {h : Host} {image : SnapshotImage} :
    h.adopted = some image ↔
      ∃ fromPrevious, adoptSnapshot h.store.limits h.files = .ok (some (image, fromPrevious)) := by
  unfold adopted
  constructor
  · intro hadopted
    split at hadopted
    · next fromPrevious hadopt =>
        cases hadopted
        exact ⟨fromPrevious, hadopt⟩
    · cases hadopted
  · rintro ⟨fromPrevious, hadopt⟩
    rw [hadopt]

/-- A refused compaction leaves what `open` adopted. -/
theorem Found.preserved_of_refused {limits : Limits} {h h' : Host} {image new : SnapshotImage}
    {fromPrevious : Bool} (hfound : Found limits h h' (some (image, fromPrevious)))
    (answers : List Answer) : Preserved limits (h'.asked answers) image new := by
  have hadopt : adoptSnapshot limits (h'.asked answers).files = .ok (some (image, fromPrevious)) := by
    rw [← hfound.adopts]
    exact adoptSnapshot_congr hfound.others
  exact ⟨⟨image, .inl rfl, decodes_of_adoptSnapshot hadopt⟩,
    recovery_isSome hfound.limits_eq hadopt hfound.size⟩

/-- A compaction keeps a good snapshot at every interruption exactly when the primary file is
missing or decodes, or the new state is too large to be compacted at all. -/
theorem snapshot_preserved_iff (limits : Limits) (files : StoreFile → Option Bytes)
    {image : SnapshotImage} {opening : List Answer}
    (hopen : ((on limits files).step ⟨.openStore, opening⟩).1 = .ok .opened)
    (hadopted : (on limits files).adopted = some image) (state : Buffer) :
    let h := ((on limits files).step ⟨.openStore, opening⟩).2
    (∀ answers, Interruption answers →
      Preserved limits (h.step ⟨.compact state h.store.lastSequence, answers⟩).2 image
        ⟨h.store.lastSequence, state.bytes⟩) ↔
    (files .primary = none ∨ (decodeSnapshotFile limits (files .primary)).isOk = true ∨
      limits.maxStateBytes.toNat < state.bytes.length) := by
  intro h
  obtain ⟨adopted, hfound⟩ := found_of_open hopen
  obtain ⟨fromPrevious, hadopt⟩ := adopted_eq_some.mp hadopted
  have hsome := hfound.adopts.symm.trans hadopt
  cases hsome
  change Found limits (on limits files) h _ at hfound
  have hprimary : h.files .primary = files .primary := hfound.others .primary (by decide)
  constructor
  · intro hpreserved
    by_contra hbad
    obtain ⟨hpresent, hdamaged, hfits⟩ : files .primary ≠ none ∧
        ¬(decodeSnapshotFile limits (files .primary)).isOk = true ∧
        ¬limits.maxStateBytes.toNat < state.bytes.length := by
      simpa [not_or] using hbad
    have hcheck : checkCompact h.store ⟨h.store.lastSequence, state.bytes⟩ = .ok () := by
      have hsequence := UInt64.not_lt.mpr hfound.sequence
      simp only [checkCompact, hfound.opened, hfound.limits_eq]
      rw [refuseIf_of_not (by simp), ok_bind, refuseIf_of_not hfits, ok_bind,
        refuseIf_of_not (by simpa using hsequence)]
    let writes := temporaryWrites ⟨h.store.lastSequence, state.bytes⟩
    let answers := List.replicate writes Answer.done ++ [.done, .stopped 0]
    obtain ⟨h', hexec, hnone, hmoved⟩ := exec_compact_between (h := h.asked answers) hcheck
      (by
          show (h.files .primary).isSome = true
          rw [hprimary]
          exact Option.isSome_iff_ne_none.mpr hpresent)
      rfl
    have hstep : (h.step ⟨.compact state h.store.lastSequence, answers⟩).2 = h'.crashed := by
      simp [step, StoreCall.operation, hexec]
    have hcut := hpreserved answers ⟨writes + 1, .stopped 0, by
      simp [answers, List.replicate_succ', List.append_assoc]⟩
    rw [hstep] at hcut
    obtain ⟨kept, -, hdecode | hdecode⟩ := hcut.decodes
    · have hdecode : decodeSnapshotFile limits (h'.files .primary) = .ok kept := hdecode
      rw [hnone] at hdecode
      cases hdecode
    · have hdecode : decodeSnapshotFile limits (h'.files .previous) = .ok kept := hdecode
      rw [hmoved] at hdecode
      have hdecode : decodeSnapshotFile limits (h.files .primary) = .ok kept := hdecode
      rw [hprimary] at hdecode
      exact hdamaged (by rw [hdecode]; rfl)
  · rintro hgood answers -
    by_cases hfits : limits.maxStateBytes.toNat < state.bytes.length
    · have hcheck : ∃ e, checkCompact h.store ⟨h.store.lastSequence, state.bytes⟩ = .error e := by
        cases hcheck : checkCompact h.store ⟨h.store.lastSequence, state.bytes⟩ with
        | error e => exact ⟨e, rfl⟩
        | ok u =>
            obtain ⟨-, hsize, -⟩ := checkCompact_ok hcheck
            rw [hfound.limits_eq] at hsize
            exact absurd hfits (Nat.not_lt.mpr hsize)
      obtain ⟨e, hcheck⟩ := hcheck
      rw [step_compact_refused hcheck]
      exact hfound.preserved_of_refused answers
    · have hgood : h.files .primary = none ∨
          (decodeSnapshotFile limits (h.files .primary)).isOk = true := by
        rw [hprimary]
        exact hgood.imp id fun hgood => hgood.resolve_right hfits
      have hadopt' : adoptSnapshot limits h.files = .ok (some (image, fromPrevious)) :=
        (adoptSnapshot_congr hfound.others).trans hadopt
      exact preserved_of_compact hfound.limits_eq hfound.ready (holds_of_adoptSnapshot hadopt' hgood)
        hfound.size state _ answers

/-- A directory whose primary file has the given bytes, beside a good previous snapshot. -/
def besidePrevious (primary : Option Bytes) (previous : SnapshotImage) : StoreFile → Option Bytes
  | .primary => primary
  | .previous => some previous.encode
  | _ => none

/-- With the primary missing, every interruption leaves the adopted snapshot or the new one. -/
theorem snapshot_preserved_iff_small :
    let h := ((on {} (besidePrevious none ⟨0, [7]⟩)).step ⟨.openStore, []⟩).2
    ∀ answers, Interruption answers →
      Preserved {} (h.step ⟨.compact ⟨[8], by decide⟩ h.store.lastSequence, answers⟩).2 ⟨0, [7]⟩
        ⟨h.store.lastSequence, [8]⟩ :=
  have hopened : ((on {} (besidePrevious none ⟨0, [7]⟩)).step ⟨.openStore, []⟩).1 = .ok .opened ∧
      (on {} (besidePrevious none ⟨0, [7]⟩)).adopted = some ⟨0, [7]⟩ := by decide +kernel
  (snapshot_preserved_iff {} _ hopened.1 hopened.2 ⟨[8], by decide⟩).mpr (.inl rfl)

/-- A damaged primary is moved over the only good snapshot; the process stops before the new
one is in place. -/
theorem snapshot_destroyed :
    let h := ((on {} (besidePrevious (some [0]) ⟨0, [7]⟩)).step ⟨.openStore, []⟩).2
    ((on {} (besidePrevious (some [0]) ⟨0, [7]⟩)).step ⟨.openStore, []⟩).1 = .ok .opened ∧
      (on {} (besidePrevious (some [0]) ⟨0, [7]⟩)).adopted = some ⟨0, [7]⟩ ∧
      ∃ answers, Interruption answers ∧
        ¬Preserved {} (h.step ⟨.compact ⟨[8], by decide⟩ h.store.lastSequence, answers⟩).2 ⟨0, [7]⟩
          ⟨h.store.lastSequence, [8]⟩ := by
  have hopened : ((on {} (besidePrevious (some [0]) ⟨0, [7]⟩)).step ⟨.openStore, []⟩).1 =
        .ok .opened ∧
      (on {} (besidePrevious (some [0]) ⟨0, [7]⟩)).adopted = some ⟨0, [7]⟩ := by decide +kernel
  refine ⟨hopened.1, hopened.2, List.replicate 5 .done ++ [.stopped 0], ⟨5, _, rfl⟩,
    fun hpreserved => ?_⟩
  have hlost := hpreserved.reopens
  revert hlost
  decide +kernel

/-! ## The start of the coordinator process -/

/-- What `main` hands to `recover`. -/
structure RecoveryInput where
  snapshot : Bytes
  journal : List Bytes
  historyIncomplete : Bool
  deriving DecidableEq, Repr

/-- The recovery path of `main` up to its call of `recover`; there is none when the store
found nothing. -/
def recoveryInput (h : Host) : Result (Option RecoveryInput) :=
  let report := h.store.report
  if report.snapshotLoaded ∨ h.store.records ≠ [] then do
    let snapshot ← if report.snapshotLoaded then readSnapshot h.store.limits (h.files .primary)
      else .ok []
    pure (some ⟨snapshot, h.store.records, report.revalidationRequired⟩)
  else .ok none

/-- The recovery path of `main`, on the coordinator it has just made. -/
def startup (h : Host) (c : Coordinator) : Status × Coordinator :=
  match h.recoveryInput with
  | .error e => (.error e, c)
  | .ok none => (.ok (), c)
  | .ok (some input) =>
    (Coordinator.recover input.snapshot input.journal input.historyIncomplete).exec c

/-- The process resumes from a snapshot, with the records behind it. -/
structure ResumesFrom (h : Host) (image : SnapshotImage) : Prop where
  continues : h.store.snapshotSequence = image.sequence
  input : h.recoveryInput =
    .ok (some ⟨image.payload, h.store.records, h.store.report.revalidationRequired⟩)
  recovers : ∀ c, h.startup c = (Coordinator.recover image.payload h.store.records
    h.store.report.revalidationRequired).exec c

/-- A loaded snapshot is read from the primary file. -/
theorem recoveryInput_of_loaded {h : Host} (hloaded : h.store.report.snapshotLoaded = true) :
    h.recoveryInput = (decodeSnapshotFile h.store.limits (h.files .primary)).map fun image =>
      some ⟨image.payload, h.store.records, h.store.report.revalidationRequired⟩ := by
  unfold recoveryInput readSnapshot
  simp only [hloaded, true_or, if_true]
  cases decodeSnapshotFile h.store.limits (h.files .primary) <;> rfl

/-- The process resumes from what the store adopted exactly when the primary file decodes. -/
theorem resumes_from_adopted_iff (limits : Limits) (files : StoreFile → Option Bytes)
    {image : SnapshotImage} {opening : List Answer}
    (hopen : ((on limits files).step ⟨.openStore, opening⟩).1 = .ok .opened)
    (hadopted : (on limits files).adopted = some image) :
    ((on limits files).step ⟨.openStore, opening⟩).2.ResumesFrom image ↔
      (decodeSnapshotFile limits (files .primary)).isOk = true := by
  obtain ⟨adopted, hfound⟩ := found_of_open hopen
  obtain ⟨fromPrevious, hadopt⟩ := adopted_eq_some.mp hadopted
  have hsome := hfound.adopts.symm.trans hadopt
  cases hsome
  generalize ((on limits files).step ⟨.openStore, opening⟩).2 = h at hfound
  change Found limits (on limits files) h _ at hfound
  have hprimary : h.files .primary = files .primary := hfound.others .primary (by decide)
  have hinput := recoveryInput_of_loaded hfound.report
  rw [hfound.limits_eq, hprimary] at hinput
  have hadopt : adoptSnapshot limits files = .ok (some (image, fromPrevious)) := hadopt
  unfold adoptSnapshot at hadopt
  cases hdecode : decodeSnapshotFile limits (files .primary) with
  | ok primary =>
      rw [hdecode] at hadopt hinput
      cases hadopt
      have hinput : h.recoveryInput =
        .ok (some ⟨image.payload, h.store.records, h.store.report.revalidationRequired⟩) := hinput
      exact ⟨fun _ => rfl, fun _ => ⟨hfound.continues, hinput, fun c => by rw [startup, hinput]⟩⟩
  | error e =>
      rw [hdecode] at hinput
      constructor
      · intro hresumes
        cases hinput.symm.trans hresumes.input
      · intro hok
        cases hok

/-- A snapshot that was not disturbed is the one the process resumes from. -/
theorem resumes_from_adopted_iff_small :
    ((on {} (besidePrevious (some (SnapshotImage.encode ⟨0, [8]⟩)) ⟨0, [7]⟩)).step
      ⟨.openStore, []⟩).2.ResumesFrom ⟨0, [8]⟩ :=
  have hopened : ((on {} (besidePrevious (some (SnapshotImage.encode ⟨0, [8]⟩)) ⟨0, [7]⟩)).step
        ⟨.openStore, []⟩).1 = .ok .opened ∧
      (on {} (besidePrevious (some (SnapshotImage.encode ⟨0, [8]⟩)) ⟨0, [7]⟩)).adopted =
        some ⟨0, [8]⟩ ∧
      (decodeSnapshotFile {} (some (SnapshotImage.encode ⟨0, [8]⟩))).isOk = true := by
    decide +kernel
  (resumes_from_adopted_iff {} _ hopened.1 hopened.2.1).mpr hopened.2.2

/-- The state an interrupted compaction leaves: the store adopts the previous snapshot, and the
process refuses to start because there is no primary one. -/
theorem startup_misses_previous :
    let h := ((on {} (besidePrevious none ⟨0, [7]⟩)).step ⟨.openStore, []⟩).2
    ((on {} (besidePrevious none ⟨0, [7]⟩)).step ⟨.openStore, []⟩).1 = .ok .opened ∧
      h.store.report.snapshotLoaded = true ∧
      (on {} (besidePrevious none ⟨0, [7]⟩)).adopted = some ⟨0, [7]⟩ ∧ ¬h.ResumesFrom ⟨0, [7]⟩ := by
  have hopened : ((on {} (besidePrevious none ⟨0, [7]⟩)).step ⟨.openStore, []⟩).1 = .ok .opened ∧
      ((on {} (besidePrevious none ⟨0, [7]⟩)).step ⟨.openStore, []⟩).2.store.report.snapshotLoaded =
        true ∧
      (on {} (besidePrevious none ⟨0, [7]⟩)).adopted = some ⟨0, [7]⟩ := by
    decide +kernel
  refine ⟨hopened.1, hopened.2.1, hopened.2.2, fun hresumes => ?_⟩
  have hinput := hresumes.input
  revert hinput
  decide +kernel

end Host

end ShuffleFabric
