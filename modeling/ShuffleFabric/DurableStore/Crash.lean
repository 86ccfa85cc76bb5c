import ShuffleFabric.DurableStore.Steps
import ShuffleFabric.Lib.Run

/-!
# ShuffleFabric.DurableStore.Crash

Whole lives of a state directory: every sequence of `open`, `append` and `compact`
calls, with any operation failing and the process stopping anywhere.

`Sound` is what holds of the directory and of the store object after every call: which
snapshot the files hold, which records the journal holds, and what may follow them.
The calls move along it, and what a later `open` recovers is read off it.
-/

namespace ShuffleFabric

open Lib Action

/-! ## The machine -/

/-- A byte buffer of the process: no object is larger than half the address space. -/
structure Buffer where
  bytes : Bytes
  size_lt : bytes.length < 2 ^ 63

/-- A call of the store. -/
inductive StoreCall where
  | openStore
  | append (payload : Bytes)
  | compact (state : Buffer) (uptoSequence : UInt64)

/-- A call, and how the system answers its file operations. -/
structure StoreInput where
  call : StoreCall
  answers : List Answer

/-- What a call returns. -/
inductive StoreReply where
  | opened
  | appended (sequence : UInt64)
  | compacted
  deriving DecidableEq, Repr

namespace StoreCall

/-- The operation a call of the store runs. -/
def operation : StoreCall → Operation StoreReply
  | openStore => (fun _ => .opened) <$> Host.openStore
  | append payload => .appended <$> Host.append payload
  | compact state uptoSequence => (fun _ => .compacted) <$> Host.compact ⟨uptoSequence, state.bytes⟩

end StoreCall

namespace Host

/-- An empty directory, and no store open on it. -/
def empty (limits : Limits) : Host := ⟨{ limits := limits }, ⟨fun _ => none, fun _ => 0, []⟩⟩

/-- The system will answer so. -/
def asked (h : Host) (answers : List Answer) : Host :=
  { h with volume := { h.volume with answers := answers } }

/-- The process is gone: what it had in memory is lost. -/
def crashed (h : Host) : Host := { h with store := { limits := h.store.limits } }

/-- One call; if the process stops in it, only the files are left. -/
def step (h : Host) (i : StoreInput) : Except (Halt Error) StoreReply × Host :=
  match i.call.operation.exec (h.asked i.answers) with
  | (.error .stopped, h') => (.error .stopped, h'.crashed)
  | (r, h') => (r, h')

/-! ## What holds after every call -/

/-- The sequence a snapshot was taken at; 0 when there is none. -/
def sequenceOf (base : Option SnapshotImage) : UInt64 := (base.map (·.sequence)).getD 0

/-- The directory holds a snapshot, and a journal of whole records with the front part of
one more behind them. -/
structure OnDisk (limits : Limits) (files : StoreFile → Option Bytes)
    (base : Option SnapshotImage) (entries : List JournalEntry) (torn : Bytes) : Prop where
  holds : Holds limits files base
  journal : (files .journal).getD [] = journalImage entries ++ torn
  torn : ∃ (next : JournalEntry) (k : Nat),
    next.Fits limits ∧ k < next.encode.length ∧ torn = next.encode.take k
  fits : ∀ entry ∈ entries, entry.Fits limits
  rising : Rising 0 entries
  size : journalSizeOk limits ((files .journal).getD []).length = true

/-- What an open store knows of its directory. -/
structure Live (h : Host) (base : Option SnapshotImage) (entries extra : List JournalEntry)
    (torn : Bytes) : Prop where
  ready : Ready h
  entries_le : ∀ entry ∈ entries, entry.sequence ≤ h.store.lastSequence
  base_le : sequenceOf base ≤ h.store.lastSequence
  clean : h.store.journalDegraded = false → torn = [] ∧ extra = []

/-- The directory holds a snapshot, the records in `entries`, and at most one record more
that was never acknowledged. -/
structure Sound (limits : Limits) (h : Host) (base : Option SnapshotImage)
    (entries extra : List JournalEntry) (torn : Bytes) : Prop where
  limits_eq : h.store.limits = limits
  disk : OnDisk limits h.files base (entries ++ extra) torn
  single : extra.length ≤ 1
  live : h.store.opened = true → Live h base entries extra torn

/-! ## What `open` recovers -/

/-- The snapshot files decide what is adopted. -/
theorem adoptSnapshot_congr {limits : Limits} {files files' : StoreFile → Option Bytes}
    (h : ∀ f, f ≠ .journal → files' f = files f) :
    adoptSnapshot limits files' = adoptSnapshot limits files := by
  unfold adoptSnapshot
  rw [h .primary (by decide), h .previous (by decide)]

/-- A shorter journal is within the bound that a longer one keeps. -/
theorem journalSizeOk_of_le {limits : Limits} {m n : Nat} (hle : m ≤ n)
    (h : journalSizeOk limits n = true) : journalSizeOk limits m = true := by
  unfold journalSizeOk at h ⊢
  cases hbound : checkedMul limits.maxStateBytes 4 with
  | error e => simp
  | ok bound =>
      simp only [hbound, decide_eq_true_eq] at h ⊢
      omega

/-- An entry takes at least one byte. -/
theorem length_le_journalImage (entries : List JournalEntry) :
    entries.length ≤ (journalImage entries).length := by
  induction entries with
  | nil => simp
  | cons entry entries ih =>
      rw [journalImage_cons, List.length_append, JournalEntry.length_encode, List.length_cons]
      omega

/-- What is on disk is what the scan finds. -/
theorem OnDisk.scanned {limits : Limits} {files : StoreFile → Option Bytes}
    {base : Option SnapshotImage} {entries : List JournalEntry} {torn : Bytes}
    (h : OnDisk limits files base entries torn) (snapshotSequence : UInt64) :
    ∃ scan, scanJournal limits (files .journal) snapshotSequence = .ok scan ∧
      scan.records = replayed snapshotSequence entries ∧
      scan.lastSequence = lastOf 0 entries ∧
      scan.replayableBytes = (journalImage entries).length := by
  cases hfile : files .journal with
  | none =>
      have hempty : journalImage entries ++ torn = [] := by
        rw [← h.journal, hfile]
        rfl
      have himage : journalImage entries = [] := (List.append_eq_nil_iff.mp hempty).1
      cases entries with
      | nil => exact ⟨_, rfl, rfl, rfl, rfl⟩
      | cons entry entries =>
          have hlength := congrArg List.length himage
          simp at hlength
  | some bytes =>
      obtain ⟨next, k, hnext, hk, htorn⟩ := h.torn
      have hbytes : bytes = journalImage entries ++ next.encode.take k := by
        rw [← htorn, ← h.journal, hfile]
        rfl
      have hsize : journalSizeOk limits bytes.length = true := by
        have := h.size
        rwa [hfile] at this
      have hfuel : entries.length < bytes.length + 1 := by
        have := length_le_journalImage entries
        rw [hbytes, List.length_append]
        omega
      have hrising : Rising ({} : JournalScan).lastSequence entries := h.rising
      obtain ⟨hrecords, hlast, hreplayable⟩ :=
        scanFrames_image hnext hk snapshotSequence h.fits hfuel hrising
      rw [← hbytes] at hrecords hlast hreplayable
      refine ⟨scanFrames limits snapshotSequence (bytes.length + 1) bytes {}, ?_, ?_, hlast, ?_⟩
      · simp only [scanJournal, hsize, not_true_eq_false, not_false_eq_true, refuseIf_of_not, ok_bind]
        rfl
      · simpa using hrecords
      · simpa using hreplayable

/-- One more record, or the front part of one. -/
theorem OnDisk.extended {limits : Limits} {files files' : StoreFile → Option Bytes}
    {base : Option SnapshotImage} {entries : List JournalEntry}
    (h : OnDisk limits files base entries []) {entry : JournalEntry} (hfits : entry.Fits limits)
    (hlast : lastOf 0 entries < entry.sequence) (hprimary : files' .primary = files .primary)
    (hprevious : files' .previous = files .previous)
    (hroom : journalSizeOk limits
      (((files .journal).getD []).length + journalHeaderBytes + entry.payload.length) = true)
    {n : Nat}
    (hjournal : (files' .journal).getD [] = (files .journal).getD [] ++ entry.encode.take n) :
    ∃ extra torn, extra.length ≤ 1 ∧ (entry.encode.length ≤ n → extra = [entry] ∧ torn = []) ∧
      OnDisk limits files' base (entries ++ extra) torn := by
  have hsize : journalSizeOk limits ((files' .journal).getD []).length = true := by
    refine journalSizeOk_of_le ?_ hroom
    have := entry.encode.length_take_le n
    rw [hjournal, List.length_append, List.length_take, JournalEntry.length_encode,
      journalHeaderBytes]
    omega
  have hcontent := h.journal
  rw [List.append_nil] at hcontent
  rw [hcontent] at hjournal
  by_cases hn : n < entry.encode.length
  · refine ⟨[], entry.encode.take n, by simp, fun hle => absurd hle (by omega), ?_⟩
    rw [List.append_nil]
    exact ⟨h.holds.congr hprimary hprevious, hjournal, ⟨entry, n, hfits, hn, rfl⟩, h.fits, h.rising,
      hsize⟩
  · rw [List.take_of_length_le (by omega)] at hjournal
    refine ⟨[entry], [], by simp, fun _ => ⟨rfl, rfl⟩, h.holds.congr hprimary hprevious, ?_,
      ⟨entry, 0, hfits, by simp, by simp⟩, ?_, h.rising.snoc hlast, hsize⟩
    · rw [hjournal, journalImage_append, List.append_nil]
      simp
    · intro e he
      rcases List.mem_append.mp he with he | he
      · exact h.fits e he
      · rw [List.mem_singleton.mp he]
        exact hfits

/-! ## The calls -/

/-- What a call leaves behind, from what its operation ends with. -/
theorem step_ends {α : Type} {h : Host} {i : StoreInput} {x : Operation α} {f : α → StoreReply}
    (hx : i.call.operation = f <$> x) {R : Except (Halt Error) α → Host → Prop}
    {Q : Except (Halt Error) StoreReply → Host → Prop} (hends : x.Ends (h.asked i.answers) R)
    (hok : ∀ a h', R (.ok a) h' → Q (.ok (f a)) h')
    (hrefused : ∀ e h', R (.error (.refused e)) h' → Q (.error (.refused e)) h')
    (hstopped : ∀ h', R (.error .stopped) h' → Q (.error .stopped) h'.crashed) :
    Q (h.step i).1 (h.step i).2 := by
  unfold Ends at hends
  unfold step
  rw [hx, exec_map]
  rcases hexec : x.exec (h.asked i.answers) with ⟨r, h'⟩
  rw [hexec] at hends
  cases r with
  | ok a => exact hok a h' hends
  | error halt =>
      cases halt with
      | refused e => exact hrefused e h' hends
      | stopped => exact hstopped h' hends

/-- A store that has just been opened on its directory. -/
structure Reopened (limits : Limits) (h : Host) (base : Option SnapshotImage)
    (entries : List JournalEntry) : Prop where
  sound : Sound limits h base entries [] []
  aligned : Aligned h
  opened : h.store.opened = true
  intact : h.store.journalDegraded = false
  records : h.store.records = replayed (sequenceOf base) entries

/-- Nothing follows the whole records. -/
theorem OnDisk.trimmed {limits : Limits} {files files' : StoreFile → Option Bytes}
    {base : Option SnapshotImage} {entries : List JournalEntry} {torn : Bytes}
    (h : OnDisk limits files base entries torn) (hprimary : files' .primary = files .primary)
    (hprevious : files' .previous = files .previous)
    (hjournal : (files' .journal).getD [] = journalImage entries) :
    OnDisk limits files' base entries [] := by
  obtain ⟨next, k, hnext, hk, -⟩ := h.torn
  refine ⟨h.holds.congr hprimary hprevious, by rw [hjournal, List.append_nil],
    ⟨next, 0, hnext, by omega, by simp⟩, h.fits, h.rising, ?_⟩
  have hsize := h.size
  rw [h.journal, List.length_append] at hsize
  rw [hjournal]
  exact journalSizeOk_of_le (by omega) hsize

/-- The same journal below other snapshot files. -/
theorem OnDisk.rebased {limits : Limits} {files files' : StoreFile → Option Bytes}
    {base base' : Option SnapshotImage} {entries : List JournalEntry} {torn : Bytes}
    (h : OnDisk limits files base entries torn) (hholds : Holds limits files' base')
    (hjournal : (files' .journal).getD [] = (files .journal).getD []) :
    OnDisk limits files' base' entries torn :=
  ⟨hholds, hjournal.trans h.journal, h.torn, h.fits, h.rising, by rw [hjournal]; exact h.size⟩

/-- The files decide what is on disk. -/
theorem OnDisk.congr {limits : Limits} {files files' : StoreFile → Option Bytes}
    {base : Option SnapshotImage} {entries : List JournalEntry} {torn : Bytes}
    (h : OnDisk limits files base entries torn) (hprimary : files' .primary = files .primary)
    (hprevious : files' .previous = files .previous)
    (hjournal : (files' .journal).getD [] = (files .journal).getD []) :
    OnDisk limits files' base entries torn :=
  h.rebased (h.holds.congr hprimary hprevious) hjournal

/-- An empty journal over any snapshot. -/
theorem OnDisk.emptied {limits : Limits} {files files' : StoreFile → Option Bytes}
    {base base' : Option SnapshotImage} {entries : List JournalEntry} {torn : Bytes}
    (h : OnDisk limits files base entries torn) (hholds : Holds limits files' base')
    (hjournal : (files' .journal).getD [] = []) : OnDisk limits files' base' [] [] := by
  obtain ⟨next, k, hnext, hk, -⟩ := h.torn
  refine ⟨hholds, hjournal, ⟨next, 0, hnext, by omega, by simp⟩, fun _ he => (by cases he), ?_, ?_⟩
  · simp [Rising]
  · rw [hjournal]
    exact journalSizeOk_of_le (Nat.zero_le _) h.size

/-- The answers of the host do not change what is on disk. -/
theorem Sound.asked {limits : Limits} {h : Host} {base : Option SnapshotImage}
    {entries extra : List JournalEntry} {torn : Bytes} (hs : Sound limits h base entries extra torn)
    (answers : List Answer) : Sound limits (h.asked answers) base entries extra torn :=
  ⟨hs.limits_eq, hs.disk, hs.single, fun hopen =>
    let ⟨ready, entries_le, base_le, clean⟩ := hs.live hopen
    ⟨ready, entries_le, base_le, clean⟩⟩

/-- How a call of `open` may end. -/
inductive OpenOutcome (limits : Limits) (answers : List Answer) (base : Option SnapshotImage)
    (entries extra : List JournalEntry) : Except (Halt Error) StoreReply → Host → Prop
  | opened {h' : Host} (reopened : Reopened limits h' base (entries ++ extra)) :
      OpenOutcome limits answers base entries extra (.ok .opened) h'
  | closed {h' : Host} (halt : Halt Error) (blamed : Blamed answers halt) (torn : Bytes)
      (sound : Sound limits h' base entries extra torn) (closed : h'.store.opened = false) :
      OpenOutcome limits answers base entries extra (.error halt) h'

section Opening

variable {limits : Limits} {h h' : Host} {base : Option SnapshotImage}
  {entries extra : List JournalEntry} {torn : Bytes} {scan : JournalScan}

/-- Once `open` has scanned the journal it is cut to its whole records, or still as it was. -/
theorem Sound.cut (hs : Sound limits h base entries extra torn)
    (hreplayable : scan.replayableBytes = (journalImage (entries ++ extra)).length)
    (htouched : Touched .journal h h')
    (hcases : h'.content .journal = h.content .journal ∨
      h'.content .journal = resize (h.content .journal) scan.replayableBytes) :
    ∃ torn', OnDisk limits h'.files base (entries ++ extra) torn' := by
  have hprimary := htouched.others .primary (by decide)
  have hprevious := htouched.others .previous (by decide)
  rcases hcases with hcases | hcases
  · exact ⟨torn, hs.disk.congr hprimary hprevious hcases⟩
  · refine ⟨[], hs.disk.trimmed hprimary hprevious (hcases.trans ?_)⟩
    rw [show h.content .journal = _ from hs.disk.journal, hreplayable, resize_append rfl]

/-- The journal of a store that has been opened holds the whole records and nothing else. -/
theorem Sound.content_opened (hs : Sound limits h base entries extra torn)
    (hreplayable : scan.replayableBytes = (journalImage (entries ++ extra)).length)
    (hcases : h'.content .journal = h.content .journal ∨
      h'.content .journal = resize (h.content .journal) scan.replayableBytes)
    (hfile : (h.files .journal).isSome = true →
      h'.content .journal = resize (h.content .journal) scan.replayableBytes) :
    h'.content .journal = journalImage (entries ++ extra) := by
  have hresize : resize (h.content .journal) scan.replayableBytes =
      journalImage (entries ++ extra) := by
    rw [show h.content .journal = _ from hs.disk.journal, hreplayable, resize_append rfl]
  rw [hresize] at hcases hfile
  cases hjournal : h.files .journal with
  | some bytes => exact hfile (congrArg Option.isSome hjournal)
  | none =>
      have hempty : [] = journalImage (entries ++ extra) ++ torn := by
        rw [← hs.disk.journal, hjournal]
        rfl
      have himage := (List.append_eq_nil_iff.mp hempty.symm).1
      rcases hcases with hcases | hcases
      · rw [hcases, himage, content, Volume.content, show h.volume.files .journal = none from hjournal]
        rfl
      · exact hcases

/-- The store that `open` sets up agrees with its directory. -/
theorem Sound.reopened (hs : Sound limits h base entries extra torn) {fromPrevious : Bool}
    (hrecords : scan.records = replayed (sequenceOf base) (entries ++ extra))
    (hlast : scan.lastSequence = lastOf 0 (entries ++ extra))
    (hreplayable : scan.replayableBytes = (journalImage (entries ++ extra)).length)
    (htouched : Touched .journal h h')
    (hcontent : h'.content .journal = journalImage (entries ++ extra))
    (hstore : h'.store = { recovered h.store.limits (base.map (·, fromPrevious))
      (h.files .journal).isSome scan with journal := (h.files .journal).isSome, opened := true })
    (hcursor : (h.files .journal).isSome = true →
      h'.volume.cursors .journal = scan.replayableBytes) :
    Reopened limits h' base (entries ++ extra) := by
  have hsequence : ((base.map (·, fromPrevious)).map (·.1.sequence)).getD 0 = sequenceOf base := by
    cases base <;> rfl
  have hbytes : h'.store.journalBytes = (h'.content .journal).length := by
    rw [hstore, hcontent]
    exact hreplayable
  have hlastSequence : h'.store.lastSequence =
      max (sequenceOf base) (lastOf 0 (entries ++ extra)) := by
    rw [hstore, ← hlast, ← hsequence]
    rfl
  refine ⟨⟨?_, ?_, by simp, fun _ => ⟨fun hclosed => ?_, fun entry hentry => ?_, ?_,
    fun _ => ⟨rfl, rfl⟩⟩⟩, fun hopen => ⟨?_, hbytes.symm⟩, ?_, ?_, ?_⟩
  · rw [hstore]
    exact hs.limits_eq
  · rw [List.append_nil]
    exact hs.disk.trimmed (htouched.others .primary (by decide))
      (htouched.others .previous (by decide)) hcontent
  · have hmissing : (h.files .journal).isSome = false := by rwa [hstore] at hclosed
    have himage := hs.disk.journal
    rw [Option.isNone_iff_eq_none.mp (Option.isSome_eq_false_iff.mp hmissing)] at himage
    have hnil : h'.content .journal = [] := by
      rw [hcontent]
      exact (List.append_eq_nil_iff.mp himage.symm).1
    exact ⟨by rw [hbytes, hnil]; rfl, hnil⟩
  · rw [hlastSequence]
    exact UInt64.le_trans (hs.disk.rising.le_lastOf.2 entry hentry) (le_maximum _ _).2
  · rw [hlastSequence]
    exact (le_maximum _ _).1
  · have hopen : (h.files .journal).isSome = true := by rwa [hstore] at hopen
    show h'.volume.cursors .journal = (h'.content .journal).length
    rw [hcursor hopen, hreplayable, hcontent]
  · rw [hstore]
  · rw [hstore]
    rfl
  · rw [hstore, ← hrecords]
    rfl

end Opening

/-- Opening the store recovers the snapshot and every whole record above it; if an operation
fails or the process stops, the directory still holds them. -/
theorem step_openStore {limits : Limits} {h : Host} {base : Option SnapshotImage}
    {entries extra : List JournalEntry} {torn : Bytes} (hs : Sound limits h base entries extra torn)
    (answers : List Answer) :
    OpenOutcome limits answers base entries extra (h.step ⟨.openStore, answers⟩).1
      (h.step ⟨.openStore, answers⟩).2 := by
  obtain ⟨fromPrevious, hadopt⟩ := adoptSnapshot_of_holds hs.disk.holds
  obtain ⟨scan, hscan, hrecords, hlast, hreplayable⟩ := hs.disk.scanned (sequenceOf base)
  have hsequence : ((base.map (·, fromPrevious)).map (·.1.sequence)).getD 0 = sequenceOf base := by
    cases base <;> rfl
  have hadopt' : adoptSnapshot (h.asked answers).store.limits (h.asked answers).files =
      .ok (base.map (·, fromPrevious)) := by
    rw [← hadopt, ← hs.limits_eq]
    rfl
  have hscan' : scanJournal (h.asked answers).store.limits ((h.asked answers).files .journal)
      (((base.map (·, fromPrevious)).map (·.1.sequence)).getD 0) = .ok scan := by
    rw [hsequence, ← hscan, ← hs.limits_eq]
    rfl
  have hsound := hs.asked answers
  refine step_ends rfl (ends_openStore hadopt' hscan') (fun _ h' hr => .opened ?_)
    (fun e h' hr => ?_) fun h' hr => ?_
  · obtain ⟨htouched, -, hcases, hok, -⟩ := hr
    obtain ⟨hstore, hfile⟩ := hok rfl
    exact hsound.reopened hrecords hlast hreplayable htouched
      (hsound.content_opened hreplayable hcases fun hexists => (hfile hexists).1) hstore
      fun hexists => (hfile hexists).2
  · obtain ⟨htouched, hblamed, hcases, -, herror⟩ := hr
    obtain ⟨hclosed, hlimits⟩ := herror _ rfl
    obtain ⟨torn', hdisk⟩ := hsound.cut hreplayable htouched hcases
    exact .closed _ (hblamed _ rfl) torn' ⟨hlimits.trans hs.limits_eq, hdisk, hs.single,
      fun hopen => absurd (hopen.symm.trans hclosed) (by decide)⟩ hclosed
  · obtain ⟨htouched, hblamed, hcases, -, herror⟩ := hr
    obtain ⟨torn', hdisk⟩ := hsound.cut hreplayable htouched hcases
    exact .closed _ (hblamed _ rfl) torn' ⟨(herror _ rfl).2.trans hs.limits_eq, hdisk, hs.single,
      fun hopen => (by cases hopen)⟩ rfl

/-- A result that is known to be good. -/
theorem isOk_of_eq {α : Type} {r : Result α} {a : α} (h : r = .ok a) : r.isOk = true := by
  rw [h]
  rfl

/-- What the checks of `append` ask for. -/
theorem checkAppend_ok {store : DurableStore} {payload : Bytes} {sequence : UInt64}
    (h : checkAppend store payload = .ok sequence) :
    store.opened = true ∧ store.journalDegraded = false ∧ store.lastSequence < sequence ∧
      JournalEntry.Fits store.limits ⟨sequence, payload⟩ := by
  simp only [checkAppend, bind_eq_ok, refuseIf_eq_ok] at h
  obtain ⟨-, hopened, -, hdegraded, -, hbounded, -, hlength, hsequence⟩ := h
  refine ⟨by simpa using hopened, by simpa using hdegraded, ?_, ⟨?_, ?_⟩⟩
  · rw [UInt64.lt_iff_toNat_lt, toNat_of_checkedAdd hsequence]
    simp
  · show payload.length ≤ _
    omega
  · show payload.length < 2 ^ 32
    omega

/-- The journal has room for the record, and its writer stands where the store believes it. -/
structure Appendable (h : Host) (payload : Bytes) : Prop where
  aligned : Aligned h
  room : journalSizeOk h.store.limits
    (h.store.journalBytes + journalHeaderBytes + payload.length) = true

/-- How a call of `append` may end. -/
inductive AppendOutcome (limits : Limits) (answers : List Answer) (h : Host)
    (base : Option SnapshotImage) (entries : List JournalEntry) (payload : Bytes) :
    Except (Halt Error) StoreReply → Host → Prop
  | refused (e : Error) :
      AppendOutcome limits answers h base entries payload (.error (.refused e)) (h.asked answers)
  | appended {h' : Host} (sequence : UInt64) (above : h.store.lastSequence < sequence)
      (last : h'.store.lastSequence = sequence)
      (sound : Sound limits h' base (entries ++ [⟨sequence, payload⟩]) [] []) (aligned : Aligned h')
      (intact : h'.store.journalDegraded = false) :
      AppendOutcome limits answers h base entries payload (.ok (.appended sequence)) h'
  | failed {h' : Host} (halt : Halt Error) (opened : h.store.opened = true)
      (blamed : Blamed answers halt) (extra : List JournalEntry) (torn : Bytes)
      (sound : Sound limits h' base entries extra torn)
      (last : h'.store.opened = true → h'.store.lastSequence = h.store.lastSequence)
      (aligned : h'.store.opened = true → h'.store.journalDegraded = false → Aligned h') :
      AppendOutcome limits answers h base entries payload (.error halt) h'

/-- An append that its checks refuse changes nothing on disk. -/
theorem step_append_refused {h : Host} {payload : Bytes} {e : Error}
    (hcheck : checkAppend h.store payload = .error e) (answers : List Answer) :
    h.step ⟨.append payload, answers⟩ = (.error (.refused e), h.asked answers) := by
  have hexec : (append payload).exec (h.asked answers) = (.error (.refused e), h.asked answers) := by
    rw [append, exec_bind_of_ok (exec_get _)]
    show (check (checkAppend h.store payload) >>= _).exec _ = _
    rw [hcheck]
    rfl
  simp [step, StoreCall.operation, hexec]

/-- A store whose checks let a record through, and whose journal has room for it. -/
structure Accepts (limits : Limits) (h : Host) (base : Option SnapshotImage)
    (entries : List JournalEntry) (payload : Bytes) (sequence : UInt64) : Prop where
  sound : Sound limits h base entries [] []
  check : checkAppend h.store payload = .ok sequence
  appendable : Appendable h payload

section Appending

variable {limits : Limits} {h h' : Host} {base : Option SnapshotImage}
  {entries : List JournalEntry} {payload : Bytes} {sequence : UInt64} {answers : List Answer}

/-- The directory behind an append that wrote the record, or a front part of it. -/
theorem Accepts.extended (ha : Accepts limits h base entries payload sequence)
    (htouched : Touched .journal (h.asked answers) h') {n : Nat}
    (hcontent : h'.content .journal =
      h.content .journal ++ (JournalEntry.encode ⟨sequence, payload⟩).take n) :
    ∃ extra torn, extra.length ≤ 1 ∧
      ((JournalEntry.encode ⟨sequence, payload⟩).length ≤ n →
        extra = [⟨sequence, payload⟩] ∧ torn = []) ∧
      OnDisk limits h'.files base (entries ++ extra) torn := by
  obtain ⟨hopened, -, habove, hfits⟩ := checkAppend_ok ha.check
  obtain ⟨hready, hentries, -⟩ := ha.sound.live hopened
  have hroom := ha.appendable.room
  rw [ha.sound.limits_eq] at hfits hroom
  have hbytes : (h.content .journal).length = h.store.journalBytes := by
    cases hjournal : h.store.journal with
    | true => exact (ha.appendable.aligned hjournal).2
    | false =>
        obtain ⟨hzero, hempty⟩ := hready hjournal
        rw [hzero, hempty]
        rfl
  rw [← hbytes] at hroom
  have hdisk : OnDisk limits h.files base entries [] := by
    have hdisk := ha.sound.disk
    rwa [List.append_nil] at hdisk
  exact hdisk.extended hfits
    (UInt64.lt_of_le_of_lt (lastOf_le (UInt64.zero_le) hentries) habove)
    (htouched.others .primary (by decide)) (htouched.others .previous (by decide)) hroom hcontent

/-- The record is behind the others, and the store knows it. -/
theorem Accepts.appended (ha : Accepts limits h base entries payload sequence)
    (htouched : Touched .journal (h.asked answers) h') (hend : AtEnd .journal h')
    (hcontent : h'.content .journal =
      h.content .journal ++ JournalEntry.encode ⟨sequence, payload⟩)
    (hstore : h'.store = { h.store with
      journal := true
      lastSequence := sequence
      journalBytes := (h.content .journal).length + journalHeaderBytes + payload.length
      appendedRecords := h.store.appendedRecords + 1 }) :
    AppendOutcome limits answers h base entries payload (.ok (.appended sequence)) h' := by
  obtain ⟨hopened, hintact, habove, -⟩ := checkAppend_ok ha.check
  obtain ⟨-, hentries, hbase, -⟩ := ha.sound.live hopened
  have hlength : (h'.content .journal).length = h'.store.journalBytes := by
    rw [hcontent, hstore, List.length_append, JournalEntry.length_encode, journalHeaderBytes,
      Nat.add_assoc]
  obtain ⟨extra, torn, -, hwhole, hdisk⟩ :=
    ha.extended htouched (hcontent.trans (by rw [List.take_length]))
  obtain ⟨rfl, rfl⟩ := hwhole (Nat.le_refl _)
  refine .appended sequence habove (by rw [hstore])
    ⟨by rw [hstore]; exact ha.sound.limits_eq, by rwa [List.append_nil], by simp, fun _ => ?_⟩
    (fun _ => ⟨hend, hlength⟩) (by rw [hstore]; exact hintact)
  refine ⟨fun hclosed => ?_, fun entry hentry => ?_, ?_, fun _ => ⟨rfl, rfl⟩⟩
  · rw [hstore] at hclosed
    cases hclosed
  · rw [hstore]
    rcases List.mem_append.mp hentry with hentry | hentry
    · exact UInt64.le_trans (hentries entry hentry) (UInt64.le_of_lt habove)
    · exact UInt64.le_of_eq (by rw [List.mem_singleton.mp hentry])
  · rw [hstore]
    exact UInt64.le_trans hbase (UInt64.le_of_lt habove)

/-- The append was rolled back, or the store remembers that it may not be. -/
theorem Accepts.failed (ha : Accepts limits h base entries payload sequence) {e : Error}
    (htouched : Touched .journal (h.asked answers) h') (hblamed : Blamed answers (.refused e))
    {journal degraded : Bool}
    (hstore : h'.store = { h.store with journal := journal, journalDegraded := degraded })
    (hready : Ready h')
    (hbefore : degraded = false → h'.content .journal = h.content .journal ∧ Aligned h') {n : Nat}
    (hcontent : h'.content .journal =
      h.content .journal ++ (JournalEntry.encode ⟨sequence, payload⟩).take n) :
    AppendOutcome limits answers h base entries payload (.error (.refused e)) h' := by
  obtain ⟨hopened, -, -, -⟩ := checkAppend_ok ha.check
  obtain ⟨-, hentries, hbase, -⟩ := ha.sound.live hopened
  have hlimits : h'.store.limits = limits := by
    rw [hstore]
    exact ha.sound.limits_eq
  have hlive {extra : List JournalEntry} {torn : Bytes}
      (hclean : h'.store.journalDegraded = false → torn = [] ∧ extra = []) :
      Live h' base entries extra torn := by
    refine ⟨hready, fun entry hentry => ?_, ?_, hclean⟩
    · rw [hstore]
      exact hentries entry hentry
    · rw [hstore]
      exact hbase
  have hlast : h'.store.lastSequence = h.store.lastSequence := by
    rw [hstore]
  cases degraded with
  | false =>
      obtain ⟨hsame, haligned⟩ := hbefore rfl
      exact .failed _ hopened hblamed [] [] ⟨hlimits, ha.sound.disk.congr
        (htouched.others .primary (by decide)) (htouched.others .previous (by decide)) hsame,
        by simp, fun _ => hlive fun _ => ⟨rfl, rfl⟩⟩ (fun _ => hlast) fun _ _ => haligned
  | true =>
      have hdegraded : h'.store.journalDegraded = true := by rw [hstore]
      obtain ⟨extra, torn, hsingle, -, hdisk⟩ := ha.extended htouched hcontent
      exact .failed _ hopened hblamed extra torn ⟨hlimits, hdisk, hsingle,
        fun _ => hlive fun hintact => absurd (hdegraded.symm.trans hintact) (by decide)⟩
        (fun _ => hlast) fun _ hintact => absurd (hdegraded.symm.trans hintact) (by decide)

/-- The process stopped in the append: the record is not there, or not all of it, or it is. -/
theorem Accepts.stopped (ha : Accepts limits h base entries payload sequence)
    (htouched : Touched .journal (h.asked answers) h')
    (hblamed : Blamed answers (.stopped : Halt Error))
    (hlimits : h'.store.limits = h.store.limits) {n : Nat}
    (hcontent : h'.content .journal =
      h.content .journal ++ (JournalEntry.encode ⟨sequence, payload⟩).take n) :
    AppendOutcome limits answers h base entries payload (.error .stopped) h'.crashed := by
  obtain ⟨extra, torn, hsingle, -, hdisk⟩ := ha.extended htouched hcontent
  exact .failed _ (checkAppend_ok ha.check).1 hblamed extra torn
    ⟨hlimits.trans ha.sound.limits_eq, hdisk, hsingle, fun hopen => (by cases hopen)⟩
    (fun hopen => (by cases hopen)) fun hopen => (by cases hopen)

end Appending

/-- An append: the entry is on disk, or it is torn, or nothing is. -/
theorem step_append {limits : Limits} {h : Host} {base : Option SnapshotImage}
    {entries extra : List JournalEntry} {torn : Bytes} (hs : Sound limits h base entries extra torn)
    {payload : Bytes}
    (happend : ∀ sequence, checkAppend h.store payload = .ok sequence → Appendable h payload)
    (answers : List Answer) :
    AppendOutcome limits answers h base entries payload (h.step ⟨.append payload, answers⟩).1
      (h.step ⟨.append payload, answers⟩).2 := by
  cases hcheck : checkAppend h.store payload with
  | error e =>
      rw [step_append_refused hcheck]
      exact .refused e
  | ok sequence =>
      obtain ⟨hopened, hintact, -, -⟩ := checkAppend_ok hcheck
      obtain ⟨hready, -, -, hclean⟩ := hs.live hopened
      obtain ⟨rfl, rfl⟩ := hclean hintact
      have haccepts : Accepts limits h base entries payload sequence :=
        ⟨hs, hcheck, happend sequence hcheck⟩
      refine step_ends rfl
        (ends_append (h := h.asked answers) hready haccepts.appendable.aligned hcheck)
        (fun s h' hr => ?_) (fun e h' hr => ?_) fun h' hr => ?_
      · obtain ⟨htouched, -, hok, -⟩ := hr
        obtain ⟨rfl, hend, hcontent, hstore⟩ := hok s rfl
        exact haccepts.appended htouched hend hcontent hstore
      · obtain ⟨htouched, hblamed, -, herror⟩ := hr
        obtain ⟨⟨journal, degraded, hstore, hbefore⟩, n, hcontent⟩ := herror _ rfl
        obtain ⟨hready', hbefore⟩ := hbefore (by simp)
        exact haccepts.failed htouched (hblamed _ rfl) hstore hready' hbefore hcontent
      · obtain ⟨htouched, hblamed, -, herror⟩ := hr
        obtain ⟨⟨journal, degraded, hstore, -⟩, n, hcontent⟩ := herror _ rfl
        exact haccepts.stopped htouched (hblamed _ rfl) (by rw [hstore]; rfl) hcontent

/-- What the checks of `compact` ask for. -/
theorem checkCompact_ok {store : DurableStore} {image : SnapshotImage}
    (h : checkCompact store image = .ok ()) :
    store.opened = true ∧ image.payload.length ≤ store.limits.maxStateBytes.toNat ∧
      image.sequence ≤ store.lastSequence := by
  simp only [checkCompact, bind_eq_ok, refuseIf_eq_ok, not_or] at h
  obtain ⟨-, hopened, -, hsize, -, hle⟩ := h
  exact ⟨by simpa using hopened, by omega, UInt64.not_lt.mp hle⟩

/-- How a call of `compact` may end. -/
inductive CompactOutcome (limits : Limits) (answers : List Answer) (h : Host)
    (base : Option SnapshotImage) (entries extra : List JournalEntry) (torn : Bytes)
    (image : SnapshotImage) : Except (Halt Error) StoreReply → Host → Prop
  | refused (e : Error) (rejected : (checkCompact h.store image).isOk = false) :
      CompactOutcome limits answers h base entries extra torn image (.error (.refused e))
        (h.asked answers)
  | compacted {h' : Host} (accepted : (checkCompact h.store image).isOk = true)
      (primary : h'.files .primary = some image.encode) (sound : Sound limits h' (some image) [] [] [])
      (aligned : Aligned h')
      (degraded : h'.store.journalDegraded = h.store.journalDegraded)
      (last : h'.store.lastSequence = h.store.lastSequence) :
      CompactOutcome limits answers h base entries extra torn image (.ok .compacted) h'
  | kept {h' : Host} (halt : Halt Error) (opened : h.store.opened = true)
      (blamed : Blamed answers halt)
      (primary : h'.files .primary ≠ some image.encode)
      (sound : Sound limits h' base entries extra torn)
      (last : h'.store.opened = true → h'.store.lastSequence = h.store.lastSequence)
      (degraded : h'.store.opened = true → h'.store.journalDegraded = h.store.journalDegraded)
      (aligned : h'.store.opened = true → h'.content .journal = h.content .journal →
        Aligned h → Aligned h') :
      CompactOutcome limits answers h base entries extra torn image (.error halt) h'
  | installed {h' : Host} (halt : Halt Error) (opened : h.store.opened = true)
      (accepted : (checkCompact h.store image).isOk = true) (blamed : Blamed answers halt)
      (primary : h'.files .primary = some image.encode)
      (sound : Sound limits h' (some image) entries extra torn ∨ Sound limits h' (some image) [] [] [])
      (last : h'.store.opened = true → h'.store.lastSequence = h.store.lastSequence)
      (degraded : h'.store.opened = true → h'.store.journalDegraded = h.store.journalDegraded)
      (aligned : h'.store.opened = true → h'.content .journal = h.content .journal →
        Aligned h → Aligned h') :
      CompactOutcome limits answers h base entries extra torn image (.error halt) h'

/-- A compaction that its checks refuse changes nothing on disk. -/
theorem step_compact_refused {h : Host} {state : Buffer} {uptoSequence : UInt64} {e : Error}
    (hcheck : checkCompact h.store ⟨uptoSequence, state.bytes⟩ = .error e) (answers : List Answer) :
    h.step ⟨.compact state uptoSequence, answers⟩ = (.error (.refused e), h.asked answers) := by
  have hexec : (compact ⟨uptoSequence, state.bytes⟩).exec (h.asked answers) =
      (.error (.refused e), h.asked answers) := by
    rw [compact, exec_bind_of_ok (exec_get _)]
    show (check (checkCompact h.store ⟨uptoSequence, state.bytes⟩) >>= _).exec _ = _
    rw [hcheck]
    rfl
  simp [step, StoreCall.operation, hexec]

/-- What the snapshot files hold after an installation that may have been cut short. -/
theorem Holds.placed {limits : Limits} {files files' : StoreFile → Option Bytes}
    {base : Option SnapshotImage} {image : SnapshotImage} (h : Holds limits files base)
    (hdecode : decodeSnapshotFile limits (some image.encode) = .ok image)
    (hplaced : Placed image.encode files files') :
    files' .primary = some image.encode ∧ Holds limits files' (some image) ∨
      files' .primary ≠ some image.encode ∧ Holds limits files' base := by
  by_cases hprimary : files' .primary = some image.encode
  · exact .inl ⟨hprimary, .inl ⟨image, rfl, by rwa [hprimary]⟩⟩
  · refine .inr ⟨hprimary, ?_⟩
    cases hplaced with
    | kept primary previous => exact h.congr primary previous
    | aside present primary previous => exact h.setAside present primary previous
    | installed primary => exact absurd primary hprimary

/-- A journal writer that was not open is still not open, or stands before an empty journal. -/
theorem Ready.kept {h h' : Host} (hready : Ready h)
    (hstore : h'.store = h.store ∨ h'.store = { h.store with journal := true })
    (hcontent : h'.content .journal = h.content .journal ∨ h'.content .journal = []) :
    Ready h' := by
  intro hclosed
  rcases hstore with hstore | hstore
  · rw [hstore] at hclosed ⊢
    obtain ⟨hzero, hempty⟩ := hready hclosed
    exact ⟨hzero, hcontent.elim (fun h => h.trans hempty) id⟩
  · rw [hstore] at hclosed
    cases hclosed

section Compacting

variable {limits : Limits} {h h' : Host} {base : Option SnapshotImage}
  {entries extra : List JournalEntry} {torn : Bytes} {image : SnapshotImage} {answers : List Answer}

/-- A compaction that ends early leaves the directory as it was, or the new snapshot over the
journal as it was or empty. -/
theorem Sound.placed (hs : Sound limits h base entries extra torn) (hopened : h.store.opened = true)
    (hdecode : decodeSnapshotFile limits (some image.encode) = .ok image)
    (hle : image.sequence ≤ h.store.lastSequence) (hlimits : h'.store.limits = limits)
    (hplaced : Placed image.encode h.files h'.files)
    (hcases : h'.content .journal = h.content .journal ∨
      h'.content .journal = [] ∧ h'.files .primary = some image.encode)
    (hmemory : h'.store.opened = true → Ready h' ∧
      h'.store.lastSequence = h.store.lastSequence ∧
      h'.store.journalDegraded = h.store.journalDegraded) :
    h'.files .primary ≠ some image.encode ∧ Sound limits h' base entries extra torn ∨
      h'.files .primary = some image.encode ∧
        (Sound limits h' (some image) entries extra torn ∨ Sound limits h' (some image) [] [] []) := by
  obtain ⟨-, hentries, hbase, hclean⟩ := hs.live hopened
  rcases hs.disk.holds.placed hdecode hplaced with ⟨hprimary, hholds⟩ | ⟨hprimary, hholds⟩
  · refine .inr ⟨hprimary, ?_⟩
    rcases hcases with hcontent | ⟨hcontent, -⟩
    · refine .inl ⟨hlimits, hs.disk.rebased hholds hcontent, hs.single, fun hopen => ?_⟩
      obtain ⟨hready, hlast, hdegraded⟩ := hmemory hopen
      exact ⟨hready, by rwa [hlast], by rw [hlast]; exact hle, by rwa [hdegraded]⟩
    · refine .inr ⟨hlimits, hs.disk.emptied hholds hcontent, by simp, fun hopen => ?_⟩
      obtain ⟨hready, hlast, -⟩ := hmemory hopen
      exact ⟨hready, fun _ he => (by cases he), by rw [hlast]; exact hle, fun _ => ⟨rfl, rfl⟩⟩
  · have hcontent : h'.content .journal = h.content .journal :=
      hcases.resolve_right fun hempty => hprimary hempty.2
    refine .inl ⟨hprimary, hlimits, hs.disk.rebased hholds hcontent, hs.single, fun hopen => ?_⟩
    obtain ⟨hready, hlast, hdegraded⟩ := hmemory hopen
    exact ⟨hready, by rwa [hlast], by rwa [hlast], by rwa [hdegraded]⟩

/-- The compaction came to its end: the new snapshot over an empty journal. -/
theorem Sound.compacted (hs : Sound limits h base entries extra torn)
    (hcheck : checkCompact h.store image = .ok ())
    (hdecode : decodeSnapshotFile limits (some image.encode) = .ok image)
    (hprimary : h'.files .primary = some image.encode) (hcontent : h'.content .journal = [])
    (hend : AtEnd .journal h') (hstore : h'.store = { h.store with
      journal := true
      snapshotSequence := image.sequence
      journalBytes := 0 }) :
    CompactOutcome limits answers h base entries extra torn image (.ok .compacted) h' := by
  have hholds : Holds limits h'.files (some image) := .inl ⟨_, rfl, by rw [hprimary]; exact hdecode⟩
  refine .compacted (isOk_of_eq hcheck) hprimary ⟨by rw [hstore]; exact hs.limits_eq,
    hs.disk.emptied hholds hcontent, by simp, fun _ => ⟨fun hclosed => ?_,
    fun _ he => (by cases he), ?_, fun _ => ⟨rfl, rfl⟩⟩⟩ (fun _ => ⟨hend, ?_⟩)
    (by rw [hstore]) (by rw [hstore])
  · rw [hstore] at hclosed
    cases hclosed
  · rw [hstore]
    exact (checkCompact_ok hcheck).2.2
  · rw [hcontent, hstore]
    rfl

end Compacting

/-- A compaction: wherever it stops, the old state or the new one is on disk. -/
theorem step_compact {limits : Limits} {h : Host} {base : Option SnapshotImage}
    {entries extra : List JournalEntry} {torn : Bytes} (hs : Sound limits h base entries extra torn)
    (state : Buffer) (uptoSequence : UInt64) (answers : List Answer) :
    CompactOutcome limits answers h base entries extra torn ⟨uptoSequence, state.bytes⟩
      (h.step ⟨.compact state uptoSequence, answers⟩).1
      (h.step ⟨.compact state uptoSequence, answers⟩).2 := by
  cases hcheck : checkCompact h.store ⟨uptoSequence, state.bytes⟩ with
  | error e =>
      rw [step_compact_refused hcheck]
      exact .refused e (by rw [hcheck]; rfl)
  | ok u =>
      obtain ⟨hopened, hsize, hle⟩ := checkCompact_ok hcheck
      have hready := (hs.live hopened).ready
      rw [hs.limits_eq] at hsize
      have hdecode := SnapshotImage.decode_encode ⟨uptoSequence, state.bytes⟩ hsize state.size_lt
      refine step_ends rfl (ends_compact (h := h.asked answers) hready hcheck)
        (fun _ h' hr => ?_) (fun e h' hr => ?_) fun h' hr => ?_
      · obtain ⟨-, -, -, hok, -⟩ := hr
        obtain ⟨hprimary, hcontent, hend, hstore⟩ := hok rfl
        exact hs.compacted hcheck hdecode hprimary hcontent hend hstore
      · obtain ⟨hblamed, hplaced, hcases, -, herror⟩ := hr
        obtain ⟨hstore, haligned⟩ := herror _ rfl
        obtain ⟨hlimits, hlast, hdegraded⟩ : h'.store.limits = limits ∧
            h'.store.lastSequence = h.store.lastSequence ∧
            h'.store.journalDegraded = h.store.journalDegraded := by
          rcases hstore with hstore | hstore <;> rw [hstore] <;> exact ⟨hs.limits_eq, rfl, rfl⟩
        have hready' : Ready h' := hready.kept hstore (hcases.imp id And.left)
        rcases hs.placed hopened hdecode hle hlimits hplaced hcases
          (fun _ => ⟨hready', hlast, hdegraded⟩) with ⟨hprimary, hkept⟩ | ⟨hprimary, hinstalled⟩
        · exact .kept _ hopened (hblamed _ rfl) hprimary hkept (fun _ => hlast)
            (fun _ => hdegraded) fun _ => haligned
        · exact .installed _ hopened (isOk_of_eq hcheck) (hblamed _ rfl) hprimary hinstalled
            (fun _ => hlast) (fun _ => hdegraded) fun _ => haligned
      · obtain ⟨hblamed, hplaced, hcases, -, herror⟩ := hr
        have hlimits : h'.crashed.store.limits = limits := by
          show h'.store.limits = limits
          rcases (herror _ rfl).1 with hstore | hstore <;> rw [hstore] <;> exact hs.limits_eq
        rcases hs.placed hopened hdecode hle hlimits hplaced hcases
          (fun hopen => (by cases hopen)) with ⟨hprimary, hkept⟩ | ⟨hprimary, hinstalled⟩
        · exact .kept _ hopened (hblamed _ rfl) hprimary hkept (fun hopen => (by cases hopen))
            (fun hopen => (by cases hopen)) fun hopen => (by cases hopen)
        · exact .installed _ hopened (isOk_of_eq hcheck) (hblamed _ rfl) hprimary hinstalled
            (fun hopen => (by cases hopen)) (fun hopen => (by cases hopen))
            fun hopen => (by cases hopen)

/-! ## What a later `open` recovers -/

/-- A snapshot and the records above it. -/
structure View where
  snapshot : Option SnapshotImage
  records : List Bytes
  deriving DecidableEq, Repr

/-- The snapshot `open` would adopt. -/
def adopted (h : Host) : Option SnapshotImage :=
  match adoptSnapshot h.store.limits h.files with
  | .ok (some (image, _)) => some image
  | _ => none

/-- What an undisturbed `open` recovers, if it succeeds. -/
def recovery (h : Host) : Option View :=
  match h.step ⟨.openStore, []⟩ with
  | (.ok _, h') => some ⟨h.adopted, h'.store.records⟩
  | _ => none

/-- The store knows the snapshot that is on disk. -/
theorem Sound.adopted_eq {limits : Limits} {h : Host} {base : Option SnapshotImage}
    {entries extra : List JournalEntry} {torn : Bytes} (hs : Sound limits h base entries extra torn) :
    h.adopted = base := by
  obtain ⟨fromPrevious, hadopt⟩ := adoptSnapshot_of_holds hs.disk.holds
  unfold adopted
  rw [hs.limits_eq, hadopt]
  cases base <;> rfl

/-- A sound directory is recovered with its snapshot and every record above it. -/
theorem Sound.recovery_eq {limits : Limits} {h : Host} {base : Option SnapshotImage}
    {entries extra : List JournalEntry} {torn : Bytes} (hs : Sound limits h base entries extra torn) :
    h.recovery = some ⟨base, replayed (sequenceOf base) (entries ++ extra)⟩ := by
  have hopen := step_openStore hs []
  unfold recovery
  rcases hstep : h.step ⟨.openStore, []⟩ with ⟨r, h'⟩
  rw [hstep] at hopen
  cases hopen with
  | opened reopened => rw [hs.adopted_eq, ← reopened.records]
  | closed halt blamed torn sound closed =>
      cases halt with
      | refused e => exact absurd blamed.choose_spec (by simp)
      | stopped => exact absurd blamed.choose_spec (by simp)

/-- A new store has nothing on disk. -/
theorem sound_empty (limits : Limits) : Sound limits (empty limits) none [] [] [] := by
  refine ⟨rfl, ⟨.inr ⟨rfl, .inr ⟨rfl, rfl⟩⟩, rfl, ⟨⟨1, []⟩, 0, ⟨by simp, by simp⟩, by simp, by simp⟩,
    fun _ he => (by cases he), by simp [Rising], ?_⟩, by simp, fun hopen => (by cases hopen)⟩
  show journalSizeOk limits 0 = true
  unfold journalSizeOk
  split <;> simp

/-- What is replayed of two parts of a journal. -/
theorem replayed_append (sequence : UInt64) (xs ys : List JournalEntry) :
    replayed sequence (xs ++ ys) = replayed sequence xs ++ replayed sequence ys := by
  simp [replayed]

/-- Records up to a snapshot are not replayed over it. -/
theorem replayed_of_le {sequence : UInt64} {entries : List JournalEntry}
    (h : ∀ entry ∈ entries, entry.sequence ≤ sequence) : replayed sequence entries = [] := by
  have hfilter : entries.filter (sequence < ·.sequence) = [] := by
    refine List.filter_eq_nil_iff.mpr fun entry hentry => ?_
    simpa using UInt64.not_lt.mpr (h entry hentry)
  rw [replayed, hfilter, List.map_nil]

/-- A process that stopped left no open store behind. -/
theorem step_stopped {h : Host} {i : StoreInput} (hstopped : (h.step i).1 = .error .stopped) :
    (h.step i).2.store.opened = false := by
  unfold step at hstopped ⊢
  rcases hexec : i.call.operation.exec (h.asked i.answers) with ⟨r, h'⟩
  rw [hexec] at hstopped
  cases r with
  | ok reply => cases hstopped
  | error halt =>
      cases halt with
      | refused e => cases hstopped
      | stopped => rfl

/-- Only an open store appends. -/
theorem opened_of_append {h : Host} {payload : Bytes} {answers : List Answer} {reply : StoreReply}
    (hok : (h.step ⟨.append payload, answers⟩).1 = .ok reply) : h.store.opened = true := by
  cases hcheck : checkAppend h.store payload with
  | ok sequence => exact (checkAppend_ok hcheck).1
  | error e =>
      rw [step_append_refused hcheck] at hok
      cases hok

/-- Only an open store compacts. -/
theorem opened_of_compact {h : Host} {state : Buffer} {uptoSequence : UInt64}
    {answers : List Answer} {reply : StoreReply}
    (hok : (h.step ⟨.compact state uptoSequence, answers⟩).1 = .ok reply) :
    h.store.opened = true := by
  cases hcheck : checkCompact h.store ⟨uptoSequence, state.bytes⟩ with
  | ok u => exact (checkCompact_ok hcheck).1
  | error e =>
      rw [step_compact_refused hcheck] at hok
      cases hok

/-! ## Conditions on a call -/

/-- The condition holds if the call is an `append` whose checks pass. -/
def Appending (P : Host → Bytes → Prop) (h : Host) (i : StoreInput) : Prop :=
  match i.call with
  | .append payload => (checkAppend h.store payload).isOk = true → P h payload
  | _ => True

/-- The journal stays within the size `open` accepts. -/
def Room (h : Host) (payload : Bytes) : Prop :=
  journalSizeOk h.store.limits (h.store.journalBytes + journalHeaderBytes + payload.length) = true

instance (P : Host → Bytes → Prop) [∀ h payload, Decidable (P h payload)] (h : Host)
    (i : StoreInput) : Decidable (Appending P h i) :=
  match i with
  | ⟨.openStore, _⟩ => .isTrue trivial
  | ⟨.append payload, _⟩ =>
    inferInstanceAs (Decidable ((checkAppend h.store payload).isOk = true → P h payload))
  | ⟨.compact _ _, _⟩ => .isTrue trivial

instance (h : Host) (payload : Bytes) : Decidable (Room h payload) :=
  inferInstanceAs (Decidable (_ = true))

/-- The event of a call. -/
abbrev StoreEvent := Event Host StoreInput (Except (Halt Error) StoreReply)

end Host

end ShuffleFabric
