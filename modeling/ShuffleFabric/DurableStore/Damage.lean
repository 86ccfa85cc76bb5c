import ShuffleFabric.DurableStore.Acknowledged
import ShuffleFabric.DurableStore.Reopen

/-!
# ShuffleFabric.DurableStore.Damage

A journal that was cut at any length, or has one byte changed.

The journal is written by appends to a fresh store, so its records are the payloads under
consecutive sequences (`numbered`).  Damage leaves whole records in front of something that the
scan refuses, and `open` recovers exactly them.
-/

namespace ShuffleFabric

open Lib Action

/-! ## Consecutive records -/

/-- The records of these payloads, appended one after another behind a sequence. -/
def numbered (sequence : UInt64) : List Bytes → List JournalEntry
  | [] => []
  | payload :: payloads => ⟨sequence + 1, payload⟩ :: numbered (sequence + 1) payloads

/-- The numbers go on behind the first part. -/
theorem numbered_append (sequence : UInt64) (xs ys : List Bytes) :
    numbered sequence (xs ++ ys) =
      numbered sequence xs ++ numbered (lastOf sequence (numbered sequence xs)) ys := by
  induction xs generalizing sequence with
  | nil => rfl
  | cons x xs ih =>
      rw [List.cons_append, numbered, ih]
      rfl

/-- The payloads are the ones that were numbered. -/
theorem map_payload_numbered (sequence : UInt64) (payloads : List Bytes) :
    (numbered sequence payloads).map JournalEntry.payload = payloads := by
  induction payloads generalizing sequence with
  | nil => rfl
  | cons payload payloads ih => rw [numbered, List.map_cons, ih]

/-- Numbered entries fit if their payloads do. -/
theorem fits_numbered {limits : Limits} {payloads : List Bytes} :
    ∀ {sequence : UInt64}, (∀ entry ∈ numbered sequence payloads, entry.Fits limits) ↔
      ∀ payload ∈ payloads,
        payload.length ≤ limits.maxJournalRecordBytes.toNat ∧ payload.length < 2 ^ 32 := by
  induction payloads with
  | nil => simp [numbered]
  | cons payload payloads ih =>
      intro sequence
      rw [numbered, List.forall_mem_cons, List.forall_mem_cons, ih]
      exact and_congr_left fun _ => ⟨fun h => ⟨h.bounded, h.length_lt⟩, fun h => ⟨h.1, h.2⟩⟩

/-- As long as the sequences do not run out they rise, and count the records. -/
theorem numbered_rising {sequence : UInt64} {payloads : List Bytes}
    (h : sequence.toNat + payloads.length < 2 ^ 64) :
    Rising sequence (numbered sequence payloads) ∧
      (lastOf sequence (numbered sequence payloads)).toNat =
        sequence.toNat + payloads.length := by
  induction payloads generalizing sequence with
  | nil => exact ⟨by simp [numbered, Rising], rfl⟩
  | cons payload payloads ih =>
      rw [List.length_cons] at h
      have hnext : (sequence + 1).toNat = sequence.toNat + 1 := by
        rw [UInt64.toNat_add, show (1 : UInt64).toNat = 1 from rfl]
        omega
      obtain ⟨hrising, hlast⟩ := ih (by rw [hnext]; omega)
      have hlt : sequence < sequence + 1 := by
        rw [UInt64.lt_iff_toNat_lt]
        omega
      refine ⟨?_, ?_⟩
      · unfold Rising at hrising ⊢
        rw [numbered, List.map_cons, List.isChain_cons_cons]
        exact ⟨hlt, hrising⟩
      · rw [List.length_cons]
        show (lastOf (sequence + 1) (numbered (sequence + 1) payloads)).toNat = _
        omega

/-- Rising sequences are all above the start. -/
theorem Rising.lt_of_mem {start : UInt64} {entries : List JournalEntry} (h : Rising start entries) :
    ∀ entry ∈ entries, start < entry.sequence := by
  induction entries generalizing start with
  | nil => simp
  | cons entry entries ih =>
      obtain ⟨hlt, htail⟩ := h.tail
      exact List.forall_mem_cons.mpr
        ⟨hlt, fun e he => UInt64.lt_trans hlt (ih htail e he)⟩

/-- Numbered entries are all replayed, where the numbers do not wrap. -/
theorem replayed_numbered {sequence : UInt64} {payloads : List Bytes}
    (h : sequence.toNat + payloads.length < 2 ^ 64) :
    replayed sequence (numbered sequence payloads) = payloads := by
  have habove := (numbered_rising h).1.lt_of_mem
  rw [replayed, List.filter_eq_self.mpr fun entry hentry => decide_eq_true (habove entry hentry)]
  exact map_payload_numbered sequence payloads

/-- The bytes these payloads take in a journal. -/
def recordsLength (payloads : List Bytes) : Nat :=
  (payloads.map fun payload => journalHeaderBytes + payload.length).sum

@[simp] theorem recordsLength_nil : recordsLength [] = 0 := rfl

@[simp] theorem recordsLength_cons (payload : Bytes) (payloads : List Bytes) :
    recordsLength (payload :: payloads) =
      journalHeaderBytes + payload.length + recordsLength payloads := rfl

/-- The length of records in two parts. -/
theorem recordsLength_append (xs ys : List Bytes) :
    recordsLength (xs ++ ys) = recordsLength xs + recordsLength ys := by
  simp [recordsLength]

/-- The length of a journal does not depend on the numbers. -/
theorem length_journalImage_numbered (sequence : UInt64) (payloads : List Bytes) :
    (journalImage (numbered sequence payloads)).length = recordsLength payloads := by
  induction payloads generalizing sequence with
  | nil => rfl
  | cons payload payloads ih =>
      rw [numbered, journalImage_cons, List.length_append, JournalEntry.length_encode, ih]
      rfl

/-! ## Cuts -/

/-- The payloads of the records that lie completely before a cut. -/
def wholeBefore (cut : Nat) : List Bytes → List Bytes
  | [] => []
  | payload :: payloads =>
    if journalHeaderBytes + payload.length ≤ cut then
      payload :: wholeBefore (cut - (journalHeaderBytes + payload.length)) payloads
    else []

/-- The cut is where a record ends, or at the very front. -/
def OnBoundary (cut : Nat) (payloads : List Bytes) : Prop :=
  ∃ n, cut = recordsLength (payloads.take n)

/-- A boundary is in front of the first record or behind it. -/
theorem onBoundary_cons {cut : Nat} {payload : Bytes} {payloads : List Bytes} :
    OnBoundary cut (payload :: payloads) ↔
      cut = 0 ∨ journalHeaderBytes + payload.length ≤ cut ∧
        OnBoundary (cut - (journalHeaderBytes + payload.length)) payloads := by
  constructor
  · rintro ⟨n, hn⟩
    cases n with
    | zero => exact .inl hn
    | succ n =>
        rw [List.take_succ_cons, recordsLength_cons] at hn
        exact .inr ⟨by omega, n, by omega⟩
  · rintro (rfl | ⟨hle, n, hn⟩)
    · exact ⟨0, rfl⟩
    · refine ⟨n + 1, ?_⟩
      rw [List.take_succ_cons, recordsLength_cons]
      omega

/-- A cut journal is the records before the cut, and the front part of the next one unless the
cut is on a boundary. -/
theorem take_journalImage {limits : Limits} {payloads : List Bytes} {sequence : UInt64}
    (hfits : ∀ entry ∈ numbered sequence payloads, entry.Fits limits) {cut : Nat}
    (hcut : cut ≤ recordsLength payloads) :
    ∃ rest, (journalImage (numbered sequence payloads)).take cut =
        journalImage (numbered sequence (wholeBefore cut payloads)) ++ rest ∧
      (OnBoundary cut payloads ∧ rest = [] ∨
        ¬OnBoundary cut payloads ∧ readFrame limits rest = .torn) := by
  induction payloads generalizing sequence cut with
  | nil =>
      obtain rfl : cut = 0 := by simpa using hcut
      exact ⟨[], rfl, .inl ⟨⟨0, rfl⟩, rfl⟩⟩
  | cons payload payloads ih =>
      rw [numbered, List.forall_mem_cons] at hfits
      obtain ⟨hfit, hfits⟩ := hfits
      rw [recordsLength_cons] at hcut
      have hlength : (JournalEntry.encode ⟨sequence + 1, payload⟩).length =
          journalHeaderBytes + payload.length := JournalEntry.length_encode _
      rw [numbered, journalImage_cons, List.take_append, hlength]
      by_cases hwhole : journalHeaderBytes + payload.length ≤ cut
      · obtain ⟨rest, hrest, hend⟩ := ih hfits
          (show cut - (journalHeaderBytes + payload.length) ≤ recordsLength payloads by omega)
        refine ⟨rest, ?_, ?_⟩
        · rw [List.take_of_length_le (by omega), hrest, wholeBefore, if_pos hwhole, numbered,
            journalImage_cons, List.append_assoc]
        · have hzero : ¬cut = 0 := by
            have : 0 < journalHeaderBytes := by decide
            omega
          simpa only [onBoundary_cons, hzero, hwhole, false_or, true_and] using hend
      · refine ⟨(JournalEntry.encode ⟨sequence + 1, payload⟩).take cut, ?_, ?_⟩
        · rw [Nat.sub_eq_zero_of_le (by omega), List.take_zero, wholeBefore, if_neg hwhole]
          simp [numbered]
        · by_cases hzero : cut = 0
          · exact .inl ⟨⟨0, hzero⟩, by rw [hzero, List.take_zero]⟩
          · refine .inr ⟨?_, JournalEntry.readFrame_take hfit (by omega) (by omega)⟩
            simp [onBoundary_cons, hzero, hwhole]

/-- The records before a cut are records of the journal. -/
theorem wholeBefore_subset (cut : Nat) (payloads : List Bytes) :
    ∀ payload ∈ wholeBefore cut payloads, payload ∈ payloads := by
  induction payloads generalizing cut with
  | nil => simp [wholeBefore]
  | cons payload payloads ih =>
      rw [wholeBefore]
      split
      · intro p hp
        cases hp with
        | head => exact List.mem_cons_self
        | tail _ hp => exact List.mem_cons_of_mem _ (ih _ p hp)
      · simp

/-- There are no more of them. -/
theorem length_wholeBefore_le (cut : Nat) (payloads : List Bytes) :
    (wholeBefore cut payloads).length ≤ payloads.length := by
  induction payloads generalizing cut with
  | nil => simp [wholeBefore]
  | cons payload payloads ih =>
      rw [wholeBefore]
      split
      · exact Nat.succ_le_succ (ih _)
      · exact Nat.zero_le _

/-! ## Stores written by appends -/

/-- Zero is below every number. -/
theorem zero_maximum (a : UInt64) : max 0 a = a := by
  rw [show max 0 a = if 0 ≤ a then a else 0 from rfl, if_pos UInt64.zero_le]

/-- How the scan ends at what it finds, unless that is a record. -/
def JournalFrame.tailStatus : JournalFrame → Option JournalTailStatus
  | .done => some .clean
  | .torn => some .tornTail
  | .corrupt => some .corrupt
  | .record _ _ => none

/-- The scan of whole records and of what it refuses behind them. -/
theorem scanJournal_numbered {limits : Limits} {payloads : List Bytes}
    (hfits : ∀ entry ∈ numbered 0 payloads, entry.Fits limits)
    (hcount : payloads.length < 2 ^ 64) {rest : Bytes} {tail : JournalTailStatus}
    (hrest : (readFrame limits rest).tailStatus = some tail)
    (hsize : journalSizeOk limits (journalImage (numbered 0 payloads) ++ rest).length = true) :
    ∃ scan, scanJournal limits (some (journalImage (numbered 0 payloads) ++ rest)) 0 = .ok scan ∧
      scan.records = payloads ∧ scan.lastSequence = lastOf 0 (numbered 0 payloads) ∧
      scan.replayableBytes = recordsLength payloads ∧ scan.tail = tail := by
  have hzero : (0 : UInt64).toNat + payloads.length < 2 ^ 64 := by simpa using hcount
  have hrising : Rising ({} : JournalScan).lastSequence (numbered 0 payloads) :=
    (numbered_rising hzero).1
  obtain ⟨fuel, hfuel⟩ : ∃ fuel, (journalImage (numbered 0 payloads) ++ rest).length + 1 =
      (numbered 0 payloads).length + (fuel + 1) := by
    have hle := Host.length_le_journalImage (numbered 0 payloads)
    refine ⟨(journalImage (numbered 0 payloads) ++ rest).length - (numbered 0 payloads).length, ?_⟩
    rw [List.length_append]
    omega
  have hrecords := JournalScan.records_adoptAll hrising 0
  obtain ⟨hlast, hbytes, htail, -⟩ := JournalScan.adoptAll_spec {} 0 (numbered 0 payloads)
  rw [replayed_numbered hzero] at hrecords
  rw [length_journalImage_numbered] at hbytes
  refine ⟨scanFrames limits 0 (fuel + 1) rest (JournalScan.adoptAll {} 0 (numbered 0 payloads)),
    ?_, ?_⟩
  · simp only [scanJournal, hsize, not_true_eq_false, not_false_eq_true, refuseIf_of_not, ok_bind]
    rw [hfuel, scanFrames_append 0 hfits rest hrising.ordered]
    rfl
  · rw [scanFrames]
    have hbytes' : 0 + recordsLength payloads = recordsLength payloads := Nat.zero_add _
    cases hframe : readFrame limits rest with
    | done =>
        rw [hframe] at hrest
        exact ⟨hrecords, hlast, hbytes.trans hbytes', htail.trans (Option.some.inj hrest)⟩
    | torn =>
        rw [hframe] at hrest
        exact ⟨hrecords, hlast, hbytes.trans hbytes', Option.some.inj hrest⟩
    | corrupt =>
        rw [hframe] at hrest
        exact ⟨hrecords, hlast, hbytes.trans hbytes', Option.some.inj hrest⟩
    | record entry after =>
        rw [hframe] at hrest
        cases hrest

namespace Host

/-- A store that is open on a directory without a snapshot, its journal these payloads. -/
structure Written (limits : Limits) (payloads : List Bytes) (h : Host) : Prop where
  limits_eq : h.store.limits = limits
  primary : h.files .primary = none
  previous : h.files .previous = none
  journal : h.content .journal = journalImage (numbered 0 payloads)
  fits : ∀ entry ∈ numbered 0 payloads, entry.Fits limits
  count_lt : payloads.length < 2 ^ 64
  last : h.store.lastSequence = lastOf 0 (numbered 0 payloads)
  opened : h.store.opened = true
  intact : h.store.journalDegraded = false
  ready : Ready h
  aligned : Aligned h

/-- A directory without a snapshot opens on the records in front of what the scan refuses. -/
theorem step_openStore_numbered {limits : Limits} {h : Host} (hlimits : h.store.limits = limits)
    (hprimary : h.files .primary = none) (hprevious : h.files .previous = none)
    {payloads : List Bytes} (hfits : ∀ entry ∈ numbered 0 payloads, entry.Fits limits)
    (hcount : payloads.length < 2 ^ 64) {rest : Bytes} {tail : JournalTailStatus}
    (hrest : (readFrame limits rest).tailStatus = some tail)
    (hjournal : h.files .journal = some (journalImage (numbered 0 payloads) ++ rest))
    (hsize : journalSizeOk limits (journalImage (numbered 0 payloads) ++ rest).length = true) :
    ∃ h', h.step ⟨.openStore, []⟩ = (.ok .opened, h') ∧ Written limits payloads h' ∧
      h'.store.records = payloads ∧ h'.store.report.tail = tail ∧
      h'.store.report.revalidationRequired = true := by
  subst hlimits
  have hadopt : adoptSnapshot h.store.limits h.files = .ok none := by
    have hholds : Holds h.store.limits h.files none := .inr ⟨hprimary, .inr ⟨rfl, hprevious⟩⟩
    obtain ⟨_, hadopt⟩ := adoptSnapshot_of_holds hholds
    exact hadopt
  obtain ⟨scan, hscan, hrecords, hlast, hbytes, htail⟩ :=
    scanJournal_numbered hfits hcount hrest hsize
  rw [← hjournal] at hscan
  have hexec := exec_openStore (h := h.asked []) rfl hadopt hscan
  have hsome : (h.files .journal).isSome = true := by rw [hjournal]; rfl
  have hcontent : ((h.asked []).reopened none scan).content .journal =
      journalImage (numbered 0 payloads) := by
    show (((h.asked []).reopened none scan).files .journal).getD [] = _
    rw [files_reopened]
    show ((h.files .journal).map _).getD [] = _
    rw [hjournal, Option.map_some, Option.getD_some]
    exact resize_append (by rw [hbytes, length_journalImage_numbered])
  have hopen : ((h.asked []).reopened none scan).store.journal = true := hsome
  refine ⟨(h.asked []).reopened none scan, ?_, ⟨rfl, ?_, ?_, hcontent, hfits, hcount, ?_, rfl, rfl,
    fun hclosed => absurd (hopen.symm.trans hclosed) (by decide), fun _ => ⟨?_, ?_⟩⟩, hrecords,
    htail, rfl⟩
  · unfold step
    simp only [StoreCall.operation, exec_map, hexec]
    rfl
  · exact (files_reopened_of_ne (by decide)).trans hprimary
  · exact (files_reopened_of_ne (by decide)).trans hprevious
  · show max 0 scan.lastSequence = _
    rw [hlast, zero_maximum]
  · show ((h.asked []).reopened none scan).volume.cursors .journal =
      (((h.asked []).reopened none scan).content .journal).length
    rw [hcontent, length_journalImage_numbered, ← hbytes]
    exact cursors_reopened (h := h.asked []) hsome none scan
  · rw [hcontent, length_journalImage_numbered]
    exact hbytes.symm

/-- An append takes the next sequence. -/
theorem checkAppend_sequence {store : DurableStore} {payload : Bytes} {sequence : UInt64}
    (h : checkAppend store payload = .ok sequence) :
    sequence.toNat = store.lastSequence.toNat + 1 ∧ sequence = store.lastSequence + 1 := by
  simp only [checkAppend, bind_eq_ok, refuseIf_eq_ok] at h
  obtain ⟨-, -, -, -, -, -, -, -, hsequence⟩ := h
  have hnat : sequence.toNat = store.lastSequence.toNat + 1 := toNat_of_checkedAdd hsequence
  refine ⟨hnat, UInt64.toNat_inj.mp ?_⟩
  have hlt := sequence.toNat_lt
  rw [UInt64.toNat_add, hnat, show (1 : UInt64).toNat = 1 from rfl, Nat.mod_eq_of_lt (by omega)]

/-- An append whose checks pass adds its record. -/
theorem Written.step_append {limits : Limits} {payloads : List Bytes} {h : Host}
    (hw : Written limits payloads h) {next : Bytes} {sequence : UInt64}
    (hcheck : checkAppend h.store next = .ok sequence) :
    ∃ h', h.step ⟨.append next, []⟩ = (.ok (.appended sequence), h') ∧
      sequence.toNat = payloads.length + 1 ∧ Written limits (payloads ++ [next]) h' := by
  obtain ⟨-, -, -, hfits⟩ := checkAppend_ok hcheck
  obtain ⟨hnat, hsequence⟩ := checkAppend_sequence hcheck
  have hzero : (0 : UInt64).toNat + payloads.length < 2 ^ 64 := by simpa using hw.count_lt
  have hcount : sequence.toNat = payloads.length + 1 := by
    rw [hnat, hw.last, (numbered_rising hzero).2]
    simp
  have hsnoc : numbered 0 (payloads ++ [next]) = numbered 0 payloads ++ [⟨sequence, next⟩] := by
    rw [numbered_append, ← hw.last, hsequence]
    rfl
  have hends := ends_append (h := h.asked []) hw.ready hw.aligned hcheck
  unfold Ends at hends
  unfold step
  simp only [StoreCall.operation, exec_map]
  rcases hexec : (append next).exec (h.asked []) with ⟨r, h'⟩
  rw [hexec] at hends
  obtain ⟨htouched, hblamed, hok, -⟩ := hends
  cases r with
  | error halt =>
      cases halt with
      | refused e => exact absurd (hblamed _ rfl).choose_spec (by simp [asked])
      | stopped => exact absurd (hblamed _ rfl).choose_spec (by simp [asked])
  | ok s =>
      obtain ⟨rfl, hend, hcontent, hstore⟩ := hok s rfl
      have hlength : (h'.content .journal).length = h'.store.journalBytes := by
        rw [hcontent, hstore, List.length_append, JournalEntry.length_encode, journalHeaderBytes,
          Nat.add_assoc]
      refine ⟨h', rfl, hcount, ?_, (htouched.others .primary (by decide)).trans hw.primary,
        (htouched.others .previous (by decide)).trans hw.previous, ?_, ?_, ?_, ?_, ?_, ?_,
        fun hclosed => ?_, fun _ => ⟨hend, hlength⟩⟩
      · rw [hstore]
        exact hw.limits_eq
      · rw [hcontent, hsnoc, journalImage_append, journalImage_cons, journalImage_nil,
          List.append_nil]
        exact congrArg (· ++ _) hw.journal
      · rw [hsnoc]
        intro entry hentry
        cases List.mem_append.mp hentry with
        | inl hentry => exact hw.fits entry hentry
        | inr hentry =>
            rw [List.mem_singleton.mp hentry, ← hw.limits_eq]
            exact hfits
      · rw [List.length_append, List.length_singleton, ← hcount]
        exact s.toNat_lt
      · rw [hstore, hsnoc]
        simp [lastOf]
      · rw [hstore]
        exact hw.opened
      · rw [hstore]
        exact hw.intact
      · rw [hstore] at hclosed
        cases hclosed

/-- Append the payloads one after another; none once one of them is refused. -/
def appendAll (h : Host) : List Bytes → Option Host
  | [] => some h
  | payload :: payloads =>
    match h.step ⟨.append payload, []⟩ with
    | (.ok _, h') => h'.appendAll payloads
    | (.error _, _) => none

/-- A new store has written nothing. -/
theorem written_fresh (limits : Limits) : Written limits [] (fresh limits) := by
  have hscan : scanJournal limits ((empty limits).files .journal) 0 = .ok { tail := .missing } :=
    rfl
  have hexec := exec_openStore (h := (empty limits).asked []) rfl rfl hscan
  have hfresh : fresh limits = ((empty limits).asked []).reopened none { tail := .missing } := by
    unfold fresh step
    simp only [StoreCall.operation, exec_map, hexec]
    rfl
  rw [hfresh]
  refine ⟨rfl, rfl, rfl, rfl, by simp [numbered], by simp, ?_, rfl, rfl, fun _ => ⟨rfl, rfl⟩,
    fun hopen => (by cases hopen)⟩
  show max 0 0 = _
  rw [zero_maximum]
  rfl

/-- An accepted append has passed its checks. -/
theorem checkAppend_of_appended {h h' : Host} {payload : Bytes} {reply : StoreReply}
    (hstep : h.step ⟨.append payload, []⟩ = (.ok reply, h')) :
    ∃ sequence, checkAppend h.store payload = .ok sequence := by
  cases hcheck : checkAppend h.store payload with
  | ok sequence => exact ⟨sequence, rfl⟩
  | error e =>
      rw [step_append_refused hcheck] at hstep
      cases hstep

/-- Appending to a store that appends have written. -/
theorem Written.appendAll {limits : Limits} {before payloads : List Bytes} {h h' : Host}
    (hw : Written limits before h) (happended : h.appendAll payloads = some h') :
    Written limits (before ++ payloads) h' := by
  induction payloads generalizing before h with
  | nil =>
      obtain rfl := Option.some.inj happended
      rwa [List.append_nil]
  | cons payload payloads ih =>
      unfold Host.appendAll at happended
      split at happended
      · next reply h₁ hstep =>
          obtain ⟨sequence, hcheck⟩ := checkAppend_of_appended hstep
          obtain ⟨h₂, hstep₂, -, hw₂⟩ := hw.step_append hcheck
          rw [hstep] at hstep₂
          obtain rfl : h₁ = h₂ := congrArg Prod.snd hstep₂
          rw [List.append_cons]
          exact ih hw₂ happended
      · cases happended

/-- An `open` that succeeds has found a journal of an acceptable size. -/
theorem journalSizeOk_of_opened {h h' : Host} {reply : StoreReply} {bytes : Bytes}
    (hstep : h.step ⟨.openStore, []⟩ = (.ok reply, h')) (hfile : h.files .journal = some bytes) :
    journalSizeOk h.store.limits bytes.length = true := by
  rcases step_openStore_calm h with ⟨adopted, scan, -, hscan, -⟩ | ⟨e, h', hrefused, -⟩
  · rw [hfile] at hscan
    obtain ⟨entries, rest, -, -, -, hsize, -⟩ := scanJournal_parts hscan
    exact hsize
  · rw [hstep] at hrefused
    cases hrefused

/-- A journal that appends have written is there once it has a record. -/
theorem Written.file {limits : Limits} {payloads : List Bytes} {h : Host}
    (hw : Written limits payloads h) (hne : payloads ≠ []) :
    h.files .journal = some (journalImage (numbered 0 payloads)) := by
  have hcontent : (h.files .journal).getD [] = journalImage (numbered 0 payloads) := hw.journal
  cases hfile : h.files .journal with
  | some bytes =>
      rw [hfile] at hcontent
      exact congrArg some hcontent
  | none =>
      rw [hfile] at hcontent
      have hlength := length_journalImage_numbered 0 payloads
      cases payloads with
      | nil => exact absurd rfl hne
      | cons payload payloads =>
          have hpos : 0 < journalHeaderBytes := by decide
          rw [← hcontent, Option.getD_none, List.length_nil, recordsLength_cons] at hlength
          omega

/-- A new process opens the directory, with these bytes as its journal. -/
def reopenWith (h : Host) (journal : Bytes) : Except (Halt Error) StoreReply × Host :=
  { h.crashed with volume := h.volume.put .journal journal }.step ⟨.openStore, []⟩

/-- A damaged journal opens on the records in front of what the scan refuses. -/
theorem Written.reopenWith {limits : Limits} {written payloads : List Bytes} {h : Host}
    (hw : Written limits written h) (hfits : ∀ entry ∈ numbered 0 payloads, entry.Fits limits)
    (hcount : payloads.length < 2 ^ 64) {rest : Bytes} {tail : JournalTailStatus}
    (hrest : (readFrame limits rest).tailStatus = some tail)
    (hsize : journalSizeOk limits (journalImage (numbered 0 payloads) ++ rest).length = true) :
    ∃ h', h.reopenWith (journalImage (numbered 0 payloads) ++ rest) = (.ok .opened, h') ∧
      Written limits payloads h' ∧ h'.store.records = payloads ∧ h'.store.report.tail = tail ∧
      h'.store.report.revalidationRequired = true := by
  refine step_openStore_numbered
    (h := { h.crashed with volume := h.volume.put .journal _ }) hw.limits_eq ?_ ?_ hfits hcount hrest
    ?_ hsize
  · exact (Volume.put_files_of_ne (by decide) _ _).trans hw.primary
  · exact (Volume.put_files_of_ne (by decide) _ _).trans hw.previous
  · exact Volume.put_files_self _ _ _

/-! ## Cut journals -/

/-- `open` has recovered the records that lie completely before the cut, and the next append
goes on behind them. -/
structure RecoversCut (payloads : List Bytes) (cut : Nat) (next : Bytes)
    (r : Except (Halt Error) StoreReply × Host) : Prop where
  opened : r.1 = .ok .opened
  records : r.2.store.records = wholeBefore cut payloads
  clean : OnBoundary cut payloads → r.2.store.report.tail = .clean
  torn : ¬OnBoundary cut payloads → r.2.store.report.tail = .tornTail
  onward : ∃ sequence h₁ h₂, r.2.step ⟨.append next, []⟩ = (.ok (.appended sequence), h₁) ∧
    sequence.toNat = (wholeBefore cut payloads).length + 1 ∧
    h₁.step ⟨.openStore, []⟩ = (.ok .opened, h₂) ∧
    h₂.store.records = wholeBefore cut payloads ++ [next] ∧ h₂.store.lastSequence = sequence

/-- A cut journal always opens. -/
theorem Written.reopen_cut {limits : Limits} {payloads : List Bytes} {h : Host}
    (hw : Written limits payloads h)
    (hsize : journalSizeOk limits (h.content .journal).length = true) {cut : Nat}
    (hcut : cut ≤ (h.content .journal).length) :
    ∃ h', h.reopenWith ((h.content .journal).take cut) = (.ok .opened, h') ∧
      Written limits (wholeBefore cut payloads) h' ∧
      h'.store.records = wholeBefore cut payloads ∧
      (OnBoundary cut payloads → h'.store.report.tail = .clean) ∧
      (¬OnBoundary cut payloads → h'.store.report.tail = .tornTail) := by
  have hkept : ∀ entry ∈ numbered 0 (wholeBefore cut payloads), entry.Fits limits :=
    fits_numbered.mpr fun payload hpayload =>
      fits_numbered.mp hw.fits payload (wholeBefore_subset cut payloads payload hpayload)
  have hcount : (wholeBefore cut payloads).length < 2 ^ 64 :=
    Nat.lt_of_le_of_lt (length_wholeBefore_le cut payloads) hw.count_lt
  have hlength := length_journalImage_numbered 0 payloads
  rw [hw.journal] at hsize hcut ⊢
  obtain ⟨rest, hrest, hend⟩ := take_journalImage hw.fits (hlength ▸ hcut)
  have hsize : journalSizeOk limits
      (journalImage (numbered 0 (wholeBefore cut payloads)) ++ rest).length = true := by
    rw [← hrest]
    exact journalSizeOk_of_le (List.length_take_le' _ _) hsize
  rw [hrest]
  rcases hend with ⟨hboundary, rfl⟩ | ⟨hboundary, htorn⟩
  · obtain ⟨h', hopen, hw', hrecords, htail, -⟩ :=
      hw.reopenWith hkept hcount (show (readFrame limits []).tailStatus = some .clean from rfl) hsize
    exact ⟨h', hopen, hw', hrecords, fun _ => htail, fun hnot => absurd hboundary hnot⟩
  · obtain ⟨h', hopen, hw', hrecords, htail, -⟩ :=
      hw.reopenWith hkept hcount (show (readFrame limits rest).tailStatus = some .tornTail by
        rw [htorn]
        rfl) hsize
    exact ⟨h', hopen, hw', hrecords, fun hyes => absurd hyes hboundary, fun _ => htail⟩

/-- What the next append and another `open` make of a recovered store. -/
theorem Written.onward {limits : Limits} {payloads : List Bytes} {h : Host}
    (hw : Written limits payloads h) {next : Bytes} {sequence : UInt64}
    (hcheck : checkAppend h.store next = .ok sequence) :
    ∃ h₁, h.step ⟨.append next, []⟩ = (.ok (.appended sequence), h₁) ∧
      sequence.toNat = payloads.length + 1 ∧
      ((∃ h₂, h₁.step ⟨.openStore, []⟩ = (.ok .opened, h₂) ∧
        h₂.store.records = payloads ++ [next] ∧ h₂.store.lastSequence = sequence) ↔
      journalSizeOk limits (recordsLength payloads + journalHeaderBytes + next.length) = true) := by
  obtain ⟨h₁, hstep, hsequence, hw₁⟩ := hw.step_append hcheck
  have hfile := hw₁.file (List.append_ne_nil_of_right_ne_nil _ (List.cons_ne_nil next []))
  have hlength : (journalImage (numbered 0 (payloads ++ [next]))).length =
      recordsLength payloads + journalHeaderBytes + next.length := by
    rw [length_journalImage_numbered, recordsLength_append, recordsLength_cons, recordsLength_nil]
    omega
  refine ⟨h₁, hstep, hsequence, fun ⟨h₂, hopen, _⟩ => ?_, fun hsize => ?_⟩
  · have hsize := journalSizeOk_of_opened hopen hfile
    rwa [hw₁.limits_eq, hlength] at hsize
  · have hclean : (readFrame limits []).tailStatus = some .clean := rfl
    obtain ⟨h₂, hopen, hw₂, hrecords, -⟩ := step_openStore_numbered hw₁.limits_eq hw₁.primary
      hw₁.previous hw₁.fits hw₁.count_lt hclean (by rwa [List.append_nil])
      (by rwa [List.append_nil, hlength])
    refine ⟨h₂, hopen, hrecords, UInt64.toNat_inj.mp ?_⟩
    have hcount : (0 : UInt64).toNat + (payloads ++ [next]).length < 2 ^ 64 := by
      simpa using hw₁.count_lt
    rw [hw₂.last, (numbered_rising hcount).2, hsequence, List.length_append]
    simp

/-- A torn journal recovers to its longest whole prefix, and goes on behind it exactly as long as
the next record leaves the journal within the size that `open` accepts. -/
theorem torn_journal_recovers_iff {limits : Limits} {payloads : List Bytes} {h : Host}
    (happended : (fresh limits).appendAll payloads = some h)
    (hsize : journalSizeOk limits (h.content .journal).length = true) {cut : Nat}
    (hcut : cut ≤ (h.content .journal).length) {next : Bytes}
    (hnext : (checkAppend (h.reopenWith ((h.content .journal).take cut)).2.store next).isOk = true) :
    RecoversCut payloads cut next (h.reopenWith ((h.content .journal).take cut)) ↔
      journalSizeOk limits
        (recordsLength (wholeBefore cut payloads) + journalHeaderBytes + next.length) = true := by
  have hw : Written limits payloads h := (written_fresh limits).appendAll happended
  obtain ⟨h', hopen, hw', hrecords, hclean, htorn⟩ := hw.reopen_cut hsize hcut
  rw [hopen] at hnext ⊢
  cases hcheck : checkAppend h'.store next with
  | error e =>
      rw [hcheck] at hnext
      cases hnext
  | ok sequence =>
      obtain ⟨h₁, hstep, hsequence, honward⟩ := hw'.onward hcheck
      rw [← honward]
      constructor
      · rintro ⟨-, -, -, -, s, h₃, h₂, hstep₃, -, hopen₂, hrecords₂, hlast₂⟩
        obtain ⟨rfl, rfl⟩ : s = sequence ∧ h₃ = h₁ := by
          have := hstep.symm.trans hstep₃
          simp at this
          exact ⟨this.1.symm, this.2.symm⟩
        exact ⟨h₂, hopen₂, hrecords₂, hlast₂⟩
      · rintro ⟨h₂, hopen₂, hrecords₂, hlast₂⟩
        exact ⟨rfl, hrecords, hclean, htorn, sequence, h₁, h₂, hstep, hsequence, hopen₂, hrecords₂,
          hlast₂⟩

/-- The store after these appends. -/
def afterAppends (limits : Limits) (payloads : List Bytes) : Host :=
  ((fresh limits).appendAll payloads).getD (fresh limits)

/-- Appends that all succeed leave the journal they wrote. -/
theorem appendAll_eq_some {limits : Limits} {payloads : List Bytes}
    (h : ((fresh limits).appendAll payloads).isSome = true) :
    (fresh limits).appendAll payloads = some (afterAppends limits payloads) := by
  obtain ⟨a, ha⟩ := Option.isSome_iff_exists.mp h
  rw [afterAppends, ha]
  rfl

/-- Two records, the second one cut in its payload. -/
theorem torn_journal_recovers_iff_small :
    RecoversCut [[1], [2, 3]] 50 [9]
        ((afterAppends {} [[1], [2, 3]]).reopenWith
          (((afterAppends {} [[1], [2, 3]]).content .journal).take 50)) ↔
      journalSizeOk {} (recordsLength (wholeBefore 50 [[1], [2, 3]]) + journalHeaderBytes + 1) =
        true :=
  torn_journal_recovers_iff (appendAll_eq_some (by decide +kernel)) (by decide +kernel)
    (by decide +kernel) (by decide +kernel)

/-- Limits that accept a journal of one record, and not of two. -/
def oneRecord : Limits := { maxStateBytes := 12, maxJournalRecordBytes := 1 }

/-- The whole journal is kept, and the append behind it makes it too large to be opened. -/
theorem torn_journal_outgrows :
    ¬∀ (limits : Limits) (payloads : List Bytes) (h : Host) (cut : Nat) (next : Bytes),
      limits.validate = .ok () → (fresh limits).appendAll payloads = some h →
      journalSizeOk limits (h.content .journal).length = true →
      cut ≤ (h.content .journal).length →
      (checkAppend (h.reopenWith ((h.content .journal).take cut)).2.store next).isOk = true →
      RecoversCut payloads cut next (h.reopenWith ((h.content .journal).take cut)) := by
  intro hall
  obtain ⟨-, -, -, -, sequence, h₁, h₂, hstep, -, hopen, -⟩ :=
    hall oneRecord [[1]] _ 25 [2] (by decide) (appendAll_eq_some (by decide +kernel))
      (by decide +kernel) (by decide +kernel) (by decide +kernel)
  have hrefused : ((((afterAppends oneRecord [[1]]).reopenWith
      (((afterAppends oneRecord [[1]]).content .journal).take 25)).2.step
        ⟨.append [2], []⟩).2.step ⟨.openStore, []⟩).1.isOk = false := by
    decide +kernel
  rw [hstep, hopen] at hrefused
  cases hrefused

/-! ## Damaged bytes -/

/-- `open` has recovered the records before a damaged one, and says that they may not be all. -/
structure StopsBefore (payloads : List Bytes) (i : Nat)
    (r : Except (Halt Error) StoreReply × Host) : Prop where
  opened : r.1 = .ok .opened
  records : r.2.store.records = payloads.take i
  tail : r.2.store.report.tail = .corrupt
  revalidation : r.2.store.report.revalidationRequired = true
  appended : ∀ payload ∈ r.2.store.records, payload ∈ payloads

/-- A journal, split at one of its records. -/
theorem numbered_split {payloads : List Bytes} {i : Nat} (hi : i < payloads.length) :
    ∃ entry after, entry.payload = payloads[i] ∧
      numbered 0 payloads = numbered 0 (payloads.take i) ++ entry :: after := by
  have hnumbered := numbered_append 0 (payloads.take i) (payloads.drop i)
  rw [List.take_append_drop, List.drop_eq_getElem_cons hi] at hnumbered
  exact ⟨_, _, rfl, hnumbered⟩

/-- A damaged record splits the journal in front of it. -/
theorem set_journalImage {limits : Limits} {payloads : List Bytes}
    (hfits : ∀ entry ∈ numbered 0 payloads, entry.Fits limits) {i : Nat} (hi : i < payloads.length)
    {k : Nat} (hk : k < journalHeaderBytes + payloads[i].length) {byte : UInt8}
    (hbyte : (journalImage (numbered 0 payloads))[recordsLength (payloads.take i) + k]? ≠
      some byte) :
    ∃ rest, (journalImage (numbered 0 payloads)).set (recordsLength (payloads.take i) + k) byte =
        journalImage (numbered 0 (payloads.take i)) ++ rest ∧ readFrame limits rest = .corrupt := by
  obtain ⟨entry, after, hentry, hnumbered⟩ := numbered_split hi
  have hlength := length_journalImage_numbered 0 (payloads.take i)
  have himage : journalImage (numbered 0 payloads) =
      journalImage (numbered 0 (payloads.take i)) ++ (entry.encode ++ journalImage after) := by
    rw [hnumbered, journalImage_append, journalImage_cons]
  have hinside : k < entry.encode.length := by
    rw [JournalEntry.length_encode, hentry]
    exact hk
  have hfit : entry.Fits limits := hfits entry (by rw [hnumbered]; simp)
  rw [himage] at hbyte ⊢
  rw [← hlength, List.getElem?_append_right (Nat.le_add_right _ _), Nat.add_sub_cancel_left,
    List.getElem?_append_left hinside, List.getElem?_eq_getElem hinside] at hbyte
  refine ⟨entry.encode.set k byte ++ journalImage after, ?_,
    JournalEntry.readFrame_set hfit hinside (fun heq => hbyte (congrArg some heq.symm)) _⟩
  rw [← hlength, List.set_append_right _ _ (Nat.le_add_right _ _), Nat.add_sub_cancel_left,
    List.set_append_left _ _ hinside]

/-- One byte changed in a record costs that record and what follows it, and nothing else, exactly
as long as `open` accepts a journal of this size. -/
theorem damaged_record_stops_iff {limits : Limits} {payloads : List Bytes} {h : Host}
    (happended : (fresh limits).appendAll payloads = some h) {i : Nat} (hi : i < payloads.length)
    {k : Nat} (hk : k < journalHeaderBytes + payloads[i].length) {byte : UInt8}
    (hbyte : (h.content .journal)[recordsLength (payloads.take i) + k]? ≠ some byte) :
    StopsBefore payloads i
        (h.reopenWith ((h.content .journal).set (recordsLength (payloads.take i) + k) byte)) ↔
      journalSizeOk limits (h.content .journal).length = true := by
  have hw : Written limits payloads h := (written_fresh limits).appendAll happended
  constructor
  · intro hstops
    rcases hopen : h.reopenWith ((h.content .journal).set (recordsLength (payloads.take i) + k)
      byte) with ⟨r, h'⟩
    rw [hopen] at hstops
    obtain rfl : r = .ok .opened := hstops.opened
    have hsize := journalSizeOk_of_opened hopen (Volume.put_files_self _ _ _)
    rw [List.length_set] at hsize
    rwa [← hw.limits_eq]
  · intro hsize
    have hkept : ∀ entry ∈ numbered 0 (payloads.take i), entry.Fits limits :=
      fits_numbered.mpr fun payload hpayload =>
        fits_numbered.mp hw.fits payload (List.mem_of_mem_take hpayload)
    have hcount : (payloads.take i).length < 2 ^ 64 :=
      Nat.lt_of_le_of_lt (List.length_take_le' _ _) hw.count_lt
    rw [hw.journal] at hbyte hsize ⊢
    obtain ⟨rest, hset, hcorrupt⟩ := set_journalImage hw.fits hi hk hbyte
    have hlength := congrArg List.length hset
    rw [List.length_set] at hlength
    rw [hset]
    obtain ⟨h', hopen, -, hrecords, htail, hrevalidation⟩ :=
      hw.reopenWith hkept hcount (show (readFrame limits rest).tailStatus = some .corrupt by
        rw [hcorrupt]
        rfl) (by rwa [← hlength])
    rw [hopen]
    refine ⟨rfl, hrecords, htail, hrevalidation, fun payload hpayload => ?_⟩
    rw [show h'.store.records = _ from hrecords] at hpayload
    exact List.mem_of_mem_take hpayload

/-- The length of the second of two records is changed. -/
theorem damaged_record_stops_iff_small :
    StopsBefore [[1], [2, 3]] 1 ((afterAppends {} [[1], [2, 3]]).reopenWith
        (((afterAppends {} [[1], [2, 3]]).content .journal).set (25 + 4) 1)) ↔
      journalSizeOk {} ((afterAppends {} [[1], [2, 3]]).content .journal).length = true :=
  damaged_record_stops_iff (i := 1) (k := 4) (appendAll_eq_some (by decide +kernel)) (by decide)
    (by decide) (by decide +kernel)

/-- Two records are appended, and no `open` accepts the journal any more. -/
theorem damaged_journal_refused :
    ¬∀ (limits : Limits) (payloads : List Bytes) (h : Host) (i k : Nat) (byte : UInt8)
        (hi : i < payloads.length),
      limits.validate = .ok () → (fresh limits).appendAll payloads = some h →
      k < journalHeaderBytes + payloads[i].length →
      (h.content .journal)[recordsLength (payloads.take i) + k]? ≠ some byte →
      StopsBefore payloads i
        (h.reopenWith ((h.content .journal).set (recordsLength (payloads.take i) + k) byte)) := by
  intro hall
  have hstops := hall oneRecord [[1], [2]] _ 1 24 0 (by decide) (by decide)
    (appendAll_eq_some (by decide +kernel)) (by decide) (by decide +kernel)
  have hrefused : ((afterAppends oneRecord [[1], [2]]).reopenWith
      (((afterAppends oneRecord [[1], [2]]).content .journal).set 49 0)).1.isOk = false := by
    decide +kernel
  rw [show ((afterAppends oneRecord [[1], [2]]).reopenWith
    (((afterAppends oneRecord [[1], [2]]).content .journal).set 49 0)).1 = _ from
      hstops.opened] at hrefused
  cases hrefused

end Host

end ShuffleFabric
