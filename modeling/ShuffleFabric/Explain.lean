import ShuffleFabric.Inspection
import ShuffleFabric.Lib.Group
import ShuffleFabric.Lib.Table

/-!
# ShuffleFabric.Explain

What the explanation of a ledger says about its failures, and when it depends on the order
the failures are met in.
-/

namespace ShuffleFabric

open Lib

namespace CompletionLedger

/-- `walk` meets the failure records of the ledger, each of them once, in some order. -/
def Walks (l : CompletionLedger) (walk : List FailureRecord) : Prop :=
  walk.Perm (l.failures.toList.map (·.2))

/-- The entries of `explain` about the failures. -/
def failureEntries (walk : List FailureRecord) : List ExplainEntry :=
  (walk.foldl groupFailure {}).toList.map (·.2)

/-- The detail a failure is explained with. -/
def detailOf (record : FailureRecord) : String := (firstEntry record).detail

/-- A later failure of the same code: the least edge stays, the detail is not touched. -/
def addFailure (entry : ExplainEntry) (record : FailureRecord) : ExplainEntry :=
  { entry with
    subject := if record.key.toText < entry.subject then record.key.toText else entry.subject
    count := entry.count + 1 }

theorem groupFailure_eq : groupFailure = gather (·.code.value) firstEntry addFailure := by
  funext grouped record
  unfold groupFailure gather
  cases grouped[record.code.value]? <;> rfl

theorem foldl_addFailure (entry : ExplainEntry) (rest : List FailureRecord) :
    rest.foldl addFailure entry = { entry with
      subject := rest.foldl (fun low record =>
        if record.key.toText < low then record.key.toText else low) entry.subject
      count := entry.count + UInt64.ofNat rest.length } := by
  induction rest generalizing entry with
  | nil => simp
  | cons record rest ih =>
      rw [List.foldl_cons, ih, addFailure]
      simp only [List.foldl_cons, List.length_cons, UInt64.ofNat_add, UInt64.ofNat_one,
        UInt64.add_assoc, UInt64.add_comm 1]

/-- The failures of one code. -/
def ofCode (walk : List FailureRecord) (code : UInt16) : List FailureRecord :=
  walk.filter fun record => record.code.value = code

theorem mem_ofCode {walk : List FailureRecord} {code : UInt16} {record : FailureRecord} :
    record ∈ ofCode walk code ↔ record ∈ walk ∧ record.code.value = code := by
  simp [ofCode]

theorem getElem?_grouped (walk : List FailureRecord) (code : UInt16) :
    (walk.foldl groupFailure {})[code]? = summarise firstEntry addFailure (ofCode walk code) := by
  rw [groupFailure_eq]
  exact getElem?_foldl_gather _ _ _ walk Std.ExtTreeMap.getElem?_empty

/-- What the entry of a code says, when `first` is the first of its failures that is met. -/
theorem summarise_eq {walk : List FailureRecord} {code : UInt16} {entry : ExplainEntry}
    (h : summarise firstEntry addFailure (ofCode walk code) = some entry) :
    entry.code.value = code ∧ entry.count = UInt64.ofNat (ofCode walk code).length ∧
      (∃ first ∈ ofCode walk code, entry.detail = detailOf first) ∧
      ∃ least ∈ ofCode walk code, entry.subject = least.key.toText ∧
        ∀ record ∈ ofCode walk code, least.key.toText ≤ record.key.toText := by
  cases hcode : ofCode walk code with
  | nil => rw [hcode] at h; cases h
  | cons first rest =>
      rw [hcode, summarise, foldl_addFailure, Option.some.injEq] at h
      subst h
      have hfirst : first ∈ ofCode walk code := hcode ▸ List.mem_cons_self
      obtain ⟨least, hmem, hleast, hle⟩ :=
        exists_least_foldl (fun record : FailureRecord => record.key.toText) first rest
      refine ⟨(mem_ofCode.mp hfirst).2, ?_, ⟨first, List.mem_cons_self, rfl⟩,
        ⟨least, hmem, hleast, hle⟩⟩
      rw [List.length_cons, UInt64.ofNat_add, UInt64.add_comm]
      rfl

theorem mem_failureEntries {walk : List FailureRecord} {entry : ExplainEntry} :
    entry ∈ failureEntries walk ↔
      summarise firstEntry addFailure (ofCode walk entry.code.value) = some entry := by
  rw [failureEntries, List.mem_map]
  constructor
  · rintro ⟨⟨code, entry⟩, hmem, rfl⟩
    rw [Std.ExtTreeMap.mem_toList_iff_getElem?_eq_some, getElem?_grouped] at hmem
    rwa [(summarise_eq hmem).1]
  · intro h
    refine ⟨⟨entry.code.value, entry⟩, ?_, rfl⟩
    rwa [Std.ExtTreeMap.mem_toList_iff_getElem?_eq_some, getElem?_grouped]

theorem code_inj {a b : ErrorCode} (h : a.value = b.value) : a = b := by
  cases a
  cases b
  cases h
  rfl

/-- One entry for each code. -/
theorem countP_failureEntries {walk : List FailureRecord} {record : FailureRecord}
    (h : record ∈ walk) : (failureEntries walk).countP (·.code = record.code) = 1 := by
  have hcodes : (failureEntries walk).map (·.code.value) =
      (walk.foldl groupFailure {}).toList.map (·.1) := by
    rw [failureEntries, List.map_map]
    refine List.map_congr_left fun ⟨code, entry⟩ hmem => ?_
    rw [Std.ExtTreeMap.mem_toList_iff_getElem?_eq_some, getElem?_grouped] at hmem
    exact (summarise_eq hmem).1
  have hnodup : ((failureEntries walk).map (·.code.value)).Nodup := hcodes ▸ nodup_keys_toList _
  obtain ⟨first, rest, hcons⟩ : ∃ first rest, ofCode walk record.code.value = first :: rest :=
    List.exists_cons_of_ne_nil (List.ne_nil_of_mem (mem_ofCode.mpr ⟨h, rfl⟩))
  have hentry : summarise firstEntry addFailure (ofCode walk record.code.value) =
      some (rest.foldl addFailure (firstEntry first)) := by rw [hcons, summarise]
  have hcode := (summarise_eq hentry).1
  have hmem : rest.foldl addFailure (firstEntry first) ∈ failureEntries walk := by
    rwa [mem_failureEntries, hcode]
  rw [← countP_eq_one_of_nodup hnodup hmem]
  refine List.countP_congr fun entry _ => ?_
  simp only [decide_eq_true_eq, hcode]
  exact ⟨congrArg _, code_inj⟩

/-- The entry gives the number of failures of its code, the least edge among them, and what is
recorded of that edge. -/
structure Describes (entry : ExplainEntry) (walk : List FailureRecord) : Prop where
  count : entry.count = UInt64.ofNat (walk.countP (·.code = entry.code))
  sample : ∃ record ∈ walk, record.code = entry.code ∧ entry.subject = record.key.toText ∧
    entry.detail = detailOf record ∧
    ∀ other ∈ walk, other.code = entry.code → record.key.toText ≤ other.key.toText

/-- What `explain` answers is a function of the failure records and the count of duplicate
commits, which it appends: two ledgers that agree on both answer alike in whatever order they
meet their failures, and there is one entry for each code, which describes the failures of
it. -/
def ExplainsContent (l : CompletionLedger) : Prop :=
  ∀ (l' : CompletionLedger) (walk walk' : List FailureRecord), l'.failures = l.failures →
    l'.duplicateCommits = l.duplicateCommits → l.Walks walk → l'.Walks walk' →
    l.explain walk = l'.explain walk' ∧ (∀ entry ∈ failureEntries walk, Describes entry walk) ∧
      ∀ record ∈ walk, (failureEntries walk).countP (·.code = record.code) = 1

/-- Failures of one code are recorded alike: as permanent or not, after as many attempts, and
ready at one tick. -/
def Uniform (walk : List FailureRecord) : Prop :=
  ∀ record ∈ walk, ∀ other ∈ walk, record.code = other.code → detailOf record = detailOf other

theorem Uniform.of_mem {walk walk' : List FailureRecord} (h : Uniform walk)
    (hmem : ∀ record, record ∈ walk' → record ∈ walk) : Uniform walk' :=
  fun record hrecord other hother => h record (hmem record hrecord) other (hmem other hother)

theorem ofCode_of_mem {walk : List FailureRecord} {code : ErrorCode} {record : FailureRecord} :
    record ∈ ofCode walk code.value ↔ record ∈ walk ∧ record.code = code := by
  rw [mem_ofCode]
  exact and_congr_right fun _ => ⟨code_inj, congrArg _⟩

theorem Uniform.describes {walk : List FailureRecord} (h : Uniform walk) {entry : ExplainEntry}
    (hentry : entry ∈ failureEntries walk) : Describes entry walk := by
  obtain ⟨-, hcount, ⟨first, hfirst, hdetail⟩, least, hleast, hsubject, hle⟩ :=
    summarise_eq (mem_failureEntries.mp hentry)
  rw [ofCode_of_mem] at hfirst hleast
  constructor
  · rw [hcount, ofCode, ← List.countP_eq_length_filter]
    congr 1
    refine List.countP_congr fun record _ => ?_
    simp only [decide_eq_true_eq]
    exact ⟨code_inj, congrArg _⟩
  · refine ⟨least, hleast.1, hleast.2, hsubject, ?_, ?_⟩
    · rw [hdetail]
      exact h first hfirst.1 least hleast.1 (hfirst.2.trans hleast.2.symm)
    · exact fun other hother hcode => hle other (ofCode_of_mem.mpr ⟨hother, hcode⟩)

/-- The entry of a code does not depend on the order of the failures. -/
theorem Uniform.summarise_perm {walk walk' : List FailureRecord} (h : Uniform walk)
    (hperm : walk.Perm walk') {code : UInt16} {entry : ExplainEntry}
    (hentry : summarise firstEntry addFailure (ofCode walk code) = some entry) :
    summarise firstEntry addFailure (ofCode walk' code) = some entry := by
  have hcodes : (ofCode walk code).Perm (ofCode walk' code) := hperm.filter _
  obtain ⟨hcode, hcount, ⟨first, hfirst, hdetail⟩, least, hleast, hsubject, hle⟩ :=
    summarise_eq hentry
  cases hsummary : summarise firstEntry addFailure (ofCode walk' code) with
  | none =>
      cases hnil : ofCode walk' code with
      | nil => rw [hnil] at hcodes; cases hcodes.eq_nil ▸ hfirst
      | cons a rest => rw [hnil] at hsummary; cases hsummary
  | some entry' =>
      obtain ⟨hcode', hcount', ⟨first', hfirst', hdetail'⟩, least', hleast', hsubject', hle'⟩ :=
        summarise_eq hsummary
      rw [← hcodes.mem_iff] at hfirst' hleast'
      have hdetails : detailOf first' = detailOf first :=
        h first' (mem_ofCode.mp hfirst').1 first (mem_ofCode.mp hfirst).1
          (code_inj ((mem_ofCode.mp hfirst').2.trans (mem_ofCode.mp hfirst).2.symm))
      have hsubjects : least'.key.toText = least.key.toText :=
        le_antisymm (hle' least (hcodes.mem_iff.mp hleast)) (hle least' hleast')
      obtain ⟨_, _, _, _⟩ := entry
      obtain ⟨_, _, _, _⟩ := entry'
      simp only at hcode hcode' hcount hcount' hdetail hdetail' hsubject hsubject'
      rw [Option.some.injEq, ExplainEntry.mk.injEq]
      refine ⟨code_inj (hcode'.trans hcode.symm), ?_, ?_, ?_⟩
      · rw [hsubject', hsubjects, hsubject]
      · rw [hdetail', hdetails, hdetail]
      · rw [hcount', hcount, hcodes.length_eq]

theorem Uniform.failureEntries_perm {walk walk' : List FailureRecord} (h : Uniform walk)
    (hperm : walk.Perm walk') : failureEntries walk = failureEntries walk' := by
  have h' : Uniform walk' := h.of_mem fun record => hperm.mem_iff.mpr
  have hgrouped : walk.foldl groupFailure {} = walk'.foldl groupFailure {} := by
    apply Std.ExtTreeMap.ext_getElem?
    intro code
    rw [getElem?_grouped, getElem?_grouped]
    refine Option.ext fun entry => ?_
    exact ⟨h.summarise_perm hperm, h'.summarise_perm hperm.symm⟩
  rw [failureEntries, hgrouped, failureEntries]

/-- The detail of an entry is that of the failure that is met first. -/
theorem detail_of_first (record : FailureRecord) (rest : List FailureRecord) :
    ∀ entry ∈ failureEntries (record :: rest), entry.code = record.code →
      entry.detail = detailOf record := by
  intro entry hentry hcode
  rw [mem_failureEntries, ofCode, List.filter_cons_of_pos (by simp [hcode]), summarise,
    foldl_addFailure, Option.some.injEq] at hentry
  rw [← hentry]
  rfl

/-- The explanation is a function of the failure records exactly if failures of one code are
recorded alike. -/
theorem explainsContent_iff (l : CompletionLedger) :
    l.ExplainsContent ↔ Uniform (l.failures.toList.map (·.2)) := by
  constructor
  · intro h record hrecord other hother hcode
    have hfront := (List.perm_cons_erase hrecord).symm
    have hfront' := (List.perm_cons_erase hother).symm
    obtain ⟨heq, -, hone⟩ := h l _ _ rfl rfl hfront hfront'
    have hentries : failureEntries _ = failureEntries _ := List.append_cancel_right heq
    have hpos := (hone record List.mem_cons_self).symm ▸ Nat.one_pos
    obtain ⟨entry, hentry, hsame⟩ := List.countP_pos_iff.mp hpos
    have hentry' := hentries ▸ hentry
    rw [decide_eq_true_eq] at hsame
    rw [← detail_of_first record _ entry hentry hsame]
    exact detail_of_first other _ entry hentry' (hsame.trans hcode)
  · intro h l' walk walk' hfailures hduplicates hwalk hwalk'
    have huniform : Uniform walk := h.of_mem fun record => hwalk.mem_iff.mp
    have hperm : walk.Perm walk' := hwalk.trans (by rw [← hfailures]; exact hwalk'.symm)
    refine ⟨?_, fun entry => huniform.describes, fun record => countP_failureEntries⟩
    unfold explain
    rw [← failureEntries, ← failureEntries, huniform.failureEntries_perm hperm, hduplicates]

/-- An edge that failed once. -/
def failedOnce : FailureRecord := ⟨⟨0, 1, 5⟩, .integrityFailure, 1, 3, 4, false⟩

/-- Another edge, which failed twice with the same code. -/
def failedTwice : FailureRecord := ⟨⟨1, 1, 5⟩, .integrityFailure, 2, 3, 4, false⟩

/-- A ledger in which both failures are recorded. -/
def twoFailures : CompletionLedger :=
  [failedOnce, failedTwice].foldl (fun l record => (l.recordFailure record).toOption.getD l)
    { limits := {}, partitionCount := 2 }

/-- The two orders in which an unordered map may hold the failures are explained differently:
where the later edge is met first its detail is printed beside the other edge. -/
theorem explain_depends_on_order : ¬∀ l : CompletionLedger, l.ExplainsContent := by
  intro h
  have hwalk : twoFailures.Walks [failedOnce, failedTwice] ∧
      twoFailures.Walks [failedTwice, failedOnce] := by
    unfold Walks
    decide +kernel
  obtain ⟨heq, -⟩ := h twoFailures twoFailures _ _ rfl rfl hwalk.1 hwalk.2
  revert heq
  decide +kernel

end CompletionLedger

end ShuffleFabric
