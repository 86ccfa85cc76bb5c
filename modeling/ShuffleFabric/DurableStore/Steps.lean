import ShuffleFabric.DurableStore.Format

/-!
# ShuffleFabric.DurableStore.Steps

What each file operation of the store leaves behind, whatever the system answers.

`Affects file x h Q` says that `x` changes no file but the named one and nothing of the
store object, that it ends early only if an answer says so, and that `Q` holds of how
it ends.  The statements of `append`, `compact` and `open` are described one by one,
and the three operations are put together from them.
-/

namespace ShuffleFabric

open Lib Action

namespace Host

/-! ## Operations on one file -/

/-- Only one file and its descriptor differ, and some answers may have been used up. -/
structure Touched (file : StoreFile) (h h' : Host) : Prop where
  others : ∀ f, f ≠ file → h'.files f = h.files f
  cursors : ∀ f, f ≠ file → h'.volume.cursors f = h.volume.cursors f
  answers : h'.volume.answers ⊆ h.volume.answers

/-- Nothing was done to any file. -/
theorem Touched.refl (file : StoreFile) (h : Host) : Touched file h h :=
  ⟨fun _ _ => rfl, fun _ _ => rfl, List.Subset.refl _⟩

/-- What two steps did to the one file. -/
theorem Touched.trans {file : StoreFile} {h₁ h₂ h₃ : Host} (h : Touched file h₁ h₂)
    (h' : Touched file h₂ h₃) : Touched file h₁ h₃ :=
  ⟨fun f hf => (h'.others f hf).trans (h.others f hf),
    fun f hf => (h'.cursors f hf).trans (h.cursors f hf), List.Subset.trans h'.answers h.answers⟩

/-- The same, and the store object is as before. -/
structure Frame (file : StoreFile) (h h' : Host) : Prop extends Touched file h h' where
  store : h'.store = h.store

/-- Nothing was done. -/
theorem Frame.refl (file : StoreFile) (h : Host) : Frame file h h := ⟨Touched.refl file h, rfl⟩

/-- Two steps on the same file. -/
theorem Frame.trans {file : StoreFile} {h₁ h₂ h₃ : Host} (h : Frame file h₁ h₂)
    (h' : Frame file h₂ h₃) : Frame file h₁ h₃ :=
  ⟨h.toTouched.trans h'.toTouched, h'.store.trans h.store⟩

/-- The operation touches one file, ends early only if an answer says so, and ends in `Q`. -/
def Affects (file : StoreFile) (x : Operation Unit) (h : Host)
    (Q : Except (Halt Error) Unit → Host → Prop) : Prop :=
  x.Ends h fun r h' =>
    Frame file h h' ∧ (∀ halt, r = .error halt → Blamed h.volume.answers halt) ∧ Q r h'

section Affects

variable {file : StoreFile} {h : Host} {Q R : Except (Halt Error) Unit → Host → Prop}

/-- The rule for a sequence: the second part starts where the first one succeeded. -/
theorem Affects.bind {x y : Operation Unit} (hx : Affects file x h R)
    (hok : ∀ h', Frame file h h' → R (.ok ()) h' → Affects file y h' Q)
    (herror : ∀ halt h', Frame file h h' → R (.error halt) h' → Q (.error halt) h') :
    Affects file (x >>= fun _ => y) h Q := by
  refine Ends.bind hx (fun _ h' hr => ?_) fun halt h' hr => ?_
  · obtain ⟨hframe, -, hr⟩ := hr
    refine (hok h' hframe hr).mono fun r t ⟨hframe', hblamed, hq⟩ => ?_
    exact ⟨hframe.trans hframe', fun halt hhalt => (hblamed halt hhalt).mono hframe.answers, hq⟩
  · exact ⟨hr.1, fun halt' hhalt => hr.2.1 halt' hhalt, herror halt h' hr.1 hr.2.2⟩

/-- What is known of the outcome may be less than what holds. -/
theorem Affects.mono {x : Operation Unit} (hx : Affects file x h R)
    (hmono : ∀ r h', Frame file h h' → R r h' → Q r h') : Affects file x h Q :=
  Ends.mono hx fun r h' ⟨hframe, hblamed, hr⟩ => ⟨hframe, hblamed, hmono r h' hframe hr⟩

/-- A step that does nothing. -/
theorem Affects.pure (hq : Q (.ok ()) h) : Affects file (Pure.pure ()) h Q :=
  Ends.pure ⟨Frame.refl file h, fun _ hhalt => (by cases hhalt), hq⟩

/-- The host with an effect on its files. -/
def under (h : Host) (effect : Volume StoreFile → Volume StoreFile) : Host :=
  { h with volume := effect h.volume.next }

/-- The effect stays within one file. -/
structure Local (file : StoreFile) (effect : Volume StoreFile → Volume StoreFile) : Prop where
  others : ∀ v f, f ≠ file → (effect v).files f = v.files f
  cursors : ∀ v f, f ≠ file → (effect v).cursors f = v.cursors f
  answers : ∀ v, (effect v).answers = v.answers

/-- An effect on one file leaves the others. -/
theorem Local.frame {effect : Volume StoreFile → Volume StoreFile} (hlocal : Local file effect)
    (h : Host) : Frame file h (h.under effect) := by
  refine ⟨⟨fun f hf => hlocal.others _ f hf, fun f hf => hlocal.cursors _ f hf, ?_⟩, rfl⟩
  intro a ha
  have ha : a ∈ (effect h.volume.next).answers := ha
  rw [hlocal.answers] at ha
  exact List.mem_of_mem_tail ha

/-- An operation of the host takes effect, or is cut off after a part of it. -/
theorem Affects.operate {effect : Volume StoreFile → Volume StoreFile}
    {cut : Nat → Volume StoreFile → Volume StoreFile} {e : Error} (heffect : Local file effect)
    (hcuts : ∀ part, Local file (cut part)) (hok : Q (.ok ()) (h.under effect))
    (hcut : ∀ part halt, Q (.error halt) (h.under (cut part))) :
    Affects file (onDisk (Volume.operate effect cut e)) h Q := by
  refine Ends.zoom (Ends.operate ?_ fun part halt hblamed => ?_)
  · exact ⟨heffect.frame h, fun _ hhalt => (by cases hhalt), hok⟩
  · refine ⟨(hcuts part).frame h, fun halt' hhalt => ?_, hcut part halt⟩
    cases hhalt
    exact hblamed

/-- An operation that takes effect as a whole or not at all. -/
theorem Affects.atomic {effect : Volume StoreFile → Volume StoreFile} {e : Error}
    (heffect : Local file effect) (hok : Q (.ok ()) (h.under effect))
    (hcut : ∀ halt, Q (.error halt) (h.under id) ∧ Q (.error halt) (h.under effect)) :
    Affects file (onDisk (Volume.atomic effect e)) h Q := by
  refine Affects.operate heffect (fun part => ?_) hok fun part halt => ?_
  · by_cases hpart : part = 0
    · exact ⟨fun v f _ => by simp [hpart], fun v f _ => by simp [hpart], fun v => by simp [hpart]⟩
    · simpa [hpart] using heffect
  · by_cases hpart : part = 0
    · simpa [hpart, under] using (hcut halt).1
    · simpa [hpart, under] using (hcut halt).2

end Affects

/-! ## Writing at the end of a file -/

/-- The descriptor of a file stands at its end. -/
def AtEnd (file : StoreFile) (h : Host) : Prop :=
  h.volume.cursors file = (h.volume.content file).length

/-- The bytes of a file. -/
abbrev content (h : Host) (file : StoreFile) : Bytes := h.volume.content file

/-- Writing is an effect on one file. -/
theorem local_writeThrough (file : StoreFile) (data : Bytes) :
    Local file (Volume.writeThrough file data) :=
  ⟨fun v f hf => by simp [Volume.writeThrough, hf],
    fun v f hf => by simp [Volume.writeThrough, Volume.point, hf], fun v => rfl⟩

/-- At the end of a file the bytes are appended, and the cursor stays at the end. -/
theorem under_writeThrough {file : StoreFile} {h : Host} (hend : AtEnd file h) (data : Bytes) :
    (h.under (Volume.writeThrough file data)).content file = h.content file ++ data ∧
      AtEnd file (h.under (Volume.writeThrough file data)) := by
  have hcontent : (h.under (Volume.writeThrough file data)).content file = h.content file ++ data := by
    have hcursor : h.volume.cursors file = (h.content file).length := hend
    simp only [content, under, Volume.writeThrough, Volume.content, Volume.point_files,
      Volume.put_files_self, Volume.next_files, Volume.next_cursors, Option.getD_some]
    exact overwrite_length hcursor
  refine ⟨hcontent, ?_⟩
  unfold AtEnd
  rw [show (h.under (Volume.writeThrough file data)).volume.content file = _ from hcontent,
    List.length_append, ← show h.volume.cursors file = (h.content file).length from hend]
  simp [under, Volume.writeThrough]

/-- A write at the end appends the data, or a front part of it. -/
theorem affects_writeAll {file : StoreFile} {h : Host} (hend : AtEnd file h) (data : Bytes)
    (what : String) :
    Affects file (writeAll file data what) h fun r h' =>
      (r = .ok () → h'.content file = h.content file ++ data ∧ AtEnd file h') ∧
      ∃ n, h'.content file = h.content file ++ data.take n := by
  unfold writeAll Volume.write
  by_cases hdata : data = []
  · rw [if_pos hdata]
    refine Affects.pure ⟨fun _ => ⟨by simp [hdata], hend⟩, 0, by simp⟩
  · rw [if_neg hdata]
    refine Affects.operate (local_writeThrough file data)
      (fun part => local_writeThrough file (data.take part)) ?_ fun part halt => ?_
    · obtain ⟨hcontent, hend'⟩ := under_writeThrough hend data
      exact ⟨fun _ => ⟨hcontent, hend'⟩, data.length, by rw [hcontent, List.take_length]⟩
    · exact ⟨fun hok => by (cases hok), part, (under_writeThrough hend (data.take part)).1⟩

/-- A flush changes no byte. -/
theorem affects_flushFile {file : StoreFile} (h : Host) (what : String) :
    Affects file (flushFile what) h fun _ h' =>
      h'.content file = h.content file ∧ h'.volume.cursors = h.volume.cursors := by
  refine Affects.atomic ⟨fun _ _ _ => rfl, fun _ _ _ => rfl, fun _ => rfl⟩ ?_ fun halt => ?_
  · exact ⟨rfl, rfl⟩
  · exact ⟨⟨rfl, rfl⟩, rfl, rfl⟩

/-- Two writes and a flush at the end of a file append both, or a front part of them. -/
theorem affects_writeBoth {file : StoreFile} {h : Host} (hend : AtEnd file h)
    (first second : Bytes) (what₁ what₂ what₃ : String) :
    Affects file
      (do writeAll file first what₁
          writeAll file second what₂
          flushFile what₃) h fun r h' =>
      (r = .ok () → h'.content file = h.content file ++ (first ++ second) ∧ AtEnd file h') ∧
      ∃ n, h'.content file = h.content file ++ (first ++ second).take n := by
  refine (affects_writeAll hend first what₁).bind (fun h₁ _ hr₁ => ?_) fun halt h₁ _ hr₁ => ?_
  · obtain ⟨hcontent₁, hend₁⟩ := hr₁.1 rfl
    refine (affects_writeAll hend₁ second what₂).bind (fun h₂ _ hr₂ => ?_) fun halt h₂ _ hr₂ => ?_
    · obtain ⟨hcontent₂, hend₂⟩ := hr₂.1 rfl
      refine (affects_flushFile h₂ what₃).mono fun r h₃ _ ⟨hcontent₃, hcursors⟩ => ?_
      have hcontent : h₃.content file = h.content file ++ (first ++ second) := by
        rw [hcontent₃, hcontent₂, hcontent₁, List.append_assoc]
      refine ⟨fun _ => ⟨hcontent, ?_⟩, (first ++ second).length, by rw [hcontent, List.take_length]⟩
      unfold AtEnd
      rw [hcursors, show h₃.volume.content file = h₂.content file from hcontent₃]
      exact hend₂
    · obtain ⟨-, n, hn⟩ := hr₂
      refine ⟨fun hok => (by cases hok), first.length + n, ?_⟩
      rw [hn, hcontent₁, List.append_assoc, List.take_length_add_append]
  · obtain ⟨-, n, hn⟩ := hr₁
    refine ⟨fun hok => (by cases hok), min n first.length, ?_⟩
    rw [hn, List.take_append_of_le_length (Nat.min_le_right _ _), ← List.take_eq_take_min]

/-! ## Cutting and opening the journal -/

/-- So is replacing its content. -/
theorem local_put (file : StoreFile) (bytes : Volume StoreFile → Bytes) :
    Local file fun v => v.put file (bytes v) :=
  ⟨fun v f hf => by simp [hf], fun _ _ _ => rfl, fun v => rfl⟩

/-- So is moving its cursor. -/
theorem local_point (file : StoreFile) (position : Nat) : Local file (Volume.point file position) :=
  ⟨fun _ _ _ => rfl, fun v f hf => by simp [Volume.point, hf], fun _ => rfl⟩

/-- A truncation may have taken effect although it is reported as failed. -/
theorem affects_truncate {file : StoreFile} (h : Host) (length : Nat) (e : Error) :
    Affects file (onDisk (Volume.truncate file length e)) h fun r h' =>
      h'.volume.cursors = h.volume.cursors ∧
      (r = .ok () → h'.content file = resize (h.content file) length) ∧
      (h'.content file = h.content file ∨ h'.content file = resize (h.content file) length) := by
  have hcut : (h.under fun v => v.put file (resize (v.content file) length)).content file =
      resize (h.content file) length := by
    simp [content, under, Volume.content]
  refine Affects.atomic (local_put file _) ⟨rfl, fun _ => hcut, .inr hcut⟩ fun halt => ?_
  exact ⟨⟨rfl, fun hok => (by cases hok), .inl rfl⟩, rfl, fun hok => (by cases hok), .inr hcut⟩

/-- A seek changes no byte. -/
theorem affects_seek {file : StoreFile} (h : Host) (position : Nat) (e : Error) :
    Affects file (onDisk (Volume.seek file position e)) h fun r h' =>
      h'.content file = h.content file ∧ (r = .ok () → h'.volume.cursors file = position) ∧
      (h'.volume.cursors file = h.volume.cursors file ∨ h'.volume.cursors file = position) := by
  have hpoint : (h.under (Volume.point file position)).volume.cursors file = position := by
    simp [under]
  refine Affects.atomic (local_point file position) ⟨rfl, fun _ => hpoint, .inr hpoint⟩ fun halt => ?_
  exact ⟨⟨rfl, fun hok => (by cases hok), .inl rfl⟩, rfl, fun hok => (by cases hok), .inr hpoint⟩

/-- The file is cut, or as it was; the answer `ok` says that it is cut and the descriptor
stands at its end, where a descriptor stays that stood there on a file nothing was cut off. -/
theorem affects_truncateFile {file : StoreFile} (h : Host) (length : Nat) :
    Affects file (truncateFile file length) h fun r h' =>
      (r = .ok () → h'.content file = resize (h.content file) length ∧
        h'.volume.cursors file = length) ∧
      (h'.content file = h.content file ∨ h'.content file = resize (h.content file) length) ∧
      (h'.content file = h.content file → AtEnd file h → AtEnd file h') := by
  have hkept {t : Host} (hcursor : t.volume.cursors file = h.volume.cursors file)
      (hsame : t.content file = h.content file) (hend : AtEnd file h) : AtEnd file t := by
    unfold AtEnd
    rw [hcursor, show t.volume.content file = h.volume.content file from hsame]
    exact hend
  have hmoved {t : Host} (hcut : t.content file = resize (h.content file) length)
      (hcursor : t.volume.cursors file = length) : AtEnd file t := by
    unfold AtEnd
    rw [hcursor, show t.volume.content file = _ from hcut, length_resize]
  refine (affects_truncate h length _).bind (fun h₁ _ hr₁ => ?_) fun halt h₁ _ hr₁ => ?_
  · obtain ⟨hcursors₁, hcut, -⟩ := hr₁
    have hcut := hcut rfl
    refine (affects_seek h₁ length _).bind (fun h₂ _ hr₂ => ?_) fun halt h₂ _ hr₂ => ?_
    · refine (affects_flushFile h₂ _).mono fun r h₃ _ ⟨hcontent, hcursors⟩ => ?_
      have hcut₃ : h₃.content file = resize (h.content file) length := by
        rw [hcontent, hr₂.1, hcut]
      have hcursor₃ : h₃.volume.cursors file = length := by rw [hcursors, hr₂.2.1 rfl]
      exact ⟨fun _ => ⟨hcut₃, hcursor₃⟩, .inr hcut₃, fun _ _ => hmoved hcut₃ hcursor₃⟩
    · obtain ⟨hcontent, -, hcursor⟩ := hr₂
      have hcut₂ : h₂.content file = resize (h.content file) length := hcontent.trans hcut
      refine ⟨fun hok => (by cases hok), .inr hcut₂, fun hsame hend => ?_⟩
      rcases hcursor with hcursor | hcursor
      · exact hkept (hcursor.trans (congrFun hcursors₁ file)) hsame hend
      · exact hmoved hcut₂ hcursor
  · exact ⟨fun hok => (by cases hok), hr₁.2.2, hkept (congrFun hr₁.1 file)⟩

/-- Opening for append cuts the file to the offset and goes there. -/
theorem affects_openForAppend {file : StoreFile} (h : Host) (offset : Nat) (what : String) :
    Affects file (openForAppend file offset what) h fun r h' =>
      (r = .ok () → h'.content file = resize (h.content file) offset ∧
        h'.volume.cursors file = offset) ∧
      (h'.content file = h.content file ∨ h'.content file = resize (h.content file) offset) := by
  have hopen (e : Error) : Affects file (onDisk (Volume.openFile file e)) h fun _ h' =>
      h'.content file = h.content file := by
    refine Affects.atomic ⟨fun v f hf => by simp [hf], fun v f hf => by simp [Volume.point, hf],
      fun v => rfl⟩ ?_ fun halt => ⟨rfl, ?_⟩
    · simp [content, under, Volume.content]
    · simp [content, under, Volume.content]
  refine (hopen _).bind (fun h₁ _ hr₁ => ?_) fun halt h₁ _ hr₁ => ?_
  · refine (affects_truncate h₁ offset _).bind (fun h₂ _ hr₂ => ?_) fun halt h₂ _ hr₂ => ?_
    · obtain ⟨-, hcut, -⟩ := hr₂
      have hcut := hcut rfl
      refine (affects_seek h₂ offset _).mono fun r h₃ _ hr₃ => ?_
      obtain ⟨hcontent, hcursor, -⟩ := hr₃
      have hcut₃ : h₃.content file = resize (h.content file) offset := by
        rw [hcontent, hcut, hr₁]
      exact ⟨fun hok => ⟨hcut₃, hcursor hok⟩, .inr hcut₃⟩
    · refine ⟨fun hok => (by cases hok), ?_⟩
      rw [← hr₁]
      exact hr₂.2.2
  · exact ⟨fun hok => (by cases hok), .inl hr₁⟩

/-! ## The snapshot files -/

/-- The snapshot files hold a snapshot that `open` will adopt: the primary decodes, or it
is missing and the previous one decodes, or there is none at all. -/
def Holds (limits : Limits) (files : StoreFile → Option Bytes) (base : Option SnapshotImage) :
    Prop :=
  (∃ image, base = some image ∧ decodeSnapshotFile limits (files .primary) = .ok image) ∨
  (files .primary = none ∧
    ((∃ image, base = some image ∧ decodeSnapshotFile limits (files .previous) = .ok image) ∨
      (base = none ∧ files .previous = none)))

/-- A snapshot that is not there is refused as such. -/
theorem decode_none (limits : Limits) :
    ∃ e : Error, e.code = .invalidArgument ∧ decodeSnapshotFile limits none = .error e :=
  ⟨_, rfl, rfl⟩

/-- The snapshot that is held is the one that is adopted. -/
theorem adoptSnapshot_of_holds {limits : Limits} {files : StoreFile → Option Bytes}
    {base : Option SnapshotImage} (h : Holds limits files base) :
    ∃ fromPrevious, adoptSnapshot limits files = .ok (base.map (·, fromPrevious)) := by
  obtain ⟨missing, hmissing, hnone⟩ := decode_none limits
  rcases h with ⟨image, rfl, hprimary⟩ | ⟨hprimary, ⟨image, rfl, hprevious⟩ | ⟨rfl, hprevious⟩⟩
  · exact ⟨false, by simp [adoptSnapshot, hprimary]⟩
  · exact ⟨true, by simp [adoptSnapshot, hprimary, hnone, hprevious]⟩
  · exact ⟨false, by simp [adoptSnapshot, hprimary, hnone, hprevious, hmissing]⟩

/-- The two snapshot files decide what is held. -/
theorem Holds.congr {limits : Limits} {files files' : StoreFile → Option Bytes}
    {base : Option SnapshotImage} (h : Holds limits files base)
    (hprimary : files' .primary = files .primary) (hprevious : files' .previous = files .previous) :
    Holds limits files' base := by
  unfold Holds at h ⊢
  rwa [hprimary, hprevious]

/-- Setting the primary aside keeps the snapshot. -/
theorem Holds.setAside {limits : Limits} {files files' : StoreFile → Option Bytes}
    {base : Option SnapshotImage} (h : Holds limits files base)
    (hsome : (files .primary).isSome = true) (hprimary : files' .primary = none)
    (hprevious : files' .previous = files .primary) : Holds limits files' base := by
  rcases h with ⟨image, rfl, hdecode⟩ | ⟨hnone, -⟩
  · exact .inr ⟨hprimary, .inl ⟨image, rfl, by rwa [hprevious]⟩⟩
  · rw [hnone] at hsome
    cases hsome

/-- The temporary file goes away, and nothing else. -/
theorem affects_removeQuietly (h : Host) :
    Affects .temporary (removeQuietly .temporary) h fun _ h' =>
      h'.volume.cursors = h.volume.cursors := by
  have hremove (e : Error) : Affects .temporary (onDisk (Volume.remove .temporary e)) h
      fun _ h' => h'.volume.cursors = h.volume.cursors :=
    Affects.atomic ⟨fun v f hf => by simp [hf], fun _ _ _ => rfl, fun _ => rfl⟩ rfl
      fun _ => ⟨rfl, rfl⟩
  refine Ends.onRefusal (hremove _) (fun a t ht => ht) (fun e t ht => ?_) fun t ht => ht
  exact Ends.pure ⟨ht.1, fun _ hhalt => (by cases hhalt), ht.2.2⟩

/-- The temporary file holds the whole snapshot once it is reported as written. -/
theorem affects_writeTemporary (h : Host) (image : SnapshotImage) :
    Affects .temporary (writeTemporary image) h fun r h' =>
      r = .ok () → h'.files .temporary = some image.encode := by
  have hcreate : Affects .temporary (createForWrite .temporary "snapshot temporary file") h
      fun r h' => r = .ok () → h'.content .temporary = [] ∧ AtEnd .temporary h' := by
    refine Affects.atomic ⟨fun v f hf => by simp [hf], fun v f hf => by simp [Volume.point, hf],
      fun _ => rfl⟩ (fun _ => ?_) fun halt => ?_
    · simp [content, under, Volume.content, AtEnd]
    · exact ⟨fun hok => (by cases hok), fun hok => (by cases hok)⟩
  refine hcreate.bind (fun h₁ _ hr₁ => ?_) fun halt h₁ _ _ hok => (by cases hok)
  obtain ⟨hempty, hend⟩ := hr₁ rfl
  refine Ends.onRefusal (affects_writeBoth hend image.header image.payload _ _ _) (fun _ t ht => ?_)
    (fun e t ht => ?_) fun t ht => ?_
  · obtain ⟨hframe, hblamed, hwritten, -⟩ := ht
    refine ⟨hframe, hblamed, fun _ => ?_⟩
    have hcontent : (t.files .temporary).getD [] = image.encode := by
      have hbytes := (hwritten rfl).1
      rwa [hempty, List.nil_append] at hbytes
    cases hfile : t.files .temporary with
    | none =>
        rw [hfile] at hcontent
        have := congrArg List.length hcontent
        simp only [Option.getD_none, List.length_nil, SnapshotImage.encode, List.length_append,
          SnapshotImage.length_header] at this
        omega
    | some bytes =>
        rw [hfile] at hcontent
        exact congrArg some hcontent
  · obtain ⟨hframe, hblamed, -⟩ := ht
    refine Ends.bind (affects_removeQuietly t) (fun _ t' ht' => ?_) fun halt t' ht' => ?_
    · exact ⟨hframe.trans ht'.1, fun halt hhalt => (by cases hhalt; exact hblamed (.refused e) rfl),
        fun hok => (by cases hok)⟩
    · exact ⟨hframe.trans ht'.1, fun halt' hhalt => (ht'.2.1 halt' hhalt).mono hframe.answers,
        fun hok => (by cases hok)⟩
  · exact ⟨ht.1, ht.2.1, fun hok => (by cases hok)⟩

/-- How far the installation of a new primary snapshot got. -/
inductive Placed (bytes : Bytes) (files files' : StoreFile → Option Bytes) : Prop
  | kept (primary : files' .primary = files .primary)
      (previous : files' .previous = files .previous)
  | aside (present : (files .primary).isSome = true) (primary : files' .primary = none)
      (previous : files' .previous = files .primary)
  | installed (primary : files' .primary = some bytes)

/-- They decide what is placed, too. -/
theorem Placed.congr {bytes : Bytes} {files files' files'' : StoreFile → Option Bytes}
    (h : Placed bytes files files') (hprimary : files'' .primary = files' .primary)
    (hprevious : files'' .previous = files' .previous) : Placed bytes files files'' := by
  cases h with
  | kept primary previous => exact .kept (hprimary.trans primary) (hprevious.trans previous)
  | aside present primary previous =>
      exact .aside present (hprimary.trans primary) (hprevious.trans previous)
  | installed primary => exact .installed (hprimary.trans primary)

/-- It is placed from the files of before, as long as these two are the same. -/
theorem Placed.congr_left {bytes : Bytes} {files files' files'' : StoreFile → Option Bytes}
    (h : Placed bytes files' files'') (hprimary : files' .primary = files .primary)
    (hprevious : files' .previous = files .previous) : Placed bytes files files'' := by
  cases h with
  | kept primary previous => exact .kept (primary.trans hprimary) (previous.trans hprevious)
  | aside present primary previous =>
      exact .aside (by rwa [← hprimary]) primary (previous.trans hprimary)
  | installed primary => exact .installed primary

/-- Only the snapshot files differ, and some answers may have been used up. -/
structure Swapped (h h' : Host) : Prop where
  store : h'.store = h.store
  journal : h'.files .journal = h.files .journal
  cursors : h'.volume.cursors = h.volume.cursors
  answers : h'.volume.answers ⊆ h.volume.answers

/-- Nothing was renamed. -/
theorem Swapped.refl (h : Host) : Swapped h h := ⟨rfl, rfl, rfl, List.Subset.refl _⟩

/-- Two renames, one after the other. -/
theorem Swapped.trans {h₁ h₂ h₃ : Host} (h : Swapped h₁ h₂) (h' : Swapped h₂ h₃) : Swapped h₁ h₃ :=
  ⟨h'.store.trans h.store, h'.journal.trans h.journal, h'.cursors.trans h.cursors,
    List.Subset.trans h'.answers h.answers⟩

/-- A rename of a snapshot file. -/
theorem ends_rename {source destination : StoreFile} (hsource : source ≠ .journal)
    (hdestination : destination ≠ .journal) (h : Host) (e : Error) :
    (onDisk (Volume.rename source destination e)).Ends h fun r h' =>
      Swapped h h' ∧ (∀ halt, r = .error halt → Blamed h.volume.answers halt) ∧
      (r = .ok () → h'.files = Function.update
        (Function.update h.files destination (h.files source)) source none) ∧
      (h'.files = h.files ∨ h'.files = Function.update
        (Function.update h.files destination (h.files source)) source none) := by
  have hanswers : h.volume.next.answers ⊆ h.volume.answers := fun a ha => List.mem_of_mem_tail ha
  refine Ends.zoom (Ends.atomic ?_ fun halt hblamed => ⟨?_, ?_⟩)
  · refine ⟨⟨rfl, ?_, rfl, hanswers⟩, fun _ hhalt => (by cases hhalt), fun _ => rfl, .inr rfl⟩
    simp [files, Ne.symm hsource, Ne.symm hdestination]
  · refine ⟨⟨rfl, rfl, rfl, hanswers⟩, fun halt' hhalt => ?_, fun hok => (by cases hok), .inl rfl⟩
    cases hhalt
    exact hblamed
  · refine ⟨⟨rfl, ?_, rfl, hanswers⟩, fun halt' hhalt => ?_, fun hok => (by cases hok), .inr rfl⟩
    · simp [files, Ne.symm hsource, Ne.symm hdestination]
    · cases hhalt
      exact hblamed

/-- The new snapshot becomes the primary, the primary is set aside, or nothing happens. -/
theorem ends_replaceFile {h : Host} {bytes : Bytes} (htemporary : h.files .temporary = some bytes) :
    (replaceFile .temporary .primary .previous).Ends h fun r h' =>
      Swapped h h' ∧ (∀ halt, r = .error halt → Blamed h.volume.answers halt) ∧
      Placed bytes h.files h'.files ∧ (r = .ok () → h'.files .primary = some bytes) := by
  unfold replaceFile
  refine Ends.get_bind (Ends.bind (R := fun r h' =>
      Swapped h h' ∧ (∀ halt, r = .error halt → Blamed h.volume.answers halt) ∧
      Placed bytes h.files h'.files ∧ h'.files .temporary = some bytes) ?_ ?_ ?_)
  · refine Ends.runIf (fun hpresent => ?_) fun _ => ?_
    · refine (ends_rename (by decide) (by decide) h _).mono fun r h' hr => ?_
      obtain ⟨hswapped, hblamed, -, hfiles⟩ := hr
      refine ⟨hswapped, hblamed, ?_⟩
      rcases hfiles with hfiles | hfiles
      · rw [hfiles]
        exact ⟨.kept rfl rfl, htemporary⟩
      · rw [hfiles]
        exact ⟨.aside hpresent (by simp) (by simp), by simpa using htemporary⟩
    · exact ⟨Swapped.refl h, fun _ hhalt => (by cases hhalt), .kept rfl rfl, htemporary⟩
  · rintro - h₁ ⟨hswapped₁, -, hplaced₁, htemporary₁⟩
    refine (ends_rename (by decide) (by decide) h₁ _).mono fun r h₂ hr => ?_
    obtain ⟨hswapped, hblamed, hok, hfiles⟩ := hr
    have hprimary : Function.update (Function.update h₁.files .primary (h₁.files .temporary))
        .temporary none .primary = some bytes := by
      simpa using htemporary₁
    refine ⟨hswapped₁.trans hswapped, fun halt hhalt => (hblamed halt hhalt).mono hswapped₁.answers,
      ?_, fun h => (by rw [hok h]; exact hprimary)⟩
    rcases hfiles with hfiles | hfiles
    · rwa [hfiles]
    · rw [hfiles]
      exact .installed hprimary
  · rintro halt h₁ ⟨hswapped, hblamed, hplaced, -⟩
    exact ⟨hswapped, hblamed, hplaced, fun hok => (by cases hok)⟩

/-- The renames that install a snapshot: wherever they stop, the new image is in one of the two
places or the old files are as they were. -/
theorem ends_installTemporary {h : Host} {bytes : Bytes}
    (htemporary : h.files .temporary = some bytes) :
    installTemporary.Ends h fun r h' =>
      Swapped h h' ∧ (∀ halt, r = .error halt → Blamed h.volume.answers halt) ∧
      Placed bytes h.files h'.files ∧ (r = .ok () → h'.files .primary = some bytes) := by
  refine Ends.onRefusal (ends_replaceFile htemporary) (fun _ t ht => ht) (fun e t ht => ?_)
    fun t ht => ht
  obtain ⟨hswapped, hblamed, hplaced, -⟩ := ht
  have hremoved {t' : Host} (hframe : Frame .temporary t t')
      (hcursors : t'.volume.cursors = t.volume.cursors) :
      Swapped h t' ∧ Placed bytes h.files t'.files :=
    ⟨hswapped.trans ⟨hframe.store, hframe.others _ (by decide), hcursors, hframe.answers⟩,
      hplaced.congr (hframe.others _ (by decide)) (hframe.others _ (by decide))⟩
  refine Ends.bind (affects_removeQuietly t) (fun _ t' ht' => ?_) fun halt t' ht' => ?_
  · obtain ⟨hswapped', hplaced'⟩ := hremoved ht'.1 ht'.2.2
    exact ⟨hswapped', fun halt hhalt => (by cases hhalt; exact hblamed (.refused e) rfl), hplaced',
      fun hok => (by cases hok)⟩
  · obtain ⟨hswapped', hplaced'⟩ := hremoved ht'.1 ht'.2.2
    exact ⟨hswapped', fun halt' hhalt => (ht'.2.1 halt' hhalt).mono hswapped.answers, hplaced',
      fun hok => (by cases hok)⟩

/-! ## The operations -/

/-- A journal writer that is not open has nothing to continue. -/
def Ready (h : Host) : Prop :=
  h.store.journal = false → h.store.journalBytes = 0 ∧ h.content .journal = []

/-- The open journal writer stands at the end of the journal, where the store believes it. -/
def Aligned (h : Host) : Prop :=
  h.store.journal = true →
    AtEnd .journal h ∧ (h.content .journal).length = h.store.journalBytes

/-- A store whose journal has not changed is as ready as it was. -/
theorem Ready.moved {h t : Host} (hready : Ready h) (hstore : t.store = h.store)
    (hsame : t.content .journal = h.content .journal) : Ready t := by
  intro hclosed
  rw [hsame, hstore]
  rw [hstore] at hclosed
  exact hready hclosed

/-- Where neither the journal nor its descriptor has moved, the store still knows its length. -/
theorem Aligned.moved {h t : Host} (haligned : Aligned h) (hstore : t.store = h.store)
    (hcursor : t.volume.cursors .journal = h.volume.cursors .journal)
    (hsame : t.content .journal = h.content .journal) : Aligned t := by
  intro hopen
  rw [hstore] at hopen
  obtain ⟨hend, hlength⟩ := haligned hopen
  refine ⟨?_, by rw [hsame, hlength, hstore]⟩
  show t.volume.cursors .journal = (t.content .journal).length
  rw [hcursor, hsame]
  exact hend

/-- `ensure_journal` leaves the bytes of the journal alone; it can only fail to open it. -/
theorem ends_ensureJournal {h : Host} (hready : Ready h) :
    ensureJournal.Ends h fun r h' =>
      Touched .journal h h' ∧ (∀ halt, r = .error halt → Blamed h.volume.answers halt) ∧
      h'.content .journal = h.content .journal ∧
      (r = .ok () → h'.store = { h.store with journal := true }) ∧
      (∀ halt, r = .error halt → h.store.journal = false ∧ h'.store = h.store) ∧
      (r = .ok () → Aligned h →
        AtEnd .journal h' ∧ (h'.content .journal).length = h.store.journalBytes) := by
  refine Ends.get_bind (Ends.runIf (fun hclosed => ?_) fun hopen => ?_)
  · obtain ⟨hbytes, hempty⟩ := hready hclosed
    refine Ends.bind (affects_openForAppend h h.store.journalBytes "journal") (fun _ t ht => ?_)
      fun halt t ht => ?_
    · obtain ⟨hframe, -, hok, -⟩ := ht
      obtain ⟨hcontent, hcursor⟩ := hok rfl
      rw [hbytes, resize_zero] at hcontent
      have hcontent' : t.content .journal = h.content .journal := by rw [hcontent, hempty]
      have hstore : { t.store with journal := true } = { h.store with journal := true } := by
        rw [hframe.store]
      refine Ends.modify ⟨⟨hframe.others, hframe.cursors, hframe.answers⟩,
        fun _ hhalt => (by cases hhalt), hcontent', fun _ => hstore,
        fun _ hhalt => (by cases hhalt), fun _ _ => ⟨?_, ?_⟩⟩
      · show t.volume.cursors .journal = (t.content .journal).length
        rw [hcursor, hbytes, hcontent]
        rfl
      · show (t.content .journal).length = _
        rw [hcontent, hbytes]
        rfl
    · obtain ⟨hframe, hblamed, -, hcontent⟩ := ht
      refine ⟨hframe.toTouched, hblamed, ?_, fun hok => (by cases hok),
        fun _ _ => ⟨hclosed, hframe.store⟩, fun hok => (by cases hok)⟩
      rcases hcontent with hcontent | hcontent
      · exact hcontent
      · rw [hcontent, hbytes, resize_zero, hempty]
  · have hopen : h.store.journal = true := by simpa using hopen
    have hstore : h.store = { h.store with journal := true } := by
      rw [← hopen]
    exact ⟨Touched.refl .journal h, fun _ hhalt => (by cases hhalt), rfl, fun _ => hstore,
      fun _ hhalt => (by cases hhalt), fun _ haligned => haligned hopen⟩

/-- Rolling back an append: the journal is cut to where it ended before, or the store
remembers that it may not be. -/
theorem ends_rollback {h : Host} {before rest : Bytes}
    (hcontent : h.content .journal = before ++ rest) :
    ((truncateFile .journal before.length).onRefusal fun _ =>
        modifyStore fun store => { store with journalDegraded := true }).Ends h fun r h' =>
      Touched .journal h h' ∧
      (∀ halt, r = .error halt → halt = .stopped ∧ Blamed h.volume.answers halt) ∧
      (h'.content .journal = before ++ rest ∨ h'.content .journal = before) ∧
      (h'.store = h.store ∧
          (r = .ok () → h'.content .journal = before ∧ AtEnd .journal h') ∨
        h'.store = { h.store with journalDegraded := true }) := by
  have hcut : resize (h.content .journal) before.length = before := by
    rw [hcontent, resize_append rfl]
  refine Ends.onRefusal (affects_truncateFile h before.length) (fun _ t ht => ?_) (fun e t ht => ?_)
    fun t ht => ?_
  · obtain ⟨hframe, -, hok, -⟩ := ht
    have hbefore : t.content .journal = before := (hok rfl).1.trans hcut
    refine ⟨hframe.toTouched, fun _ hhalt => (by cases hhalt), .inr hbefore,
      .inl ⟨hframe.store, fun _ => ⟨hbefore, ?_⟩⟩⟩
    show t.volume.cursors .journal = (t.content .journal).length
    rw [(hok rfl).2, hbefore]
  · obtain ⟨hframe, -, -, hcases, -⟩ := ht
    rw [hcontent, resize_append rfl] at hcases
    exact Ends.modify ⟨⟨hframe.others, hframe.cursors, hframe.answers⟩,
      fun _ hhalt => (by cases hhalt), hcases, .inr (by rw [hframe.store])⟩
  · obtain ⟨hframe, hblamed, -, hcases, -⟩ := ht
    rw [hcontent, resize_append rfl] at hcases
    refine ⟨hframe.toTouched, fun halt hhalt => ?_, hcases,
      .inl ⟨hframe.store, fun hok => (by cases hok)⟩⟩
    cases hhalt
    exact ⟨rfl, hblamed _ rfl⟩

/-- A check that passed. -/
theorem ends_check {α β : Type} {r : Result α} {a : α} (hr : r = .ok a) {f : α → Operation β}
    {h : Host} {Q : Except (Halt Error) β → Host → Prop} (hf : (f a).Ends h Q) :
    (check r >>= f).Ends h Q := by
  subst hr
  exact hf

/-- The record is appended to the journal, or a front part of it. -/
theorem ends_writeRecord {h : Host} (hend : AtEnd .journal h) (entry : JournalEntry) {offset : Nat}
    (hoffset : offset = (h.content .journal).length) :
    (writeRecord entry offset).Ends h fun r h' =>
      Touched .journal h h' ∧ (∀ halt, r = .error halt → Blamed h.volume.answers halt) ∧
      (r = .ok () → AtEnd .journal h' ∧ h'.store = h.store ∧
        h'.content .journal = h.content .journal ++ entry.encode) ∧
      (∀ halt, r = .error halt →
        (∃ n, h'.content .journal = h.content .journal ++ entry.encode.take n) ∧
        (h'.store = h.store ∧
            (halt ≠ .stopped → h'.content .journal = h.content .journal ∧ AtEnd .journal h') ∨
          h'.store = { h.store with journalDegraded := true })) := by
  subst hoffset
  refine Ends.onRefusal (affects_writeBoth hend entry.header entry.payload _ _ _)
    (fun _ t ht => ?_) (fun e t ht => ?_) fun t ht => ?_
  · obtain ⟨hframe, hblamed, hok, -⟩ := ht
    obtain ⟨hcontent, hend'⟩ := hok rfl
    exact ⟨hframe.toTouched, hblamed, fun _ => ⟨hend', hframe.store, hcontent⟩,
      fun halt hhalt => (by cases hhalt)⟩
  · obtain ⟨hframe, hblamed, -, n, hcontent⟩ := ht
    refine Ends.bind (ends_rollback hcontent) (fun _ u hu => ?_) fun halt u hu => ?_
    · obtain ⟨htouched, -, hcases, hstore⟩ := hu
      refine Ends.throw ⟨hframe.toTouched.trans htouched, fun halt hhalt => ?_,
        fun hok => (by cases hok), fun halt hhalt => ⟨?_, ?_⟩⟩
      · cases hhalt
        exact hblamed (.refused e) rfl
      · rcases hcases with hcases | hcases
        · exact ⟨n, hcases⟩
        · exact ⟨0, by rw [hcases]; simp⟩
      · rw [hframe.store] at hstore
        rcases hstore with ⟨hstore, hbefore⟩ | hstore
        · exact .inl ⟨hstore, fun _ => hbefore rfl⟩
        · exact .inr hstore
    · obtain ⟨htouched, hblamed', hcases, hstore⟩ := hu
      refine ⟨hframe.toTouched.trans htouched,
        fun halt' hhalt => (hblamed' halt' hhalt).2.mono hframe.answers, fun hok => (by cases hok),
        fun halt' hhalt => ⟨?_, ?_⟩⟩
      · rcases hcases with hcases | hcases
        · exact ⟨n, hcases⟩
        · exact ⟨0, by rw [hcases]; simp⟩
      · rw [hframe.store] at hstore
        rcases hstore with ⟨hstore, -⟩ | hstore
        · exact .inl ⟨hstore, fun hne => absurd (hblamed' halt' hhalt).1 hne⟩
        · exact .inr hstore
  · obtain ⟨hframe, hblamed, -, hcontent⟩ := ht
    refine ⟨hframe.toTouched, hblamed, fun hok => (by cases hok), fun halt hhalt => ?_⟩
    cases hhalt
    exact ⟨hcontent, .inl ⟨hframe.store, fun hne => absurd rfl hne⟩⟩

/-- After a write that failed the store is open, and degraded where the journal could not be cut
back. -/
theorem unwritten {h h₁ h₂ : Host} {halt : Halt Error}
    (hstore₁ : h₁.store = { h.store with journal := true })
    (hlength : (h.content .journal).length = h.store.journalBytes)
    (hstore₂ : h₂.store = h₁.store ∧
        (halt ≠ .stopped → h₂.content .journal = h.content .journal ∧ AtEnd .journal h₂) ∨
      h₂.store = { h₁.store with journalDegraded := true }) :
    ∃ journal degraded, h₂.store =
        { h.store with journal := journal, journalDegraded := degraded } ∧
      (halt ≠ .stopped → Ready h₂ ∧
        (degraded = false → h₂.content .journal = h.content .journal ∧ Aligned h₂)) := by
  have hready (hopen : h₂.store.journal = true) : Ready h₂ := fun hclosed =>
    absurd (hopen.symm.trans hclosed) (by simp)
  rcases hstore₂ with ⟨hstore₂, hbefore⟩ | hstore₂
  · refine ⟨true, h.store.journalDegraded, by rw [hstore₂, hstore₁], fun hne =>
      ⟨hready (by rw [hstore₂, hstore₁]), fun _ => ⟨(hbefore hne).1, fun _ =>
        ⟨(hbefore hne).2, ?_⟩⟩⟩⟩
    rw [(hbefore hne).1, hlength, hstore₂, hstore₁]
  · exact ⟨true, true, by rw [hstore₂, hstore₁], fun _ =>
      ⟨hready (by rw [hstore₂, hstore₁]), fun h => (by cases h)⟩⟩

/-- What `append` leaves behind once its checks have passed. -/
theorem ends_append {h : Host} (hready : Ready h) (haligned : Aligned h) {payload : Bytes}
    {sequence : UInt64} (hcheck : checkAppend h.store payload = .ok sequence) :
    (append payload).Ends h fun r h' =>
      Touched .journal h h' ∧ (∀ halt, r = .error halt → Blamed h.volume.answers halt) ∧
      (∀ s, r = .ok s → s = sequence ∧ AtEnd .journal h' ∧
        h'.content .journal = h.content .journal ++ JournalEntry.encode ⟨sequence, payload⟩ ∧
        h'.store = { h.store with
          journal := true
          lastSequence := sequence
          journalBytes := (h.content .journal).length + journalHeaderBytes + payload.length
          appendedRecords := h.store.appendedRecords + 1 }) ∧
      (∀ halt, r = .error halt →
        (∃ journal degraded, h'.store =
            { h.store with journal := journal, journalDegraded := degraded } ∧
          (halt ≠ .stopped → Ready h' ∧
            (degraded = false → h'.content .journal = h.content .journal ∧ Aligned h'))) ∧
        ∃ n, h'.content .journal =
          h.content .journal ++ (JournalEntry.encode ⟨sequence, payload⟩).take n) := by
  refine Ends.get_bind (ends_check hcheck ?_)
  refine Ends.bind (ends_ensureJournal hready) (fun _ h₁ hr₁ => ?_) fun halt h₁ hr₁ => ?_
  · obtain ⟨htouched₁, -, hcontent₁, hstore₁, -, haligned₁⟩ := hr₁
    have hstore₁ := hstore₁ rfl
    obtain ⟨hend₁, hlength₁⟩ := haligned₁ rfl haligned
    refine Ends.bind (ends_writeRecord hend₁ ⟨sequence, payload⟩ hlength₁.symm)
      (fun _ h₂ hr₂ => ?_) fun halt h₂ hr₂ => ?_
    · obtain ⟨htouched₂, -, hok₂, -⟩ := hr₂
      obtain ⟨hend₂, hstore₂, hcontent₂⟩ := hok₂ rfl
      refine Ends.bind (Ends.modify (Q := fun r t => r = .ok () ∧ t = _) ⟨rfl, rfl⟩) ?_ ?_
      · rintro - _ ⟨-, rfl⟩
        have htouched := htouched₁.trans htouched₂
        refine Ends.pure ⟨⟨htouched.others, htouched.cursors, htouched.answers⟩,
          fun _ hhalt => (by cases hhalt), fun s hs => ?_, fun _ hhalt => (by cases hhalt)⟩
        cases hs
        refine ⟨rfl, hend₂, ?_, ?_⟩
        · show h₂.content .journal = _
          rw [hcontent₂, hcontent₁]
        · show ({ h₂.store with
            lastSequence := sequence
            journalBytes := h.store.journalBytes + journalHeaderBytes + payload.length
            appendedRecords := h₂.store.appendedRecords + 1 } : DurableStore) = _
          rw [hstore₂, hstore₁, ← hlength₁, hcontent₁]
      · rintro _ _ ⟨⟨⟩, -⟩
    · obtain ⟨htouched₂, hblamed₂, -, herror₂⟩ := hr₂
      refine ⟨htouched₁.trans htouched₂,
        fun halt' hhalt => (hblamed₂ halt' (by cases hhalt; rfl)).mono htouched₁.answers,
        fun s hs => (by cases hs), fun halt' hhalt => ?_⟩
      obtain ⟨hcut, hstore₂⟩ := herror₂ halt' (by cases hhalt; rfl)
      rw [hcontent₁] at hcut hstore₂
      exact ⟨unwritten hstore₁ (hcontent₁ ▸ hlength₁) hstore₂, hcut⟩
  · obtain ⟨htouched, hblamed, hcontent, -, hclosed, -⟩ := hr₁
    obtain ⟨hclosed, hstore⟩ := hclosed halt rfl
    refine ⟨htouched, fun halt' hhalt => hblamed halt' (by cases hhalt; rfl),
      fun s hok => (by cases hok), fun halt' hhalt => ⟨?_, 0, by rw [hcontent]; simp⟩⟩
    refine ⟨h.store.journal, h.store.journalDegraded, hstore, fun _ => ⟨fun _ => ?_, fun _ =>
      ⟨hcontent, fun hopen => ?_⟩⟩⟩
    · rw [hcontent, hstore]
      exact hready hclosed
    · rw [hstore, hclosed] at hopen
      cases hopen

/-- As `compact` calls it, `ensure_journal` fails with an error of the persistence. -/
theorem ends_ensureJournal_persistence {h : Host} (hready : Ready h) :
    (ensureJournal.onRefusal fun e =>
      throw (.refused (persistenceFailure e.detail))).Ends h fun r h' =>
      Touched .journal h h' ∧ (∀ halt, r = .error halt → Blamed h.volume.answers halt) ∧
      h'.content .journal = h.content .journal ∧
      (r = .ok () → h'.store = { h.store with journal := true }) ∧
      (∀ halt, r = .error halt → h.store.journal = false ∧ h'.store = h.store) ∧
      (r = .ok () → Aligned h →
        AtEnd .journal h' ∧ (h'.content .journal).length = h.store.journalBytes) := by
  refine Ends.onRefusal (ends_ensureJournal hready) (fun _ t ht => ht) (fun e t ht => ?_)
    fun t ht => ht
  obtain ⟨htouched, hblamed, hcontent, -, hclosed, -⟩ := ht
  refine Ends.throw ⟨htouched, fun halt hhalt => ?_, hcontent, fun hok => (by cases hok),
    fun _ _ => hclosed _ rfl, fun hok => (by cases hok)⟩
  cases hhalt
  exact hblamed (.refused e) rfl

/-- Emptying the journal: it is empty, or as it was, and then a store that knew its length
still knows it. -/
theorem ends_emptyJournal {h : Host} (hready : Ready h) :
    emptyJournal.Ends h fun r h' =>
      Touched .journal h h' ∧ (∀ halt, r = .error halt → Blamed h.volume.answers halt) ∧
      (h'.content .journal = h.content .journal ∨ h'.content .journal = []) ∧
      (r = .ok () → h'.content .journal = [] ∧ AtEnd .journal h' ∧
        h'.store = { h.store with journal := true }) ∧
      (∀ halt, r = .error halt →
        (h'.store = h.store ∨ h'.store = { h.store with journal := true }) ∧
        (h'.content .journal = h.content .journal → Aligned h → Aligned h')) := by
  refine Ends.bind (ends_ensureJournal_persistence hready) (fun _ h₁ hr₁ => ?_)
    fun halt h₁ hr₁ => ?_
  · obtain ⟨htouched₁, -, hcontent₁, hstore₁, -, haligned₁⟩ := hr₁
    have hstore₁ := hstore₁ rfl
    -- where the journal was not cut the descriptor stays at its end
    have hkept {t : Host} (hstore : t.store = h₁.store)
        (hend : t.content .journal = h₁.content .journal → AtEnd .journal h₁ → AtEnd .journal t)
        (hsame : t.content .journal = h.content .journal) (haligned : Aligned h) : Aligned t := by
      obtain ⟨hend₁, hlength⟩ := haligned₁ rfl haligned
      refine fun _ => ⟨hend (hsame.trans hcontent₁.symm) hend₁, ?_⟩
      rw [hsame, ← hcontent₁, hlength, hstore, hstore₁]
    refine Ends.onRefusal (affects_truncateFile h₁ 0) (fun _ t ht => ?_) (fun e t ht => ?_)
      fun t ht => ?_
    · obtain ⟨hframe, -, hok, -⟩ := ht
      obtain ⟨hcontent, hcursor⟩ := hok rfl
      rw [resize_zero] at hcontent
      refine ⟨htouched₁.trans hframe.toTouched, fun _ hhalt => (by cases hhalt), .inr hcontent,
        fun _ => ⟨hcontent, ?_, hframe.store.trans hstore₁⟩, fun _ hhalt => (by cases hhalt)⟩
      show t.volume.cursors .journal = (t.content .journal).length
      rw [hcursor, hcontent]
      rfl
    · obtain ⟨hframe, hblamed, -, hcases, hend⟩ := ht
      rw [resize_zero, hcontent₁] at hcases
      refine Ends.throw ⟨htouched₁.trans hframe.toTouched, fun halt hhalt => ?_, hcases,
        fun hok => (by cases hok),
        fun _ _ => ⟨.inr (hframe.store.trans hstore₁), hkept hframe.store hend⟩⟩
      cases hhalt
      exact (hblamed (.refused e) rfl).mono htouched₁.answers
    · obtain ⟨hframe, hblamed, -, hcases, hend⟩ := ht
      rw [resize_zero, hcontent₁] at hcases
      exact ⟨htouched₁.trans hframe.toTouched,
        fun halt hhalt => (hblamed halt hhalt).mono htouched₁.answers, hcases,
        fun hok => (by cases hok),
        fun _ _ => ⟨.inr (hframe.store.trans hstore₁), hkept hframe.store hend⟩⟩
  · obtain ⟨htouched, hblamed, hcontent, -, hclosed, -⟩ := hr₁
    obtain ⟨hclosed, hstore⟩ := hclosed halt rfl
    refine ⟨htouched, fun halt' hhalt => hblamed halt' (by cases hhalt; rfl), .inl hcontent,
      fun hok => (by cases hok), fun _ _ => ⟨.inl hstore, fun _ _ hopen => ?_⟩⟩
    rw [hstore, hclosed] at hopen
    cases hopen

/-- What `compact` leaves behind once its checks have passed. -/
theorem ends_compact {h : Host} (hready : Ready h) {image : SnapshotImage}
    (hcheck : checkCompact h.store image = .ok ()) :
    (compact image).Ends h fun r h' =>
      (∀ halt, r = .error halt → Blamed h.volume.answers halt) ∧
      Placed image.encode h.files h'.files ∧
      (h'.content .journal = h.content .journal ∨
        h'.content .journal = [] ∧ h'.files .primary = some image.encode) ∧
      (r = .ok () → h'.files .primary = some image.encode ∧ h'.content .journal = [] ∧
        AtEnd .journal h' ∧ h'.store = { h.store with
          journal := true
          snapshotSequence := image.sequence
          journalBytes := 0 }) ∧
      (∀ halt, r = .error halt →
        (h'.store = h.store ∨ h'.store = { h.store with journal := true }) ∧
        (h'.content .journal = h.content .journal → Aligned h → Aligned h')) := by
  refine Ends.get_bind (ends_check hcheck ?_)
  refine Ends.bind (affects_writeTemporary h image) (fun _ h₁ hr₁ => ?_) fun halt h₁ hr₁ => ?_
  · obtain ⟨hframe₁, -, htemporary⟩ := hr₁
    have htemporary := htemporary rfl
    have hjournal₁ : h₁.content .journal = h.content .journal :=
      congrArg (·.getD []) (hframe₁.others .journal (by decide))
    refine Ends.bind (ends_installTemporary htemporary) (fun _ h₂ hr₂ => ?_) fun halt h₂ hr₂ => ?_
    · obtain ⟨hswapped₂, -, -, hprimary₂⟩ := hr₂
      have hprimary₂ := hprimary₂ rfl
      have hstore₂ : h₂.store = h.store := hswapped₂.store.trans hframe₁.store
      have hjournal₂ : h₂.content .journal = h.content .journal :=
        (congrArg (·.getD []) hswapped₂.journal).trans hjournal₁
      have hcursor₂ : h₂.volume.cursors .journal = h.volume.cursors .journal :=
        (congrFun hswapped₂.cursors .journal).trans (hframe₁.cursors .journal (by decide))
      refine Ends.bind (ends_emptyJournal (hready.moved hstore₂ hjournal₂)) (fun _ h₃ hr₃ => ?_)
        fun halt h₃ hr₃ => ?_
      · obtain ⟨htouched₃, -, -, hok₃, -⟩ := hr₃
        obtain ⟨hcontent₃, hend₃, hstore₃⟩ := hok₃ rfl
        have hprimary₃ : h₃.files .primary = some image.encode :=
          (htouched₃.others .primary (by decide)).trans hprimary₂
        refine Ends.modify ⟨fun _ hhalt => (by cases hhalt), .installed hprimary₃,
          .inr ⟨hcontent₃, hprimary₃⟩, fun _ => ⟨hprimary₃, hcontent₃, hend₃, ?_⟩,
          fun _ hhalt => (by cases hhalt)⟩
        show ({ h₃.store with
          snapshotSequence := image.sequence
          journalBytes := 0 } : DurableStore) = _
        rw [hstore₃, hstore₂]
      · obtain ⟨htouched₃, hblamed₃, hcases₃, -, herror₃⟩ := hr₃
        obtain ⟨hstore₃, haligned₃⟩ := herror₃ halt rfl
        have hprimary₃ : h₃.files .primary = some image.encode :=
          (htouched₃.others .primary (by decide)).trans hprimary₂
        rw [hjournal₂] at hcases₃
        rw [hstore₂] at hstore₃
        have hanswers : h₂.volume.answers ⊆ h.volume.answers :=
          List.Subset.trans hswapped₂.answers hframe₁.answers
        refine ⟨fun halt' hhalt => (hblamed₃ halt' (by cases hhalt; rfl)).mono hanswers,
          .installed hprimary₃, hcases₃.imp id fun hempty => ⟨hempty, hprimary₃⟩,
          fun hok => (by cases hok), fun _ _ => ⟨hstore₃, fun hsame haligned => ?_⟩⟩
        exact haligned₃ (hsame.trans hjournal₂.symm) (haligned.moved hstore₂ hcursor₂ hjournal₂)
    · obtain ⟨hswapped₂, hblamed₂, hplaced₂, -⟩ := hr₂
      have hstore₂ : h₂.store = h.store := hswapped₂.store.trans hframe₁.store
      have hcursor₂ : h₂.volume.cursors .journal = h.volume.cursors .journal :=
        (congrFun hswapped₂.cursors .journal).trans (hframe₁.cursors .journal (by decide))
      exact ⟨fun halt' hhalt => (hblamed₂ halt' (by cases hhalt; rfl)).mono hframe₁.answers,
        hplaced₂.congr_left (hframe₁.others .primary (by decide)) (hframe₁.others .previous (by decide)),
        .inl ((congrArg (·.getD []) hswapped₂.journal).trans hjournal₁),
        fun hok => (by cases hok),
        fun _ _ => ⟨.inl hstore₂, fun hsame haligned => haligned.moved hstore₂ hcursor₂ hsame⟩⟩
  · obtain ⟨hframe₁, hblamed₁, -⟩ := hr₁
    exact ⟨fun halt' hhalt => hblamed₁ halt' (by cases hhalt; rfl),
      .kept (hframe₁.others _ (by decide)) (hframe₁.others _ (by decide)),
      .inl (congrArg (·.getD []) (hframe₁.others .journal (by decide))),
      fun hok => (by cases hok), fun _ _ => ⟨.inl hframe₁.store, fun hsame haligned =>
        haligned.moved hframe₁.store (hframe₁.cursors .journal (by decide)) hsame⟩⟩

/-- What `open` leaves behind once it has understood the files, up to the mark that the store is
opened. -/
structure Opening (h : Host) (adopted : Option (SnapshotImage × Bool)) (scan : JournalScan)
    (opened : Bool) (r : Except (Halt Error) Unit) (h' : Host) : Prop where
  touched : Touched .journal h h'
  blamed : ∀ halt, r = .error halt → Blamed h.volume.answers halt
  journal : h'.content .journal = h.content .journal ∨
    h'.content .journal = resize (h.content .journal) scan.replayableBytes
  ok : r = .ok () →
    h'.store = { recovered h.store.limits adopted (h.files .journal).isSome scan with
      journal := (h.files .journal).isSome
      opened := opened } ∧
    ((h.files .journal).isSome = true →
      h'.content .journal = resize (h.content .journal) scan.replayableBytes ∧
      h'.volume.cursors .journal = scan.replayableBytes)
  error : ∀ halt, r = .error halt → h'.store.opened = false ∧ h'.store.limits = h.store.limits

/-- The journal is opened behind what can be replayed, if there is one. -/
theorem ends_reopenJournal {h t : Host} {adopted : Option (SnapshotImage × Bool)}
    {scan : JournalScan} (hvolume : t.volume = h.volume)
    (hstore : t.store = recovered h.store.limits adopted (h.files .journal).isSome scan) :
    (runIf ((h.files .journal).isSome = true) do
      openForAppend .journal scan.replayableBytes "journal"
      modifyStore fun store => { store with journal := true }).Ends t
        (Opening h adopted scan false) := by
  obtain ⟨store, volume⟩ := t
  obtain rfl : volume = h.volume := hvolume
  obtain rfl : store = recovered h.store.limits adopted (h.files .journal).isSome scan := hstore
  refine Ends.runIf (fun hexists => ?_) fun hmissing => ?_
  · refine Ends.bind (affects_openForAppend _ scan.replayableBytes "journal") (fun _ t ht => ?_)
      fun halt t ht => ?_
    · obtain ⟨hframe, -, hok, -⟩ := ht
      obtain ⟨hcontent, hcursor⟩ := hok rfl
      refine Ends.modify ⟨⟨hframe.others, hframe.cursors, hframe.answers⟩,
        fun _ hhalt => (by cases hhalt), .inr hcontent,
        fun _ => ⟨?_, fun _ => ⟨hcontent, hcursor⟩⟩, fun _ hhalt => (by cases hhalt)⟩
      show ({ t.store with journal := true } : DurableStore) = _
      rw [hframe.store, hexists]
      rfl
    · obtain ⟨hframe, hblamed, -, hcases⟩ := ht
      refine ⟨⟨hframe.others, hframe.cursors, hframe.answers⟩, hblamed, hcases,
        fun hok => (by cases hok), fun _ _ => ?_⟩
      rw [hframe.store]
      exact ⟨rfl, rfl⟩
  · have hmissing : (h.files .journal).isSome = false := by simpa using hmissing
    refine ⟨⟨fun _ _ => rfl, fun _ _ => rfl, List.Subset.refl _⟩, fun _ hhalt => (by cases hhalt),
      .inl rfl, fun _ => ⟨?_, fun hexists => ?_⟩, fun _ hhalt => (by cases hhalt)⟩
    · rw [hmissing]
      rfl
    · exact absurd (hexists.symm.trans hmissing) (by decide)

/-- What `open` leaves behind once it has understood the files. -/
theorem ends_openStore {h : Host} {adopted : Option (SnapshotImage × Bool)} {scan : JournalScan}
    (hadopt : adoptSnapshot h.store.limits h.files = .ok adopted)
    (hscan : scanJournal h.store.limits (h.files .journal)
      ((adopted.map (·.1.sequence)).getD 0) = .ok scan) :
    openStore.Ends h (Opening h adopted scan true) := by
  refine Ends.bind (Ends.modify (Q := fun r t => r = .ok () ∧ t = _) ⟨rfl, rfl⟩) ?_ ?_
  · rintro - _ ⟨-, rfl⟩
    refine Ends.get_bind (ends_check hadopt (ends_check hscan ?_))
    refine Ends.bind (Ends.modify (Q := fun r t => r = .ok () ∧ t = _) ⟨rfl, rfl⟩) ?_ ?_
    · rintro - _ ⟨-, rfl⟩
      refine Ends.bind (ends_reopenJournal (h := h) rfl rfl) (fun _ t ht => ?_) fun halt t ht => ?_
      · obtain ⟨hstore, hfile⟩ := ht.ok rfl
        refine Ends.modify ⟨⟨ht.touched.others, ht.touched.cursors, ht.touched.answers⟩,
          fun _ hhalt => (by cases hhalt), ht.journal, fun _ => ⟨?_, hfile⟩,
          fun _ hhalt => (by cases hhalt)⟩
        show ({ t.store with opened := true } : DurableStore) = _
        rw [hstore]
      · exact ⟨ht.touched, fun halt' hhalt => ht.blamed halt' (by cases hhalt; rfl), ht.journal,
          fun hok => (by cases hok), fun halt' hhalt => ht.error halt' (by cases hhalt; rfl)⟩
    · rintro _ _ ⟨⟨⟩, -⟩
  · rintro _ _ ⟨⟨⟩, -⟩

end Host

end ShuffleFabric
