import ShuffleFabric.DurableStore.Scanner

/-!
# ShuffleFabric.DurableStore.ReadFull

The read buffer of `JournalScanner` as the code keeps it: an array, the part of it that is not
handed out, and a file whose reads may be interrupted or return less than they were asked for.

`JournalScanner` holds the unread part of the buffer as a list and reads a file in whole buffers.
`ArrayScanner.readFull_spec` is the simulation between the two, and `readAll_slices` says what a
caller gets from any number of calls.
-/

namespace ShuffleFabric

def transferBytes : Nat := 1 <<< 20

/-! ## The file -/

/-- What `::read` does next.  Before the end of the file it returns at least one byte. -/
inductive ReadAnswer where
  | produced (count : Nat)
  | interrupted
  | failed
  deriving DecidableEq, Repr

/-- What one call of `::read` returns. -/
inductive Received where
  | bytes (produced : Bytes)
  | interrupted
  | failed
  deriving DecidableEq, Repr

/-- `class FileHandle`: the bytes behind the read position, and what the next reads do.  A read
after these returns all it can. -/
structure FileHandle where
  rest : Bytes
  answers : List ReadAnswer := []
  deriving DecidableEq, Repr

namespace FileHandle

/-- `::read`. -/
def read (file : FileHandle) (chunk : Nat) : Received × FileHandle :=
  match file.answers with
  | [] => (.bytes (file.rest.take chunk), { file with rest := file.rest.drop chunk })
  | .produced count :: answers =>
    let count := min chunk (max 1 count)
    (.bytes (file.rest.take count), { rest := file.rest.drop count, answers := answers })
  | .interrupted :: answers => (.interrupted, { file with answers := answers })
  | .failed :: answers => (.failed, { file with answers := answers })

/-- A read that returns bytes returns the next ones, and none only at the end. -/
theorem read_bytes {file next : FileHandle} {chunk : Nat} {produced : Bytes} (hpos : 0 < chunk)
    (h : file.read chunk = (.bytes produced, next)) :
    (∃ count, 0 < count ∧ count ≤ chunk ∧ produced = file.rest.take count ∧
      next.rest = file.rest.drop count) ∧ next.answers <:+ file.answers := by
  obtain ⟨rest, answers⟩ := file
  cases answers with
  | nil =>
      cases h
      exact ⟨⟨chunk, hpos, Nat.le_refl _, rfl, rfl⟩, List.suffix_refl _⟩
  | cons answer answers =>
      cases answer with
      | produced count =>
          cases h
          refine ⟨⟨min chunk (max 1 count), ?_, Nat.min_le_left _ _, rfl, rfl⟩,
            List.suffix_cons _ _⟩
          omega
      | interrupted => cases h
      | failed => cases h

theorem read_interrupted {file next : FileHandle} {chunk : Nat}
    (h : file.read chunk = (.interrupted, next)) :
    next.rest = file.rest ∧ file.answers = .interrupted :: next.answers := by
  obtain ⟨rest, answers⟩ := file
  cases answers with
  | nil => cases h
  | cons answer answers => cases answer <;> cases h; exact ⟨rfl, rfl⟩

theorem read_failed {file next : FileHandle} {chunk : Nat}
    (h : file.read chunk = (.failed, next)) : file.answers = .failed :: next.answers := by
  obtain ⟨rest, answers⟩ := file
  cases answers with
  | nil => cases h
  | cons answer answers => cases answer <;> cases h; rfl

end FileHandle

/-! ## Writing into an array -/

/-- `std::memcpy` to an offset of an array: the array keeps its size. -/
def overwrite (array : Bytes) (offset : Nat) (bytes : Bytes) : Bytes :=
  array.take offset ++ bytes.take (array.length - offset) ++ array.drop (offset + bytes.length)

@[simp] theorem length_overwrite (array : Bytes) (offset : Nat) (bytes : Bytes) :
    (overwrite array offset bytes).length = array.length := by
  simp only [overwrite, List.length_append, List.length_take, List.length_drop]
  omega

@[simp] theorem overwrite_nil (array : Bytes) (offset : Nat) :
    overwrite array offset [] = array := by
  simp [overwrite]

theorem overwrite_zero {array bytes : Bytes} (h : bytes.length ≤ array.length) :
    overwrite array 0 bytes = bytes ++ array.drop bytes.length := by
  rw [overwrite, Nat.sub_zero, List.take_of_length_le h, List.take_zero, List.nil_append,
    Nat.zero_add]

theorem take_overwrite {array bytes : Bytes} (h : bytes.length ≤ array.length) :
    (overwrite array 0 bytes).take bytes.length = bytes := by
  rw [overwrite_zero h, List.take_left]

/-- Two writes, one behind the other, are one. -/
theorem overwrite_overwrite {array front : Bytes} {offset : Nat} (bytes : Bytes)
    (h : offset + front.length ≤ array.length) :
    overwrite (overwrite array offset front) (offset + front.length) bytes =
      overwrite array offset (front ++ bytes) := by
  have hfront : front.take (array.length - offset) = front := List.take_of_length_le (by omega)
  have hoffset : (array.take offset).length = offset := by
    rw [List.length_take]
    omega
  have htake : (overwrite array offset front).take (offset + front.length) =
      array.take offset ++ front := by
    rw [overwrite, hfront, List.take_left' (by rw [List.length_append, hoffset])]
  have hdrop : (overwrite array offset front).drop (offset + front.length + bytes.length) =
      array.drop (offset + (front ++ bytes).length) := by
    rw [overwrite, hfront, ← List.drop_drop,
      List.drop_left' (by rw [List.length_append, hoffset]), List.drop_drop, List.length_append,
      Nat.add_assoc]
  have hbytes : (front ++ bytes).take (array.length - offset) =
      front ++ bytes.take (array.length - (offset + front.length)) := by
    rw [List.take_append, hfront, Nat.sub_sub]
  rw [overwrite, htake, hdrop, length_overwrite, overwrite, hbytes]
  simp only [List.append_assoc]

/-! ## `read_upto` -/

/-- The loop of `read_upto`: what it returns, and the array it reads into. -/
def readUpto (file : FileHandle) (destination : Bytes) (total : Nat) :
    Result Nat × Bytes × FileHandle :=
  if _ : total < destination.length then
    let remaining := destination.length - total
    let chunk := min remaining transferBytes
    match _h : file.read chunk with
    | (.failed, file) =>
      (.error ⟨.persistenceFailure, "durable file read failed"⟩, destination, file)
    | (.interrupted, file) => readUpto file destination total
    | (.bytes produced, file) =>
      if produced.length = 0 then (.ok total, destination, file)
      else readUpto file (overwrite destination total produced) (total + produced.length)
  else (.ok total, destination, file)
  termination_by destination.length - total + file.answers.length
  decreasing_by
    · have := congrArg List.length (FileHandle.read_interrupted _h).2
      simp only [List.length_cons] at this
      omega
    · have hchunk : 0 < chunk := by
        have : 0 < transferBytes := by decide
        omega
      have := (FileHandle.read_bytes hchunk _h).2.length_le
      rw [length_overwrite]
      omega

/-- Reading a piece of what is wanted leaves the rest of it. -/
theorem take_piece (data : Bytes) {count wanted : Nat} (h : count ≤ wanted) :
    data.take count ++ (data.drop count).take (wanted - (data.take count).length) =
        data.take wanted ∧
      (data.drop count).drop (wanted - (data.take count).length) = data.drop wanted := by
  by_cases hcount : count ≤ data.length
  · rw [List.length_take, Nat.min_eq_left hcount, ← List.take_add, List.drop_drop,
      Nat.add_sub_cancel' h]
    exact ⟨rfl, rfl⟩
  · have hshort : data.length ≤ count := Nat.le_of_not_le hcount
    rw [List.drop_of_length_le hshort, List.drop_of_length_le (Nat.le_trans hshort h),
      List.take_of_length_le hshort, List.take_of_length_le (Nat.le_trans hshort h)]
    simp

/-- What `read_upto` is to do: read the next bytes up to the end of the array, unless a read
fails. -/
structure ReadUptoOk (file : FileHandle) (destination : Bytes) (total : Nat)
    (outcome : Result Nat × Bytes × FileHandle) : Prop where
  length : outcome.2.1.length = destination.length
  answers : outcome.2.2.answers <:+ file.answers
  failure : ∀ error, outcome.1 = .error error → .failed ∈ file.answers
  value : ∀ read, outcome.1 = .ok read →
    read = total + (file.rest.take (destination.length - total)).length ∧
      outcome.2.1 = overwrite destination total (file.rest.take (destination.length - total)) ∧
      outcome.2.2.rest = file.rest.drop (destination.length - total)

/-- However the reads are cut, `read_upto` stops at the end of the array or of the file. -/
theorem readUpto_ok (file : FileHandle) (destination : Bytes) (total : Nat) :
    ReadUptoOk file destination total (readUpto file destination total) := by
  fun_induction readUpto file destination total with
  | case1 file destination total htotal remaining chunk next h =>
      have hanswers := FileHandle.read_failed h
      constructor
      · rfl
      · exact hanswers ▸ List.suffix_cons _ _
      · intro error herror
        rw [hanswers]
        exact List.mem_cons_self
      · intro read hread
        cases hread
  | case2 file destination total htotal remaining chunk next h ih =>
      obtain ⟨hrest, hanswers⟩ := FileHandle.read_interrupted h
      have hsuffix : next.answers <:+ file.answers := hanswers ▸ List.suffix_cons _ _
      constructor
      · exact ih.length
      · exact ih.answers.trans hsuffix
      · exact fun error herror => hsuffix.subset (ih.failure error herror)
      · rw [← hrest]
        exact ih.value
  | case3 file destination total htotal remaining chunk produced next h hzero =>
      have hchunk : 0 < chunk := by
        have : 0 < transferBytes := by decide
        omega
      obtain ⟨⟨count, hcount, -, hproduced, hrest⟩, hsuffix⟩ := FileHandle.read_bytes hchunk h
      -- a read that returns nothing is at the end
      have hend : file.rest = [] := by
        rw [hproduced, List.length_take] at hzero
        exact List.length_eq_zero_iff.mp (by omega)
      constructor
      · rfl
      · exact hsuffix
      · intro error herror
        cases herror
      · intro read hread
        cases hread
        simp [hrest, hend]
  | case4 file destination total htotal remaining chunk produced next h hzero ih =>
      have hchunk : 0 < chunk := by
        have : 0 < transferBytes := by decide
        omega
      obtain ⟨⟨count, hcount, hle, hproduced, hrest⟩, hsuffix⟩ := FileHandle.read_bytes hchunk h
      obtain ⟨htake, hdrop⟩ := take_piece file.rest
        (Nat.le_trans hle (Nat.min_le_left remaining transferBytes))
      rw [← hproduced, ← hrest] at htake hdrop
      have hlength : produced.length ≤ remaining := by
        have := congrArg List.length hproduced
        rw [List.length_take] at this
        omega
      have hremaining : destination.length - (total + produced.length) =
          remaining - produced.length := by omega
      constructor
      · rw [ih.length, length_overwrite]
      · exact ih.answers.trans hsuffix
      · exact fun error herror => hsuffix.subset (ih.failure error herror)
      · intro read hread
        obtain ⟨hvalue, harray, hleft⟩ := ih.value read hread
        rw [length_overwrite, hremaining] at hvalue harray hleft
        refine ⟨?_, ?_, by rw [hleft, hdrop]⟩
        · rw [hvalue, ← htake, List.length_append, Nat.add_assoc]
        · rw [harray, ← htake, overwrite_overwrite _ (by omega)]
  | case5 file destination total htotal =>
      have hfull : destination.length - total = 0 := Nat.sub_eq_zero_of_le (Nat.not_lt.mp htotal)
      constructor
      · rfl
      · exact List.suffix_refl _
      · intro error herror
        cases herror
      · intro read hread
        cases hread
        simp [hfull]

/-! ## `read_full` -/

/-- `class JournalScanner`: the bytes of the array between the offset and the length are not
handed out yet. -/
structure ArrayScanner where
  file : FileHandle
  buffer : Bytes := List.replicate readBufferBytes 0
  bufferOffset : Nat := 0
  bufferLength : Nat := 0
  position : Nat := 0
  length_buffer : buffer.length = readBufferBytes := by exact List.length_replicate
  offset_le : bufferOffset ≤ bufferLength := by exact Nat.le_refl _
  length_le : bufferLength ≤ readBufferBytes := by exact Nat.zero_le _

namespace ArrayScanner

theorem readUpto_le {scanner : ArrayScanner} {read : Nat}
    (h : (readUpto scanner.file scanner.buffer 0).1 = .ok read) : read ≤ readBufferBytes := by
  obtain ⟨hread, -, -⟩ := (readUpto_ok scanner.file scanner.buffer 0).value read h
  rw [hread, scanner.length_buffer, List.length_take]
  omega

/-- The buffer is read when it is used up.  The answer is whether there is a byte in it: the loop
breaks when there is none. -/
def refill (scanner : ArrayScanner) : Result Bool × ArrayScanner :=
  if scanner.bufferOffset = scanner.bufferLength then
    let outcome := readUpto scanner.file scanner.buffer 0
    have length_buffer : outcome.2.1.length = readBufferBytes :=
      (readUpto_ok scanner.file scanner.buffer 0).length.trans scanner.length_buffer
    match h : outcome.1 with
    | .error error =>
      (.error error,
        { scanner with
          file := outcome.2.2
          buffer := outcome.2.1
          length_buffer := length_buffer })
    | .ok read =>
      (.ok (read ≠ 0),
        { scanner with
          file := outcome.2.2
          buffer := outcome.2.1
          bufferOffset := 0
          bufferLength := read
          length_buffer := length_buffer
          offset_le := Nat.zero_le _
          length_le := readUpto_le h })
  else (.ok true, scanner)

/-- The bytes that are copied out of the buffer. -/
def available (scanner : ArrayScanner) (take : Nat) : Bytes :=
  (scanner.buffer.drop scanner.bufferOffset).take take

def advance (scanner : ArrayScanner) (take : Nat)
    (h : take ≤ scanner.bufferLength - scanner.bufferOffset) : ArrayScanner :=
  { scanner with
    bufferOffset := scanner.bufferOffset + take
    position := scanner.position + take
    offset_le := by
      have := scanner.offset_le
      omega }

/-- The scanner with the unread part of the buffer as a list. -/
def toScanner (scanner : ArrayScanner) : JournalScanner where
  file := scanner.file.rest
  buffer := (scanner.buffer.take scanner.bufferLength).drop scanner.bufferOffset
  position := scanner.position

theorem length_toScanner_buffer (scanner : ArrayScanner) :
    scanner.toScanner.buffer.length = scanner.bufferLength - scanner.bufferOffset := by
  have hlength := scanner.length_le
  rw [toScanner, List.length_drop, List.length_take, scanner.length_buffer,
    Nat.min_eq_left hlength]

theorem toScanner_advance (scanner : ArrayScanner) {take : Nat}
    (h : take ≤ scanner.bufferLength - scanner.bufferOffset) :
    (scanner.advance take h).toScanner = scanner.toScanner.advance take := by
  simp only [advance, toScanner, JournalScanner.advance, List.drop_drop]

theorem available_eq (scanner : ArrayScanner) {take : Nat}
    (h : take ≤ scanner.bufferLength - scanner.bufferOffset) :
    scanner.available take = scanner.toScanner.buffer.take take := by
  rw [available, toScanner, List.drop_take, List.take_take, Nat.min_eq_left h]

/-- What `refill` is to do: what `JournalScanner.refill` does, unless a read fails. -/
structure RefillOk (scanner : ArrayScanner) (outcome : Result Bool × ArrayScanner) : Prop where
  answers : outcome.2.file.answers <:+ scanner.file.answers
  failure : ∀ error, outcome.1 = .error error → .failed ∈ scanner.file.answers
  value : ∀ more, outcome.1 = .ok more →
    outcome.2.toScanner = scanner.toScanner.refill ∧
      (more = true ↔ outcome.2.bufferOffset < outcome.2.bufferLength)

theorem refill_ok (scanner : ArrayScanner) : RefillOk scanner scanner.refill := by
  have hread := readUpto_ok scanner.file scanner.buffer 0
  unfold refill
  split
  · next hused =>
      dsimp only
      split
      · next error herror => exact ⟨hread.answers, fun _ _ => hread.failure error herror, nofun⟩
      · next read hok =>
          refine ⟨hread.answers, nofun, fun more hmore => ?_⟩
          cases hmore
          obtain ⟨hlength, harray, hleft⟩ := hread.value read hok
          rw [Nat.zero_add, scanner.length_buffer, Nat.sub_zero] at hlength
          rw [scanner.length_buffer, Nat.sub_zero] at harray hleft
          have hempty : scanner.toScanner.buffer = [] := by
            rw [← List.length_eq_zero_iff, scanner.length_toScanner_buffer, hused, Nat.sub_self]
          have hfront : (overwrite scanner.buffer 0 (scanner.file.rest.take readBufferBytes)).take
              read = scanner.file.rest.take readBufferBytes := by
            rw [hlength, take_overwrite]
            rw [scanner.length_buffer]
            exact List.length_take_le _ _
          refine ⟨?_, by simp [Nat.pos_iff_ne_zero]⟩
          rw [JournalScanner.refill, if_pos hempty]
          simp only [toScanner, harray, hfront, hleft, List.drop_zero]
  · next hunread =>
      have hlt : scanner.bufferOffset < scanner.bufferLength :=
        Nat.lt_of_le_of_ne scanner.offset_le hunread
      refine ⟨List.suffix_refl _, nofun, fun more hmore => ?_⟩
      cases hmore
      refine ⟨?_, by simp [hlt]⟩
      rw [JournalScanner.refill, if_neg]
      intro hempty
      have hlength := scanner.length_toScanner_buffer
      rw [hempty, List.length_nil] at hlength
      omega

/-- The loop of `read_full`, into a destination that is filled so far. -/
def readFull (scanner : ArrayScanner) (destination : Bytes) (filled : Nat) :
    Result Bool × Bytes × ArrayScanner :=
  if _ : filled < destination.length then
    match _h : scanner.refill.1 with
    | .error error => (.error error, destination, scanner.refill.2)
    | .ok false => (.ok (filled = destination.length), destination, scanner.refill.2)
    | .ok true =>
      let available := scanner.refill.2.bufferLength - scanner.refill.2.bufferOffset
      let take := min available (destination.length - filled)
      (scanner.refill.2.advance take (Nat.min_le_left _ _)).readFull
        (overwrite destination filled (scanner.refill.2.available take)) (filled + take)
  else (.ok (filled = destination.length), destination, scanner)
  termination_by destination.length - filled
  decreasing_by
    have := ((refill_ok scanner).value true _h).2.mp rfl
    rw [length_overwrite]
    omega

/-- What `read_full` is to do: what `JournalScanner.readFull` does, into the destination, unless a
read fails. -/
structure ReadFullOk (scanner : ArrayScanner) (destination : Bytes) (filled : Nat)
    (outcome : Result Bool × Bytes × ArrayScanner) : Prop where
  answers : outcome.2.2.file.answers <:+ scanner.file.answers
  failure : ∀ error, outcome.1 = .error error → .failed ∈ scanner.file.answers
  value : ∀ whole, outcome.1 = .ok whole →
    let expected := scanner.toScanner.readFull (destination.length - filled)
    outcome.2.1 = overwrite destination filled expected.1 ∧
      outcome.2.2.toScanner = expected.2 ∧
      whole = decide (filled + expected.1.length = destination.length)

/-- The scanner with its array simulates the one with a list. -/
theorem readFull_ok (scanner : ArrayScanner) (destination : Bytes) (filled : Nat) :
    ReadFullOk scanner destination filled (scanner.readFull destination filled) := by
  fun_induction readFull scanner destination filled with
  | case1 scanner destination filled hfilled error h =>
      have hrefill := scanner.refill_ok
      exact ⟨hrefill.answers, fun _ _ => hrefill.failure error h, nofun⟩
  | case2 scanner destination filled hfilled h =>
      have hrefill := scanner.refill_ok
      obtain ⟨habstract, hmore⟩ := hrefill.value false h
      have hend : scanner.toScanner.refill.buffer = [] := by
        rw [← habstract, ← List.length_eq_zero_iff, length_toScanner_buffer]
        simp only [Bool.false_eq_true, false_iff, Nat.not_lt] at hmore
        omega
      refine ⟨hrefill.answers, nofun, fun whole hwhole => ?_⟩
      cases hwhole
      rw [JournalScanner.readFull, dif_neg (by omega), dif_pos hend]
      exact ⟨(overwrite_nil destination filled).symm, habstract, rfl⟩
  | case3 scanner destination filled hfilled h available take ih =>
      have hrefill := scanner.refill_ok
      obtain ⟨habstract, hmore⟩ := hrefill.value true h
      have hbyte : 0 < available := Nat.sub_pos_of_lt (hmore.mp rfl)
      have hle : take ≤ available := Nat.min_le_left _ _
      have hlength : scanner.toScanner.refill.buffer.length = available := by
        rw [← habstract, length_toScanner_buffer]
      refine ⟨ih.answers.trans hrefill.answers,
        fun error herror => hrefill.answers.subset (ih.failure error herror), fun whole hwhole => ?_⟩
      obtain ⟨harray, hnext, hanswer⟩ := ih.value whole hwhole
      rw [length_overwrite, toScanner_advance, habstract] at harray hnext hanswer
      have hcopy : scanner.refill.2.available take = scanner.toScanner.refill.buffer.take take := by
        rw [available_eq _ hle, habstract]
      have hcopied : (scanner.toScanner.refill.buffer.take take).length = take := by
        rw [List.length_take, hlength, Nat.min_eq_left hle]
      have hwanted : destination.length - (filled + take) =
          destination.length - filled - take := by omega
      rw [hwanted] at harray hnext hanswer
      have hexpected : scanner.toScanner.readFull (destination.length - filled) =
          (scanner.toScanner.refill.buffer.take take ++
            ((scanner.toScanner.refill.advance take).readFull
              (destination.length - filled - take)).1,
            ((scanner.toScanner.refill.advance take).readFull
              (destination.length - filled - take)).2) := by
        rw [JournalScanner.readFull, dif_neg (by omega), dif_neg, hlength]
        rw [← List.length_eq_zero_iff, hlength]
        omega
      rw [hexpected]
      refine ⟨?_, hnext, ?_⟩
      · have hroom : filled + (scanner.toScanner.refill.buffer.take take).length ≤
            destination.length := by
          rw [hcopied]
          omega
        rw [← overwrite_overwrite _ hroom, hcopied, ← hcopy, harray]
      · rw [hanswer, List.length_append, hcopied, Nat.add_assoc]
  | case4 scanner destination filled hfilled =>
      refine ⟨List.suffix_refl _, nofun, fun whole hwhole => ?_⟩
      cases hwhole
      rw [JournalScanner.readFull, dif_pos (by omega)]
      exact ⟨(overwrite_nil destination filled).symm, rfl, rfl⟩

/-! ## Call after call -/

/-- What a caller sees of a call: its answer, its destination, and `position()` behind it. -/
structure ReadOutcome where
  answer : Result Bool
  destination : Bytes
  position : Nat
  deriving DecidableEq, Repr

/-- Successive calls of `read_full`, up to the first that fails. -/
def readAll (scanner : ArrayScanner) : List Bytes → List ReadOutcome
  | [] => []
  | destination :: destinations =>
    let outcome := scanner.readFull destination 0
    let seen : ReadOutcome := ⟨outcome.1, outcome.2.1, outcome.2.2.position⟩
    match outcome.1 with
    | .error _ => [seen]
    | .ok _ => seen :: outcome.2.2.readAll destinations

/-- What a call is to return when so many bytes are delivered before it: the next slice of the
file in front of what the destination held, and whether it is filled. -/
def slice (content : Bytes) (delivered : Nat) (destination : Bytes) : ReadOutcome where
  answer := .ok (decide (delivered + destination.length ≤ content.length))
  destination := (content.drop delivered).take destination.length ++
    destination.drop ((content.drop delivered).take destination.length).length
  position := delivered + ((content.drop delivered).take destination.length).length

/-- A call delivers the next slice. -/
theorem readFull_slice {scanner : ArrayScanner} {content destination : Bytes} {whole : Bool}
    (hposition : scanner.position ≤ content.length)
    (hpending : scanner.toScanner.pending = content.drop scanner.position)
    (h : (scanner.readFull destination 0).1 = .ok whole) :
    let outcome := scanner.readFull destination 0
    ReadOutcome.mk outcome.1 outcome.2.1 outcome.2.2.position =
        slice content scanner.position destination ∧
      outcome.2.2.position = min (scanner.position + destination.length) content.length ∧
      outcome.2.2.toScanner.pending = content.drop outcome.2.2.position := by
  obtain ⟨harray, hnext, hwhole⟩ := (scanner.readFull_ok destination 0).value whole h
  obtain ⟨hcopied, hleft, hmoved⟩ := scanner.toScanner.readFull_spec destination.length
  rw [Nat.sub_zero] at harray hnext hwhole
  rw [hpending] at hcopied hleft hmoved
  rw [hcopied] at harray hwhole
  rw [← hnext] at hleft hmoved
  have hlength : ((content.drop scanner.position).take destination.length).length =
      min destination.length (content.length - scanner.position) := by
    rw [List.length_take, List.length_drop]
  have hstop : (scanner.readFull destination 0).2.2.position =
      scanner.position + ((content.drop scanner.position).take destination.length).length :=
    hmoved
  have hanswer : whole = decide (scanner.position + destination.length ≤ content.length) := by
    rw [hwhole, hlength]
    refine decide_eq_decide.mpr ?_
    omega
  have hmin : (scanner.readFull destination 0).2.2.position =
      min (scanner.position + destination.length) content.length := by
    rw [hstop, hlength]
    omega
  refine ⟨?_, hmin, ?_⟩
  · rw [h, harray, hstop, hanswer, overwrite_zero]
    · rfl
    · exact List.length_take_le _ _
  · rw [hleft, hmin, List.drop_drop]
    by_cases hend : scanner.position + destination.length ≤ content.length
    · rw [Nat.min_eq_left hend]
    · rw [List.drop_of_length_le (Nat.le_of_not_le hend),
        List.drop_of_length_le (Nat.min_eq_right (Nat.le_of_not_le hend)).ge]

/-- The calls that follow deliver the slices that follow. -/
theorem readAll_from {scanner : ArrayScanner} {content : Bytes} (destinations : List Bytes)
    (hposition : scanner.position ≤ content.length)
    (hpending : scanner.toScanner.pending = content.drop scanner.position) :
    let outcomes := scanner.readAll destinations
    (∀ (i : Nat) (outcome : ReadOutcome), outcomes[i]? = some outcome →
      (∃ error, outcome.answer = .error error ∧ .failed ∈ scanner.file.answers) ∨
      ∃ destination, destinations[i]? = some destination ∧ outcome = slice content
        (min (scanner.position + ((destinations.take i).map List.length).sum) content.length)
        destination) ∧
    (outcomes.length = destinations.length ∨
      ∃ outcome ∈ outcomes, ∃ error, outcome.answer = .error error) := by
  induction destinations generalizing scanner with
  | nil => exact ⟨nofun, .inl rfl⟩
  | cons destination destinations ih =>
      have hread := scanner.readFull_ok destination 0
      rw [readAll]
      dsimp only
      split
      · next error herror =>
          refine ⟨fun i outcome houtcome => .inl ?_, .inr ⟨_, List.mem_singleton_self _, error, herror⟩⟩
          obtain rfl : _ = outcome := List.mem_singleton.mp (List.mem_of_getElem? houtcome) |>.symm
          exact ⟨error, herror, hread.failure error herror⟩
      · next whole hwhole =>
          obtain ⟨hslice, hmoved, hleft⟩ := readFull_slice hposition hpending hwhole
          obtain ⟨houtcomes, hcount⟩ := ih (hmoved ▸ Nat.min_le_right _ _) hleft
          constructor
          · intro i outcome houtcome
            cases i with
            | zero =>
                obtain rfl := Option.some.inj houtcome
                refine .inr ⟨destination, rfl, ?_⟩
                rw [hslice, List.take_zero, List.map_nil, List.sum_nil, Nat.add_zero,
                  Nat.min_eq_left hposition]
            | succ i =>
                rcases houtcomes i outcome houtcome with ⟨error, herror, hfailed⟩ | ⟨next, hnext, h⟩
                · exact .inl ⟨error, herror, hread.answers.subset hfailed⟩
                · refine .inr ⟨next, hnext, ?_⟩
                  rw [h, hmoved, List.take_succ_cons, List.map_cons, List.sum_cons]
                  congr 1
                  omega
          · rcases hcount with hcount | ⟨outcome, hmem, herror⟩
            · exact .inl (congrArg Nat.succ hcount)
            · exact .inr ⟨outcome, List.mem_cons_of_mem _ hmem, herror⟩

/-- Whatever a file holds, however its reads come and whatever is asked for, successive calls of
`read_full` deliver its consecutive slices: a call answers whether it filled its destination,
`position` counts the bytes delivered, and only a failing read ends the calls. -/
theorem readAll_slices (content : Bytes) (answers : List ReadAnswer) (destinations : List Bytes) :
    let outcomes := readAll { file := { rest := content, answers := answers } } destinations
    (∀ (i : Nat) (outcome : ReadOutcome), outcomes[i]? = some outcome →
      (∃ error, outcome.answer = .error error ∧ .failed ∈ answers) ∨
      ∃ destination, destinations[i]? = some destination ∧ outcome = slice content
        (min ((destinations.take i).map List.length).sum content.length) destination) ∧
    (outcomes.length = destinations.length ∨
      ∃ outcome ∈ outcomes, ∃ error, outcome.answer = .error error) := by
  have hpending : toScanner { file := { rest := content, answers := answers } } =
      { file := content } := by simp [toScanner]
  have hrun := @readAll_from { file := { rest := content, answers := answers } } content
    destinations (Nat.zero_le _) (by rw [hpending]; rfl)
  simpa only [Nat.zero_add] using hrun

end ArrayScanner

end ShuffleFabric
