import StoreLink.Exchange
import StoreLink.Proofs.Bytes

/-!
# The framing of replies

A stream may cut a reply anywhere, interrupt its reads, fail or end. None of that shows in the
answer: how the reading of a line ends is a function of the bytes that arrive and of the failure
after them.

* `Stream.arriving` are the bytes that arrive, `Stream.breakdown?` is the failure after them;
* `Stream.endingOf` computes the end of the reading from these two alone, and `readFrom_ending`
  proves that it is the end that the reading comes to;
* `readFrom_append`: what follows the first line feed is not looked at;
* `readFrom_taken_le`: no more is taken than there is room for.
-/

namespace StoreLink.Stream

/-! ## 1. What arrives -/

/-- The bytes that arrive until the input ends or a read fails for good. -/
def arriving : List ReadItem → ByteArray
  | [] => .empty
  | .failure e :: rest => if e.isInterrupted then arriving rest else .empty
  | .chunk bytes :: rest => if bytes.isEmpty then .empty else bytes ++ arriving rest

/-- The failure after the bytes that arrive, `none` where the input ends by itself. -/
def breakdown? : List ReadItem → Option IoError
  | [] => none
  | .failure e :: rest => if e.isInterrupted then breakdown? rest else some e
  | .chunk bytes :: rest => if bytes.isEmpty then none else breakdown? rest

/-- How the reading of a line ends when these bytes arrive and there is this room for them. -/
def endingOf (room : Nat) (bytes : ByteArray) (breakdown : Option IoError) : LineEnd :=
  match Bytes.newlineFrom? (asked room bytes) 0 with
  | some i => .line (bytes.extract 0 (i + 1))
  | none =>
    if room ≤ bytes.size then .tooLong
    else
      match breakdown with
      | some e => .failed e
      | none => .closed

/-- The same end, for a line that begins with the bytes read before. -/
def LineEnd.after (read : ByteArray) : LineEnd → LineEnd
  | .line bytes => .line (read ++ bytes)
  | other => other

@[simp] theorem LineEnd.after_empty (ending : LineEnd) : ending.after .empty = ending := by
  cases ending with
  | line bytes => simp only [after, ByteArray.empty_append]
  | tooLong => rfl
  | closed => rfl
  | failed e => rfl

@[simp] theorem LineEnd.after_after (ending : LineEnd) (a b : ByteArray) :
    (ending.after b).after a = ending.after (a ++ b) := by
  cases ending with
  | line bytes => simp only [after, ByteArray.append_assoc]
  | tooLong => rfl
  | closed => rfl
  | failed e => rfl

/-! ## 2. The end, part by part -/

theorem asked_eq_extract (room : Nat) (bytes : ByteArray) :
    asked room bytes = bytes.extract 0 room := by
  unfold asked
  split
  · rename_i h
    rw [← Nat.max_eq_left h, ByteArray.extract_zero_max_size]
  · rfl

@[simp] theorem asked_zero (bytes : ByteArray) : asked 0 bytes = .empty := by
  rw [asked_eq_extract, ByteArray.extract_same]

@[simp] theorem size_asked (room : Nat) (bytes : ByteArray) :
    (asked room bytes).size = min room bytes.size := by
  rw [asked_eq_extract, ByteArray.size_extract]
  omega

/-- A line that ends among the bytes asked for is a line of the whole chunk. -/
theorem extract_asked {room i : Nat} {bytes : ByteArray} (h : i < (asked room bytes).size) :
    (asked room bytes).extract 0 (i + 1) = bytes.extract 0 (i + 1) := by
  rw [size_asked] at h
  rw [asked_eq_extract, ByteArray.extract_extract]
  congr 1
  omega

theorem asked_append (room : Nat) (a b : ByteArray) :
    asked room (a ++ b) = asked room a ++ asked (room - a.size) b := by
  simp only [asked_eq_extract, ByteArray.extract_append, Nat.zero_sub]

/-- With no room left the line is too long, whatever arrives. -/
@[simp] theorem endingOf_zero (bytes : ByteArray) (breakdown : Option IoError) :
    endingOf 0 bytes breakdown = .tooLong := by
  simp [endingOf]

/-- A line that ends in the first part does not depend on what follows. -/
theorem endingOf_append_of_found {room i : Nat} {a : ByteArray}
    (h : Bytes.newlineFrom? (asked room a) 0 = some i) (b : ByteArray)
    (breakdown : Option IoError) :
    endingOf room (a ++ b) breakdown = .line (a.extract 0 (i + 1)) := by
  have hi : i < (asked room a).size := (Bytes.le_of_newlineFrom? h).2
  rw [size_asked] at hi
  have hb : b.extract (0 - a.size) (i + 1 - a.size) = .empty := by
    rw [Nat.zero_sub, show i + 1 - a.size = 0 by omega, ByteArray.extract_same]
  simp only [endingOf, asked_append, Bytes.newlineFrom?_append, h, Option.some_or]
  rw [ByteArray.extract_append, hb, ByteArray.append_empty]

/-- **A first part without a line feed is passed over**: it begins the line, and takes its room. -/
theorem endingOf_append_of_passed {room : Nat} {a : ByteArray}
    (h : Bytes.newlineFrom? (asked room a) 0 = none) (b : ByteArray)
    (breakdown : Option IoError) :
    endingOf room (a ++ b) breakdown = (endingOf (room - a.size) b breakdown).after a := by
  by_cases hroom : room ≤ a.size
  · have hle : room ≤ a.size + b.size := by omega
    rw [Nat.sub_eq_zero_of_le hroom, endingOf_zero]
    simp only [endingOf, asked_append, Nat.sub_eq_zero_of_le hroom, asked_zero,
      ByteArray.append_empty, h, ByteArray.size_append, if_pos hle]
    rfl
  · have hsize : (asked room a).size = a.size := by
      rw [size_asked]
      omega
    have hiff : room ≤ a.size + b.size ↔ room - a.size ≤ b.size := by omega
    simp only [endingOf, asked_append, Bytes.newlineFrom?_append, h, Option.none_or, hsize,
      ByteArray.size_append, hiff]
    cases Bytes.newlineFrom? (asked (room - a.size) b) 0 with
    | some j =>
      simp only [Option.map_some, LineEnd.after, Nat.add_assoc, Bytes.extract_zero_append]
    | none =>
      simp only [Option.map_none]
      split
      · rfl
      · cases breakdown <;> rfl

/-! ## 3. The reading, item by item -/

section Steps

variable {room : Nat} {read bytes : ByteArray} {rest : List ReadItem}

@[simp] theorem readFrom_zero (read : ByteArray) (reads : List ReadItem) :
    readFrom 0 read reads = ⟨.tooLong, read.size⟩ := by
  cases reads with
  | nil => rfl
  | cons item rest => cases item <;> rfl

theorem readFrom_failure (e : IoError) :
    readFrom (room + 1) read (.failure e :: rest)
      = if e.isInterrupted then readFrom (room + 1) read rest else ⟨.failed e, read.size⟩ := by
  rw [readFrom, if_neg (Nat.succ_ne_zero room)]

theorem readFrom_end (hempty : bytes.isEmpty = true) :
    readFrom (room + 1) read (.chunk bytes :: rest) = ⟨.closed, read.size⟩ := by
  rw [readFrom, if_neg (Nat.succ_ne_zero room), if_pos hempty]

theorem readFrom_found {i : Nat} (hempty : bytes.isEmpty = false)
    (hfound : Bytes.newlineFrom? (asked (room + 1) bytes) 0 = some i) :
    readFrom (room + 1) read (.chunk bytes :: rest)
      = ⟨.line (read ++ bytes.extract 0 (i + 1)), read.size + min (room + 1) bytes.size⟩ := by
  rw [readFrom, if_neg (Nat.succ_ne_zero room), hempty, if_neg Bool.false_ne_true]
  simp only [hfound, size_asked, extract_asked (Bytes.le_of_newlineFrom? hfound).2]

theorem readFrom_passed (hempty : bytes.isEmpty = false)
    (hnone : Bytes.newlineFrom? (asked (room + 1) bytes) 0 = none) :
    readFrom (room + 1) read (.chunk bytes :: rest)
      = readFrom (room + 1 - bytes.size) (read ++ asked (room + 1) bytes) rest := by
  have hroom : room + 1 - (asked (room + 1) bytes).size = room + 1 - bytes.size := by
    rw [size_asked]
    omega
  rw [readFrom, if_neg (Nat.succ_ne_zero room), hempty, if_neg Bool.false_ne_true]
  simp only [hnone, hroom]

end Steps

/-! ## 4. The whole reading -/

/-- With room left, nothing arrives only where the input ends or fails. -/
@[simp] theorem endingOf_empty (room : Nat) (breakdown : Option IoError) :
    endingOf (room + 1) .empty breakdown
      = match breakdown with
        | some e => .failed e
        | none => .closed := by
  have hasked : asked (room + 1) .empty = .empty := if_pos (Nat.zero_le _)
  simp [endingOf, hasked]

/-- **The reading ends as the bytes that arrive and the failure after them say.** -/
theorem readFrom_ending : ∀ (reads : List ReadItem) (room : Nat) (read : ByteArray),
    (readFrom room read reads).ending
      = (endingOf room (arriving reads) (breakdown? reads)).after read
  | reads, 0, read => by simp [LineEnd.after]
  | [], room + 1, read => by simp [readFrom, arriving, breakdown?, LineEnd.after]
  | .failure e :: rest, room + 1, read => by
    rw [readFrom_failure, arriving, breakdown?]
    cases e.isInterrupted with
    | true => exact readFrom_ending rest (room + 1) read
    | false => simp [LineEnd.after]
  | .chunk bytes :: rest, room + 1, read => by
    rw [arriving, breakdown?]
    cases hempty : bytes.isEmpty with
    | true =>
      simp [readFrom_end hempty, LineEnd.after]
    | false =>
      rw [if_neg Bool.false_ne_true, if_neg Bool.false_ne_true]
      cases hfound : Bytes.newlineFrom? (asked (room + 1) bytes) 0 with
      | some i =>
        rw [readFrom_found hempty hfound, endingOf_append_of_found hfound]
        rfl
      | none =>
        rw [readFrom_passed hempty hfound, endingOf_append_of_passed hfound, LineEnd.after_after,
          readFrom_ending rest]
        by_cases hfits : bytes.size ≤ room + 1
        · rw [asked, if_pos hfits]
        · -- the chunk fills the room, so the reading ends whatever else arrives
          have hfull : room + 1 - bytes.size = 0 := by omega
          simp [hfull, LineEnd.after]

/-- **No more is taken than there is room for.** -/
theorem readFrom_taken_le : ∀ (reads : List ReadItem) (room : Nat) (read : ByteArray),
    (readFrom room read reads).taken ≤ read.size + room
  | reads, 0, read => by simp
  | [], room + 1, read => Nat.le_add_right _ _
  | .failure e :: rest, room + 1, read => by
    rw [readFrom_failure]
    split
    · exact readFrom_taken_le rest (room + 1) read
    · exact Nat.le_add_right _ _
  | .chunk bytes :: rest, room + 1, read => by
    cases hempty : bytes.isEmpty with
    | true =>
      rw [readFrom_end hempty]
      exact Nat.le_add_right _ _
    | false =>
      cases hfound : Bytes.newlineFrom? (asked (room + 1) bytes) 0 with
      | some i =>
        rw [readFrom_found hempty hfound]
        exact Nat.add_le_add_left (Nat.min_le_left _ _) _
      | none =>
        rw [readFrom_passed hempty hfound]
        have h := readFrom_taken_le rest (room + 1 - bytes.size) (read ++ asked (room + 1) bytes)
        rw [ByteArray.size_append, size_asked] at h
        omega

/-- **What follows the item with the first line feed is not looked at.** -/
theorem readFrom_append (later : List ReadItem) :
    ∀ (reads : List ReadItem) (room : Nat) (read : ByteArray),
      Bytes.newline ∈ (arriving reads).data.toList →
        readFrom room read (reads ++ later) = readFrom room read reads
  | reads, 0, read, _ => by simp
  | [], room + 1, read, h => absurd h List.not_mem_nil
  | .failure e :: rest, room + 1, read, h => by
    rw [arriving] at h
    rw [List.cons_append, readFrom_failure, readFrom_failure]
    cases he : e.isInterrupted with
    | true =>
      rw [he, if_pos rfl] at h
      exact readFrom_append later rest (room + 1) read h
    | false => rfl
  | .chunk bytes :: rest, room + 1, read, h => by
    rw [arriving] at h
    rw [List.cons_append]
    cases hempty : bytes.isEmpty with
    | true => rw [readFrom_end hempty, readFrom_end hempty]
    | false =>
      rw [hempty, if_neg Bool.false_ne_true, ByteArray.toList_data_append, List.mem_append] at h
      cases hfound : Bytes.newlineFrom? (asked (room + 1) bytes) 0 with
      | some i => rw [readFrom_found hempty hfound, readFrom_found hempty hfound]
      | none =>
        rw [readFrom_passed hempty hfound, readFrom_passed hempty hfound]
        rcases h with hhere | hlater
        · -- the line feed of this chunk stands past the room, which the chunk fills
          have hfills : ¬ bytes.size ≤ room + 1 := by
            intro hfits
            rw [asked, if_pos hfits, Bytes.newlineFrom?_eq_none_iff] at hfound
            exact hfound hhere
          have hfull : room + 1 - bytes.size = 0 := by omega
          simp [hfull]
        · exact readFrom_append later rest _ _ hlater

/-! ## 5. The end, by the place of the first line feed -/

theorem getElem_asked {room j : Nat} {bytes : ByteArray} (h : j < (asked room bytes).size)
    (hj : j < bytes.size) : (asked room bytes)[j] = bytes[j] := by
  simp only [asked_eq_extract, ByteArray.getElem_extract, Nat.zero_add]

/-- A line feed with room for it ends the line. -/
theorem endingOf_eq_line {room i : Nat} {bytes : ByteArray} (hi : i < bytes.size) (hroom : i < room)
    (hat : bytes[i] = Bytes.newline) (hfirst : ∀ j (hj : j < i), bytes[j] ≠ Bytes.newline)
    (breakdown : Option IoError) :
    endingOf room bytes breakdown = .line (bytes.extract 0 (i + 1)) := by
  have hasked : i < (asked room bytes).size := by
    rw [size_asked]
    omega
  have hfound : Bytes.newlineFrom? (asked room bytes) 0 = some i := by
    rw [Bytes.newlineFrom?_eq_some_iff]
    refine ⟨hasked, ?_, fun j hj hji => ?_⟩
    · rw [getElem_asked hasked hi]
      exact hat
    · rw [getElem_asked hj (Nat.lt_trans hji hi)]
      exact hfirst j hji
  simp only [endingOf, hfound]

theorem newlineFrom?_asked_eq_none {room : Nat} {bytes : ByteArray}
    (hnone : ∀ j (hj : j < bytes.size), j < room → bytes[j] ≠ Bytes.newline) :
    Bytes.newlineFrom? (asked room bytes) 0 = none := by
  rw [Bytes.newlineFrom?_eq_none_iff, Bytes.mem_toList_iff]
  intro h
  obtain ⟨j, hj, hat⟩ := h
  have hmin := hj
  rw [size_asked] at hmin
  have hbytes : j < bytes.size := by omega
  rw [getElem_asked hj hbytes] at hat
  exact hnone j hbytes (by omega) hat

/-- Bytes that fill the room without a line feed are too long a line. -/
theorem endingOf_eq_tooLong {room : Nat} {bytes : ByteArray} (hroom : room ≤ bytes.size)
    (hnone : ∀ j (hj : j < bytes.size), j < room → bytes[j] ≠ Bytes.newline)
    (breakdown : Option IoError) : endingOf room bytes breakdown = .tooLong := by
  simp only [endingOf, newlineFrom?_asked_eq_none hnone, if_pos hroom]

/-- Bytes that leave room and hold no line feed are a line that breaks off. -/
theorem endingOf_eq_brokenOff {room : Nat} {bytes : ByteArray} (hroom : bytes.size < room)
    (hnone : ∀ j (hj : j < bytes.size), bytes[j] ≠ Bytes.newline) (breakdown : Option IoError) :
    endingOf room bytes breakdown
      = match breakdown with
        | some e => .failed e
        | none => .closed := by
  have hasked : Bytes.newlineFrom? (asked room bytes) 0 = none :=
    newlineFrom?_asked_eq_none fun j hj _ => hnone j hj
  simp only [endingOf, hasked, if_neg (Nat.not_le_of_lt hroom)]

end StoreLink.Stream

namespace StoreLink.Exchange

/-! ## 6. The answer -/

section Answer

variable {stream : Stream} {request : RequestLine}

/-- Once the request is out, the rest of an exchange is the reading of a line. -/
theorem through_of_sent (hsent : (Stream.writeAll request.bytes stream.writes).failure = none)
    (hflushed : stream.flushFailure = none) :
    through stream request
      = { answer := answerOf (Stream.readLine maxResponseLine stream.reads).ending
          written := (Stream.writeAll request.bytes stream.writes).taken
          flushes := 1
          taken := (Stream.readLine maxResponseLine stream.reads).taken } := by
  simp only [through, hsent, hflushed]

/-- **The answer is a function of the bytes that arrive and of the failure after them.** -/
theorem answer_of_sent (hsent : (Stream.writeAll request.bytes stream.writes).failure = none)
    (hflushed : stream.flushFailure = none) :
    (through stream request).answer
      = answerOf (Stream.endingOf maxResponseLine (Stream.arriving stream.reads)
          (Stream.breakdown? stream.reads)) := by
  rw [through_of_sent hsent hflushed]
  show answerOf (Stream.readFrom maxResponseLine .empty stream.reads).ending = _
  rw [Stream.readFrom_ending, Stream.LineEnd.after_empty]

end Answer

/-- **A reply is framed by the bytes that arrive, not by how they arrive.** The answer is read off
    the bytes up to the first line feed; a line that fills the limit, or breaks off, is a failure;
    what follows the line is not looked at, and the limit is never passed. -/
theorem reply_framed_by_arriving_bytes (stream : Stream) (request : RequestLine)
    (hsent : (Stream.writeAll request.bytes stream.writes).failure = none)
    (hflushed : stream.flushFailure = none) :
    let traffic := through stream request
    let bytes := Stream.arriving stream.reads
    maxResponseLine = 67108864 ∧
    (∀ i (hi : i < bytes.size), i < maxResponseLine → bytes[i] = Bytes.newline →
      (∀ j (hj : j < i), bytes[j] ≠ Bytes.newline) →
        traffic.answer = Reply.decode (Text.lossy (bytes.extract 0 (i + 1)))) ∧
    (maxResponseLine ≤ bytes.size →
      (∀ j (hj : j < bytes.size), j < maxResponseLine → bytes[j] ≠ Bytes.newline) →
        traffic.answer = .error (.io lineTooLong) ∧ lineTooLong.kind = .invalidData) ∧
    (bytes.size < maxResponseLine → (∀ j (hj : j < bytes.size), bytes[j] ≠ Bytes.newline) →
      match Stream.breakdown? stream.reads with
      | some e => traffic.answer = .error (.io e)
      | none => traffic.answer = .error (.io lineCutShort) ∧ lineCutShort.kind = .unexpectedEnd) ∧
    (∀ front item later later', stream.reads = front ++ item :: later →
      Bytes.newline ∈ (Stream.arriving (front ++ [item])).data.toList →
        through { stream with reads := front ++ item :: later' } request = traffic) ∧
    (∀ (stream' : Stream) (request' : RequestLine),
      (Stream.writeAll request'.bytes stream'.writes).failure = none →
      stream'.flushFailure = none → Stream.arriving stream'.reads = bytes →
      Stream.breakdown? stream'.reads = Stream.breakdown? stream.reads →
        (through stream' request').answer = traffic.answer) ∧
    traffic.taken ≤ maxResponseLine := by
  intro traffic bytes
  have hanswer := answer_of_sent hsent hflushed
  refine ⟨rfl, ?_, ?_, ?_, ?_, ?_, ?_⟩
  · intro i hi hroom hat hfirst
    exact hanswer.trans (congrArg answerOf (Stream.endingOf_eq_line hi hroom hat hfirst _))
  · intro hroom hnone
    exact ⟨hanswer.trans (congrArg answerOf (Stream.endingOf_eq_tooLong hroom hnone _)), rfl⟩
  · intro hroom hnone
    have hended := hanswer.trans (congrArg answerOf (Stream.endingOf_eq_brokenOff hroom hnone _))
    cases hdown : Stream.breakdown? stream.reads with
    | some e =>
      rw [hdown] at hended
      exact hended
    | none =>
      rw [hdown] at hended
      exact ⟨hended, rfl⟩
  · intro front item later later' hreads hline
    have hread : Stream.readLine maxResponseLine (front ++ item :: later')
        = Stream.readLine maxResponseLine stream.reads := by
      rw [hreads, ← List.singleton_append, ← List.append_assoc, Stream.readLine,
        Stream.readFrom_append later' _ _ _ hline, ← List.singleton_append (l := later),
        ← List.append_assoc, Stream.readLine, Stream.readFrom_append later _ _ _ hline]
    have hother : through { stream with reads := front ++ item :: later' } request = _ :=
      through_of_sent hsent hflushed
    rw [hother, hread]
    exact (through_of_sent hsent hflushed).symm
  · intro stream' request' hsent' hflushed' hbytes hdown
    rw [answer_of_sent hsent' hflushed', hbytes, hdown]
    exact hanswer.symm
  · show (through stream request).taken ≤ maxResponseLine
    rw [through_of_sent hsent hflushed]
    have htaken := Stream.readFrom_taken_le stream.reads maxResponseLine .empty
    rw [ByteArray.size_empty, Nat.zero_add] at htaken
    exact htaken

/-- A request that goes out in two writes, and a reply that comes interrupted and in two pieces,
    with more behind it. -/
def brokenUp : Stream where
  reads := [.chunk "O".toUTF8, .failure (.ofKind .interrupted), .chunk "K\nmore".toUTF8,
    .failure (.ofKind .connectionReset)]
  writes := [.accept 2, .failure (.ofKind .interrupted)]

theorem reply_framed_brokenUp :
    (Stream.writeAll (RequestLine.ofCommand .usage).bytes brokenUp.writes).failure = none ∧
    brokenUp.flushFailure = none ∧
    (through brokenUp (RequestLine.ofCommand .usage)).answer
      = Reply.decode (Text.lossy "OK\n".toUTF8) := by
  have hsent :
      (Stream.writeAll (RequestLine.ofCommand .usage).bytes brokenUp.writes).failure = none := by
    decide
  obtain ⟨-, hline, -⟩ :=
    reply_framed_by_arriving_bytes brokenUp (RequestLine.ofCommand .usage) hsent rfl
  refine ⟨hsent, rfl, hline 2 (by decide) (by decide) (by decide) fun j hj => ?_⟩
  match j, hj with
  | 0, _ => decide +revert
  | 1, _ => decide +revert

end StoreLink.Exchange
