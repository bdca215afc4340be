import StoreLink.Proofs.ReplyFraming
import StoreLink.Proofs.RequestFraming
import StoreLink.Proofs.RequestWriting

/-!
# One line each way

What a stream takes when an exchange succeeds is the line of the request, and a line that it brings
in any pieces is the reply, unless it is too long.

* `written_of_answer`: an exchange with a reply has written its request whole;
* `endingOf_wholeLine`, `wholeLine_of_endingOf`: what is read is a whole line that arrives first,
  and `endingOf_overlong`: one that there is no room for is not read;
* `Brings`: the stream brings these bytes as a line; `ending_of_brings` says that they are read,
  `answer_of_brings` what the answer is, and `brings_or_fails` that there is no answer without;
* `Delivers`: the same of a text, with `ending_of_delivers` and `answer_of_delivers`.
-/

namespace StoreLink.Exchange

/-! ## 1. The request goes out -/

section Lines

variable {stream : Stream} {request : RequestLine} {line : String}

/-- **An exchange that brought a reply has written its request**, whole and nothing else. -/
theorem written_of_answer {reply : Reply} (h : (through stream request).answer = .ok reply) :
    (through stream request).written = request.bytes := by
  cases hsent : (Stream.writeAll request.bytes stream.writes).failure with
  | some e =>
    simp only [through, hsent] at h
    cases h
  | none =>
    cases hflushed : stream.flushFailure with
    | some e =>
      simp only [through, hsent, hflushed] at h
      cases h
    | none =>
      rw [through_of_sent hsent hflushed]
      exact Stream.taken_of_sent hsent

/-! ## 2. Whole lines -/

/-- The bytes are one line: a line feed ends them, and there is no other. -/
def WholeLine (line : ByteArray) : Prop :=
  ∃ front, line.data.toList = front ++ [Bytes.newline] ∧ Bytes.newline ∉ front

/-- A text without line feeds is a line when one is put behind it. -/
theorem wholeLine_toUTF8 (h : '\n' ∉ line.toList) : WholeLine (line ++ "\n").toUTF8 := by
  have hfeed : "\n".toByteArray.data.toList = [Bytes.newline] := rfl
  refine ⟨line.toUTF8.data.toList, ?_, mt Bytes.newline_mem_toUTF8.mp h⟩
  simp [hfeed]

/-- **A line is read as the first one**, whatever arrives behind it. -/
theorem endingOf_wholeLine {room : Nat} {bytes : ByteArray} (hline : WholeLine bytes)
    (hroom : bytes.size ≤ room) (more : ByteArray) (breakdown : Option IoError) :
    Stream.endingOf room (bytes ++ more) breakdown = .line bytes := by
  obtain ⟨front, hbytes, hfront⟩ := hline
  have hsize : front.length + 1 = bytes.size := by
    rw [← Bytes.length_toList, hbytes, List.length_append, List.length_singleton]
  have hnone : front.findIdx? (· == Bytes.newline) = none := by
    rw [List.findIdx?_eq_none_iff]
    intro x hx
    exact beq_eq_false_iff_ne.mpr fun heq => hfront (heq ▸ hx)
  have hfound : Bytes.newlineFrom? (Stream.asked room bytes) 0 = some front.length := by
    rw [Stream.asked, if_pos hroom, Bytes.newlineFrom?_zero, hbytes, List.findIdx?_append, hnone]
    simp [List.findIdx?_cons]
  rw [Stream.endingOf_append_of_found hfound, hsize, ByteArray.extract_zero_size]

/-- **A line with no room for it is too long**, whatever arrives behind it. -/
theorem endingOf_overlong {room : Nat} {bytes : ByteArray} (hline : WholeLine bytes)
    (hroom : room < bytes.size) (more : ByteArray) (breakdown : Option IoError) :
    Stream.endingOf room (bytes ++ more) breakdown = .tooLong := by
  obtain ⟨front, hbytes, hfront⟩ := hline
  have hsize : front.length + 1 = bytes.size := by
    rw [← Bytes.length_toList, hbytes, List.length_append, List.length_singleton]
  -- what there is room for ends before the line feed does
  have hnone : Bytes.newlineFrom? (Stream.asked room (bytes ++ more)) 0 = none := by
    rw [Bytes.newlineFrom?_eq_none_iff, Stream.asked_eq_extract, Bytes.toList_extract,
      List.drop_zero, Nat.sub_zero, ByteArray.toList_data_append, hbytes, List.append_assoc,
      List.take_append_of_le_length (by omega)]
    exact fun h => hfront (List.mem_of_mem_take h)
  have hfull : room ≤ (bytes ++ more).size := by
    rw [ByteArray.size_append]
    omega
  simp only [Stream.endingOf, hnone, if_pos hfull]

/-- **What is read as a line has arrived as one**, with room for it. -/
theorem wholeLine_of_endingOf {room : Nat} {bytes read : ByteArray} {breakdown : Option IoError}
    (h : Stream.endingOf room bytes breakdown = .line read) :
    WholeLine read ∧ read.size ≤ room ∧ ∃ more, bytes = read ++ more := by
  cases hfound : Bytes.newlineFrom? (Stream.asked room bytes) 0 with
  | none =>
    simp only [Stream.endingOf, hfound] at h
    split at h
    · cases h
    · split at h <;> cases h
  | some i =>
    simp only [Stream.endingOf, hfound, Stream.LineEnd.line.injEq] at h
    subst h
    have hi := (Bytes.le_of_newlineFrom? hfound).2
    have hsize := Stream.size_asked room bytes
    obtain ⟨hfront, hsplit⟩ := Bytes.newlineFrom?_split hfound
    have hlength : ((Stream.asked room bytes).extract 0 i).data.toList.length = i := by
      rw [Bytes.length_toList, ByteArray.size_extract]
      omega
    refine ⟨⟨_, ?_, hfront⟩, ?_, bytes.extract (i + 1) bytes.size, ?_⟩
    · rw [← Stream.extract_asked hi, Bytes.toList_extract, Nat.sub_zero, hsplit,
        List.take_append, hlength, List.take_of_length_le (by omega)]
      simp
    · rw [ByteArray.size_extract]
      omega
    · rw [ByteArray.extract_append_extract, Nat.zero_min, Nat.max_eq_right (by omega),
        ByteArray.extract_zero_size]

/-! ## 3. The reply comes in -/

/-- The stream takes the request, and the bytes that arrive start with this line, which is one line
    and not too long. -/
structure Brings (stream : Stream) (request : RequestLine) (bytes : ByteArray) : Prop where
  sent : (Stream.writeAll request.bytes stream.writes).failure = none
  flushed : stream.flushFailure = none
  whole : WholeLine bytes
  fits : bytes.size ≤ maxResponseLine
  arrives : ∃ more, Stream.arriving stream.reads = bytes ++ more

/-- **A line that is brought is read**, however it is cut. -/
theorem ending_of_brings {bytes : ByteArray} (h : Brings stream request bytes) :
    (Stream.readLine maxResponseLine stream.reads).ending = .line bytes := by
  obtain ⟨more, harrives⟩ := h.arrives
  rw [Stream.readLine, Stream.readFrom_ending, Stream.LineEnd.after_empty, harrives,
    endingOf_wholeLine h.whole h.fits]

/-- The answer is what the line says. -/
theorem answer_of_brings {bytes : ByteArray} (h : Brings stream request bytes) :
    (through stream request).answer = Reply.decode (Text.lossy bytes) := by
  rw [through_of_sent h.sent h.flushed, ending_of_brings h, answerOf]

/-- **An exchange brings a line, or fails**: while writing, flushing or reading. -/
theorem brings_or_fails (stream : Stream) (request : RequestLine) :
    (∃ bytes, Brings stream request bytes) ∨
      ∃ e, (through stream request).answer = .error (.io e) := by
  cases hsent : (Stream.writeAll request.bytes stream.writes).failure with
  | some e => exact .inr ⟨e, by simp only [through, hsent]⟩
  | none =>
    cases hflushed : stream.flushFailure with
    | some e => exact .inr ⟨e, by simp only [through, hsent, hflushed]⟩
    | none =>
      have hanswer := answer_of_sent hsent hflushed
      cases hending : Stream.endingOf maxResponseLine (Stream.arriving stream.reads)
          (Stream.breakdown? stream.reads) with
      | line bytes =>
        obtain ⟨hwhole, hfits, harrives⟩ := wholeLine_of_endingOf hending
        exact .inl ⟨bytes, hsent, hflushed, hwhole, hfits, harrives⟩
      | tooLong => exact .inr ⟨_, by rw [hanswer, hending]; rfl⟩
      | closed => exact .inr ⟨_, by rw [hanswer, hending]; rfl⟩
      | failed e => exact .inr ⟨_, by rw [hanswer, hending]; rfl⟩

/-- The stream takes the request, and the bytes that arrive start with this line and a line feed. -/
structure Delivers (stream : Stream) (request : RequestLine) (line : String) : Prop where
  sent : (Stream.writeAll request.bytes stream.writes).failure = none
  flushed : stream.flushFailure = none
  arrives : ∃ more, Stream.arriving stream.reads = (line ++ "\n").toUTF8 ++ more

/-- A text is brought as its bytes, when no line feed stands in it. -/
theorem Delivers.brings (h : Delivers stream request line) (hline : '\n' ∉ line.toList)
    (hroom : (line ++ "\n").toUTF8.size ≤ maxResponseLine) :
    Brings stream request (line ++ "\n").toUTF8 where
  sent := h.sent
  flushed := h.flushed
  whole := wholeLine_toUTF8 hline
  fits := hroom
  arrives := h.arrives

/-- **A line that is delivered is read**, however it is cut. -/
theorem ending_of_delivers (h : Delivers stream request line) (hline : '\n' ∉ line.toList)
    (hroom : (line ++ "\n").toUTF8.size ≤ maxResponseLine) :
    (Stream.readLine maxResponseLine stream.reads).ending = .line (line ++ "\n").toUTF8 :=
  ending_of_brings (h.brings hline hroom)

/-- The reply is what the line says. -/
theorem answer_of_delivers (h : Delivers stream request line) (hline : '\n' ∉ line.toList)
    (hroom : (line ++ "\n").toUTF8.size ≤ maxResponseLine) :
    (through stream request).answer = Reply.decode (line ++ "\n") := by
  rw [answer_of_brings (h.brings hline hroom), Text.lossy_toUTF8]

end Lines

end StoreLink.Exchange
