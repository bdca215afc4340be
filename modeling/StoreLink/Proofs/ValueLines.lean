import StoreLink.Proofs.Delivery
import StoreLink.Proofs.ReplyGrammar

/-!
# How long a value may be

A value comes on one line, in base64, and the line has a limit. So there is a longest value: it is
received, however its line is cut, and one with a byte more is not.

* `Reply.size_valueLine`: how long the line of a value is;
* `Exchange.wholeLine_valueLine`: it is one line, whether a line feed ends it or a carriage return
  and a line feed;
* `Exchange.valueLine_fits_iff`: it fits for values of at most 50331642 bytes;
* **`Exchange.values_up_to_limit`**: these are received, and all others are refused.
-/

namespace StoreLink

/-! ## 1. The line of a value -/

namespace Reply

theorem size_valueLine (bytes : ByteArray) (ends : String) :
    ("VALUE " ++ Base64.encode bytes ++ ends).toUTF8.size
      = 6 + 4 * ((bytes.size + 2) / 3) + ends.toUTF8.size := by
  have hword : "VALUE ".utf8ByteSize = 6 := rfl
  simp [hword]

theorem newline_not_mem_valueLine (bytes : ByteArray) :
    '\n' ∉ ("VALUE " ++ Base64.encode bytes).toList := by
  have hword : RequestLine.OneLine "VALUE " := by decide
  have hone : RequestLine.OneLine ("VALUE " ++ Base64.encode bytes) := by simp [hword]
  exact hone.newline_not_mem

end Reply

namespace Exchange

/-- The ends that a line of the store may have. -/
def LineEnding (ends : String) : Prop :=
  ends = "\n" ∨ ends = "\r\n"

section Lines

variable {stream : Stream} {request : RequestLine} {value : ByteArray} {ends : String}

theorem lineEnds_of_lineEnding (h : LineEnding ends) : Text.LineEnds ends := by
  cases h with
  | inl hends => exact hends ▸ by decide
  | inr hends => exact hends ▸ by decide

/-- With either end, the line of a value is one line. -/
theorem wholeLine_valueLine (bytes : ByteArray) (hends : LineEnding ends) :
    WholeLine ("VALUE " ++ Base64.encode bytes ++ ends).toUTF8 := by
  have hline := Reply.newline_not_mem_valueLine bytes
  rcases hends with rfl | rfl
  · exact wholeLine_toUTF8 hline
  · have hreturn : '\n' ∉ ("VALUE " ++ Base64.encode bytes ++ "\r").toList := by
      simpa using hline
    have hends : "\r\n" = "\r" ++ "\n" := rfl
    rw [hends, ← String.append_assoc]
    exact wholeLine_toUTF8 hreturn

/-- Around the base64 there are seven bytes more, or eight. -/
theorem size_valueLine_lineEnding (value : ByteArray) (hends : LineEnding ends) :
    ("VALUE " ++ Base64.encode value ++ ends).toUTF8.size
      = 4 * ((value.size + 2) / 3) + (if ends = "\n" then 7 else 8) := by
  rw [Reply.size_valueLine]
  cases hends with
  | inl hends =>
    have hend : "\n".toUTF8.size = 1 := rfl
    rw [if_pos hends, hends, hend]
    omega
  | inr hends =>
    have hend : "\r\n".toUTF8.size = 2 := rfl
    rw [if_neg (hends ▸ by decide), hends, hend]
    omega

/-- **The line of a value fits up to 50331642 bytes.** One byte more makes four more of base64, and
    then neither end fits; below, both do. -/
theorem valueLine_fits_iff (hends : LineEnding ends) :
    ("VALUE " ++ Base64.encode value ++ ends).toUTF8.size ≤ maxResponseLine ↔
      value.size ≤ 50331642 := by
  rw [size_valueLine_lineEnding value hends]
  unfold maxResponseLine
  split <;> omega

/-! ## 2. The longest value -/

/-- A value whose line fits is received. -/
theorem answer_of_fitting (hsent : (Stream.writeAll request.bytes stream.writes).failure = none)
    (hflushed : stream.flushFailure = none) (hends : LineEnding ends)
    (harrives : ∃ more, Stream.arriving stream.reads
      = ("VALUE " ++ Base64.encode value ++ ends).toUTF8 ++ more)
    (hsize : value.size ≤ 50331642) :
    (through stream request).answer = .ok (.value value) := by
  have hbrings : Brings stream request ("VALUE " ++ Base64.encode value ++ ends).toUTF8 :=
    { sent := hsent
      flushed := hflushed
      whole := wholeLine_valueLine value hends
      fits := (valueLine_fits_iff hends).mpr hsize
      arrives := harrives }
  rw [answer_of_brings hbrings, Text.lossy_toUTF8]
  exact Reply.decode_encode value (lineEnds_of_lineEnding hends)

/-- A value whose line does not fit is refused, once the limit is read. -/
theorem answer_of_oversized (hsent : (Stream.writeAll request.bytes stream.writes).failure = none)
    (hflushed : stream.flushFailure = none) (hends : LineEnding ends)
    (harrives : ∃ more, Stream.arriving stream.reads
      = ("VALUE " ++ Base64.encode value ++ ends).toUTF8 ++ more)
    (hsize : 50331642 < value.size) :
    (through stream request).answer = .error (.io lineTooLong) := by
  obtain ⟨more, harrives⟩ := harrives
  have hroom : maxResponseLine < ("VALUE " ++ Base64.encode value ++ ends).toUTF8.size := by
    rw [← Nat.not_le, valueLine_fits_iff hends, Nat.not_le]
    exact hsize
  rw [answer_of_sent hsent hflushed, harrives,
    endingOf_overlong (wholeLine_valueLine value hends) hroom, answerOf]

/-- **The longest value has 50331642 bytes.** Let a stream take the request, and let what arrives
    start with the line of a value, in any pieces and with either end. A value of at most so many
    bytes is the answer; for a longer one the exchange fails, since its line is longer than the
    64 MiB that are read. For base64 has four bytes for every three of the value, the last of which
    may be missing, and around it the line has seven or eight more. -/
theorem values_up_to_limit (stream : Stream) (request : RequestLine) (value : ByteArray)
    (ends : String) (hsent : (Stream.writeAll request.bytes stream.writes).failure = none)
    (hflushed : stream.flushFailure = none) (hends : ends = "\n" ∨ ends = "\r\n")
    (harrives : ∃ more, Stream.arriving stream.reads
      = ("VALUE " ++ Base64.encode value ++ ends).toUTF8 ++ more) :
    (value.size ≤ 50331642 → (through stream request).answer = .ok (.value value)) ∧
      (50331642 < value.size → (through stream request).answer = .error (.io lineTooLong) ∧
        lineTooLong.kind = .invalidData) ∧
      (Base64.encode value).toUTF8.size = 4 * ((value.size + 2) / 3) ∧
      ("VALUE " ++ Base64.encode value ++ ends).toUTF8.size
        = 4 * ((value.size + 2) / 3) + (if ends = "\n" then 7 else 8) := by
  refine ⟨answer_of_fitting hsent hflushed hends harrives, ?_, Base64.utf8ByteSize_encode value,
    size_valueLine_lineEnding value hends⟩
  intro hsize
  exact ⟨answer_of_oversized hsent hflushed hends harrives hsize, rfl⟩

/-- A stream that brings a value in two pieces, interrupted in between. -/
def bringing (value : ByteArray) : Stream where
  reads := [.chunk "VALUE ".toUTF8, .failure (.ofKind .interrupted),
    .chunk (Base64.encode value ++ "\n").toUTF8]

theorem arriving_bringing (value : ByteArray) :
    Stream.arriving (bringing value).reads
      = ("VALUE " ++ Base64.encode value ++ "\n").toUTF8 ++ .empty := by
  have hempty : (Base64.encode value ++ "\n").toUTF8.isEmpty = false := by
    simp [ByteArray.isEmpty]
  have hlast : Stream.arriving [.chunk (Base64.encode value ++ "\n").toUTF8]
      = (Base64.encode value ++ "\n").toUTF8 ++ .empty := by
    rw [Stream.arriving, hempty, if_neg Bool.false_ne_true, Stream.arriving]
  have hpieces : Stream.arriving (bringing value).reads
      = "VALUE ".toUTF8 ++ Stream.arriving [.chunk (Base64.encode value ++ "\n").toUTF8] := rfl
  rw [hpieces, hlast]
  simp [ByteArray.append_assoc]

/-- As many zeros as are received, and one more. -/
theorem values_up_to_limit_zeros :
    (through (bringing ⟨Array.replicate 50331642 0⟩) (.terminated "GET k")).answer
        = .ok (.value ⟨Array.replicate 50331642 0⟩) ∧
      (through (bringing ⟨Array.replicate 50331643 0⟩) (.terminated "GET k")).answer
        = .error (.io lineTooLong) := by
  have hreceived : (ByteArray.mk (Array.replicate 50331642 0)).size ≤ 50331642 := by
    simp [ByteArray.size]
  have hrefused : 50331642 < (ByteArray.mk (Array.replicate 50331643 0)).size := by
    simp [ByteArray.size]
  exact ⟨(values_up_to_limit (bringing _) (.terminated "GET k") _ "\n" rfl rfl (.inl rfl)
      ⟨_, arriving_bringing _⟩).1 hreceived,
    ((values_up_to_limit (bringing _) (.terminated "GET k") _ "\n" rfl rfl (.inl rfl)
      ⟨_, arriving_bringing _⟩).2.1 hrefused).1⟩

end Lines

end Exchange
end StoreLink
