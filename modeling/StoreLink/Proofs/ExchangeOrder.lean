import StoreLink.Proofs.Delivery
import StoreLink.Proofs.ReplyGrammar

/-!
# The order of an exchange

An exchange writes its request, flushes once and reads a line, and each of these waits for the one
before it. Where it stops, nothing of what comes after shows in the result.

* `through_of_halts`: the writing ends early, so there is no flush and nothing is read;
* `through_of_unflushed`: the flush fails, so nothing is read;
* `through_eq_of_letsThrough`: writes that let the request through are all alike;
* `error_of_through`: an exchange fails with the stream, or on a line that it has read;
* `request_goes_out_first`: all of it, for any stream.
-/

namespace StoreLink.Exchange

section Order

variable {stream : Stream} {request : RequestLine} {n : Nat} {e : IoError}

/-- **Writes that halt end the exchange** before the flush. -/
theorem through_of_halts (h : Stream.Halts stream.writes request.bytes.size n e) :
    through stream request
      = { answer := .error (.io e), written := request.bytes.extract 0 n, flushes := 0,
          taken := 0 } := by
  simp only [through, Stream.writeAll_of_halts h]

/-- **A flush that fails ends the exchange** before the first read, whatever the failure is. -/
theorem through_of_unflushed
    (hsent : (Stream.writeAll request.bytes stream.writes).failure = none)
    (hflush : stream.flushFailure = some e) :
    through stream request
      = { answer := .error (.io e), written := request.bytes, flushes := 1, taken := 0 } := by
  simp only [through, hsent, hflush, Stream.taken_of_sent hsent]

theorem flushes_of_sent (hsent : (Stream.writeAll request.bytes stream.writes).failure = none) :
    (through stream request).flushes = 1 ∧ (through stream request).written = request.bytes := by
  cases hflush : stream.flushFailure with
  | some e =>
    rw [through_of_unflushed hsent hflush]
    exact ⟨rfl, rfl⟩
  | none =>
    rw [through_of_sent hsent hflush]
    exact ⟨rfl, Stream.taken_of_sent hsent⟩

/-- What the stream has taken is a first part of the request. -/
theorem written_prefix (stream : Stream) (request : RequestLine) :
    ∃ left, request.bytes = (through stream request).written ++ left := by
  rcases Stream.letsThrough_or_halts stream.writes request.bytes.size with hthrough | ⟨n, e, hhalts⟩
  · refine ⟨.empty, ?_⟩
    rw [(flushes_of_sent (Stream.writeAll_sent_iff.mpr hthrough)).2, ByteArray.append_empty]
  · refine ⟨request.bytes.extract n request.bytes.size, ?_⟩
    rw [through_of_halts hhalts, Bytes.extract_append_rest]

/-- **The stream has taken all of the request exactly when no write failed.** -/
theorem written_eq_iff : (through stream request).written = request.bytes ↔
    (Stream.writeAll request.bytes stream.writes).failure = none := by
  constructor
  · intro hall
    rw [Stream.writeAll_sent_iff]
    refine (Stream.letsThrough_or_halts _ _).resolve_right fun hhalts => ?_
    obtain ⟨n, e, hhalts⟩ := hhalts
    -- writes that halt leave something
    have hsize := congrArg ByteArray.size hall
    rw [through_of_halts hhalts, ByteArray.size_extract] at hsize
    have hshort := hhalts.short
    omega
  · intro hsent
    exact (flushes_of_sent hsent).2

/-- **How a request is cut into writes does not show**, when all of it goes through. -/
theorem through_eq_of_letsThrough {writes writes' : List WriteItem}
    (h : Stream.LetsThrough writes request.bytes.size)
    (h' : Stream.LetsThrough writes' request.bytes.size) :
    through { stream with writes } request = through { stream with writes := writes' } request := by
  simp only [through, Stream.writeAll_of_letsThrough h, Stream.writeAll_of_letsThrough h']

theorem letsThrough_whole (size : Nat) : Stream.LetsThrough [.accept size] size := by
  rcases Nat.eq_zero_or_pos size with hnone | hsome
  · exact ⟨[], _, rfl, fun _ h => absurd h List.not_mem_nil, .inr (Nat.le_of_eq hnone)⟩
  · refine ⟨[.accept size], [], rfl, fun write hwrite => ?_, .inl rfl⟩
    rw [List.mem_singleton.mp hwrite, WriteItem.stop?, if_neg (by omega)]

/-- **An exchange fails with its stream, or on a line that it has read whole.** -/
theorem error_of_through {error : LinkError} (h : (through stream request).answer = .error error) :
    (∃ e, error = .io e) ∨ ∃ bytes reason, Brings stream request bytes ∧
      error = .malformedResponse (Text.dropLineEnds (Text.lossy bytes)) reason := by
  rcases brings_or_fails stream request with ⟨bytes, hbrings⟩ | ⟨e, hfails⟩
  · rw [answer_of_brings hbrings] at h
    rcases Reply.decode_cases (Text.lossy bytes) with ⟨value, hread⟩ | hread | ⟨reason, hread⟩
    · rw [hread] at h
      cases h
    · rw [hread] at h
      cases h
    · rw [hread] at h
      cases h
      exact .inr ⟨bytes, reason, hbrings, rfl⟩
  · rw [hfails] at h
    cases h
    exact .inl ⟨e, rfl⟩

end Order

/-- **The request goes out first, all of it or a part that is told.** On any stream, what is taken
    is a first part of the request, and all of it exactly when no write failed.

    A write that fails for good, or takes nothing, with less than the request written before, ends
    the exchange with its failure: then the part is what the writes before it had room for, there is
    no flush, and nothing is read. Otherwise there is one flush, and if it fails, in whatever way,
    the exchange ends with that failure and nothing is read. When the whole request goes through, it
    makes no difference in how many writes. And an exchange fails only with its stream or, after it
    has written the request and read a whole line, on this line. -/
theorem request_goes_out_first (stream : Stream) (request : RequestLine) :
    let sent := Stream.writeAll request.bytes stream.writes
    let traffic := through stream request
    Stream.writeZero.kind = .writeZero ∧
    (∃ left, request.bytes = traffic.written ++ left) ∧
    (traffic.written = request.bytes ↔ sent.failure = none) ∧
    (∀ e, sent.failure = some e ↔ ∃ n, Stream.Halts stream.writes request.bytes.size n e) ∧
    (∀ n e, Stream.Halts stream.writes request.bytes.size n e →
      n < request.bytes.size ∧ ∀ reads flushFailure,
        through { reads, writes := stream.writes, flushFailure } request
          = { answer := .error (.io e), written := request.bytes.extract 0 n, flushes := 0,
              taken := 0 }) ∧
    (sent.failure = none → traffic.flushes = 1 ∧
      ∀ e, stream.flushFailure = some e → ∀ reads, through { stream with reads } request
        = { answer := .error (.io e), written := request.bytes, flushes := 1, taken := 0 }) ∧
    (∀ writes, Stream.LetsThrough writes request.bytes.size →
      through { stream with writes } request
        = through { stream with writes := [.accept request.bytes.size] } request) ∧
    (∀ error, traffic.answer = .error error → (∃ e, error = .io e) ∨
      ∃ bytes reason, error = .malformedResponse (Text.dropLineEnds (Text.lossy bytes)) reason ∧
        traffic.written = request.bytes ∧ traffic.flushes = 1 ∧ Brings stream request bytes) := by
  intro sent traffic
  refine ⟨rfl, ?_, ?_, fun e => Stream.writeAll_failed_iff, ?_, ?_, ?_, ?_⟩
  · exact written_prefix stream request
  · exact written_eq_iff
  · intro n e hhalts
    exact ⟨hhalts.short, fun reads flushFailure => through_of_halts hhalts⟩
  · intro hsent
    refine ⟨(flushes_of_sent hsent).1, fun e hflush reads => ?_⟩
    exact @through_of_unflushed { stream with reads } request e hsent hflush
  · intro writes hthrough
    exact through_eq_of_letsThrough hthrough (letsThrough_whole _)
  · intro error herror
    refine (error_of_through herror).imp id fun h => ?_
    obtain ⟨bytes, reason, hbrings, rfl⟩ := h
    obtain ⟨hflushes, hwritten⟩ := flushes_of_sent hbrings.sent
    exact ⟨bytes, reason, rfl, hwritten, hflushes, hbrings⟩

/-- A stream that takes two bytes, is interrupted, takes one more, and then none. -/
def stuck : Stream where
  reads := [.chunk "OK\n".toUTF8]
  writes := [.accept 2, .failure (.ofKind .interrupted), .accept 1, .accept 0, .accept 9]

/-- A stream whose flush is interrupted after the request went out in two pieces. -/
def unflushed : Stream where
  reads := [.chunk "OK\n".toUTF8]
  writes := [.accept 2, .failure (.ofKind .interrupted)]
  flushFailure := some (.ofKind .interrupted)

/-- Of `USAGE` three bytes go out, or all of them and then the flush is not tried again. -/
theorem request_goes_out_first_stuck :
    (through stuck (RequestLine.ofCommand .usage)).written = "USA".toUTF8 ∧
    (through stuck (RequestLine.ofCommand .usage)).answer = .error (.io Stream.writeZero) ∧
    (through unflushed (RequestLine.ofCommand .usage)).written = "USAGE\n".toUTF8 ∧
    (through unflushed (RequestLine.ofCommand .usage)).answer
      = .error (.io (.ofKind .interrupted)) := by
  obtain ⟨-, -, -, -, hstuck, -⟩ := request_goes_out_first stuck (RequestLine.ofCommand .usage)
  obtain ⟨-, -, -, -, -, hflush, -⟩ :=
    request_goes_out_first unflushed (RequestLine.ofCommand .usage)
  have hhalts : Stream.Halts stuck.writes (RequestLine.ofCommand .usage).bytes.size 3
      Stream.writeZero := by
    refine ⟨⟨[.accept 2, .failure (.ofKind .interrupted), .accept 1], .accept 0, [.accept 9], rfl,
      ?_, rfl, rfl⟩, by decide⟩
    simp only [Stream.Passes, List.forall_mem_cons]
    exact ⟨rfl, rfl, rfl, List.forall_mem_nil _⟩
  have hsent : (Stream.writeAll (RequestLine.ofCommand .usage).bytes unflushed.writes).failure
      = none := by
    decide
  have hstopped : through stuck (RequestLine.ofCommand .usage) = _ :=
    (hstuck 3 _ hhalts).2 stuck.reads stuck.flushFailure
  have hended : through unflushed (RequestLine.ofCommand .usage) = _ :=
    (hflush hsent).2 _ rfl unflushed.reads
  rw [hstopped, hended]
  exact ⟨by decide, rfl, by decide, rfl⟩

end StoreLink.Exchange
