import StoreLink.RequestLine
import StoreLink.Reply
import StoreLink.Stream
import StoreLink.Text.Lossy

/-!
# Exchanges

An exchange carries one request line to the store and brings one reply back. Whoever asks does not
see how: an `Exchange` is a function with a state of its own, and each request is one step of it.

`Exchange.through` is the exchange through a stream: write the request, flush, read one line, decode
it.
-/

namespace StoreLink

/-- What carries requests to the store and brings answers back, with whatever state it keeps. -/
abbrev Exchange (σ : Type) (α : Type) : Type :=
  RequestLine → σ → α × σ

/-- What a single exchange brings back. -/
abbrev Answer : Type :=
  Except LinkError Reply

/-- What became of an exchange that may break off. -/
inductive Attempt where
  | finished (answer : Answer)
  /-- The exchange broke off and brought nothing back, not even a failure. -/
  | panicked

namespace Exchange

/-- The longest reply line, its line feed included (64 MiB). -/
def maxResponseLine : Nat := 64 * 1024 * 1024

/-- The failure of a reply line that does not end in time. -/
def lineTooLong : IoError :=
  ⟨.invalidData, "response line exceeds " ++ Text.Decimal.render maxResponseLine ++ " bytes"⟩

/-- The failure of a reply line that breaks off. -/
def lineCutShort : IoError :=
  ⟨.unexpectedEnd, "connection closed before end of response line"⟩

/-- The failure of an attempt that broke off. -/
def brokeOff : IoError :=
  ⟨.other, "task panicked"⟩

/-- The answer of an attempt; one that broke off counts as a failure of input and output. -/
def settle : Attempt → Answer
  | .finished answer => answer
  | .panicked => .error (.io brokeOff)

/-- What became of an exchange through a stream: the answer, the bytes that the stream took, how
    often it was flushed, and how many bytes were taken from it. -/
structure Traffic where
  answer : Answer
  written : ByteArray
  flushes : Nat
  taken : Nat

/-- The answer that the reading of a line gives. -/
def answerOf : Stream.LineEnd → Answer
  | .line bytes => Reply.decode (Text.lossy bytes)
  | .tooLong => .error (.io lineTooLong)
  | .closed => .error (.io lineCutShort)
  | .failed e => .error (.io e)

/-- Writes the request, flushes once and reads one line, in this order, and stops at a failure. -/
def through (stream : Stream) (request : RequestLine) : Traffic :=
  let sent := Stream.writeAll request.bytes stream.writes
  match sent.failure with
  | some e => ⟨.error (.io e), sent.taken, 0, 0⟩
  | none =>
    match stream.flushFailure with
    | some e => ⟨.error (.io e), sent.taken, 1, 0⟩
    | none =>
      let line := Stream.readLine maxResponseLine stream.reads
      ⟨answerOf line.ending, sent.taken, 1, line.taken⟩

end Exchange

end StoreLink
