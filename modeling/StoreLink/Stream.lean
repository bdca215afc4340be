import StoreLink.IoError
import StoreLink.Bytes.Search

/-!
# Streams

A stream is what an exchange writes its request to and reads its reply from. It may cut the bytes
anywhere and fail at any time, so here it is given by all that it will do: the outcome of every
read, of every write and of the first flush.

* `Stream.writeAll` writes until all is written or a write fails;
* `Stream.readLine` reads up to and including the first line feed, and takes a bounded number of
  bytes.

Both try again after an interruption.
-/

namespace StoreLink

/-- What one read gives: some bytes, none of them at an end of input, or a failure. A read that asks
    for less than the chunk leaves the rest of it for the next. -/
inductive ReadItem where
  | chunk (bytes : ByteArray)
  | failure (error : IoError)

/-- What one write does: it takes at most so many of the bytes, or fails. -/
inductive WriteItem where
  | accept (atMost : Nat)
  | failure (error : IoError)

/-- All that a stream will do. After the listed reads the input is at its end, and after the listed
    writes every write takes all. -/
structure Stream where
  reads : List ReadItem := []
  writes : List WriteItem := []
  /-- The failure of the first flush; later ones succeed. -/
  flushFailure : Option IoError := none

namespace Stream

/-! ## 1. Writing -/

/-- What became of a write: the bytes that the stream took, and the failure that ended it. -/
structure Written where
  taken : ByteArray
  failure : Option IoError := none

/-- The failure of a write that takes nothing. -/
def writeZero : IoError :=
  ⟨.writeZero, "failed to write whole buffer"⟩

/-- Writes the bytes that are left to write, after those that were taken before. -/
def writeFrom (taken left : ByteArray) : List WriteItem → Written
  | [] => ⟨taken ++ left, none⟩
  | .failure e :: rest =>
    if left.isEmpty then ⟨taken, none⟩
    else if e.isInterrupted then writeFrom taken left rest
    else ⟨taken, some e⟩
  | .accept atMost :: rest =>
    if left.isEmpty then ⟨taken, none⟩
    else if atMost = 0 then ⟨taken, some writeZero⟩
    else writeFrom (taken ++ left.extract 0 atMost) (left.extract atMost left.size) rest

/-- Writes all of the bytes, unless a write fails. -/
def writeAll (bytes : ByteArray) (writes : List WriteItem) : Written :=
  writeFrom .empty bytes writes

/-! ## 2. Reading a line -/

/-- How the reading of a line ends. -/
inductive LineEnd where
  /-- With the line, its line feed included. -/
  | line (bytes : ByteArray)
  /-- With so many bytes read that no more is asked for. -/
  | tooLong
  /-- With the input, before a line feed came. -/
  | closed
  /-- With a failure. -/
  | failed (error : IoError)

/-- What became of the reading of a line, and how many bytes were taken from the stream for it. -/
structure LineRead where
  ending : LineEnd
  taken : Nat

/-- The bytes of a chunk that a read takes which asks for `room` of them. -/
def asked (room : Nat) (chunk : ByteArray) : ByteArray :=
  if chunk.size ≤ room then chunk else chunk.extract 0 room

/-- Reads on to the end of the line, after the bytes read before. With no room left it asks for
    nothing. -/
def readFrom (room : Nat) (read : ByteArray) : List ReadItem → LineRead
  | [] => ⟨if room = 0 then .tooLong else .closed, read.size⟩
  | .failure e :: rest =>
    if room = 0 then ⟨.tooLong, read.size⟩
    else if e.isInterrupted then readFrom room read rest
    else ⟨.failed e, read.size⟩
  | .chunk bytes :: rest =>
    if room = 0 then ⟨.tooLong, read.size⟩
    else if bytes.isEmpty then ⟨.closed, read.size⟩
    else
      let piece := asked room bytes
      match Bytes.newlineFrom? piece 0 with
      | some i => ⟨.line (read ++ piece.extract 0 (i + 1)), read.size + piece.size⟩
      | none => readFrom (room - piece.size) (read ++ piece) rest

/-- Reads a line of at most `limit` bytes, the line feed included. -/
def readLine (limit : Nat) (reads : List ReadItem) : LineRead :=
  readFrom limit .empty reads

end Stream

end StoreLink
