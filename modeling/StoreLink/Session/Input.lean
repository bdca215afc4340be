import StoreLink.Stream

/-!
# The lines of an operator

The input of a session comes in reads that may cut a line anywhere. `Input.lines` puts the lines
together: a line ends with a line feed, which is no part of it, and with it a carriage return just
before. An end of input ends the line that was begun; the input is over only when it comes where a
line would begin, so what is typed after it is still read.

A failed read ends the list, and the line begun before it is lost.
-/

namespace StoreLink.Input

/-- One line, or the failure in its place. -/
inductive Line where
  | text (bytes : ByteArray)
  | failed (error : IoError)

/-- The byte of a carriage return. -/
def carriageReturn : UInt8 := 0x0D

/-- A line without the carriage return at its end. -/
def dropReturn (bytes : ByteArray) : ByteArray :=
  if bytes[bytes.size - 1]? = some carriageReturn then bytes.extract 0 (bytes.size - 1) else bytes

/-- What cutting a chunk gives: the lines that end in it, and the line that it leaves begun. -/
structure Cut where
  lines : Array Line
  begun : ByteArray

/-- Cuts a chunk from place `i` on, where `begun` is the line begun before. -/
def cutFrom (chunk : ByteArray) (i : Nat) (begun : ByteArray) (lines : Array Line) : Cut :=
  match _h : Bytes.newlineFrom? chunk i with
  | some j =>
    cutFrom chunk (j + 1) .empty
      (lines.push (.text (dropReturn (begun ++ chunk.extract i j))))
  | none => ⟨lines, begun ++ chunk.extract i chunk.size⟩
termination_by chunk.size - i
decreasing_by
  have := Bytes.le_of_newlineFrom? _h
  omega

/-- Cuts a chunk into lines. -/
def cut (begun chunk : ByteArray) : Cut :=
  cutFrom chunk 0 begun #[]

/-- The lines from here on, where `begun` is the line begun before. -/
def linesFrom (begun : ByteArray) : List ReadItem → List Line
  | [] => if begun.isEmpty then [] else [.text begun]
  | .failure e :: rest => if e.isInterrupted then linesFrom begun rest else [.failed e]
  | .chunk bytes :: rest =>
    if bytes.isEmpty then
      if begun.isEmpty then [] else .text begun :: linesFrom .empty rest
    else
      let pieces := cut begun bytes
      pieces.lines.toList ++ linesFrom pieces.begun rest

/-- The lines of an input. -/
def lines (reads : List ReadItem) : List Line :=
  linesFrom .empty reads

end StoreLink.Input
