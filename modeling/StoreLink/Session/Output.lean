import StoreLink.IoError

/-!
# Outputs that may fail

An output of a session takes text until it fails, and then fails for good. It is given by how many
bytes it has room for and how many flushes it grants; `taken` is what it took.
-/

namespace StoreLink

/-- An output, with what it took so far. -/
structure Output where
  taken : ByteArray := .empty
  /-- How many more bytes it takes; `none` for any number. -/
  room : Option Nat := none
  /-- How many more flushes it grants; `none` for any number. -/
  flushes : Option Nat := none
  /-- What it fails with. -/
  failure : IoError := .ofKind .other

namespace Output

/-- Writes bytes. Of those that do not fit the output takes as many as it has room for, then fails.
    -/
def write (output : Output) (bytes : ByteArray) : Option IoError × Output :=
  match output.room with
  | none => (none, { output with taken := output.taken ++ bytes })
  | some room =>
    let output := { output with
      taken := output.taken ++ bytes.extract 0 room, room := some (room - bytes.size) }
    (if bytes.size ≤ room then none else some output.failure, output)

/-- Flushes the output. -/
def flush (output : Output) : Option IoError × Output :=
  match output.flushes with
  | none => (none, output)
  | some 0 => (some output.failure, output)
  | some (n + 1) => (none, { output with flushes := some n })

end Output

end StoreLink
