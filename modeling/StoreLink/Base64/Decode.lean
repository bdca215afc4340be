import StoreLink.Base64.Alphabet
import StoreLink.Text.Decimal

/-!
# Reading base64

The reading is strict: it takes a text only if it is the written form of some bytes. A fault is
reported in this order.

1. A single byte after the last full group, if it is outside of the alphabet.
2. The first byte outside of the alphabet in the groups before the last (`=` is outside of it
   there).
3. In the last group, from the left: a `=` in the first or second place, a byte other than `=` after
   a `=` (reported at the first `=`), a byte outside of the alphabet.
4. A last group of one symbol, 5. of symbols and `=` that do not make four, and 6. one whose last
   symbol has bits that belong to no byte.
-/

namespace StoreLink.Base64

/-! ## 1. Faults -/

/-- What is wrong with a text that is not base64. -/
inductive Fault where
  /-- A byte that cannot stand at its place. -/
  | invalidSymbol (byte : UInt8) (offset : Nat)
  /-- The symbols end after the first of a group; the length up to there. -/
  | invalidLength (length : Nat)
  /-- The last symbol has bits that belong to no byte. -/
  | invalidLastSymbol (byte : UInt8) (offset : Nat)
  /-- The last group is not filled up to four. -/
  | invalidPadding
  deriving DecidableEq, Repr

/-- The wording of a fault. -/
def Fault.message : Fault → String
  | .invalidSymbol byte offset =>
    "Invalid symbol " ++ Text.Decimal.render byte.toNat ++ ", offset "
      ++ Text.Decimal.render offset ++ "."
  | .invalidLength length => "Invalid input length: " ++ Text.Decimal.render length
  | .invalidLastSymbol byte offset =>
    "Invalid last symbol " ++ Text.Decimal.render byte.toNat ++ ", offset "
      ++ Text.Decimal.render offset ++ "."
  | .invalidPadding => "Invalid padding"

/-! ## 2. Full groups -/

/-- The first byte of four numbers of six bits. -/
@[inline] def firstByte (a b : UInt8) : UInt8 := (a <<< 2) ||| (b >>> 4)

/-- The second byte of four numbers of six bits. -/
@[inline] def secondByte (b c : UInt8) : UInt8 := (b <<< 4) ||| (c >>> 2)

/-- The third byte of four numbers of six bits. -/
@[inline] def thirdByte (c d : UInt8) : UInt8 := (c <<< 6) ||| d

/-- Reads the full groups from place `i` up to `stop`, after the bytes read before. -/
def decodeGroups (text : ByteArray) (stop i : Nat) (read : ByteArray) : Except Fault ByteArray :=
  if h : i + 4 ≤ stop ∧ stop ≤ text.size then
    match value? text[i] with
    | none => .error (.invalidSymbol text[i] i)
    | some a =>
      match value? text[i + 1] with
      | none => .error (.invalidSymbol text[i + 1] (i + 1))
      | some b =>
        match value? text[i + 2] with
        | none => .error (.invalidSymbol text[i + 2] (i + 2))
        | some c =>
          match value? text[i + 3] with
          | none => .error (.invalidSymbol text[i + 3] (i + 3))
          | some d =>
            decodeGroups text stop (i + 4)
              (((read.push (firstByte a b)).push (secondByte b c)).push (thirdByte c d))
  else .ok read
termination_by stop - i

/-! ## 3. The last group -/

/-- The last group, split: the values of its symbols, the last symbol itself, and how many `=`. -/
structure LastGroup where
  values : List UInt8 := []
  lastSymbol : UInt8 := 0
  pads : Nat := 0

/-- Splits the last group, which starts at `start`; `place` is the place in it of the next byte. -/
def splitLast (start place : Nat) (group : LastGroup) : List UInt8 → Except Fault LastGroup
  | [] => .ok group
  | b :: rest =>
    if b = pad then
      if place < 2 then .error (.invalidSymbol pad (start + place))
      else splitLast start (place + 1) { group with pads := group.pads + 1 } rest
    else if 0 < group.pads then .error (.invalidSymbol pad (start + place - group.pads))
    else
      match value? b with
      | none => .error (.invalidSymbol b (start + place))
      | some v =>
        splitLast start (place + 1)
          { group with values := group.values ++ [v], lastSymbol := b } rest

/-- The bytes of the values in a last group, and whether bits are left over that belong to none. -/
def lastBytes : List UInt8 → List UInt8 × Bool
  | [a, b] => ([firstByte a b], b <<< 4 ≠ 0)
  | [a, b, c] => ([firstByte a b, secondByte b c], c <<< 6 ≠ 0)
  | [a, b, c, d] => ([firstByte a b, secondByte b c, thirdByte c d], false)
  | _ => ([], false)

/-- Reads a last group, which starts at `start`, onto the bytes read before. -/
def decodeLast (start : Nat) (bytes : List UInt8) (read : ByteArray) : Except Fault ByteArray := do
  let group ← splitLast start 0 {} bytes
  let symbols := group.values.length
  if bytes ≠ [] ∧ symbols < 2 then
    .error (.invalidLength (start + symbols))
  else if (symbols + group.pads) % 4 ≠ 0 then
    .error .invalidPadding
  else
    let (last, leftOver) := lastBytes group.values
    if leftOver then .error (.invalidLastSymbol group.lastSymbol (start + symbols - 1))
    else .ok (last.foldl ByteArray.push read)

/-! ## 4. The whole text -/

/-- Where the last group starts: a full group at the end is the last one. -/
def lastStart (size : Nat) : Nat :=
  if size % 4 = 0 then size - 4 else size - size % 4

/-- A single byte after the last full group that is outside of the alphabet. -/
def strayByte? (text : ByteArray) : Option Fault :=
  if text.size % 4 = 1 then
    match text[text.size - 1]? with
    | none => none
    | some b =>
      if b = pad ∨ (value? b).isSome then none else some (.invalidSymbol b (text.size - 1))
  else none

/-- Reads the bytes of a text in base64. -/
def decodeBytes (text : ByteArray) : Except Fault ByteArray :=
  match strayByte? text with
  | some fault => .error fault
  | none => do
    let start := lastStart text.size
    let read ← decodeGroups text start 0 .empty
    decodeLast start (text.extract start text.size).data.toList read

/-- Reads a text in base64. -/
def decode (text : String) : Except Fault ByteArray :=
  decodeBytes text.toUTF8

end StoreLink.Base64
