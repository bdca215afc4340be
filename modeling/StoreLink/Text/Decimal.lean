/-!
# Bounded decimal numbers

Ports, byte counts and deadlines are written in decimal and have a largest value. A number is an
optional sign `+` followed by at least one ASCII digit; any number of leading zeros is allowed, and
nothing else is.

* `parse max s` reads such a number, or says what is wrong with it (`Fault`);
* the digits are read from the left, so of two faults the one that stands first is reported.
-/

namespace StoreLink.Text.Decimal

/-- What is wrong with the text of a number. -/
inductive Fault where
  /-- There is no text at all. -/
  | empty
  /-- A character that is no digit, or a sign with nothing after it. -/
  | invalidDigit
  /-- The digits read so far are more than the largest value. -/
  | tooLarge
  deriving DecidableEq, Repr

/-- The wording of a fault. -/
def Fault.message : Fault → String
  | .empty => "cannot parse integer from empty string"
  | .invalidDigit => "invalid digit found in string"
  | .tooLarge => "number too large to fit in target type"

/-- The value of an ASCII digit. -/
def digit? (c : Char) : Option Nat :=
  if '0' ≤ c ∧ c ≤ '9' then some (c.toNat - '0'.toNat) else none

/-- Reads digits from the left onto the value `acc` of those before them. -/
def readDigits (max : Nat) (acc : Nat) : List Char → Except Fault Nat
  | [] => .ok acc
  | c :: rest =>
    match digit? c with
    | none => .error .invalidDigit
    | some d => if acc * 10 + d ≤ max then readDigits max (acc * 10 + d) rest else .error .tooLarge

/-- Reads a number of at most `max` from the characters of its text. -/
def parseList (max : Nat) : List Char → Except Fault Nat
  | [] => .error .empty
  | '+' :: [] => .error .invalidDigit
  | '+' :: rest => readDigits max 0 rest
  | cs => readDigits max 0 cs

/-- Reads a number of at most `max`. -/
def parse (max : Nat) (s : String) : Except Fault Nat :=
  parseList max s.toList

/-- The digits of a number. -/
def render (n : Nat) : String :=
  String.ofList (Nat.toDigits 10 n)

/-- The largest port. -/
def maxPort : Nat := 65535

/-- The largest number of 64 bits: byte counts and deadlines. -/
def maxWord : Nat := 18446744073709551615

end StoreLink.Text.Decimal
