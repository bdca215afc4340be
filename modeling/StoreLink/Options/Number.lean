import StoreLink.Text.Decimal

/-!
# Numbers on a command line

A port on a command line is read as a signed number and must then be in the range of ports, so `-0`
is the port 0. A deadline has no sign but `+`.
-/

namespace StoreLink.Options

/-- Reads a port. -/
def port? (text : String) : Option UInt16 :=
  match text.toList with
  | '-' :: digit :: digits =>
    match Text.Decimal.readDigits 0 0 (digit :: digits) with
    | .ok _ => some 0
    | .error _ => none
  | cs =>
    match Text.Decimal.parseList Text.Decimal.maxPort cs with
    | .ok n => some n.toUInt16
    | .error _ => none

/-- Reads a deadline in milliseconds. -/
def milliseconds? (text : String) : Option Nat :=
  (Text.Decimal.parse Text.Decimal.maxWord text).toOption

end StoreLink.Options
