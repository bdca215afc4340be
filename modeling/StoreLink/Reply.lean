import StoreLink.LinkError
import StoreLink.Base64.Decode
import StoreLink.Base64.Encode

/-!
# Replies

The store answers a request with one line. A line that starts with `VALUE ` carries bytes in base64;
any other line is a status, kept as it is but for the blanks around it.

* `Reply.decode` reads a line, `decodeValue` a payload alone;
* `grants`, `saysMissing`, `saysRemoved` and `heldBytes?` say what a status means.
-/

namespace StoreLink

/-- What a reply line says. -/
inductive Reply where
  /-- The bytes stored under a key. -/
  | value (bytes : ByteArray)
  /-- Any other line, trimmed. -/
  | status (text : String)

/-- What opens a line that carries a value. -/
def valuePrefix : String := "VALUE "

/-- What opens a status that carries a byte count. -/
def usagePrefix : String := "USAGE "

/-- The status for a key that is not stored. -/
def notFoundStatus : String := "NOT_FOUND"

/-- The status for a key that was removed. -/
def deletedStatus : String := "DELETED"

/-- How a status begins that grants a request. -/
def okPrefix : String := "OK"

/-- Reads a payload; the failure keeps the payload as it came. -/
def decodeValue (payload : String) : Except LinkError ByteArray :=
  match Base64.decode payload with
  | .ok bytes => .ok bytes
  | .error fault => .error (.malformedResponse payload fault.message)

namespace Reply

/-- Reads a reply line. The line ends at its end are no part of it; a payload may have blanks around
    it, and when it cannot be read the failure keeps the whole line. -/
def decode (line : String) : Except LinkError Reply :=
  let line := Text.dropLineEnds line
  match line.dropPrefix? valuePrefix with
  | some payload =>
    match Base64.decode (Text.trim payload.copy) with
    | .ok bytes => .ok (.value bytes)
    | .error fault => .error (.malformedResponse line fault.message)
  | none => .ok (.status (Text.trim line))

/-- The text of a status. -/
def status? : Reply → Option String
  | .value _ => none
  | .status text => some text

/-- The status grants the request. -/
def grants (r : Reply) : Bool :=
  r.status?.any (·.startsWith okPrefix)

/-- The status says that the key is not stored. -/
def saysMissing (r : Reply) : Bool :=
  r.status? == some notFoundStatus

/-- The status says that the key was removed. -/
def saysRemoved (r : Reply) : Bool :=
  r.status? == some deletedStatus

/-- The byte count of a status, if it has one that fits 64 bits. -/
def heldBytes? (r : Reply) : Option Nat :=
  match r.status? with
  | none => none
  | some text =>
    match text.dropPrefix? usagePrefix with
    | none => none
    | some count => (Text.Decimal.parse Text.Decimal.maxWord (Text.trim count.copy)).toOption

@[simp] theorem grants_status (text : String) :
    (Reply.status text).grants = text.startsWith "OK" := rfl

@[simp] theorem saysMissing_status (text : String) :
    (Reply.status text).saysMissing = (text == "NOT_FOUND") := by
  simp [saysMissing, status?, notFoundStatus]

@[simp] theorem saysRemoved_status (text : String) :
    (Reply.status text).saysRemoved = (text == "DELETED") := by
  simp [saysRemoved, status?, deletedStatus]

end Reply

end StoreLink
