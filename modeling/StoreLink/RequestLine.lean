import StoreLink.Command
import StoreLink.Base64.Encode

/-!
# Request lines

A request is one line of text. It is built in one of two ways: from a command
(`RequestLine.ofCommand`), with a value written in base64, or from a line that an operator typed
(`RequestLine.ofText`), which is trimmed and otherwise taken as it is, since the store decides what
it means.
-/

namespace StoreLink

/-- One request, as it is written to the store. -/
structure RequestLine where
  /-- The line with the line feed that ends it. -/
  wire : String
  deriving DecidableEq, Repr

/-- What is wrong with a text that is no request. -/
inductive RequestLine.Fault where
  /-- Nothing is left after trimming. -/
  | empty
  /-- A line end stands inside the text. -/
  | lineBreak
  deriving DecidableEq, Repr

namespace RequestLine

/-- The wording of a fault. -/
def Fault.message : Fault → String
  | .empty => "empty request"
  | .lineBreak => "request contains a line break"

/-- The line for this text. -/
def terminated (text : String) : RequestLine :=
  ⟨text.push '\n'⟩

/-- The request that an operator typed. -/
def ofText (text : String) : Except Fault RequestLine :=
  let line := Text.trim text
  if line.isEmpty then .error .empty
  else if line.any Text.isLineEnd then .error .lineBreak
  else .ok (terminated line)

/-- The text of a command: its name, then the key and the value in base64 where it has them, with
    one space between. -/
def textOf : Command → String
  | .get key => CommandName.get.text ++ " " ++ key.text
  | .set key value => CommandName.set.text ++ " " ++ key.text ++ " " ++ Base64.encode value
  | .delete key => CommandName.delete.text ++ " " ++ key.text
  | .usage => CommandName.usage.text
  | .quit => CommandName.quit.text

/-- The request for a command. -/
def ofCommand (command : Command) : RequestLine :=
  terminated (textOf command)

/-- The line without the line feeds at its end. -/
def text (r : RequestLine) : String :=
  (r.wire.dropEndWhile '\n').copy

/-- The bytes that are written to the store. -/
def bytes (r : RequestLine) : ByteArray :=
  r.wire.toUTF8

/-- The first word of the line. -/
def firstWord (r : RequestLine) : String :=
  Text.firstWord r.text

end RequestLine

/-- A text that is no request, as a failure of the link. -/
def RequestLine.Fault.toError (fault : RequestLine.Fault) : LinkError :=
  .invalidRequest fault.message

end StoreLink
