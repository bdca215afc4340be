import StoreLink.Key

/-!
# Commands

What a client can ask of the store. `QUIT` belongs to the interactive session: it ends the session
and is not sent.
-/

namespace StoreLink

/-- The names of commands. -/
inductive CommandName where
  | get
  | set
  | delete
  | usage
  | quit
  deriving DecidableEq, Repr

/-- The name as it stands on a request line. -/
def CommandName.text : CommandName → String
  | .get => "GET"
  | .set => "SET"
  | .delete => "DELETE"
  | .usage => "USAGE"
  | .quit => "QUIT"

/-- All names, in the order in which they are listed. -/
def CommandName.all : List CommandName :=
  [.get, .set, .delete, .usage, .quit]

/-- A command with its arguments. -/
inductive Command where
  /-- Ask for the value of a key. -/
  | get (key : Key)
  /-- Store any bytes under a key. -/
  | set (key : Key) (value : ByteArray)
  /-- Remove a key. -/
  | delete (key : Key)
  /-- Ask how many bytes the store holds. -/
  | usage
  /-- End the session. -/
  | quit

namespace Command

/-- The name of a command. -/
def name : Command → CommandName
  | .get _ => .get
  | .set _ _ => .set
  | .delete _ => .delete
  | .usage => .usage
  | .quit => .quit

/-- The key that a command is about. -/
def key? : Command → Option Key
  | .get key => some key
  | .set key _ => some key
  | .delete key => some key
  | .usage => none
  | .quit => none

end Command

end StoreLink
