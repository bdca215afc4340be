import StoreLink.LinkError
import StoreLink.Text.Decimal

/-!
# Endpoints

Where the store listens: a host and a port, or the path of a Unix socket.

* `Endpoint.display` writes an endpoint as `host:port` or `unix:path`;
* `Endpoint.parse` reads that text, blanks around it aside; the last colon divides host and port, so
  a host may hold colons itself;
* `Endpoint.agrees` compares endpoints, and the paths of sockets by their components.
-/

namespace StoreLink

/-- Where the store listens. -/
inductive Endpoint where
  | tcp (host : String) (port : UInt16)
  | unix (path : String)
  deriving DecidableEq, Repr

/-- What opens the text of a socket path. -/
def unixPrefix : String := "unix:"

/-- What is wrong with a text that names no endpoint; but for the first it keeps the trimmed text.
    -/
inductive Endpoint.Fault where
  /-- Nothing follows `unix:`. -/
  | missingPath
  /-- There is no colon. -/
  | missingPort (text : String)
  /-- Nothing stands before the last colon. -/
  | missingHost (text : String)
  /-- What follows the last colon is no port. -/
  | invalidPort (text : String) (fault : Text.Decimal.Fault)
  deriving DecidableEq, Repr

/-- The wording of a fault. -/
def Endpoint.Fault.message : Endpoint.Fault → String
  | .missingPath => "unix endpoint needs a path"
  | .missingPort text => "expected host:port, got " ++ Text.quote text
  | .missingHost text => "missing host in " ++ Text.quote text
  | .invalidPort text fault => "invalid port in " ++ Text.quote text ++ ": " ++ fault.message

/-- A text that names no endpoint, as a failure of the link. -/
def Endpoint.Fault.toError (fault : Endpoint.Fault) : LinkError :=
  .config fault.message

namespace Endpoint

/-! ## 1. Writing and reading -/

/-- A host and a port as one text. -/
def hostPort (host : String) (port : UInt16) : String :=
  host ++ ":" ++ Text.Decimal.render port.toNat

/-- The text of an endpoint. -/
def display : Endpoint → String
  | .tcp host port => hostPort host port
  | .unix path => unixPrefix ++ path

/-- The parts of a list before and after the last place of `c`. -/
def splitAtLast (c : Char) (cs : List Char) : Option (List Char × List Char) :=
  match cs.reverse.dropWhile (· != c) with
  | [] => none
  | _ :: before => some (before.reverse, (cs.reverse.takeWhile (· != c)).reverse)

/-- Reads a host and a port from a trimmed text. -/
def parseHostPort (text : String) : Except Fault Endpoint :=
  match splitAtLast ':' text.toList with
  | none => .error (.missingPort text)
  | some ([], _) => .error (.missingHost text)
  | some (host, port) =>
    match Text.Decimal.parseList Text.Decimal.maxPort port with
    | .ok n => .ok (.tcp (String.ofList host) n.toUInt16)
    | .error fault => .error (.invalidPort text fault)

/-- Reads an endpoint. -/
def parse (text : String) : Except Fault Endpoint :=
  let text := Text.trim text
  match text.dropPrefix? unixPrefix with
  | some path => if path.isEmpty then .error .missingPath else .ok (.unix path.copy)
  | none => parseHostPort text

/-! ## 2. Comparing -/

/-- The pieces of a list between the places of `c`, empty pieces included. -/
def piecesAt (c : Char) : List Char → List (List Char)
  | [] => [[]]
  | x :: rest =>
    if x = c then [] :: piecesAt c rest
    else
      match piecesAt c rest with
      | [] => [[x]]
      | piece :: pieces => (x :: piece) :: pieces

/-- The components of a path: whether it starts at the root, and the names on the way. Slashes in a
    row count as one, and `.` is a component only where a relative path starts with it. -/
def pathComponents (path : String) : Bool × List (List Char) :=
  let rooted := path.startsWith '/'
  let pieces := piecesAt '/' path.toList
  let names := pieces.filter (fun piece => piece != [] && piece != ['.'])
  (rooted, if pieces.head? == some ['.'] then ['.'] :: names else names)

/-- The endpoints name the same place: hosts by their text, paths by their components. -/
def agrees : Endpoint → Endpoint → Bool
  | .tcp host port, .tcp host' port' => host == host' && port == port'
  | .unix path, .unix path' => pathComponents path == pathComponents path'
  | _, _ => false

end Endpoint

end StoreLink
