import StoreLink.Endpoint

/-!
# Where a path leads

A path is followed name by name, from the root if it starts with a slash and else from the working
directory. An empty name and `.` stay where they are, `..` goes up, and the root is above itself.
Whatever follows a slash, be it nothing, is looked for in a directory.

* `Places` says what stands where, and `Places.standing` what stands at the end of a list of names;
* `Places.follow` follows a path to what stands at its end, which is something.
-/

namespace StoreLink

/-- What stands at a place. -/
inductive Standing where
  | nothing
  | directory
  | file
  | socket
  deriving DecidableEq, Repr

/-- What stands where. A place is given by the names that lead to it from the root. -/
structure Places where
  workingDirectory : List String := []
  directories : List (List String) := []
  files : List (List String) := []
  sockets : List (List String) := []

namespace Places

/-- The failure of a path with nothing at its end or on its way. -/
def noSuchFile : IoError :=
  ⟨.notFound, "No such file or directory (os error 2)"⟩

/-- The failure of a path that goes on after something that is no directory. -/
def notADirectory : IoError :=
  ⟨.notADirectory, "Not a directory (os error 20)"⟩

/-- The places at which something is known to stand. -/
def known (places : Places) : List (List String) :=
  places.workingDirectory :: (places.directories ++ places.files ++ places.sockets)

/-- What stands at a place. On the way to something there are directories, the root among them. -/
def standing (places : Places) (names : List String) : Standing :=
  if names ∈ places.sockets then .socket
  else if names ∈ places.files then .file
  else if names.isEmpty || places.known.any (names.isPrefixOf ·) then .directory
  else .nothing

/-- Goes on from a place along the names that are left, if it is a directory. -/
def followFrom (places : Places) (place : List String) :
    List String → Except IoError Standing
  | [] => .ok (places.standing place)
  | name :: rest =>
    match places.standing place with
    | .nothing => .error noSuchFile
    | .file => .error notADirectory
    | .socket => .error notADirectory
    | .directory =>
      if name = "" ∨ name = "." then followFrom places place rest
      else if name = ".." then followFrom places place.dropLast rest
      else followFrom places (place ++ [name]) rest

/-- Follows a path. -/
def follow (places : Places) (path : String) : Except IoError Standing :=
  let names := (Endpoint.piecesAt '/' path.toList).map String.ofList
  let start := if path.startsWith '/' then [] else places.workingDirectory
  match places.followFrom start names with
  | .ok .nothing => .error noSuchFile
  | result => result

end Places

end StoreLink
