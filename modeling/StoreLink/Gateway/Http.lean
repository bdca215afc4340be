import StoreLink.Text.Decimal
import StoreLink.Text.Percent

/-!
# Requests and responses

What the gateway sees of HTTP: a method, a target and a body come in, and a status with a few
headers and a body goes out. The headers of a request make no difference to the gateway.

`Target.ofText` finds the path in a target, which may be a path, a whole address, or neither.
-/

namespace StoreLink.Gateway

/-! ## 1. Requests -/

/-- A request as it came in. -/
structure Request where
  method : String
  target : String
  headers : List (String × String) := []
  body : ByteArray := .empty

/-- What a target says of the path, in bytes. -/
inductive Target where
  | path (bytes : List UInt8)
  /-- The sign `*`, or an authority alone: no path at all. -/
  | none

namespace Target

/-- The byte `/`. -/
def slash : UInt8 := 0x2F

/-- The byte ends the path: `?` or `#`. -/
def endsPath (b : UInt8) : Bool :=
  b == 0x3F || b == 0x23

/-- The path before the query and the fragment. -/
def pathOf (bytes : List UInt8) : List UInt8 :=
  bytes.takeWhile (fun b => !endsPath b)

/-- What follows the scheme of a whole address. -/
def afterScheme? (bytes : List UInt8) : Option (List UInt8) :=
  match bytes.dropWhile (· != 0x3A) with
  | 0x3A :: 0x2F :: 0x2F :: rest => some rest
  | _ => Option.none

/-- Reads a target from its bytes; a whole address without a path has the path `/`. -/
def ofBytes (bytes : List UInt8) : Target :=
  match bytes with
  | 0x2F :: _ => .path (pathOf bytes)
  | _ =>
    match afterScheme? bytes with
    | Option.none => .none
    | some rest =>
      match pathOf (rest.dropWhile (fun b => b != slash && !endsPath b)) with
      | [] => .path [slash]
      | b :: others => .path (b :: others)

/-- Reads a target. -/
def ofText (text : String) : Target :=
  ofBytes text.toUTF8.data.toList

end Target

/-! ## 2. Responses -/

/-- What a body holds. -/
inductive ContentType where
  | plainText
  | octetStream
  deriving DecidableEq, Repr

/-- The name of a content type. -/
def ContentType.text : ContentType → String
  | .plainText => "text/plain; charset=utf-8"
  | .octetStream => "application/octet-stream"

/-- A response. -/
structure Response where
  status : Nat
  /-- The methods in the header `allow`. -/
  allow : List String := []
  contentType : Option ContentType := none
  body : ByteArray := .empty
  /-- The length in the header `content-length`. -/
  contentLength : Nat := body.size

namespace Response

/-- A response without a body. -/
def empty (status : Nat) : Response :=
  { status }

/-- A response with a text. -/
def text (status : Nat) (body : String) : Response :=
  { status, contentType := some .plainText, body := body.toUTF8 }

/-- A response with bytes. -/
def bytes (status : Nat) (body : ByteArray) : Response :=
  { status, contentType := some .octetStream, body }

/-- The same response without its body, whose length it still tells. -/
def withoutBody (r : Response) : Response :=
  { r with body := .empty, contentLength := r.contentLength }

/-- The headers, sorted by name. -/
def headers (r : Response) : List (String × String) :=
  (if r.allow.isEmpty then [] else [("allow", ",".intercalate r.allow)])
    ++ [("content-length", Text.Decimal.render r.contentLength)]
    ++ (match r.contentType with
      | none => []
      | some type => [("content-type", type.text)])

end Response

end StoreLink.Gateway
