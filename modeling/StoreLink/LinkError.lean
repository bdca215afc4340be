import StoreLink.IoError
import StoreLink.Text.Quoted

/-!
# Failures of the link

Everything that can go wrong between a request and its reply, with its wording. Text from outside
that may hold anything (a key, a reply line) is shown quoted.

`isTransport` tells the failures of the connection itself from the rest: after one of them an
interactive session ends, after any other it goes on.
-/

namespace StoreLink

/-- What went wrong. -/
inductive LinkError where
  /-- No connection to the store at this address. -/
  | connect (address : String) (source : IoError)
  /-- Writing the request or reading the reply failed. -/
  | io (source : IoError)
  /-- A value line whose payload cannot be read; it keeps the line as it came. -/
  | malformedResponse (line reason : String)
  /-- A status that does not answer the question asked. -/
  | protocolStatus (status : String)
  /-- A text that is no key. -/
  | invalidKey (key : String)
  /-- A text that is no request line. -/
  | invalidRequest (reason : String)
  /-- A setting that cannot be used. -/
  | config (reason : String)
  deriving DecidableEq, Repr, Inhabited

namespace LinkError

/-- The wording of a failure. -/
def message : LinkError → String
  | .connect address source => "cannot connect to store at " ++ address ++ ": " ++ source.message
  | .io source => "IO error: " ++ source.message
  | .malformedResponse line reason => "malformed response " ++ Text.quote line ++ ": " ++ reason
  | .protocolStatus status => "store replied with status: " ++ status
  | .invalidKey key => "invalid key: " ++ Text.quote key
  | .invalidRequest reason => "invalid request: " ++ reason
  | .config reason => "Configuration error: " ++ reason

/-- The connection itself failed: while connecting, writing or reading. -/
def isTransport : LinkError → Bool
  | .connect _ _ => true
  | .io _ => true
  | _ => false

end LinkError

end StoreLink
