import StoreLink.Exchange

/-!
# Typed calls

A call is a command together with the reading of its reply: what counts as a success, and with which
result. Every call is exactly one exchange (`Call.run`), and its result is a function of the answer
alone (`Call.result`).

The store grants a `SET` or a `DELETE` with a status that begins with `OK`; a `DELETE` also with
`DELETED`. A reply that fits none of the readings is an error that keeps its status.
-/

namespace StoreLink

/-- A command and the reading of its reply. -/
structure Call (α : Type) where
  command : Command
  read : Reply → Except LinkError α

namespace Call

variable {α σ : Type}

/-- The request of a call. -/
def request (call : Call α) : RequestLine :=
  RequestLine.ofCommand call.command

/-- The result of a call, given the answer: a failure stays as it is. -/
def result (call : Call α) : Answer → Except LinkError α
  | .ok reply => call.read reply
  | .error e => .error e

/-- Makes the call, in one exchange. -/
def run (call : Call α) (exchange : Exchange σ Answer) (s : σ) : Except LinkError α × σ :=
  let (answer, s') := exchange call.request s
  (call.result answer, s')

end Call

namespace Client

/-- The error for a reply that does not answer the call. -/
def misfit : Reply → LinkError
  | .status text => .protocolStatus text
  | .value bytes =>
    .protocolStatus ("unexpected VALUE reply (" ++ Text.Decimal.render bytes.size ++ " bytes)")

/-- The value of a key, `none` when it is not stored. -/
def get (key : Key) : Call (Option ByteArray) where
  command := .get key
  read
    | .value bytes => .ok (some bytes)
    | reply => if reply.saysMissing then .ok none else .error (misfit reply)

/-- Stores a value under a key. -/
def set (key : Key) (value : ByteArray) : Call Unit where
  command := .set key value
  read reply := if reply.grants then .ok () else .error (misfit reply)

/-- Removes a key; whether it was stored. -/
def delete (key : Key) : Call Bool where
  command := .delete key
  read reply :=
    if reply.grants || reply.saysRemoved then .ok true
    else if reply.saysMissing then .ok false
    else .error (misfit reply)

/-- How many bytes the store holds. -/
def usage : Call Nat where
  command := .usage
  read reply :=
    match reply.heldBytes? with
    | some n => .ok n
    | none => .error (misfit reply)

end Client

end StoreLink
