/-!
# Failures of input and output

Whatever the link reads from, writes to or connects to can fail. A failure has a kind, on which the
program decides, and a text, which it only shows. One kind is special: an operation that was
interrupted is tried again where the operation is one read or one write.
-/

namespace StoreLink

/-- The kinds of failure. -/
inductive IoError.Kind where
  | notFound
  | permissionDenied
  | connectionRefused
  | connectionReset
  | connectionAborted
  | hostUnreachable
  | networkUnreachable
  | notConnected
  | addressInUse
  | addressNotAvailable
  | brokenPipe
  | alreadyExists
  | notADirectory
  | wouldBlock
  | invalidInput
  | invalidData
  | timedOut
  | writeZero
  | interrupted
  | unsupported
  | unexpectedEnd
  | outOfMemory
  | other
  deriving DecidableEq, Repr, Inhabited

/-- The text of a kind, shown when a failure brings no text of its own. -/
def IoError.Kind.description : IoError.Kind → String
  | .notFound => "entity not found"
  | .permissionDenied => "permission denied"
  | .connectionRefused => "connection refused"
  | .connectionReset => "connection reset"
  | .connectionAborted => "connection aborted"
  | .hostUnreachable => "host unreachable"
  | .networkUnreachable => "network unreachable"
  | .notConnected => "not connected"
  | .addressInUse => "address in use"
  | .addressNotAvailable => "address not available"
  | .brokenPipe => "broken pipe"
  | .alreadyExists => "entity already exists"
  | .notADirectory => "not a directory"
  | .wouldBlock => "operation would block"
  | .invalidInput => "invalid input parameter"
  | .invalidData => "invalid data"
  | .timedOut => "timed out"
  | .writeZero => "write zero"
  | .interrupted => "operation interrupted"
  | .unsupported => "unsupported"
  | .unexpectedEnd => "unexpected end of file"
  | .outOfMemory => "out of memory"
  | .other => "other error"

/-- A failure of input or output. -/
structure IoError where
  kind : IoError.Kind
  message : String
  deriving DecidableEq, Repr, Inhabited

namespace IoError

/-- A failure that brings no text of its own. -/
def ofKind (kind : Kind) : IoError :=
  ⟨kind, kind.description⟩

/-- The failed operation is to be tried again. -/
def isInterrupted (e : IoError) : Bool :=
  e.kind == .interrupted

end IoError

end StoreLink
