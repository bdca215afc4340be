import StoreLink.Duration
import StoreLink.Endpoint

/-!
# Settings

What a program of this library is told when it starts: where the store is, how long each step of an
exchange may take, and where the gateway listens. A setting is changed by a structure update, and
the last change of a field is the one that holds.
-/

namespace StoreLink

/-- The version of the library. -/
def version : String := "0.1.0"

/-- The host of the store unless another is given. -/
def defaultStoreHost : String := "127.0.0.1"

/-- The port of the store unless another is given. -/
def defaultStorePort : UInt16 := 8765

/-- The host on which the gateway listens unless another is given. -/
def defaultListenHost : String := "0.0.0.0"

/-- The port on which the gateway listens unless another is given. -/
def defaultListenPort : UInt16 := 8080

/-- The deadline in milliseconds unless another is given. -/
def defaultTimeoutMs : Nat := 5000

/-- The settings of a program. -/
structure Config where
  /-- Where the store listens. -/
  store : Endpoint := .tcp defaultStoreHost defaultStorePort
  /-- Milliseconds for each connect, write and read; 0 for no deadline. -/
  timeoutMs : Nat := defaultTimeoutMs
  /-- The host on which the gateway listens. -/
  listenHost : String := defaultListenHost
  /-- The port on which the gateway listens. -/
  listenPort : UInt16 := defaultListenPort
  deriving DecidableEq, Repr

namespace Config

/-- The deadline of an exchange, if there is one. -/
def timeout (c : Config) : Option Duration :=
  if c.timeoutMs = 0 then none else some (.ofMillis c.timeoutMs)

/-- The address on which the gateway listens. -/
def listenAddress (c : Config) : String :=
  Endpoint.hostPort c.listenHost c.listenPort

end Config

end StoreLink
