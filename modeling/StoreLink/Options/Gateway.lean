import StoreLink.Config
import StoreLink.Options.Grammar
import StoreLink.Options.Number

/-!
# The command line of the gateway

`[-s store] [-p port] [-b host] [--timeout-ms n]`, with the variables `BLINK_STORE`, `PORT` and
`BLINK_TIMEOUT_MS` for the store, the port and the deadline.
-/

namespace StoreLink.Options

/-- The names of the options. -/
inductive GatewayOption where
  | store
  | port
  | bind
  | timeoutMs
  deriving DecidableEq, Repr

namespace GatewayOptions

/-- What the program says of its version. -/
def versionText : String := "blink-gateway " ++ version

/-- Sets an option, which is a setting of the gateway. -/
def assign : GatewayOption → String → Config → Option Config
  | .store, value, c => (Endpoint.parse value).toOption.map fun store => { c with store }
  | .port, value, c => (port? value).map fun listenPort => { c with listenPort }
  | .bind, value, c => some { c with listenHost := value }
  | .timeoutMs, value, c => (milliseconds? value).map fun timeoutMs => { c with timeoutMs }

/-- The grammar of the command line. -/
def grammar : Grammar GatewayOption Config where
  long name :=
    if name = "store" then some .store
    else if name = "port" then some .port
    else if name = "bind" then some .bind
    else if name = "timeout-ms" then some .timeoutMs
    else none
  short letter :=
    if letter = 's' then some .store
    else if letter = 'p' then some .port
    else if letter = 'b' then some .bind
    else none
  places := []
  fromEnvironment := [("BLINK_STORE", .store), ("PORT", .port), ("BLINK_TIMEOUT_MS", .timeoutMs)]
  assign

/-- Reads the command line. -/
def parse (environment : List (String × String)) (args : List String) : Parsed Config :=
  grammar.parse {} environment args

end GatewayOptions

end StoreLink.Options
