import StoreLink.Config
import StoreLink.Options.Grammar
import StoreLink.Options.Number

/-!
# The command line of the interactive client

`[host] [port] [--unix path] [--timeout-ms n]`, where a socket path takes the place of host and
port, and the variable `BLINK_TIMEOUT_MS` stands in for the deadline.
-/

namespace StoreLink.Options

/-- The names of the options. -/
inductive ClientOption where
  | host
  | port
  | unix
  | timeoutMs
  deriving DecidableEq, Repr

/-- The options of the client. -/
structure ClientOptions where
  host : String := defaultStoreHost
  port : UInt16 := defaultStorePort
  unix : Option String := none
  timeoutMs : Nat := defaultTimeoutMs
  deriving DecidableEq, Repr

namespace ClientOptions

/-- What the program says of its version. -/
def versionText : String := "blink-cli " ++ version

/-- Sets an option. -/
def assign : ClientOption → String → ClientOptions → Option ClientOptions
  | .host, value, o => some { o with host := value }
  | .port, value, o => (port? value).map fun port => { o with port }
  | .unix, value, o => if value.isEmpty then none else some { o with unix := some value }
  | .timeoutMs, value, o => (milliseconds? value).map fun timeoutMs => { o with timeoutMs }

/-- The grammar of the command line. -/
def grammar : Grammar ClientOption ClientOptions where
  long name :=
    if name = "unix" then some .unix
    else if name = "timeout-ms" then some .timeoutMs
    else none
  short _ := none
  places := [.host, .port]
  fromEnvironment := [("BLINK_TIMEOUT_MS", .timeoutMs)]
  assign

/-- Reads the command line. -/
def parse (environment : List (String × String)) (args : List String) : Parsed ClientOptions :=
  grammar.parse {} environment args

/-- The settings that the options ask for. -/
def config (o : ClientOptions) : Config :=
  { store := match o.unix with
      | some path => .unix path
      | none => .tcp o.host o.port
    timeoutMs := o.timeoutMs }

end ClientOptions

end StoreLink.Options
