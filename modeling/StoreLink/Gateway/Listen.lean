import StoreLink.Gateway
import StoreLink.Site
import StoreLink.Options.Gateway

/-!
# Listening

Before the gateway serves anything it takes the port that its settings name. It then says where it
listens and serves until it is told to stop.
-/

namespace StoreLink.Gateway

/-- The failure of a port that another program has. -/
def addressInUse : IoError :=
  ⟨.addressInUse, "Address already in use (os error 98)"⟩

/-- Why the gateway cannot listen, if so; `taken` says that another program has the port. -/
def listenFault? (config : Config) (taken : Bool) : Option IoError :=
  if config.listenHost.contains '\x00' then some Site.hostHasNul
  else if taken then some addressInUse
  else none

/-- What the gateway says when it listens. -/
def announcement (config : Config) : String :=
  "http://" ++ config.listenAddress ++ " (store at " ++ config.store.display ++ ")"

/-- Starts to listen: what the gateway says then, or why it cannot. -/
def listen (config : Config) (taken : Bool) : Except LinkError String :=
  match listenFault? config taken with
  | some e => .error (.io e)
  | none => .ok (announcement config)

/-- How the program of the gateway ends when it is interrupted once it listens. -/
inductive ProgramEnd where
  /-- The command line was not understood. -/
  | usageError
  /-- It showed a text and did not start. -/
  | shown (text : String)
  /-- It could not listen. -/
  | failed (error : LinkError)
  /-- It listened, said so, and stopped. -/
  | stopped (announcement : String)

/-- The exit code of a program that ends so. -/
def ProgramEnd.exitCode : ProgramEnd → Nat
  | .usageError => 2
  | .shown _ => 0
  | .failed _ => 1
  | .stopped _ => 0

/-- How to use the program. -/
def usageText : String :=
  "Usage: blink-gateway [-s|--store STORE] [-p|--port PORT] [-b|--bind HOST] [--timeout-ms N]\n"

/-- Runs the program of the gateway up to where it listens; `taken` says of a port whether another
    program has it. -/
def program (taken : UInt16 → Bool) (environment : List (String × String)) (args : List String) :
    ProgramEnd :=
  match Options.GatewayOptions.parse environment args with
  | .usageError => .usageError
  | .help => .shown usageText
  | .version => .shown (Options.GatewayOptions.versionText.push '\n')
  | .run config =>
    match listen config (taken config.listenPort) with
    | .ok announcement => .stopped announcement
    | .error e => .failed e

end StoreLink.Gateway
