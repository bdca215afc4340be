import StoreLink.Session
import StoreLink.Site
import StoreLink.Options.Client

/-!
# The program of the interactive client

One run of the program: read the command line, hold one session over a connector, and end with an
exit code. Losing the connection and a failure of the terminal are exits with 1, a command line that
is not understood one with 2.
-/

namespace StoreLink.Session

/-- What became of a run of the program. -/
inductive ProgramEnd where
  /-- The command line was not understood. -/
  | usageError
  /-- It showed a text and held no session. -/
  | shown (text : String)
  /-- It held a session with the store at this endpoint. -/
  | held (store : Endpoint) (outcome : Outcome Site)

/-- How to use the program. -/
def usageText : String :=
  "Usage: blink-cli [HOST] [PORT] [--unix PATH] [--timeout-ms N]\n"

/-- The exit code of a session that ended so. -/
def exitCodeOf : SessionEnd → Nat
  | .quit => 0
  | .endOfInput => 0
  | .transportLost => 1
  | .failed _ => 1

/-- The exit code of a program that ends so. -/
def ProgramEnd.exitCode : ProgramEnd → Nat
  | .usageError => 2
  | .shown _ => 0
  | .held _ outcome => exitCodeOf outcome.ending

/-- Runs the program at a site. -/
def program (site : Site) (environment : List (String × String)) (args : List String)
    (input : List ReadItem) : ProgramEnd :=
  match Options.ClientOptions.parse environment args with
  | .usageError => .usageError
  | .help => .shown usageText
  | .version => .shown (Options.ClientOptions.versionText.push '\n')
  | .run options =>
    let config := options.config
    .held config.store (run (Connector.ofConfig config).exchange input { peer := site })

end StoreLink.Session
