import StoreLink.Config
import StoreLink.Exchange
import StoreLink.Places

/-!
# Connecting

A connector opens a connection for every exchange and drops it afterwards; nothing is pooled and
nothing is tried again. What it connects to is a `Site`: it has at most one Unix socket and no
network, and it records the lines that its store received.

* `Site.connect` is what a socket does when a connection is asked for;
* `Connector.send` is one exchange: connect, set the deadline, write, read, drop.
-/

namespace StoreLink

/-! ## 1. Sites -/

/-- What the store does with one connection: it reads a line, then answers with these bytes and
    closes, or it keeps silent. -/
inductive Turn where
  | answer (bytes : ByteArray)
  | silence

/-- What stands at the place of the socket. -/
inductive Socket where
  /-- Nothing. -/
  | absent
  /-- A socket on which nobody listens. -/
  | deaf
  /-- A socket whose store has so many turns left; after the last one it listens no more. -/
  | listening (turns : List Turn)

/-- A site with at most one socket and no network. -/
structure Site where
  /-- The names that lead to the socket from the root. -/
  socketAt : List String
  socket : Socket
  /-- What else stands where. -/
  around : Places := {}
  /-- The lines that the store received, the last one at the end. -/
  received : Array ByteArray := #[]

namespace Site

/-- The failure of a path that holds a NUL. -/
def pathHasNul : IoError :=
  ⟨.invalidInput, "paths must not contain interior null bytes"⟩

/-- The failure of a path that does not fit the address of a socket. -/
def pathTooLong : IoError :=
  ⟨.invalidInput, "path must be shorter than SUN_LEN"⟩

/-- The failure of a path without any character. -/
def pathEmpty : IoError :=
  ⟨.invalidInput, "Invalid argument (os error 22)"⟩

/-- The failure of a path to something on which nobody listens. -/
def refused : IoError :=
  ⟨.connectionRefused, "Connection refused (os error 111)"⟩

/-- The failure of a host that holds a NUL. -/
def hostHasNul : IoError :=
  ⟨.invalidInput, "file name contained an unexpected NUL byte"⟩

/-- The failure of every connection that needs a network. -/
def noNetwork : IoError :=
  ⟨.networkUnreachable, "Network is unreachable (os error 101)"⟩

/-- The failure of a deadline of no length. -/
def zeroTimeout : IoError :=
  ⟨.invalidInput, "cannot set a 0 duration timeout"⟩

/-- The failure of a read whose deadline passed. -/
def readTimedOut : IoError :=
  ⟨.wouldBlock, "Resource temporarily unavailable (os error 11)"⟩

/-- How many bytes the path of a socket has at most, and one more. -/
def pathCapacity : Nat := 108

/-- Why no socket can have this path, if so. -/
def pathFault? (path : String) : Option IoError :=
  if path.contains '\x00' then some pathHasNul
  else if pathCapacity ≤ path.utf8ByteSize then some pathTooLong
  else if path.isEmpty then some pathEmpty
  else none

/-- What stands where, the socket included; the directory it belongs to is there without it. -/
def places (site : Site) : Places :=
  match site.socket with
  | .absent =>
    { site.around with directories := site.socketAt.dropLast :: site.around.directories }
  | _ => { site.around with sockets := site.socketAt :: site.around.sockets }

/-- Takes the store's next turn, if it listens: that turn, and the site without it. -/
def accept (site : Site) : Except IoError (Turn × Site) :=
  match site.socket with
  | .listening (turn :: rest) => .ok (turn, { site with socket := .listening rest })
  | _ => .error refused

/-- Connects to the socket at a path. What is no socket refuses as a socket does on which nobody
    listens. -/
def connect (site : Site) (path : String) : Except IoError (Turn × Site) :=
  match pathFault? path with
  | some e => .error e
  | none =>
    match site.places.follow path with
    | .error e => .error e
    | .ok .socket => site.accept
    | .ok _ => .error refused

/-- Why no connection to this host is made. -/
def hostFault (host : String) : IoError :=
  if host.contains '\x00' then hostHasNul else noNetwork

/-- The stream of a connection on which the store takes this turn. -/
def streamOf : Turn → Stream
  | .answer bytes => { reads := [.chunk bytes] }
  | .silence => { reads := [.failure readTimedOut] }

end Site

/-! ## 2. Exchanges at a site -/

namespace Connector

/-- One exchange over a new connection. A deadline of no length is refused once it is to be set,
    that is, after connecting. -/
def send (endpoint : Endpoint) (timeout : Option Duration) : Exchange Site Answer :=
  fun request site =>
    match endpoint with
    | .tcp host port =>
      (.error (.connect (Endpoint.hostPort host port) (Site.hostFault host)), site)
    | .unix path =>
      match site.connect path with
      | .error e => (.error (.connect path e), site)
      | .ok (turn, site) =>
        if timeout.any Duration.isZero then (.error (.io Site.zeroTimeout), site)
        else
          ((Exchange.through (Site.streamOf turn) request).answer,
            { site with received := site.received.push request.bytes })

end Connector

/-- Where to connect, and how long each step may take. -/
structure Connector where
  endpoint : Endpoint
  timeout : Option Duration
  deriving DecidableEq, Repr

namespace Connector

/-- A connector; a deadline of no length counts as none. -/
def new (endpoint : Endpoint) (timeout : Option Duration) : Connector :=
  ⟨endpoint, timeout.filter (fun d => !d.isZero)⟩

/-- The connector of the settings. -/
def ofConfig (config : Config) : Connector :=
  new config.store config.timeout

/-- The exchange of a connector at a site. -/
def exchange (connector : Connector) : Exchange Site Answer :=
  send connector.endpoint connector.timeout

/-- The exchange of a connector, which never breaks off. -/
def attempt (connector : Connector) : Exchange Site Attempt := fun request site =>
  let (answer, site) := connector.exchange request site
  (.finished answer, site)

end Connector

end StoreLink
