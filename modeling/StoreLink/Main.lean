import Std.Async.DNS
import Std.Async.Signal
import Std.Async.TCP
import Std.Async.Timer
import Std.Http.Server
import StoreLink.Gateway.Listen
import StoreLink.Script
import StoreLink.Session.Program

/-!
# The programs

The interactive client and the gateway, as programs over a network. What is read, sent, answered and
shown is settled elsewhere; this module opens connections, moves bytes and ends processes.

* `client …` holds a session over the terminal;
* `gateway …` serves HTTP until it is interrupted.

Only TCP is dialled here: a store on a Unix socket is refused with a failure of its own.
-/

namespace StoreLink.Program

open Std.Async Std.Net

/-! ## 1. The store -/

/-- The kind of a failure of the system. -/
def kindOf : IO.Error → IoError.Kind
  | .alreadyExists .. => .alreadyExists
  | .resourceBusy .. => .addressInUse
  | .resourceVanished .. => .brokenPipe
  | .unsupportedOperation .. => .unsupported
  | .timeExpired .. => .timedOut
  | .interrupted .. => .interrupted
  | .noFileOrDirectory .. => .notFound
  | .invalidArgument .. => .invalidInput
  | .permissionDenied .. => .permissionDenied
  | .resourceExhausted .. => .outOfMemory
  | .unexpectedEof => .unexpectedEnd
  | _ => .other

/-- A failure of the system as one of the link. -/
def failureOf (e : IO.Error) : IoError :=
  ⟨kindOf e, toString e⟩

/-- The failure of a store on a Unix socket. -/
def unixUnsupported : LinkError :=
  .config "unix sockets are not supported on this platform"

/-- The failure of a host that has no address. -/
def noAddress : IO.Error :=
  .userError "address resolved to nothing"

/-- The failure of a step whose deadline passed. -/
def deadlinePassed : IO.Error :=
  .timeExpired 110 IoError.Kind.timedOut.description

/-- Lets a step take no longer than its deadline. -/
def within {α : Type} [Inhabited α] (timeout : Option Duration) (action : Async α) : Async α :=
  match timeout with
  | none => action
  | some d => Async.race action do
      sleep (.ofNat (d.nanoseconds / Duration.perMilli))
      throw deadlinePassed

/-- An address and a port. -/
def socketAddress (port : UInt16) : IPAddr → SocketAddress
  | .v4 addr => .v4 ⟨addr, port⟩
  | .v6 addr => .v6 ⟨addr, port⟩

/-- A host without the brackets around an address that holds colons. -/
def bareHost (host : String) : String :=
  ((host.dropWhile '[').dropEndWhile ']').copy

/-- The addresses of a host. -/
def addressesOf (host : String) (port : UInt16) : Async (List IPAddr) := do
  let found ← DNS.getAddrInfo (bareHost host) (Text.Decimal.render port.toNat)
  return found.toList

/-- Connects to the first of the addresses that takes the connection, `e` being the failure so far.
    -/
def connectFirst (timeout : Option Duration) (port : UInt16) (e : IO.Error) :
    List IPAddr → Async TCP.Socket.Client
  | [] => throw e
  | address :: rest => do
    let socket ← TCP.Socket.Client.mk
    try
      within timeout (socket.connect (socketAddress port address))
      socket.noDelay
      return socket
    catch e => connectFirst timeout port e rest

/-- How many bytes are asked for at a time. -/
def readSize : UInt64 := 65536

/-- Reads until a line ends, the input ends or fails, or `room` bytes have come. -/
partial def collect (timeout : Option Duration) (socket : TCP.Socket.Client) (room : Nat)
    (reads : Array ReadItem) : Async (Array ReadItem) := do
  if room = 0 then return reads
  try
    match ← within timeout (socket.recv? readSize) with
    | none => return reads
    | some bytes =>
      let reads := reads.push (.chunk bytes)
      if bytes.data.contains Bytes.newline then return reads
      collect timeout socket (room - bytes.size) reads
  catch e => return reads.push (.failure (failureOf e))

/-- One exchange over an open connection. -/
def converse (timeout : Option Duration) (socket : TCP.Socket.Client) (request : RequestLine) :
    Async Answer := do
  try
    within timeout (socket.send request.bytes)
    let reads ← collect timeout socket Exchange.maxResponseLine #[]
    return (Exchange.through { reads := reads.toList } request).answer
  catch e => return (Exchange.through { writes := [.failure (failureOf e)] } request).answer

/-- One exchange over a new connection. -/
def exchange (connector : Connector) (request : RequestLine) : Async Answer := do
  match connector.endpoint with
  | .unix _ => return .error unixUnsupported
  | .tcp host port =>
    let timeout := connector.timeout
    let dialled ← try
        let socket ← connectFirst timeout port noAddress (← addressesOf host port)
        pure (Except.ok socket)
      catch e => pure (Except.error e)
    match dialled with
    | .error e => return .error (.connect (Endpoint.hostPort host port) (failureOf e))
    | .ok socket => converse timeout socket request

/-! ## 2. The interactive client -/

/-- The request that a line asks to send, if any. -/
def requestOf? : Input.Line → Option RequestLine
  | .failed _ => none
  | .text bytes =>
    match (String.fromUTF8? bytes).map Session.wish with
    | some (.send request) => some request
    | _ => none

/-- Writes out what a session showed and reported. -/
def emit (s : SessionState Unit) : IO Unit := do
  let out ← IO.getStdout
  let err ← IO.getStderr
  out.write s.out.taken
  err.write s.err.taken
  out.flush
  err.flush

/-- Runs a part of a session; how the session ends, if it does. -/
def perform (part : Session Unit Unit) : IO (Option SessionEnd) := do
  match part { peer := () } with
  | .ok () s => do emit s; return none
  | .error ending s => do emit s; return some ending

/-- Does what one line of the input asks for. -/
def takeLine (connector : Connector) (line : Input.Line) : IO (Option SessionEnd) := do
  match requestOf? line with
  | none => perform (Session.step (fun _ s => (Script.usedUp, s)) line)
  | some request =>
    let answer ← (exchange connector request).block
    perform (Session.step (fun _ s => (answer, s)) line)

/-- Does what the lines ask for, until the session ends. -/
def takeLines (connector : Connector) : List Input.Line → IO (Option SessionEnd)
  | [] => return none
  | line :: rest => do
    match ← takeLine connector line with
    | some ending => return some ending
    | none => takeLines connector rest

/-- One read of the terminal. -/
def readTerminal : IO ReadItem := do
  try
    return .chunk (← (← IO.getStdin).read readSize.toUSize)
  catch e => return .failure (failureOf e)

/-- Reads the terminal to its end, where `begun` is the line begun before. -/
partial def attend (connector : Connector) (begun : ByteArray) : IO SessionEnd := do
  match ← readTerminal with
  | .failure e =>
    if e.isInterrupted then attend connector begun else return .failed e
  | .chunk bytes =>
    if bytes.isEmpty && begun.isEmpty then return .endOfInput
    let pieces : Input.Cut :=
      if bytes.isEmpty then ⟨#[.text begun], .empty⟩ else Input.cut begun bytes
    match ← takeLines connector pieces.lines.toList with
    | some ending => return ending
    | none => attend connector pieces.begun

/-- The values of environment variables, of those that are set. -/
def environmentOf (names : List String) : IO (List (String × String)) := do
  let values ← names.mapM fun name => return (name, ← IO.getEnv name)
  return values.filterMap fun (name, value?) => value?.map fun value => (name, value)

/-- The interactive client. -/
def client (args : List String) : IO Nat := do
  let environment ← environmentOf (Options.ClientOptions.grammar.fromEnvironment.map (·.1))
  match Options.ClientOptions.parse environment args with
  | .usageError => do IO.eprint Session.usageText; return Session.ProgramEnd.usageError.exitCode
  | .help => do IO.print Session.usageText; return 0
  | .version => do IO.println Options.ClientOptions.versionText; return 0
  | .run options =>
    let ending ← match ← perform (do Session.say Session.banner; Session.flushOut) with
      | some ending => pure ending
      | none => attend (.ofConfig options.config) .empty
    match ending with
    | .failed e => IO.eprintln ("Terminal I/O failed: " ++ e.message)
    | _ => pure ()
    return Session.exitCodeOf ending

/-! ## 3. The gateway -/

/-- Reads a body, of one that is too long no more than shows this. -/
partial def readBody (body : Std.Http.Body.Stream) (read : ByteArray) : Async ByteArray := do
  if Gateway.maxBody < read.size then return read
  match ← body.recv with
  | none => return read
  | some chunk => readBody body (read ++ chunk.data)

/-- The status line and the headers of a response. -/
def headOf (response : Gateway.Response) : Std.Http.Response.Builder :=
  let status := (Std.Http.Status.ofCode none response.status.toUInt16).getD .internalServerError
  response.headers.foldl
    (fun head (name, value) => head.header (.ofString! name) (.ofString! value))
    (Std.Http.Response.withStatus status)

/-- The handler of the gateway: at most one exchange for each request. -/
structure Handler where
  connector : Connector

/-- What is to be done for a request that came in over the network. -/
def Handler.plan (request : Std.Http.Request Std.Http.Body.Stream) : Async Gateway.Plan := do
  let method := toString request.line.method
  let body ← readBody request.body .empty
  return Gateway.plan { method, target := toString request.line.uri, body }

instance : Std.Http.Server.Handler Handler where
  onRequest handler request := do
    let response ← match ← Handler.plan request with
      | .answer response => pure response
      | .ask question => do
        let answer ← exchange handler.connector question.request
        pure (question.respond (.finished answer))
    let body ← Std.Http.Body.Full.ofByteArray response.body
    return (headOf response).body (.ofBody body)

/-- Serves until the program is interrupted. -/
def serve (config : Config) : Async Unit := do
  match ← addressesOf config.listenHost config.listenPort with
  | [] => throw noAddress
  | address :: _ =>
    let server ← Std.Http.Server.serve (socketAddress config.listenPort address)
      (⟨.ofConfig config⟩ : Handler) { serverName := none }
    IO.println ("Gateway listening on " ++ Gateway.announcement config)
    (← IO.getStdout).flush
    let signal ← Signal.Waiter.mk .sigint false
    let _ ← await (← signal.wait)
    server.shutdownAndWait

/-- The gateway. -/
def gateway (args : List String) : IO Nat := do
  let environment ← environmentOf (Options.GatewayOptions.grammar.fromEnvironment.map (·.1))
  match Options.GatewayOptions.parse environment args with
  | .usageError => do IO.eprint Gateway.usageText; return Gateway.ProgramEnd.usageError.exitCode
  | .help => do IO.print Gateway.usageText; return 0
  | .version => do IO.println Options.GatewayOptions.versionText; return 0
  | .run config =>
    try
      (serve config).block
      return 0
    catch e =>
      let error : LinkError := .io (failureOf e)
      IO.eprintln ("Gateway error: " ++ error.message)
      return (Gateway.ProgramEnd.failed error).exitCode

end StoreLink.Program

/-- Runs the program that the first word names. -/
def main (args : List String) : IO UInt32 := do
  match args with
  | "client" :: rest => return (← StoreLink.Program.client rest).toUInt32
  | "gateway" :: rest => return (← StoreLink.Program.gateway rest).toUInt32
  | _ =>
    IO.eprint (StoreLink.Session.usageText ++ StoreLink.Gateway.usageText)
    return 2
