import StoreLink.Exchange
import StoreLink.Session.Input
import StoreLink.Session.Output

/-!
# Interactive sessions

An operator types lines, and each of them is sent to the store as it is. The session shows what
comes back and goes on until the operator quits, the input ends or the connection fails.

* a blank line is skipped, and `QUIT` (in any case, with anything after it) ends the session;
* a line that is no request is reported and not sent;
* a value is shown as text, a status as it is, and a value that cannot be read as the line it came
  in;
* any other failure is reported, and one of the connection ends the session;
* a failure of the input or of one of the outputs ends the session at once.

`Session.wish` is what a line asks for, `Session.step` what it does, `Session.run` a whole session.
-/

namespace StoreLink

/-- How a session ends. -/
inductive SessionEnd where
  | quit
  | endOfInput
  | transportLost
  /-- The input or an output failed. -/
  | failed (error : IoError)
  deriving DecidableEq, Repr

/-- What a session has: the exchange's own state, the two outputs, and the requests sent so far. -/
structure SessionState (σ : Type) where
  peer : σ
  out : Output := {}
  err : Output := {}
  requests : Array RequestLine := #[]

/-- One part of a session: it goes on, or it ends the session. -/
abbrev Session (σ : Type) (α : Type) : Type :=
  EStateM SessionEnd (SessionState σ) α

namespace Session

variable {σ : Type}

/-- What is shown before the first line is read. -/
def banner : String :=
  "Commands: GET <key> | SET <key> <value> | DELETE <key> | USAGE | QUIT"

/-- The failure of a line that is not UTF-8. -/
def notText : IoError :=
  ⟨.invalidData, "stream did not contain valid UTF-8"⟩

/-! ## 1. Outputs and exchanges -/

/-- Goes on when nothing failed, and else ends the session with the failure. -/
def orFail : Option IoError → SessionState σ → EStateM.Result SessionEnd (SessionState σ) Unit
  | none, s => .ok () s
  | some e, s => .error (.failed e) s

/-- Shows a line. -/
def say (line : String) : Session σ Unit := fun s =>
  let (failure, out) := s.out.write (line.push '\n').toUTF8
  orFail failure { s with out }

/-- Flushes what was shown. -/
def flushOut : Session σ Unit := fun s =>
  let (failure, out) := s.out.flush
  orFail failure { s with out }

/-- Reports a failure of the link. -/
def report (e : LinkError) : Session σ Unit := fun s =>
  let (failure, err) := s.err.write (("error: " ++ e.message).push '\n').toUTF8
  orFail failure { s with err }

/-- Flushes what was reported. -/
def flushErr : Session σ Unit := fun s =>
  let (failure, err) := s.err.flush
  orFail failure { s with err }

/-- Sends a request. -/
def ask (exchange : Exchange σ Answer) (request : RequestLine) : Session σ Answer := fun s =>
  let (answer, peer) := exchange request s.peer
  .ok answer { s with peer, requests := s.requests.push request }

/-- Ends the session. -/
def stop {α : Type} (ending : SessionEnd) : Session σ α :=
  throw ending

/-! ## 2. One line -/

/-- What a typed line asks for. -/
inductive Wish where
  /-- Nothing: the line is blank. -/
  | nothing
  /-- To end the session. -/
  | quit
  /-- Something that is no request. -/
  | refused (fault : RequestLine.Fault)
  /-- To send this request. -/
  | send (request : RequestLine)

/-- The two words are the same but for the case of ASCII letters. -/
def sameLetters (a b : String) : Bool :=
  a.map Char.toLower == b.map Char.toLower

/-- The first word of the line is `QUIT`. -/
def asksToQuit (line : String) : Bool :=
  sameLetters (Text.firstWord line) CommandName.quit.text

/-- What a typed line asks for. -/
def wish (typed : String) : Wish :=
  let line := Text.trim typed
  if line.isEmpty then .nothing
  else if asksToQuit line then .quit
  else
    match RequestLine.ofText line with
    | .error fault => .refused fault
    | .ok request => .send request

/-- How a reply is shown. -/
def shown : Reply → String
  | .value bytes => Text.lossy bytes
  | .status text => text

/-- Shows or reports what an exchange brought back. -/
def present : Answer → Session σ Unit
  | .ok reply => do say (shown reply); flushOut
  | .error (.malformedResponse line _) => do say line; flushOut
  | .error e => do
    report e
    if e.isTransport then do flushErr; stop .transportLost
    else flushOut

/-- Does what a line asks for. -/
def fulfil (exchange : Exchange σ Answer) : Wish → Session σ Unit
  | .nothing => pure ()
  | .quit => stop .quit
  | .refused fault => report fault.toError
  | .send request => do
    let answer ← ask exchange request
    present answer

/-! ## 3. A whole session -/

/-- What one line of the input does: bytes that are no text end the session. -/
def step (exchange : Exchange σ Answer) : Input.Line → Session σ Unit
  | .failed e => stop (.failed e)
  | .text bytes =>
    match String.fromUTF8? bytes with
    | none => stop (.failed notText)
    | some typed => fulfil exchange (wish typed)

/-- What the lines of an input do, one after the other. -/
def steps (exchange : Exchange σ Answer) : List Input.Line → Session σ Unit
  | [] => pure ()
  | line :: rest => do step exchange line; steps exchange rest

/-- The banner, then every line of the input. -/
def converse (exchange : Exchange σ Answer) (reads : List ReadItem) : Session σ Unit := do
  say banner
  flushOut
  steps exchange (Input.lines reads)

/-- How a session ended, and what it had then. -/
structure Outcome (σ : Type) where
  ending : SessionEnd
  state : SessionState σ

/-- Runs a session to its end. -/
def run (exchange : Exchange σ Answer) (reads : List ReadItem) (s : SessionState σ) : Outcome σ :=
  match converse exchange reads s with
  | .ok _ s' => ⟨.endOfInput, s'⟩
  | .error ending s' => ⟨ending, s'⟩

end Session

end StoreLink
