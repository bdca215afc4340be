import StoreLink.Exchange

/-!
# Scripted exchanges

A script stands in for the store: it holds the answers beforehand and plays one of them for each
request, whatever the request is. When it is used up it answers as a connection that was reset.
-/

namespace StoreLink

/-- One line of a script: what becomes of one exchange. -/
inductive Scene where
  /-- This answer. -/
  | answer (answer : Answer)
  /-- The reply in this line. -/
  | line (text : String)
  /-- An exchange of the request over this stream. -/
  | stream (stream : Stream)
  /-- The exchange breaks off. -/
  | panic

namespace Scene

/-- What becomes of a request. -/
def play : Scene → RequestLine → Attempt
  | .answer given, _ => .finished given
  | .line text, _ => .finished (Reply.decode text)
  | .stream given, request => .finished (Exchange.through given request).answer
  | .panic, _ => .panicked

end Scene

/-- A list of scenes, one for each exchange to come. -/
abbrev Script := List Scene

namespace Script

/-- The answer of a script that is used up. -/
def usedUp : Answer :=
  .error (.io (.ofKind .connectionReset))

/-- Plays the next scene; the exchange may break off. -/
def attempt : Exchange Script Attempt
  | _, [] => (.finished usedUp, [])
  | request, scene :: rest => (scene.play request, rest)

/-- Plays the next scene. -/
def exchange : Exchange Script Answer := fun request script =>
  let (outcome, rest) := attempt request script
  (Exchange.settle outcome, rest)

end Script

end StoreLink
