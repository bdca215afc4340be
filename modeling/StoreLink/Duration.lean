/-!
# Spans of time

A deadline is a span of time, given in milliseconds by a setting and in seconds and nanoseconds
elsewhere.
-/

namespace StoreLink

/-- A span of time. -/
structure Duration where
  nanoseconds : Nat
  deriving DecidableEq, Repr

namespace Duration

/-- How many nanoseconds a second has. -/
def perSecond : Nat := 1000000000

/-- How many nanoseconds a millisecond has. -/
def perMilli : Nat := 1000000

/-- The span of so many milliseconds. -/
def ofMillis (ms : Nat) : Duration :=
  ⟨ms * perMilli⟩

/-- The span of so many seconds and nanoseconds. -/
def ofParts (seconds nanos : Nat) : Duration :=
  ⟨seconds * perSecond + nanos⟩

/-- The whole seconds of a span. -/
def seconds (d : Duration) : Nat :=
  d.nanoseconds / perSecond

/-- The nanoseconds of a span beyond its whole seconds. -/
def nanos (d : Duration) : Nat :=
  d.nanoseconds % perSecond

/-- The span has no length. -/
def isZero (d : Duration) : Bool :=
  d.nanoseconds == 0

end Duration

end StoreLink
