/-!
# Durations

Spans of time in whole nanoseconds. A point in time is the span since the clock was started, so
the clock of a test bench is read as a `Duration` too.
-/

namespace UsbThroughput

/-- A span of time. -/
structure Duration where
  nanoseconds : Nat
  deriving DecidableEq, Repr

namespace Duration

/-- Nanoseconds in a second. -/
def perSecond : Nat := 1000000000

/-- Nanoseconds in a millisecond. -/
def perMillisecond : Nat := 1000000

/-- Nanoseconds in a microsecond. -/
def perMicrosecond : Nat := 1000

/-- No time at all. -/
def zero : Duration := ⟨0⟩

/-- A span of whole seconds and of nanoseconds beyond them. -/
def ofParts (seconds nanoseconds : Nat) : Duration :=
  ⟨seconds * perSecond + nanoseconds⟩

/-- A span of whole seconds. -/
def ofSeconds (seconds : Nat) : Duration := ofParts seconds 0

/-- A span of whole milliseconds. -/
def ofMilliseconds (milliseconds : Nat) : Duration := ⟨milliseconds * perMillisecond⟩

/-- A span of whole microseconds. -/
def ofMicroseconds (microseconds : Nat) : Duration := ⟨microseconds * perMicrosecond⟩

/-- The whole seconds of a span. -/
def seconds (span : Duration) : Nat := span.nanoseconds / perSecond

/-- What a span holds beyond its whole seconds, in nanoseconds. -/
def subsecond (span : Duration) : Nat := span.nanoseconds % perSecond

/-- What a span holds beyond its whole seconds, in whole microseconds. -/
def subsecondMicroseconds (span : Duration) : Nat := span.subsecond / perMicrosecond

/-- The whole milliseconds of a span. -/
def milliseconds (span : Duration) : Nat := span.nanoseconds / perMillisecond

/-- Whether a span is empty. -/
def isZero (span : Duration) : Bool := span.nanoseconds == 0

/-- The longer span that two spans make one after the other. -/
def add (first second : Duration) : Duration := ⟨first.nanoseconds + second.nanoseconds⟩

/-- The time from `start` to `finish`, or none if `finish` is the earlier. -/
def since (finish start : Duration) : Duration := ⟨finish.nanoseconds - start.nanoseconds⟩

/-- The shorter of two spans. -/
def min (first second : Duration) : Duration := ⟨Nat.min first.nanoseconds second.nanoseconds⟩

end Duration

end UsbThroughput
