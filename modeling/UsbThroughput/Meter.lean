import UsbThroughput.Failure.Cause
import UsbThroughput.Report

/-!
# The meter of a test

A meter adds up the bytes of completed transfers, keeps the first failure, and times the test from
its start to the decision to end it. The decision falls when the total exceeds the target or when
something fails, and is final.

The clock is read by the caller: each operation that may have to set a time takes the reading.
-/

namespace UsbThroughput

/-- The largest count that a meter can hold. -/
def Meter.capacity : Nat := UInt64.size - 1

/-- The running totals of one test. -/
structure Meter where
  /-- The test ends once more than this many bytes have been exchanged. -/
  target : Nat
  bytesTotal : Nat := 0
  completions : Nat := 0
  started : Option Duration := none
  finished : Option Duration := none
  failure : Option Failure := none
  deriving DecidableEq, Repr

namespace Meter

/-- Whether the decision to end the test has fallen. -/
def terminated (meter : Meter) : Bool :=
  meter.target < meter.bytesTotal || meter.failure.isSome

/-- Starts the clock. Only the first start counts. -/
def start (now : Duration) (meter : Meter) : Meter :=
  { meter with started := meter.started.or (some now) }

/-- Sets the time of the decision, unless it is set already. -/
def freeze (now : Duration) (meter : Meter) : Meter :=
  { meter with finished := meter.finished.or (some now) }

/-- Adds a completed transfer, unless a failure is kept. There is no result when a count would
exceed the capacity. -/
def record? (now : Duration) (bytes : Nat) (meter : Meter) : Option Meter :=
  if meter.failure.isSome then some meter
  else if capacity < meter.bytesTotal + bytes ∨ capacity < meter.completions + 1 then none
  else
    let counted :=
      { meter with bytesTotal := meter.bytesTotal + bytes, completions := meter.completions + 1 }
    some (if counted.target < counted.bytesTotal then counted.freeze now else counted)

/-- Keeps a failure, unless an earlier one is kept. -/
def fail (now : Duration) (failure : Failure) (meter : Meter) : Meter :=
  if meter.failure.isSome then meter
  else { meter with failure := some failure }.freeze now

/-- The time from the start to the decision, or to `now` while the test goes on. -/
def elapsed (now : Duration) (meter : Meter) : Duration :=
  match meter.started with
  | none => .zero
  | some started => (meter.finished.getD now).since started

/-- The failure that was kept, or else the report. -/
def finish (now : Duration) (direction : Direction) (meter : Meter) : Except Failure Report :=
  match meter.failure with
  | some failure => .error failure
  | none =>
      .ok
        { direction
          bytesTotal := meter.bytesTotal
          completions := meter.completions
          elapsed := meter.elapsed now }

end Meter

end UsbThroughput
