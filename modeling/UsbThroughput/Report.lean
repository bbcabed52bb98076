import UsbThroughput.Time.Duration
import UsbThroughput.Usb.Direction
import UsbThroughput.Decimal.Positional

/-!
# Reports

What a finished test has measured, and the line that tells it. Amounts are in megabytes of a
million bytes.
-/

namespace UsbThroughput

/-- The result of a test. -/
structure Report where
  direction : Direction
  bytesTotal : Nat
  completions : Nat
  elapsed : Duration
  deriving DecidableEq, Repr

namespace Report

/-- A span in seconds, rounded: the whole seconds and the rest are rounded on their own. -/
def inSeconds (span : Duration) : Float :=
  span.seconds.toUInt64.toFloat + span.subsecond.toUInt64.toFloat / 1e9

/-- Bytes per second, or zero if no time has passed. -/
def rate (report : Report) : Float :=
  let seconds := inSeconds report.elapsed
  if seconds > 0 then report.bytesTotal.toUInt64.toFloat / seconds else 0

/-- An amount of bytes, or a rate, in megabytes. -/
def megabytes (bytes : Float) : String :=
  positionalOfBits (bytes / 1e6).toBits

/-- The report as a line of text. -/
def text (report : Report) : String :=
  let total := megabytes report.bytesTotal.toUInt64.toFloat
  s!"Exchanged {total}MB total at {megabytes report.rate}MB/s."

end Report

end UsbThroughput
