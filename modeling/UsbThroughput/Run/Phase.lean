/-!
# Phases

How far a benchmark has come.
-/

namespace UsbThroughput

/-- How far a benchmark has come. It ends in one of the last two phases. -/
inductive Phase where
  | idle
  | deviceOpened
  | queueArmed
  | running
  | draining
  | reported
  | failed
  deriving DecidableEq, Repr

/-- The name of a phase in the log. -/
def Phase.name : Phase → String
  | idle => "Idle"
  | deviceOpened => "DeviceOpened"
  | queueArmed => "QueueArmed"
  | running => "Running"
  | draining => "Draining"
  | reported => "Reported"
  | failed => "Failed"

end UsbThroughput
