import UsbThroughput.Channel
import UsbThroughput.Meter
import UsbThroughput.Queue

/-!
# The state of a run

A run is one test on an opened device. It goes through stages, and each stage names what the next
step of the run does: the steps are in `UsbThroughput.Run.Flow` and `UsbThroughput.Run.Drain`, and
`UsbThroughput.Run.Step` puts them together.
-/

namespace UsbThroughput

/-- What the next step of a run does. -/
inductive Stage where
  /-- Submit the queue for the first time. -/
  | filling
  /-- Send the start command. -/
  | starting
  /-- Look after the halt, or wait for transfers to finish. -/
  | waiting
  /-- Act on the next finished transfer. -/
  | handling
  /-- Cancel what is in flight. -/
  | cancelling
  /-- Wait for cancelled transfers until the deadline. -/
  | draining (deadline : Duration)
  /-- Apply the next transfer that finished while draining. -/
  | settling (deadline : Duration)
  /-- Give up what is still in flight. -/
  | abandoning
  /-- Send the stop command and close the device. -/
  | closing
  /-- Nothing: the run is over. -/
  | ended (verdict : Except Failure Report)
  /-- Nothing: the run was broken off. -/
  | broken (fault : Fault)
  deriving Repr

/-- Whether there are no more steps. -/
def Stage.isOver : Stage → Bool
  | ended _ | broken _ => true
  | _ => false

/-- One test on an opened device, with the state of the rig. -/
structure Run (σ : Type) where
  settings : Settings
  direction : Direction
  rigState : σ
  queue : Queue
  meter : Meter
  channel : Channel
  /-- Finished transfers that have not been acted on. -/
  arrivals : List Completion := []
  /-- How many times the recovery from a halt was begun. -/
  recoveries : Nat := 0
  /-- Whether the queue is being emptied before a halt is cleared. -/
  halted : Bool := false
  stage : Stage := .filling
  deriving Repr

namespace Run

variable {σ : Type}

/-- A run before its first step. -/
def begin (settings : Settings) (direction : Direction) (rigState : σ) : Run σ where
  settings
  direction
  rigState
  queue := .ofSettings settings direction
  meter := { target := settings.dataSize }
  channel := { endpoint := settings.commandEndpoint, timeout := settings.commandTimeout }

variable (rig : Rig σ)

/-- Writes to the log. -/
def note (notice : Notice) (run : Run σ) : Run σ :=
  { run with rigState := rig.note notice run.rigState }

/-- Goes on with another stage. -/
def goTo (stage : Stage) (run : Run σ) : Run σ := { run with stage }

/-- Puts a slot back into the queue. -/
def putSlot (id : Nat) (slot : Slot) (run : Run σ) : Run σ :=
  { run with queue := run.queue.replace id slot }

/-- Keeps a failure, which ends the test. -/
def fail (failure : Failure) (run : Run σ) : Run σ :=
  let (now, rigState) := rig.now run.rigState
  { run with rigState, meter := run.meter.fail now failure }

/-- Breaks off the run. The device is closed, and no stop command is sent. -/
def breakOff (fault : Fault) (run : Run σ) : Run σ :=
  { run with rigState := rig.disconnect run.rigState, stage := .broken fault }

/-- Goes on after an attempt at submission: a slot that the device refused fails the test, and one
that was in flight breaks off the run. -/
def afterSubmission (result : Except Refusal Unit) (next : Stage) (run : Run σ) : Run σ :=
  match result with
  | .ok () => run.goTo next
  | .error (.rejected error) => ((run.note rig (.refused error)).fail rig error.failure).goTo next
  | .error (.inFlight slot) => run.breakOff rig (.slotInFlight slot)

/-- Submits the whole queue and goes on with `next`. -/
def fillQueue (next : Stage) (run : Run σ) : Run σ :=
  let ((result, queue), rigState) := run.queue.submit rig run.rigState
  { run with queue, rigState }.afterSubmission rig result next

end Run

end UsbThroughput
