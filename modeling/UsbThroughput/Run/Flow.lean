import UsbThroughput.Run.Basic

/-!
# Keeping the queue full

The steps of a run from its first submission to the decision to end it. Each slot is submitted
again as soon as its transfer completes. When a transfer stalls, the settings decide: the slot is
left idle, or the whole queue is cancelled, the halt of the endpoint is cleared once nothing is in
flight, and every slot is submitted again.
-/

namespace UsbThroughput.Run

variable {σ : Type} (rig : Rig σ)

/-- Starts the clock and submits the queue. -/
def fill (run : Run σ) : Run σ :=
  let (now, rigState) := rig.now run.rigState
  { run with rigState, meter := run.meter.start now }.fillQueue rig .starting

/-- Sends the start command, unless the test is already over. A command that is lost shows as
transfers that time out, so its result is of no concern here. -/
def sendStart (run : Run σ) : Run σ :=
  let run := run.note rig (.moved .deviceOpened .queueArmed)
  let run :=
    if run.meter.terminated then run
    else
      let (_, rigState) := run.channel.send rig (.start run.direction) run.rigState
      { run with rigState }
  (run.note rig (.moved .queueArmed .running)).goTo .waiting

/-- Clears the halt of the endpoint and submits the queue again. -/
def recover (run : Run σ) : Run σ :=
  let endpoint := run.settings.endpoint run.direction
  let run := run.note rig (.clearingHalt endpoint)
  match rig.clearHalt endpoint run.rigState with
  | (.ok (), rigState) => { run with rigState, halted := false }.fillQueue rig .waiting
  | (.error error, rigState) =>
      ({ run with rigState }.note rig (.haltRemains endpoint error)).fail rig .stalled

/-- Waits for transfers to finish. A call that was interrupted is as good as one that was not; any
other error ends the test, and leaves what came with it to be settled later. -/
def poll (run : Run σ) : Run σ :=
  let (answer, rigState) := rig.poll run.settings.eventTimeout run.rigState
  let run := { run with rigState, arrivals := run.arrivals ++ answer.delivered }
  match answer.result with
  | .ok () | .error .interrupted => run.goTo .handling
  | .error error =>
      ((run.note rig (.pollFailed error)).fail rig (.ofUsbError error)).goTo .cancelling

/-- Looks after the test between two batches of finished transfers. -/
def wait (run : Run σ) : Run σ :=
  if run.meter.terminated then run.goTo .cancelling
  else if run.queue.inFlight = 0 then
    if run.halted then run.recover rig
    else ((run.note rig .nothingInFlight).fail rig .stalled).goTo .cancelling
  else run.poll rig

/-- Counts a completed transfer and submits its slot again, unless that ends the test or the queue
is being emptied. -/
def onCompleted (id : Nat) (slot : Slot) (run : Run σ) : Run σ :=
  let (now, rigState) := rig.now run.rigState
  let run := { run with rigState }
  match run.meter.record? now slot.moved with
  | none => run.breakOff rig .countOverflow
  | some meter =>
      let run := { run with meter }.note rig (.completed id slot.moved meter.bytesTotal)
      if meter.terminated then run.note rig .targetReached
      else if run.halted then run
      else
        let ((result, slot), rigState) := slot.submit rig run.rigState
        ({ run with rigState }.putSlot id slot).afterSubmission rig result .handling

/-- Begins the recovery from a halt, if there is none under way and an attempt is left. Every
transfer behind a halt stalls in the same way, so later stalls of one recovery are not counted. -/
def onHalt (maxAttempts id : Nat) (run : Run σ) : Run σ :=
  if run.halted then run.note rig (.stalledWhileHalted id)
  else if maxAttempts ≤ run.recoveries then
    (run.note rig (.stalledAgain id)).fail rig .stalled
  else
    let run := { run with recoveries := run.recoveries + 1, halted := true }
    let run := run.note rig (.recovering run.recoveries maxAttempts)
    let (queue, rigState) := run.queue.cancel rig run.rigState
    { run with queue, rigState }

/-- Acts on a stalled transfer. -/
def onStall (id : Nat) (slot : Slot) (run : Run σ) : Run σ :=
  match run.settings.stallRecovery with
  | .leaveIdle => (run.note rig .backingOff).putSlot id slot.setAside
  | .clearHalt maxAttempts => (run.putSlot id slot.setAside).onHalt rig maxAttempts id

/-- Acts on a transfer that neither completed nor stalled. -/
def onFailed (id : Nat) (status : TransferStatus) (run : Run σ) : Run σ :=
  if status = .cancelled && run.halted then run.note rig (.cancelledForRecovery id)
  else
    let run := run.note rig (.transferFailed id status)
    match Failure.ofStatus status with
    | some failure => run.fail rig failure
    | none => run

/-- Acts on a finished transfer. What finishes after the decision to end the test is only applied
to its slot. -/
def handle (completion : Completion) (run : Run σ) : Run σ :=
  let id := completion.slot
  match run.queue.slot? id with
  | none => run.note rig (.unknownSlot id)
  | some slot =>
      let slot := slot.complete completion.status completion.length
      let run := run.putSlot id slot
      if run.meter.terminated then run.note rig (.finishedLate id completion.status)
      else
        match completion.status with
        | .completed => run.onCompleted rig id slot
        | .stall => run.onStall rig id slot
        | status => run.onFailed rig id status

/-- Acts on the next finished transfer, or waits again when there is none left. -/
def handleNext (run : Run σ) : Run σ :=
  match run.arrivals with
  | [] => run.goTo .waiting
  | completion :: rest => { run with arrivals := rest }.handle rig completion

end UsbThroughput.Run
