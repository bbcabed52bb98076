import UsbThroughput.Run.Basic

/-!
# Winding up

The steps of a run after the decision to end it. What is in flight is cancelled and waited for
until a deadline; what has not finished by then is abandoned. Neither the totals nor the verdict
change any more. At the end the stop command is sent and the device is closed.
-/

namespace UsbThroughput.Run

variable {σ : Type} (rig : Rig σ)

/-- Cancels what is in flight and sets the deadline. -/
def cancelQueue (run : Run σ) : Run σ :=
  let run := run.note rig (.moved .running .draining)
  let (queue, rigState) := run.queue.cancel rig run.rigState
  let run := { run with queue, rigState }.note rig (.cancelling queue.inFlight)
  let (now, rigState) := rig.now run.rigState
  { run with rigState }.goTo (.draining (now.add run.settings.drainTimeout))

/-- Waits for cancelled transfers, while there are any and there is time. -/
def drain (deadline : Duration) (run : Run σ) : Run σ :=
  if run.queue.inFlight = 0 then run.goTo .abandoning
  else
    let (now, rigState) := rig.now run.rigState
    let run := { run with rigState }
    let remaining := deadline.since now
    if remaining.isZero then run.goTo .abandoning
    else
      let (answer, rigState) := rig.poll (remaining.min run.settings.eventTimeout) run.rigState
      let run := { run with rigState, arrivals := run.arrivals ++ answer.delivered }
      match answer.result with
      | .ok () | .error .interrupted => run.goTo (.settling deadline)
      | .error error => (run.note rig (.drainPollFailed error)).goTo .abandoning

/-- Applies the next finished transfer to its slot, or waits again when there is none left. -/
def settle (deadline : Duration) (run : Run σ) : Run σ :=
  match run.arrivals with
  | [] => run.goTo (.draining deadline)
  | completion :: rest =>
      let run := { run with arrivals := rest }
      let run :=
        match run.queue.slot? completion.slot with
        | none => run
        | some slot =>
            run.putSlot completion.slot (slot.complete completion.status completion.length)
      run.note rig (.drained completion.slot completion.status)

/-- Gives up what is still in flight. -/
def abandonQueue (run : Run σ) : Run σ :=
  let (queue, rigState) := run.queue.abandon rig run.rigState
  { run with queue, rigState }.goTo .closing

/-- Sends the stop command. -/
def sendStop (run : Run σ) : Run σ :=
  let ((_, channel), rigState) := run.channel.stop rig run.rigState
  { run with channel, rigState }

/-- Closes the device. -/
def disconnect (run : Run σ) : Run σ := { run with rigState := rig.disconnect run.rigState }

/-- Reaches the verdict, sends the stop command and closes the device. -/
def close (run : Run σ) : Run σ :=
  let (now, rigState) := rig.now run.rigState
  let run := { run with rigState }
  let verdict := run.meter.finish now run.direction
  let run :=
    match verdict with
    | .ok report =>
        ((run.note rig (.report report)).sendStop rig).note rig (.moved .draining .reported)
    | .error _ => (run.sendStop rig).note rig (.moved .draining .failed)
  (run.disconnect rig).goTo (.ended verdict)

end UsbThroughput.Run
