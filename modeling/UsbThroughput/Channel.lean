import UsbThroughput.Rig

/-!
# The command channel

Commands are written to an endpoint of their own. A command that fails is noted and the failure is
handed to the caller, but nothing else depends on it. The stop command goes out at most once.
-/

namespace UsbThroughput

/-- The endpoint for commands, and whether the stop command has been sent. -/
structure Channel where
  endpoint : UInt8
  timeout : Duration
  stopSent : Bool := false
  deriving DecidableEq, Repr

namespace Channel

variable {σ : Type} (rig : Rig σ)

/-- Sends a command. The device accepts it by taking exactly its one byte. -/
def send (channel : Channel) (command : Command) (state : σ) : UsbResult Unit × σ :=
  let state := rig.note (.sending command channel.endpoint) state
  match rig.write channel.endpoint [command.byte] channel.timeout state with
  | (.ok 1, state) => (.ok (), state)
  | (.ok _, state) => (.error .io, rig.note (.notAccepted command) state)
  | (.error error, state) => (.error error, rig.note (.sendFailed command error) state)

/-- Sends the stop command, unless that was done before. -/
def stop (channel : Channel) (state : σ) : (UsbResult Unit × Channel) × σ :=
  if channel.stopSent then ((.ok (), channel), state)
  else
    let channel := { channel with stopSent := true }
    let (result, state) := channel.send rig .stop state
    ((result, channel), state)

end Channel

end UsbThroughput
