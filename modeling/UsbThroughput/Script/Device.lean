import UsbThroughput.Script.Host

/-!
# Scripted devices

A rig whose device answers from a script. Slots are known to the script by their numbers.
-/

namespace UsbThroughput

/-- The answers of a device that exists only on paper. -/
structure ScriptedDevice where
  host : Host (UsbResult Unit) TransferStatus
  /-- Why the device cannot be opened, if it cannot. -/
  refusal : Option SetupError := none
  /-- The results of writes. Without one all bytes are taken. -/
  writes : List (Option (UsbResult Nat)) := []
  deriving Repr

namespace ScriptedDevice

/-- Applies a call on the host. -/
def onHost {α : Type}
    (call : Host (UsbResult Unit) TransferStatus → α × Host (UsbResult Unit) TransferStatus)
    (device : ScriptedDevice) : α × ScriptedDevice :=
  let (answer, host) := call device.host
  (answer, { device with host })

/-- The completion of a scripted delivery. -/
def completionOf (delivery : Delivery TransferStatus) : Completion :=
  { slot := delivery.id, status := delivery.status, length := delivery.length.toNat }

/-- Answers an event call. -/
def poll (timeout : Duration) (device : ScriptedDevice) : Polled × ScriptedDevice :=
  let ((deliveries, result), device) := device.onHost (Host.handleEvents .named timeout)
  ({ delivered := deliveries.map completionOf, result }, device)

/-- Takes bytes that are written to an endpoint. -/
def write (data : List UInt8) (device : ScriptedDevice) : UsbResult Nat × ScriptedDevice :=
  let (entry, rest) := Script.next device.writes
  (entry.getD (.ok data.length), { device with writes := rest })

/-- Scripted devices as a rig. -/
def rig : Rig ScriptedDevice where
  connect _ device :=
    match device.refusal with
    | some error => (.error error, device)
    | none => (.ok (), device)
  submit slot := onHost (Host.submit .named slot.id slot.length)
  cancel slot := onHost (Host.cancel .named slot.id)
  poll := poll
  write _ data _ := write data
  clearHalt _ := onHost (Host.clearHalt .named)
  disconnect := id
  now := onHost Host.now
  note _ := id

end ScriptedDevice

end UsbThroughput
