import UsbThroughput.Journal
import UsbThroughput.Rig

/-!
# What happens on a rig

The calls on a rig with their arguments and answers. A rig whose states are journals answers as
the rig below it does, and writes down every call but the readings of the clock.
-/

namespace UsbThroughput

/-- A call on a rig and its answer. -/
inductive RigEvent where
  | connected (target : Target) (result : Except SetupError Unit)
  | submitted (slot : Slot) (result : UsbResult Unit)
  | cancelled (slot : Slot) (result : UsbResult Unit)
  | polled (timeout : Duration) (answer : Polled)
  | wrote (endpoint : UInt8) (data : List UInt8) (timeout : Duration) (result : UsbResult Nat)
  | haltCleared (endpoint : UInt8) (result : UsbResult Unit)
  | disconnected
  | noted (notice : Notice)
  deriving Repr

/-- The rig that keeps a journal of the calls on another. -/
def Rig.journaled {σ : Type} (rig : Rig σ) : Rig (Journal RigEvent σ) where
  connect target := Journal.record (.connected target) (rig.connect target)
  submit slot := Journal.record (.submitted slot) (rig.submit slot)
  cancel slot := Journal.record (.cancelled slot) (rig.cancel slot)
  poll timeout := Journal.record (.polled timeout) (rig.poll timeout)
  write endpoint data timeout :=
    Journal.record (.wrote endpoint data timeout) (rig.write endpoint data timeout)
  clearHalt endpoint := Journal.record (.haltCleared endpoint) (rig.clearHalt endpoint)
  disconnect := Journal.recordChange .disconnected rig.disconnect
  now := Journal.silently rig.now
  note notice := Journal.recordChange (.noted notice) (rig.note notice)

end UsbThroughput
