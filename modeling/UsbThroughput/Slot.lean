import UsbThroughput.Buffer
import UsbThroughput.Time.Duration
import UsbThroughput.Usb.Direction
import UsbThroughput.Usb.Transfer

/-!
# Transfer slots

One of the transfers that a test keeps in flight. The buffer is set aside once and lent to the
device at every submission. This module holds what happens to a slot without the device;
submission and cancellation are in `UsbThroughput.Slot.Submission`.
-/

namespace UsbThroughput

/-- Where a slot is in its life. -/
inductive SlotState where
  | idle
  | submitted
  | completed
  | cancelled
  | failed
  deriving DecidableEq, Repr

/-- The state in which a finished transfer leaves its slot. A stalled slot may be used again. -/
def SlotState.ofStatus : TransferStatus → SlotState
  | .completed => completed
  | .cancelled => cancelled
  | .stall => idle
  | _ => failed

/-- A transfer and its buffer. -/
structure Slot where
  id : Nat
  /-- The address of the endpoint, direction bit included. -/
  endpoint : UInt8
  buffer : Buffer
  timeout : Duration
  state : SlotState := .idle
  /-- How many bytes the last completion said were moved, at most the whole buffer. -/
  actualLength : Nat := 0
  cancelRequested : Bool := false
  deriving DecidableEq, Repr

namespace Slot

/-- A slot that receives up to `length` bytes in each transfer. -/
def inbound (id : Nat) (endpoint : UInt8) (length : Nat) (timeout : Duration) : Slot :=
  { id, endpoint := Direction.inbound.address endpoint, buffer := .zeros length, timeout }

/-- A slot that sends `payload` in each transfer. -/
def outbound (id : Nat) (endpoint : UInt8) (payload : Array UInt8) (timeout : Duration) : Slot :=
  { id, endpoint := Direction.outbound.address endpoint, buffer := .ofArray payload, timeout }

/-- The direction of the endpoint. -/
def direction (slot : Slot) : Direction := .ofAddress slot.endpoint

/-- The bytes asked for, or sent, in each transfer. -/
def length (slot : Slot) : Nat := slot.buffer.size

/-- Whether the transfer is in flight. -/
def isSubmitted (slot : Slot) : Bool := slot.state = .submitted

/-- The number of bytes that the last finished transfer moved, none while one is in flight. -/
def moved (slot : Slot) : Nat :=
  if slot.isSubmitted then 0 else min slot.actualLength slot.buffer.size

/-- The bytes that the last finished transfer moved, none while one is in flight. -/
def actual (slot : Slot) : List UInt8 :=
  if slot.isSubmitted then [] else slot.buffer.take slot.actualLength

/-- Applies a completion: the slot leaves flight in the state that the status asks for. -/
def complete (slot : Slot) (status : TransferStatus) (length : Nat) : Slot :=
  { slot with actualLength := min length slot.buffer.size, state := .ofStatus status }

/-- Sets a slot aside until the queue is submitted again. -/
def setAside (slot : Slot) : Slot := { slot with state := .idle }

/-- Gives up a slot whose transfer never finished. Its buffer stays lent for good, since a late
completion may still write to it. -/
def abandon (slot : Slot) : Slot :=
  { slot with buffer := .empty, actualLength := 0, state := .failed }

/-- As many bytes are shown as were moved. -/
theorem length_actual (slot : Slot) : slot.actual.length = slot.moved := by
  unfold actual moved
  split
  · rfl
  · rw [Buffer.take_eq, List.length_take, Buffer.length_bytes]

end Slot

end UsbThroughput
