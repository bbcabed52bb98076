import UsbThroughput.Notice
import UsbThroughput.Settings
import UsbThroughput.Slot

/-!
# Test rigs

A rig is everything outside the program that a test works with: the device, the clock and the log.
It is given by its answers as functions on a state of any type, so that a statement about all rigs
is one about every possible behaviour of the device.
-/

namespace UsbThroughput

/-- The answer of an event call: the transfers that finished, in order, and whether the call
itself succeeded. A call that fails may still hand over finished transfers. -/
structure Polled where
  delivered : List Completion
  result : UsbResult Unit
  deriving Repr

/-- A device with a clock and a log, over the states `σ`. -/
structure Rig (σ : Type) where
  /-- Opens the device and claims its interface. -/
  connect : Target → σ → Except SetupError Unit × σ
  /-- Starts the transfer of a slot. -/
  submit : Slot → σ → UsbResult Unit × σ
  /-- Asks for the transfer of a slot to be given up. The transfer still finishes later on. -/
  cancel : Slot → σ → UsbResult Unit × σ
  /-- Waits until a transfer finishes or the time is over. -/
  poll : Duration → σ → Polled × σ
  /-- Writes bytes to an endpoint and tells how many were taken. -/
  write : UInt8 → List UInt8 → Duration → σ → UsbResult Nat × σ
  /-- Clears the halt of an endpoint. -/
  clearHalt : UInt8 → σ → UsbResult Unit × σ
  /-- Releases the interface and closes the device. -/
  disconnect : σ → σ
  /-- Reads the clock. -/
  now : σ → Duration × σ
  /-- Writes to the log. -/
  note : Notice → σ → σ

end UsbThroughput
