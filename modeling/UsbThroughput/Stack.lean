import UsbThroughput.Notice
import UsbThroughput.Settings

/-!
# USB stacks

A stack is the library of the operating system through which a program reaches USB devices. Its
calls answer with return codes: zero is success. Transfers are allocated once, numbered in the
order of their allocation, and may be submitted many times. A finished transfer is announced by a
callback, and callbacks run only inside event calls.

As with a rig, a stack is given by its answers as functions on a state of any type.
-/

namespace UsbThroughput

/-- What a submission asks for. All transfers are bulk transfers. -/
structure Request where
  transfer : Nat
  endpoint : UInt8
  length : Nat
  /-- In milliseconds. -/
  timeout : Nat
  deriving DecidableEq, Repr

/-- The announcement of a finished transfer, with its status code and the length as a signed
number. -/
structure Callback where
  transfer : Nat
  status : Int
  length : Int
  deriving DecidableEq, Repr

/-- A time to wait, in the units of an event call. -/
structure WaitTime where
  seconds : Nat
  microseconds : Nat
  deriving DecidableEq, Repr

/-- An event call. The call returns early once its flag is raised, and the callbacks of the
watched transfers raise it. -/
structure EventCall where
  wait : WaitTime
  watched : List Nat
  /-- Whether the flag is raised when the call begins. -/
  raised : Bool
  deriving DecidableEq, Repr

/-- Whether the flag of an event call is raised after some callbacks. -/
def EventCall.raisedAfter (call : EventCall) (callbacks : List Callback) : Bool :=
  call.raised || callbacks.any fun callback => call.watched.contains callback.transfer

/-- The answer of an event call: the callbacks that ran, in order, and the return code. Callbacks
may run in a call that fails. -/
structure EventAnswer where
  callbacks : List Callback
  code : Int
  deriving DecidableEq, Repr

/-- The answer of a write: the return code and the number of bytes written. -/
structure WriteAnswer where
  code : Int
  transferred : Int
  deriving DecidableEq, Repr

/-- A USB stack with a clock and a log, over the states `β`. -/
structure Stack (β : Type) where
  /-- Makes the stack ready for use. -/
  start : β → Int × β
  /-- Looks for a device and opens it; the answer tells whether one was found. -/
  openDevice : UInt16 → UInt16 → β → Bool × β
  claim : UInt8 → β → Int × β
  release : UInt8 → β → Int × β
  /-- Allocates the transfer with the given number; the answer tells whether there was memory. -/
  allocate : Nat → β → Bool × β
  submit : Request → β → Int × β
  cancel : Nat → β → Int × β
  handleEvents : EventCall → β → EventAnswer × β
  /-- Writes bytes to an endpoint, with a timeout in milliseconds. -/
  write : UInt8 → List UInt8 → Nat → β → WriteAnswer × β
  clearHalt : UInt8 → β → Int × β
  free : Nat → β → β
  close : β → β
  /-- Ends the use of the stack. -/
  exit : β → β
  now : β → Duration × β
  sleep : Duration → β → β
  note : Notice → β → β

end UsbThroughput
