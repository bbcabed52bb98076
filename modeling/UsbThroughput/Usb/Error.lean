/-!
# Errors of USB calls

The ways in which a call on a USB device fails, the text of each, and the return code that stands
for it. A code that stands for no error of its own reads as `UsbError.other`.
-/

namespace UsbThroughput

/-- Why a call on a USB device failed. -/
inductive UsbError where
  | io
  | invalidParam
  | access
  | noDevice
  | notFound
  | busy
  | timeout
  | overflow
  | pipe
  | interrupted
  | noMem
  | notSupported
  | badDescriptor
  | other
  deriving DecidableEq, Repr

/-- What a call on a USB device answers. -/
abbrev UsbResult (α : Type) := Except UsbError α

namespace UsbError

/-- The error in words. -/
def message : UsbError → String
  | io => "Input/Output Error"
  | invalidParam => "Invalid parameter"
  | access => "Access denied (insufficient permissions)"
  | noDevice => "No such device (it may have been disconnected)"
  | notFound => "Entity not found"
  | busy => "Resource busy"
  | timeout => "Operation timed out"
  | overflow => "Overflow"
  | pipe => "Pipe error"
  | interrupted => "System call interrupted (perhaps due to signal)"
  | noMem => "Insufficient memory"
  | notSupported => "Operation not supported or unimplemented on this platform"
  | badDescriptor => "Malformed descriptor"
  | other => "Other error"

/-- The return code of an error. A malformed descriptor is found by the caller and has none. -/
def code? : UsbError → Option Int
  | io => some (-1)
  | invalidParam => some (-2)
  | access => some (-3)
  | noDevice => some (-4)
  | notFound => some (-5)
  | busy => some (-6)
  | timeout => some (-7)
  | overflow => some (-8)
  | pipe => some (-9)
  | interrupted => some (-10)
  | noMem => some (-11)
  | notSupported => some (-12)
  | badDescriptor => none
  | other => some (-99)

/-- Every error, in the order of the codes. -/
def all : List UsbError :=
  [io, invalidParam, access, noDevice, notFound, busy, timeout, overflow, pipe, interrupted, noMem,
    notSupported, badDescriptor, other]

/-- The error that a failing return code stands for. -/
def ofCode (code : Int) : UsbError :=
  (all.find? fun error => error.code? == some code).getD other

end UsbError

/-- Reads a return code: zero is success, anything else an error. -/
def UsbResult.ofCode (code : Int) : UsbResult Unit :=
  if code = 0 then .ok () else .error (UsbError.ofCode code)

end UsbThroughput
