import UsbThroughput.Failure
import UsbThroughput.Text.Hex

/-!
# Errors of a test

What can go wrong before the first transfer (`SetupError`), when a transfer is handed over
(`SubmissionError`), and over a whole test (`TestError`). `Fault` holds the two conditions that a
test never reports as its result, because they break off the work.
-/

namespace UsbThroughput

/-- Why a test cannot be run with the settings it was given. -/
inductive Misconfiguration where
  | emptyQueue
  | emptyTransfer
  | oversizedTransfer
  | unboundedTransfer
  | alreadyRun
  /-- Any other reason, in its own words. -/
  | because (reason : String)
  deriving DecidableEq, Repr

/-- The reason in words. -/
def Misconfiguration.text : Misconfiguration → String
  | emptyQueue => "queue depth must be at least one"
  | emptyTransfer => "transfer size must be non-zero"
  | oversizedTransfer => "transfer size does not fit a libusb transfer length"
  | unboundedTransfer => "transfer timeout must be non-zero"
  | alreadyRun => "driver has already run"
  | because reason => reason

/-- Why no transfer was attempted. -/
inductive SetupError where
  | deviceNotFound (vendor product : UInt16)
  | claim (interface : UInt8) (cause : UsbError)
  | misconfigured (reason : Misconfiguration)
  | usb (cause : UsbError)
  deriving DecidableEq, Repr

namespace SetupError

/-- The error in words. -/
def message : SetupError → String
  | deviceNotFound vendor product =>
      s!"No device with ID {hex 4 vendor.toNat}:{hex 4 product.toNat} was found"
  | claim interface cause => s!"Unable to claim interface {interface.toNat}: {cause.message}"
  | misconfigured reason => s!"Invalid configuration: {reason.text}"
  | usb cause => s!"USB error: {cause.message}"

/-- The USB error behind a setup error, if there is one. -/
def cause? : SetupError → Option UsbError
  | deviceNotFound _ _ => none
  | claim _ cause => some cause
  | misconfigured _ => none
  | usb cause => some cause

end SetupError

/-- The device refused the transfer of a slot. -/
structure SubmissionError where
  slot : Nat
  cause : UsbError
  deriving DecidableEq, Repr

namespace SubmissionError

/-- The error in words. -/
def message (error : SubmissionError) : String :=
  s!"Transfer slot {error.slot} could not be submitted: {error.cause.message}"

/-- The class of failure that a refused submission is. -/
def failure (error : SubmissionError) : Failure :=
  Failure.ofUsbError error.cause

end SubmissionError

/-- Why a test has no report. -/
inductive TestError where
  | setup (error : SetupError)
  | failed (failure : Failure)
  deriving DecidableEq, Repr

namespace TestError

/-- The error in words. -/
def message : TestError → String
  | setup error => error.message
  | failed failure => s!"Test failed because a transfer {failure.text}"

/-- The exit status that reports the error. -/
def exitCode : TestError → UInt8
  | setup _ => Failure.error.exitCode
  | failed failure => failure.exitCode

/-- The USB error behind a test error, if there is one. -/
def cause? : TestError → Option UsbError
  | setup error => error.cause?
  | failed _ => none

end TestError

/-- A condition that breaks off the work instead of failing the test. -/
inductive Fault where
  /-- A slot was submitted while its transfer was still in flight. -/
  | slotInFlight (slot : Nat)
  /-- A count left the range of 64 bits. -/
  | countOverflow
  deriving DecidableEq, Repr

/-- The fault in words. -/
def Fault.message : Fault → String
  | slotInFlight slot => s!"slot {slot} is already in flight"
  | countOverflow => "attempt to add with overflow"

end UsbThroughput
