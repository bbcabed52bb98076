import UsbThroughput.Usb.Transfer
import UsbThroughput.Usb.Error

/-!
# Classes of failure

A test that fails does so in one of six ways. Each has a text and an exit status, and each ending
of a transfer and each error of a USB call belongs to one of them.
-/

namespace UsbThroughput

/-- The class of a failed test. -/
inductive Failure where
  | error
  | timedOut
  | cancelled
  | stalled
  | deviceLost
  | overflow
  deriving DecidableEq, Repr

namespace Failure

/-- The exit status that reports a class. -/
def exitCode : Failure → UInt8
  | error => 1
  | timedOut => 2
  | cancelled => 3
  | stalled => 4
  | deviceLost => 5
  | overflow => 6

/-- What the failed transfer did, to be read after "a transfer". -/
def text : Failure → String
  | error => "error'd out"
  | timedOut => "timed out"
  | cancelled => "was prematurely cancelled"
  | stalled => "was stalled"
  | deviceLost => "lost the device it was connected to"
  | overflow => "sent more data than expected."

/-- The class of a finished transfer, unless it completed. -/
def ofStatus : TransferStatus → Option Failure
  | .completed => none
  | .error => some error
  | .timedOut => some timedOut
  | .cancelled => some cancelled
  | .stall => some stalled
  | .noDevice => some deviceLost
  | .overflow => some overflow

/-- The class of an error. A device that cannot take one more transfer answers `notFound`, so that
counts as a lost device. -/
def ofUsbError : UsbError → Failure
  | .timeout => timedOut
  | .interrupted => cancelled
  | .pipe => stalled
  | .noDevice | .notFound => deviceLost
  | .overflow => overflow
  | _ => error

end Failure

end UsbThroughput
