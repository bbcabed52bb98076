import UsbThroughput.Command
import UsbThroughput.Failure.Cause
import UsbThroughput.Report
import UsbThroughput.Run.Phase

/-!
# Notices

Everything that is written to the log, one constructor for each kind of line, with its level and
its text.
-/

namespace UsbThroughput

/-- How urgent a notice is. -/
inductive Level where
  | error
  | warn
  | info
  | debug
  deriving DecidableEq, Repr

/-- The name of a level in the log. -/
def Level.name : Level → String
  | error => "ERROR"
  | warn => "WARN"
  | info => "INFO"
  | debug => "DEBUG"

/-- The place of a level in the order from the most to the least urgent. -/
def Level.rank : Level → Nat
  | error => 0
  | warn => 1
  | info => 2
  | debug => 3

/-- An entry of the log. -/
inductive Notice where
  | moved (before after : Phase)
  | refused (error : SubmissionError)
  | nothingInFlight
  | pollFailed (error : UsbError)
  | drainPollFailed (error : UsbError)
  | unknownSlot (slot : Nat)
  | finishedLate (slot : Nat) (status : TransferStatus)
  | completed (slot bytes total : Nat)
  | targetReached
  | backingOff
  | stalledAgain (slot : Nat)
  | stalledWhileHalted (slot : Nat)
  | recovering (attempt maxAttempts : Nat)
  | cancelledForRecovery (slot : Nat)
  | transferFailed (slot : Nat) (status : TransferStatus)
  | clearingHalt (endpoint : UInt8)
  | haltRemains (endpoint : UInt8) (error : UsbError)
  | cancelling (count : Nat)
  | cancelFailed (slot : Nat) (error : UsbError)
  | drained (slot : Nat) (status : TransferStatus)
  | abandoned (slot : Nat)
  | sending (command : Command) (endpoint : UInt8)
  | notAccepted (command : Command)
  | sendFailed (command : Command) (error : UsbError)
  | report (result : Report)
  | opened (vendor product : UInt16) (interface : UInt8)
  | leaking
  | releaseFailed (interface : UInt8) (error : UsbError)
  | announceTotal (bytes : Nat)
  | announceLengths (inbound outbound : Nat)
  | announceDepths (inbound outbound : Nat)
  | testing (direction : Direction)
  | noContext (error : UsbError)
  | setupFailed (error : SetupError)
  | testFailed (failure : Failure)
  deriving DecidableEq, Repr

namespace Notice

/-- The level of a notice. -/
def level : Notice → Level
  | noContext _ | setupFailed _ | testFailed _ => .error
  | refused _ | nothingInFlight | pollFailed _ | drainPollFailed _ | unknownSlot _
  | stalledAgain _ | haltRemains _ _ | abandoned _ | notAccepted _ | sendFailed _ _ | leaking
  | releaseFailed _ _ => .warn
  | backingOff | recovering _ _ | clearingHalt _ | report _ | announceTotal _
  | announceLengths _ _ | announceDepths _ _ | testing _ => .info
  | moved _ _ | finishedLate _ _ | completed _ _ _ | targetReached | stalledWhileHalted _
  | cancelledForRecovery _ | transferFailed _ _ | cancelling _ | cancelFailed _ _ | drained _ _
  | sending _ _ | opened _ _ _ => .debug

/-- The text of a notice. -/
def text : Notice → String
  | moved before after => s!"{before.name} -> {after.name}"
  | refused error => error.message
  | nothingInFlight => "No transfers left in flight"
  | pollFailed error => s!"Event handling failed: {error.message}"
  | drainPollFailed error => s!"Event handling failed while draining: {error.message}"
  | unknownSlot slot => s!"Completion for unknown transfer slot {slot}"
  | finishedLate slot status => s!"Slot {slot} finished with {status.name} after termination"
  | completed slot bytes total => s!"Slot {slot} completed: {bytes} bytes ({total} total)"
  | targetReached => "Target reached, terminating"
  | backingOff => "Transfer stalled, backing off"
  | stalledAgain slot => s!"Slot {slot} stalled again, giving up"
  | stalledWhileHalted slot => s!"Slot {slot} stalled while the halt is pending"
  | recovering attempt maxAttempts =>
      s!"Transfer stalled, cancelling the queue before clearing the halt ({attempt}/{maxAttempts})"
  | cancelledForRecovery slot => s!"Slot {slot} cancelled for halt recovery"
  | transferFailed slot status => s!"Slot {slot} failed with {status.name}"
  | clearingHalt endpoint => s!"Clearing halt on endpoint {hexAddress endpoint}"
  | haltRemains endpoint error =>
      s!"Unable to clear halt on endpoint {hexAddress endpoint}: {error.message}"
  | cancelling count => s!"Cancelling {count} outstanding transfers"
  | cancelFailed slot error => s!"Cancelling slot {slot} failed: {error.message}"
  | drained slot status => s!"Slot {slot} drained with {status.name}"
  | abandoned slot => s!"Transfer slot {slot} did not finish cancelling, leaking its buffer"
  | sending command endpoint => s!"Sending {command.name} to endpoint {hexAddress endpoint}"
  | notAccepted command => s!"Command {command.name} was not accepted by the device"
  | sendFailed command error => s!"Failed to send {command.name}: {error.message}"
  | report result => result.text
  | opened vendor product interface =>
      s!"Opened {hex 4 vendor.toNat}:{hex 4 product.toNat}, claimed interface {interface.toNat}"
  | leaking => "Leaking a transfer that is still in flight"
  | releaseFailed interface error =>
      s!"Unable to release interface {interface.toNat}: {error.message}"
  | announceTotal bytes => s!"Total data transmitted for each test: {bytes} bytes"
  | announceLengths inbound outbound =>
      s!"Individual transfer size: {inbound} bytes (IN), {outbound} bytes (OUT)"
  | announceDepths inbound outbound =>
      s!"Transfer queue depth: {inbound} (IN), {outbound} (OUT)"
  | testing direction => s!"Running {direction.name} speed test..."
  | noContext error => s!"USB Bulk speed test failed: {error.message}"
  | setupFailed error => s!"USB Bulk speed test failed: {error.message}"
  | testFailed failure => (TestError.failed failure).message

end Notice

end UsbThroughput
