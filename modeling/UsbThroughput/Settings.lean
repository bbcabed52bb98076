import UsbThroughput.Failure.Cause
import UsbThroughput.Time.Duration
import UsbThroughput.Usb.Direction

/-!
# Settings of a test

Which device is tested and how. The safe depth of the queue depends on the direction: the
reference device keeps sixteen inbound transfers in flight, but takes only one outbound transfer
at a time.
-/

namespace UsbThroughput

/-- What to do about a transfer that ends because its endpoint is halted. -/
inductive StallRecovery where
  /-- Leave the slot idle. -/
  | leaveIdle
  /-- Empty the queue, clear the halt and submit every slot again, at most so many times. -/
  | clearHalt (maxAttempts : Nat)
  deriving DecidableEq, Repr

/-- The device under test: its identity, the interface to claim, and the numbers of its
endpoints. -/
structure Target where
  vendor : UInt16 := 0x16d0
  product : UInt16 := 0x0f3b
  interface : UInt8 := 0
  bulkEndpoint : UInt8 := 1
  commandEndpoint : UInt8 := 2
  deriving DecidableEq, Repr

/-- The settings of one test. Lengths are in bytes. -/
structure Settings where
  target : Target := {}
  /-- The test ends once more than this many bytes have been exchanged. -/
  dataSize : Nat := 1024 * 1024
  inboundLength : Nat := 16 * 1024
  /-- One packet at high speed. -/
  outboundLength : Nat := 512
  inboundDepth : Nat := 16
  outboundDepth : Nat := 1
  transferTimeout : Duration := .ofMilliseconds 1000
  commandTimeout : Duration := .ofMilliseconds 1000
  /-- How long cancelled transfers are waited for at the end of the test. -/
  drainTimeout : Duration := .ofSeconds 1
  /-- How long one event call may block. -/
  eventTimeout : Duration := .ofMilliseconds 100
  stallRecovery : StallRecovery := .clearHalt 3
  deriving DecidableEq, Repr

namespace Settings

/-- The pause between the tests of the two directions. -/
def testInterval : Duration := .ofSeconds 1

/-- The largest length of a transfer that fits a signed word of 32 bits. -/
def maxLength : Nat := UInt32.size / 2 - 1

variable (settings : Settings) (direction : Direction)

/-- How many transfers are kept in flight. -/
def queueDepth : Nat :=
  match direction with
  | .inbound => settings.inboundDepth
  | .outbound => settings.outboundDepth

/-- The length of each transfer. -/
def transferLength : Nat :=
  match direction with
  | .inbound => settings.inboundLength
  | .outbound => settings.outboundLength

/-- The bytes that each outbound transfer sends: the numbers from zero, over and over. -/
def outboundPayload : Array UInt8 :=
  Array.ofFn fun position : Fin settings.outboundLength => position.val.toUInt8

/-- The address of the endpoint under test. -/
def endpoint : UInt8 := direction.address settings.target.bulkEndpoint

/-- The address that commands are written to. -/
def commandEndpoint : UInt8 := Direction.outbound.address settings.target.commandEndpoint

/-- Whether a test can be run with the settings. Of several reasons against it the first is
given. A transfer without a timeout would wait for ever. -/
def validate : Except SetupError Unit :=
  if settings.inboundDepth = 0 ∨ settings.outboundDepth = 0 then
    .error (.misconfigured .emptyQueue)
  else if settings.inboundLength = 0 ∨ settings.outboundLength = 0 then
    .error (.misconfigured .emptyTransfer)
  else if maxLength < max settings.inboundLength settings.outboundLength then
    .error (.misconfigured .oversizedTransfer)
  else if settings.transferTimeout.isZero then
    .error (.misconfigured .unboundedTransfer)
  else .ok ()

end Settings

end UsbThroughput
