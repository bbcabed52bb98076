import UsbThroughput.Usb.Direction

/-!
# Commands

The one-byte commands that the firmware of the device understands.
-/

namespace UsbThroughput

/-- A command to the device. -/
inductive Command where
  /-- Stop producing or consuming data. -/
  | stop
  /-- Start producing inbound data. -/
  | startInbound
  /-- Start consuming outbound data. -/
  | startOutbound
  deriving DecidableEq, Repr

namespace Command

/-- The byte that is sent for a command. -/
def byte : Command → UInt8
  | stop => 0x01
  | startInbound => 0x23
  | startOutbound => 0x42

/-- The command that a byte stands for, if any. -/
def ofByte? (byte : UInt8) : Option Command :=
  [stop, startInbound, startOutbound].find? fun command => command.byte == byte

/-- The command that starts a test. -/
def start : Direction → Command
  | .inbound => startInbound
  | .outbound => startOutbound

/-- The name of a command in the log. -/
def name : Command → String
  | stop => "Stop"
  | startInbound => "StartIn"
  | startOutbound => "StartOut"

/-- A command is read back from its byte. -/
theorem ofByte?_byte (command : Command) : ofByte? command.byte = some command := by
  cases command <;> decide

end Command

end UsbThroughput
