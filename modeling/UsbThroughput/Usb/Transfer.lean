/-!
# Finished transfers

The status with which a transfer ends, its code, and the completion that reports it.
-/

namespace UsbThroughput

/-- How a transfer ended. -/
inductive TransferStatus where
  | completed
  | error
  | timedOut
  | cancelled
  | stall
  | noDevice
  | overflow
  deriving DecidableEq, Repr

namespace TransferStatus

/-- The name of a status in the log. -/
def name : TransferStatus → String
  | completed => "Completed"
  | error => "Error"
  | timedOut => "TimedOut"
  | cancelled => "Cancelled"
  | stall => "Stall"
  | noDevice => "NoDevice"
  | overflow => "Overflow"

/-- The code of a status. -/
def code : TransferStatus → Int
  | completed => 0
  | error => 1
  | timedOut => 2
  | cancelled => 3
  | stall => 4
  | noDevice => 5
  | overflow => 6

/-- Every status, in the order of the codes. -/
def all : List TransferStatus :=
  [completed, error, timedOut, cancelled, stall, noDevice, overflow]

/-- The status that a code stands for. A code without a meaning is a plain error. -/
def ofCode (code : Int) : TransferStatus :=
  (all.find? fun status => status.code == code).getD error

end TransferStatus

/-- The report that the transfer of a slot has finished. Fewer bytes than asked for may have
moved, and the reported length is not trusted to fit the buffer. -/
structure Completion where
  slot : Nat
  status : TransferStatus
  length : Nat
  deriving DecidableEq, Repr

end UsbThroughput
