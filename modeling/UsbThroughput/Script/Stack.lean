import UsbThroughput.Script.Host
import UsbThroughput.Stack

/-!
# Scripted stacks

A USB stack that answers from a script. Transfers are known to the script by their numbers.
-/

namespace UsbThroughput

/-- The answers of a stack that exists only on paper. -/
structure ScriptedStack where
  host : Host Int Int
  start : List (Option Int) := []
  /-- Whether a device is found. -/
  opened : List (Option Bool) := []
  claim : List (Option Int) := []
  release : List (Option Int) := []
  /-- Whether there is memory for a transfer. -/
  allocated : List (Option Bool) := []
  /-- The return codes of writes, and the numbers of bytes if not all are taken. -/
  writes : List (Option (Int × Option Int)) := []
  deriving DecidableEq, Repr

namespace ScriptedStack

/-- Applies a call on the host. -/
def onHost {α : Type} (call : Host Int Int → α × Host Int Int) (stack : ScriptedStack) :
    α × ScriptedStack :=
  let (answer, host) := call stack.host
  (answer, { stack with host })

/-- The length of a wait. -/
def span (wait : WaitTime) : Duration :=
  (Duration.ofSeconds wait.seconds).add (.ofMicroseconds wait.microseconds)

/-- The callback of a scripted delivery. Its length is a signed word of 32 bits. -/
def callbackOf (delivery : Delivery Int) : Callback :=
  { transfer := delivery.id
    status := delivery.status
    length := delivery.length.bmod UInt32.size }

/-- Answers an event call. -/
def handleEvents (call : EventCall) (stack : ScriptedStack) : EventAnswer × ScriptedStack :=
  let ((deliveries, code), stack) :=
    stack.onHost (Host.handleEvents .coded (span call.wait))
  ({ callbacks := deliveries.map callbackOf, code }, stack)

/-- Takes bytes that are written to an endpoint. -/
def write (data : List UInt8) (stack : ScriptedStack) : WriteAnswer × ScriptedStack :=
  let (entry, rest) := Script.next stack.writes
  let (code, transferred) := entry.getD (0, none)
  ({ code, transferred := transferred.getD data.length }, { stack with writes := rest })

/-- Scripted stacks as a stack. -/
def calls : Stack ScriptedStack where
  start stack :=
    let (entry, rest) := Script.next stack.start
    (entry.getD 0, { stack with start := rest })
  openDevice _ _ stack :=
    let (entry, rest) := Script.next stack.opened
    (entry.getD true, { stack with opened := rest })
  claim _ stack :=
    let (entry, rest) := Script.next stack.claim
    (entry.getD 0, { stack with claim := rest })
  release _ stack :=
    let (entry, rest) := Script.next stack.release
    (entry.getD 0, { stack with release := rest })
  allocate _ stack :=
    let (entry, rest) := Script.next stack.allocated
    (entry.getD true, { stack with allocated := rest })
  submit request := onHost (Host.submit .coded request.transfer request.length)
  cancel transfer := onHost (Host.cancel .coded transfer)
  handleEvents := handleEvents
  write _ data _ := write data
  clearHalt _ := onHost (Host.clearHalt .coded)
  free _ := id
  close := id
  exit := id
  now := onHost Host.now
  sleep span stack := { stack with host := stack.host.sleep span }
  note _ := id

end ScriptedStack

end UsbThroughput
