import UsbThroughput.Journal
import UsbThroughput.Stack

/-!
# What happens on a stack

The calls on a USB stack with their arguments and answers. A stack whose states are journals
answers as the stack below it does, and writes down every call but the readings of the clock.
-/

namespace UsbThroughput

/-- A call on a stack and its answer. -/
inductive StackEvent where
  | started (code : Int)
  | opened (vendor product : UInt16) (found : Bool)
  | claimed (interface : UInt8) (code : Int)
  | released (interface : UInt8) (code : Int)
  | allocated (transfer : Nat) (success : Bool)
  | submitted (request : Request) (code : Int)
  | cancelled (transfer : Nat) (code : Int)
  | handled (call : EventCall) (answer : EventAnswer)
  | wrote (endpoint : UInt8) (data : List UInt8) (timeout : Nat) (answer : WriteAnswer)
  | haltCleared (endpoint : UInt8) (code : Int)
  | freed (transfer : Nat)
  | closed
  | exited
  | slept (span : Duration)
  | noted (notice : Notice)
  deriving DecidableEq, Repr

/-- The stack that keeps a journal of the calls on another. -/
def Stack.journaled {β : Type} (stack : Stack β) : Stack (Journal StackEvent β) where
  start := Journal.record .started stack.start
  openDevice vendor product :=
    Journal.record (.opened vendor product) (stack.openDevice vendor product)
  claim interface := Journal.record (.claimed interface) (stack.claim interface)
  release interface := Journal.record (.released interface) (stack.release interface)
  allocate transfer := Journal.record (.allocated transfer) (stack.allocate transfer)
  submit request := Journal.record (.submitted request) (stack.submit request)
  cancel transfer := Journal.record (.cancelled transfer) (stack.cancel transfer)
  handleEvents call := Journal.record (.handled call) (stack.handleEvents call)
  write endpoint data timeout :=
    Journal.record (.wrote endpoint data timeout) (stack.write endpoint data timeout)
  clearHalt endpoint := Journal.record (.haltCleared endpoint) (stack.clearHalt endpoint)
  free transfer := Journal.recordChange (.freed transfer) (stack.free transfer)
  close := Journal.recordChange .closed stack.close
  exit := Journal.recordChange .exited stack.exit
  now := Journal.silently stack.now
  sleep span := Journal.recordChange (.slept span) (stack.sleep span)
  note notice := Journal.recordChange (.noted notice) (stack.note notice)

end UsbThroughput
