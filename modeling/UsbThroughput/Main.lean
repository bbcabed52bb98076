import UsbThroughput.Program
import UsbThroughput.Script.Stack
import UsbThroughput.Stack.Event

/-!
# Command line

Runs the speed test on a stack that answers every call with success, prints the log, and exits with
the status of the program.
-/

open UsbThroughput

/-- Prints a notice, unless it is only for debugging. Errors go to the error stream. -/
def printNotice (notice : Notice) : IO Unit := do
  let line := s!"[{notice.level.name}] {notice.text}"
  match notice.level with
  | .error => IO.eprintln line
  | .warn | .info => IO.println line
  | .debug => pure ()

/-- Prints the log of a stack. -/
def printLog (history : List StackEvent) : IO Unit := do
  for event in history do
    match event with
    | .noted notice => printNotice notice
    | _ => pure ()

/-- Runs the program. Its test takes no longer than the script of its stack allows. -/
def main : IO UInt32 := do
  let settings : Settings := {}
  let device : ScriptedStack := { host := { script := {} } }
  let session : Session (Journal StackEvent ScriptedStack) := { stackState := { state := device } }
  let depth := max settings.inboundDepth settings.outboundDepth
  let (code, session) :=
    Program.run ScriptedStack.calls.journaled (device.host.stepLimit depth) settings session
  printLog session.stackState.history
  pure (code.getD Failure.error.exitCode).toUInt32
