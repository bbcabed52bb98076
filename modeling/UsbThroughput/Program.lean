import UsbThroughput.Benchmark
import UsbThroughput.Session

/-!
# The speed test

The whole program: a test of inbound transfers, a pause, and a test of outbound transfers on the
same device. It ends at the first test that fails, with the exit status of that failure.
-/

namespace UsbThroughput

namespace Program

variable {β : Type} (stack : Stack β)

/-- What the program exits with when all went well. -/
def success : UInt8 := 0

/-- Tells what is going to be tested. -/
def announce (settings : Settings) (session : Session β) : Session β :=
  let session := session.note stack (.announceTotal settings.dataSize)
  let session :=
    session.note stack (.announceLengths settings.inboundLength settings.outboundLength)
  session.note stack (.announceDepths settings.inboundDepth settings.outboundDepth)

/-- Runs one test. The answer is the exit status if it failed and nothing if it went well; there is
no answer when `limit` steps were not enough. -/
def test (limit : Nat) (settings : Settings) (direction : Direction) (session : Session β) :
    Option (Option UInt8) × Session β :=
  let session := session.note stack (.testing direction)
  let benchmark : Benchmark := { settings, direction }
  match benchmark.run (Session.rig stack) limit session with
  | ((.finished (.ok _), _), session) => (some none, session)
  | ((.finished (.error error), _), session) =>
      let notice :=
        match error with
        | .setup error => .setupFailed error
        | .failed failure => .testFailed failure
      (some (some error.exitCode), session.note stack notice)
  | ((.broken _, _), session) | ((.unfinished, _), session) => (none, session)

/-- Runs the tests of the two directions. -/
def tests (limit : Nat) (settings : Settings) (session : Session β) :
    Option UInt8 × Session β :=
  match test stack limit settings .inbound session with
  | (some none, session) =>
      let session :=
        { session with stackState := stack.sleep Settings.testInterval session.stackState }
      match test stack limit settings .outbound session with
      | (some code, session) => (some (code.getD success), session)
      | (none, session) => (none, session)
  | (some (some code), session) => (some code, session)
  | (none, session) => (none, session)

/-- Runs the program, with at most `limit` steps for each test, and answers its exit status. -/
def run (limit : Nat) (settings : Settings) (session : Session β) : Option UInt8 × Session β :=
  let session := announce stack settings session
  match session.start stack with
  | (.error error, session) =>
      (some Failure.error.exitCode, session.note stack (.noContext error))
  | (.ok (), session) =>
      let (code, session) := tests stack limit settings session
      (code, session.exit stack)

end Program

end UsbThroughput
