import UsbThroughput.Run.Step

/-!
# Benchmarks

A benchmark is a test with its settings, which can be run once. Running it opens the device, takes
the run to its end, and has the device closed again whatever happens.
-/

namespace UsbThroughput

/-- A test in one direction and how far it has come. -/
structure Benchmark where
  settings : Settings
  direction : Direction
  phase : Phase := .idle
  deriving DecidableEq, Repr

/-- What became of an attempt to run a benchmark. -/
inductive Conclusion where
  | finished (result : Except TestError Report)
  | broken (fault : Fault)
  /-- The limit on the number of steps was too low. -/
  | unfinished
  deriving Repr

namespace Benchmark

variable {σ : Type} (rig : Rig σ)

/-- Opens the device, if the settings allow a test. -/
def connect (benchmark : Benchmark) (state : σ) : Except SetupError Unit × σ :=
  match benchmark.settings.validate with
  | .error error => (.error error, state)
  | .ok () => rig.connect benchmark.settings.target state

/-- The run of a benchmark on an opened device, before its first step. -/
def begin (benchmark : Benchmark) (state : σ) : Run σ :=
  (Run.begin benchmark.settings benchmark.direction state).note rig (.moved .idle .deviceOpened)

/-- The conclusion of a benchmark from where its run has stopped. -/
def conclude (benchmark : Benchmark) : Stage → Conclusion × Benchmark
  | .ended (.ok report) => (.finished (.ok report), { benchmark with phase := .reported })
  | .ended (.error failure) =>
      (.finished (.error (.failed failure)), { benchmark with phase := .failed })
  | .broken fault => (.broken fault, benchmark)
  | _ => (.unfinished, benchmark)

/-- Runs a benchmark, in at most `limit` steps once the device is open. A second run is refused. -/
def run (limit : Nat) (benchmark : Benchmark) (state : σ) : (Conclusion × Benchmark) × σ :=
  if benchmark.phase ≠ .idle then
    ((.finished (.error (.setup (.misconfigured .alreadyRun))), benchmark), state)
  else
    match benchmark.connect rig state with
    | (.error error, state) =>
        ((.finished (.error (.setup error)), { benchmark with phase := .failed }), state)
    | (.ok (), state) =>
        let run := (benchmark.begin rig state).steps rig limit
        (benchmark.conclude run.stage, run.rigState)

end Benchmark

end UsbThroughput
