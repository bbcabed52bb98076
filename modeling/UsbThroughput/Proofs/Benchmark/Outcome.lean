import UsbThroughput.Proofs.Benchmark.Report

/-!
# How a test ends

The first fatal event of a run, before its total exceeds the target, decides the outcome. Without
one the test succeeds, and nothing that happens later changes either outcome.
-/

namespace UsbThroughput

open RigEvent

/-- The failures that the next step of a run meets with while the total does not exceed the
target: those that it finds by itself, and then those that its calls bring about. -/
def Run.fatalities {σ : Type} (rig : Rig σ) (run : Run (Journal RigEvent σ)) : List Failure :=
  if run.meter.target < run.meter.bytesTotal then []
  else
    run.findings ++ RigEvent.fatalities
      ((run.step rig.journaled).rigState.history.drop run.rigState.history.length)

namespace Benchmark

variable {σ : Type} (rig : Rig σ) (benchmark : Benchmark) (state : σ)

/-- The failures that the first steps of a benchmark meet with, in order. -/
def fatalities (count : Nat) : List Failure :=
  (List.range count).flatMap fun step =>
    (benchmark.runAfter rig.journaled { state } step).fatalities rig

private theorem fatalities_succ (count : Nat) :
    benchmark.fatalities rig state (count + 1) =
      benchmark.fatalities rig state count ++
        (benchmark.runAfter rig.journaled { state } count).fatalities rig := by
  rw [fatalities, List.range_succ, List.flatMap_append, List.flatMap_singleton]
  rfl

/-- **The failure that is kept is the first.** -/
theorem failure_runAfter (count : Nat) :
    (benchmark.runAfter rig.journaled { state } count).meter.failure =
      (benchmark.fatalities rig state count).head? := by
  induction count with
  | zero => rfl
  | succ count ih =>
      have staged := benchmark.staged_runAfter rig.journaled { state } count
      rw [fatalities_succ, runAfter_succ, List.head?_append, ← ih]
      cases going : (benchmark.runAfter rig.journaled { state } count).meter.terminated with
      | false =>
          obtain ⟨few, fine⟩ := Meter.le_of_going going
          obtain ⟨calls, ⟨events, grown, same⟩, kept⟩ := Run.ensues_step rig staged going
          rw [kept, Run.fatalities, if_neg (Nat.not_lt.mpr few), grown, List.drop_left,
            ← same, fatalities_calls]
      | true =>
          rw [Run.meter_step_of_terminated rig.journaled staged going]
          rcases Bool.or_eq_true_iff.mp going with done | failed
          · rw [Run.fatalities, if_pos (of_decide_eq_true done), List.head?_nil, Option.or_none]
          · rw [Option.or_of_isSome failed]

/-- After the decision the meter stays as it is. -/
theorem meter_runAfter_of_terminated {count later : Nat} (before : count ≤ later)
    (terminated : (benchmark.runAfter rig state count).meter.terminated = true) :
    (benchmark.runAfter rig state later).meter = (benchmark.runAfter rig state count).meter := by
  induction later, before using Nat.le_induction with
  | base => rfl
  | succ later _ ih =>
      have staged := benchmark.staged_runAfter rig state later
      rw [runAfter_succ, Run.meter_step_of_terminated rig staged (ih ▸ terminated), ih]

/-- **The first fatal event decides.** A benchmark that opens its device and comes to a result
fails with the class of the first failure that its steps meet with before the total exceeds the
target, if there is one; otherwise it succeeds, with a total that exceeds the target. At every
step that finds the test decided, the outcome is what it will be. -/
theorem outcome_eq_first_fatality {limit : Nat} {result : Except TestError Report}
    {after : Benchmark} {journal : Journal RigEvent σ} (idle : benchmark.phase = .idle)
    (connected : (benchmark.connect rig.journaled { state }).1 = .ok ())
    (finished : benchmark.run rig.journaled limit { state } =
      ((.finished result, after), journal)) :
    (match (benchmark.fatalities rig state limit).head? with
    | some failure => result = .error (.failed failure) ∧ after.phase = .failed
    | none => ∃ report, result = .ok report ∧ after.phase = .reported ∧
        benchmark.settings.dataSize < report.bytesTotal) ∧
    ∀ count ≤ limit,
      (benchmark.runAfter rig.journaled { state } count).meter.terminated = true →
        (benchmark.fatalities rig state count).head? =
          (benchmark.fatalities rig state limit).head? := by
  refine ⟨?_, fun count before terminated => ?_⟩
  · rw [benchmark.run_of_connected rig.journaled idle connected] at finished
    obtain ⟨concluded, _⟩ := Prod.mk.inj finished
    rw [← failure_runAfter]
    cases stage : (benchmark.runAfter rig.journaled { state } limit).stage with
    | ended verdict =>
        obtain ⟨now, verdict_eq⟩ := benchmark.verdict_runAfter rig.journaled { state } stage
        rw [stage] at concluded
        cases verdict with
        | error failure =>
            cases concluded
            rw [Meter.failure_of_finish verdict_eq.symm]
            exact ⟨rfl, rfl⟩
        | ok report =>
            cases concluded
            rw [(Meter.finish_ok verdict_eq.symm).1]
            exact ⟨report, rfl, rfl, benchmark.dataSize_lt_of_ended rig state stage⟩
    | _ =>
        rw [stage] at concluded
        cases concluded
  · rw [← failure_runAfter, ← failure_runAfter,
      benchmark.meter_runAfter_of_terminated rig.journaled { state } before terminated]

/-- A device that hands over two transfers together, of which neither completed. -/
def failing : ScriptedDevice where
  host :=
    { script :=
        { outcomes := [some { status := .overflow }, some { status := .error }], batch := 2 } }

/-- Of several failures the first decides, though the second comes in the same batch. -/
theorem outcome_eq_first_fatality_failing :
    let outcome := small.run ScriptedDevice.rig.journaled 60 { state := failing }
    outcome.1 = (.finished (.error (.failed .overflow)), { small with phase := .failed }) ∧
      small.fatalities ScriptedDevice.rig failing 60 = [.overflow, .error, .stalled] ∧
      (match (small.fatalities ScriptedDevice.rig failing 60).head? with
      | some failure =>
          (Except.error (.failed .overflow) : Except TestError Report) =
            .error (.failed failure) ∧ Phase.failed = .failed
      | none => ∃ report, (Except.error (.failed .overflow) : Except TestError Report) =
          .ok report ∧ Phase.failed = .reported ∧ 20 < report.bytesTotal) := by
  intro outcome
  have finished : outcome.1 =
      (.finished (.error (.failed .overflow)), { small with phase := .failed }) := by
    decide +kernel
  refine ⟨finished, by decide +kernel, ?_⟩
  exact (small.outcome_eq_first_fatality ScriptedDevice.rig failing rfl (by decide +kernel)
    (Prod.ext finished rfl)).1

end Benchmark

end UsbThroughput
