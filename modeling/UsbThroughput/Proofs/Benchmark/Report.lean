import UsbThroughput.Proofs.Benchmark.InFlight
import UsbThroughput.Proofs.Run.Tally

/-!
# What a report says

The report of a successful test is exact: it counts the completions that the device handed over,
in their order, up to the one with which the total first exceeded the target, and nothing else.
-/

namespace UsbThroughput.Benchmark

open RigEvent

variable {σ : Type} (rig : Rig σ) (benchmark : Benchmark) (state : σ)

/-- A benchmark with a report has opened its device, and its run has ended with the report. -/
theorem ended_of_report {limit : Nat} {report : Report} {after : Benchmark} {last : σ}
    (finished : benchmark.run rig limit state = ((.finished (.ok report), after), last)) :
    (benchmark.runAfter rig state limit).stage = .ended (.ok report) ∧
      (benchmark.runAfter rig state limit).rigState = last := by
  by_cases idle : benchmark.phase = .idle
  · rcases opened : benchmark.connect rig state with ⟨result, next⟩
    cases result with
    | error error =>
        rw [run, if_neg (not_not_intro idle), opened] at finished
        cases finished
    | ok _ =>
        rw [benchmark.run_of_connected rig idle (by rw [opened])] at finished
        obtain ⟨concluded, reached⟩ := Prod.mk.inj finished
        refine ⟨?_, reached⟩
        have verdict := congrArg Prod.fst concluded
        unfold conclude at verdict
        split at verdict <;> cases verdict
        assumption
  · rw [run, if_pos idle] at finished
    cases finished

/-- A run that ends with a report has counted more than the target. -/
theorem dataSize_lt_of_ended {count : Nat} {report : Report}
    (ended : (benchmark.runAfter rig.journaled { state } count).stage = .ended (.ok report)) :
    benchmark.settings.dataSize < report.bytesTotal := by
  obtain ⟨counted, tallies, _, _⟩ := benchmark.tallied_runAfter rig.journaled { state } count
  obtain ⟨now, verdict⟩ := benchmark.verdict_runAfter rig.journaled { state } ended
  obtain ⟨fine, total, _⟩ := Meter.finish_ok verdict.symm
  have decided := (benchmark.staged_runAfter rig.journaled { state } count).decided
    (by rw [ended]; rfl)
  rw [Meter.terminated, fine, Option.isSome_none, Bool.or_false] at decided
  rw [total, ← (benchmark.settings_runAfter rig.journaled { state } count).1, ← tallies.target_eq]
  exact of_decide_eq_true decided

/-- **Reports are exact.** Let each completed transfer of a slot of the queue count for the bytes
that its completion names, but no more than a whole transfer. A report counts the shortest
beginning, of what the device handed over, that exceeds the target; so it exceeds the target by at
most one transfer. -/
theorem report_exact {limit : Nat} {report : Report} {after : Benchmark}
    {journal : Journal RigEvent σ}
    (finished : benchmark.run rig.journaled limit { state } =
      ((.finished (.ok report), after), journal)) :
    ∃ counted,
      counted <+: benchmark.settings.worths benchmark.direction (delivered journal.history) ∧
      report.completions = counted.length ∧ report.bytesTotal = counted.sum ∧
      benchmark.settings.dataSize < counted.sum ∧
      (∀ shorter, shorter <+: counted → shorter ≠ counted →
        shorter.sum ≤ benchmark.settings.dataSize) ∧
      report.bytesTotal ≤ benchmark.settings.dataSize +
        benchmark.settings.transferLength benchmark.direction := by
  obtain ⟨ended, rfl⟩ := benchmark.ended_of_report rig.journaled { state } finished
  obtain ⟨counted, tallies, before, _⟩ :=
    benchmark.tallied_runAfter rig.journaled { state } limit
  obtain ⟨settings, direction⟩ := benchmark.settings_runAfter rig.journaled { state } limit
  have handed := benchmark.handed_runAfter rig state limit
  obtain ⟨now, verdict⟩ := benchmark.verdict_runAfter rig.journaled { state } ended
  obtain ⟨_, total, completions⟩ := Meter.finish_ok verdict.symm
  rw [settings, direction] at before
  rw [settings] at tallies
  have exceeds : benchmark.settings.dataSize < counted.sum := by
    rw [← tallies.bytesTotal_eq, ← total]
    exact benchmark.dataSize_lt_of_ended rig state ended
  refine ⟨counted, ?_, completions.trans tallies.completions_eq,
    total.trans tallies.bytesTotal_eq, exceeds, tallies.shortest, ?_⟩
  · rw [handed, Settings.worths_append]
    exact before.trans (List.prefix_append _ _)
  · rw [total, tallies.bytesTotal_eq]
    exact tallies.sum_le exceeds fun worth member =>
      Settings.le_of_mem_worths (before.subset member)

/-- The small test counts three transfers of eight bytes, and none of those that were drained. -/
theorem report_exact_stalling :
    let outcome := small.run ScriptedDevice.rig.journaled 60 { state := stalling }
    outcome.1 = (.finished (.ok ⟨.inbound, 24, 3, ⟨3⟩⟩), { small with phase := .reported }) ∧
      ∃ counted,
        counted <+: small.settings.worths .inbound (delivered outcome.2.history) ∧
        3 = counted.length ∧ 24 = counted.sum ∧ 20 < counted.sum ∧
        (∀ shorter, shorter <+: counted → shorter ≠ counted → shorter.sum ≤ 20) ∧
        24 ≤ 20 + 8 := by
  intro outcome
  have finished : outcome.1 =
      (.finished (.ok ⟨.inbound, 24, 3, ⟨3⟩⟩), { small with phase := .reported }) := by
    decide +kernel
  exact ⟨finished, small.report_exact ScriptedDevice.rig stalling (Prod.ext finished rfl)⟩

end UsbThroughput.Benchmark
