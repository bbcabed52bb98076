import UsbThroughput.Proofs.Run.Mirror

/-!
# Runs that differ in their times

Two runs on rigs with different clocks can be alike in everything but the times that they have
read (`Run.Alike`). What a meter decides and counts does not depend on these.
-/

namespace UsbThroughput

/-- A report without the time of the test. -/
def Report.timeless (report : Report) : Report := { report with elapsed := .zero }

namespace Meter

/-- Two meters have counted the same and keep the same failure. -/
structure Alike (meter other : Meter) : Prop where
  target : other.target = meter.target
  bytesTotal : other.bytesTotal = meter.bytesTotal
  completions : other.completions = meter.completions
  failure : other.failure = meter.failure

variable {meter other third : Meter}

theorem Alike.symm (alike : meter.Alike other) : other.Alike meter :=
  ⟨alike.target.symm, alike.bytesTotal.symm, alike.completions.symm, alike.failure.symm⟩

theorem Alike.trans (alike : meter.Alike other) (also : other.Alike third) : meter.Alike third :=
  ⟨also.target.trans alike.target, also.bytesTotal.trans alike.bytesTotal,
    also.completions.trans alike.completions, also.failure.trans alike.failure⟩

/-- Meters that are alike are decided alike. -/
theorem Alike.terminated (alike : meter.Alike other) : other.terminated = meter.terminated := by
  rw [Meter.terminated, alike.target, alike.bytesTotal, alike.failure, Meter.terminated]

theorem Alike.start (alike : meter.Alike other) (now later : Duration) :
    (meter.start now).Alike (other.start later) :=
  ⟨alike.target, alike.bytesTotal, alike.completions, alike.failure⟩

theorem Alike.fail (alike : meter.Alike other) (now later : Duration) (failure : Failure) :
    (meter.fail now failure).Alike (other.fail later failure) := by
  unfold Meter.fail
  rw [alike.failure]
  split
  · exact alike
  · exact ⟨alike.target, alike.bytesTotal, alike.completions, rfl⟩

/-- Counting a transfer comes to the same at any time. -/
theorem Alike.record (alike : meter.Alike other) (now later : Duration) (bytes : Nat) :
    (meter.record? now bytes = none ∧ other.record? later bytes = none) ∨
      ∃ counted twin, meter.record? now bytes = some counted ∧
        other.record? later bytes = some twin ∧ counted.Alike twin := by
  unfold record?
  rw [alike.failure, alike.bytesTotal, alike.completions]
  split
  · exact Or.inr ⟨meter, other, rfl, rfl, alike⟩
  · split
    · exact Or.inl ⟨rfl, rfl⟩
    · refine Or.inr ⟨_, _, rfl, rfl, ?_⟩
      dsimp only
      rw [alike.target]
      split <;> exact ⟨rfl, rfl, rfl, rfl⟩

/-- Meters that are alike end alike, but for the time. -/
theorem Alike.finish (alike : meter.Alike other) (now later : Duration) (direction : Direction) :
    (other.finish later direction).map Report.timeless =
      (meter.finish now direction).map Report.timeless := by
  unfold Meter.finish
  rw [alike.failure, alike.bytesTotal, alike.completions]
  split <;> rfl

end Meter

/-- A stage without its deadline, or with a verdict without the time. -/
def Stage.timeless : Stage → Stage
  | draining _ => draining .zero
  | settling _ => settling .zero
  | ended verdict => ended (verdict.map Report.timeless)
  | stage => stage

/-- The deadline does not matter to whether a run is over. -/
theorem Stage.isOver_timeless (stage : Stage) : stage.timeless.isOver = stage.isOver := by
  cases stage <;> rfl

/-- The deadline does not matter to whether the decision has fallen. -/
theorem Stage.isFinal_timeless (stage : Stage) : stage.timeless.isFinal = stage.isFinal := by
  cases stage <;> rfl

/-- Whether a stage has a deadline, or a verdict. -/
def Stage.isTimed : Stage → Bool
  | draining _ | settling _ | ended _ => true
  | _ => false

/-- A stage without a deadline is the same as its timeless form. -/
theorem Stage.eq_of_timeless {stage next : Stage} (same : next.timeless = stage.timeless)
    (untimed : stage.isTimed = false) : next = stage := by
  cases stage <;> cases next <;> simp_all [timeless, isTimed]

/-- A run that drains as another does so until some deadline. -/
theorem Stage.draining_of_timeless {stage : Stage} {deadline : Duration}
    (same : stage.timeless = (draining deadline).timeless) : ∃ later, stage = .draining later := by
  cases stage <;> simp_all [timeless]

/-- A run that settles as another does so until some deadline. -/
theorem Stage.settling_of_timeless {stage : Stage} {deadline : Duration}
    (same : stage.timeless = (settling deadline).timeless) : ∃ later, stage = .settling later := by
  cases stage <;> simp_all [timeless]

namespace Run

variable {σ τ : Type}

/-- A run without the state of its rig, its meter and its stage. -/
def outline (run : Run σ) : Run Unit :=
  { run.mapRig fun _ => () with meter := { target := 0 }, stage := .filling }

/-- Two runs are alike in everything but the states of their rigs and the times. -/
structure Alike (run : Run σ) (twin : Run τ) : Prop where
  outline : twin.outline = run.outline
  meter : run.meter.Alike twin.meter
  stage : twin.stage.timeless = run.stage.timeless

namespace Alike

variable {run : Run σ} {twin : Run τ} (alike : run.Alike twin)

include alike

theorem settings : twin.settings = run.settings := congrArg Run.settings alike.outline

theorem direction : twin.direction = run.direction := congrArg Run.direction alike.outline

theorem queue : twin.queue = run.queue := congrArg Run.queue alike.outline

theorem channel : twin.channel = run.channel := congrArg Run.channel alike.outline

theorem arrivals : twin.arrivals = run.arrivals := congrArg Run.arrivals alike.outline

theorem recoveries : twin.recoveries = run.recoveries := congrArg Run.recoveries alike.outline

theorem halted : twin.halted = run.halted := congrArg Run.halted alike.outline

end Alike

end Run

end UsbThroughput
