import UsbThroughput.Proofs.Meter.Acts
import UsbThroughput.Proofs.Run.Advance

/-!
# What a run does to its meter

A run changes its meter by acts on it and in no other way (`Run.Advance.leads`), so whatever every
act keeps holds of the meter of a test at every moment.
-/

namespace UsbThroughput

namespace Meter

/-- A meter becomes another by acts. -/
def Leads (meter last : Meter) : Prop := ∃ acts, after? acts meter = some last

namespace Leads

variable {meter middle last : Meter}

theorem refl (meter : Meter) : meter.Leads meter := ⟨[], rfl⟩

theorem trans (first : meter.Leads middle) (second : middle.Leads last) : meter.Leads last := by
  obtain ⟨acts, done⟩ := first
  obtain ⟨others, continued⟩ := second
  refine ⟨acts ++ others, ?_⟩
  rw [after?_append, done]
  exact continued

private theorem of_act (act : Act) (performed : act.perform? meter = some last) :
    meter.Leads last := by
  refine ⟨[act], ?_⟩
  rw [← List.nil_append [act], after?_concat]
  exact performed

theorem start (meter : Meter) (now : Duration) : meter.Leads (meter.start now) :=
  of_act (.start now) rfl

theorem fail (meter : Meter) (now : Duration) (failure : Failure) :
    meter.Leads (meter.fail now failure) :=
  of_act (.fail now failure) rfl

/-- A failure, if there is one, is kept in the course of the acts. -/
theorem failOn (meter : Meter) (now : Duration) (failure? : Option Failure) :
    meter.Leads (meter.failOn now failure?) := by
  cases failure? with
  | none => exact refl meter
  | some failure => exact fail meter now failure

/-- A transfer is counted in the course of the acts. -/
theorem record {now : Duration} {bytes : Nat} (recorded : meter.record? now bytes = some last) :
    meter.Leads last :=
  of_act (.record now bytes) recorded

end Leads

/-- Once the time of the decision is set, the measured time does not depend on when it is read. -/
theorem elapsed_of_finished {meter : Meter} (finished : meter.finished.isSome = true)
    (now later : Duration) : meter.elapsed now = meter.elapsed later := by
  obtain ⟨decided, set⟩ := Option.isSome_iff_exists.mp finished
  simp [elapsed, set]

end Meter

namespace Run

variable {σ : Type} {run last : Run σ} {calls : List RigEvent}

/-- A reaction changes the meter by acts. -/
theorem Reaction.leads {completion : Completion} (reaction : run.Reaction completion calls last) :
    run.meter.Leads last.meter := by
  cases reaction with
  | failed state now failure => exact .fail _ now failure
  | counted state now slot meter _ _ _ recorded => exact .record recorded
  | resubmitted state now later slot next meter calls refusal _ _ _ recorded =>
      exact (Meter.Leads.record recorded).trans (.failOn meter later _)
  | passed | overflowed | begun => exact .refl _

/-- **Every step changes the meter by acts.** -/
theorem Advance.leads (advance : run.Advance calls last) : run.meter.Leads last.meter := by
  cases advance with
  | filled state now later slots calls refusal =>
      exact (Meter.Leads.start _ now).trans (.failOn _ later _)
  | starved state now => exact .fail _ now .stalled
  | recovered state later slots calls refusal => exact .failOn _ later _
  | stuck state now error => exact .fail _ now .stalled
  | polled state now answer => exact .failOn _ now _
  | handled completion rest calls handling waiting reaction =>
      have received := meter_receive { run with arrivals := rest } completion
      exact received ▸ reaction.leads
  | settled state deadline completion rest =>
      rw [meter_receive]
      exact .refl _
  | _ => exact .refl _

end Run

namespace Benchmark

variable {σ : Type} (rig : Rig σ) (benchmark : Benchmark) (state : σ)

/-- The meter of a test is at every moment what acts have made of a new one. -/
theorem leads_runAfter (count : Nat) :
    Meter.Leads { target := benchmark.settings.dataSize }
      (benchmark.runAfter rig.journaled { state } count).meter := by
  induction count with
  | zero => exact .refl _
  | succ count ih =>
      obtain ⟨_, _, advance⟩ := benchmark.advances_runAfter rig state count
      exact ih.trans advance.leads

/-- The time of the decision is set as soon as the test is decided. -/
theorem timed_runAfter (count : Nat) :
    (benchmark.runAfter rig.journaled { state } count).meter.Timed := by
  obtain ⟨acts, done⟩ := benchmark.leads_runAfter rig state count
  exact (Meter.timed_new _).after done

end Benchmark

end UsbThroughput
