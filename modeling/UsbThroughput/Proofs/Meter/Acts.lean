import Mathlib.Data.List.Induction
import UsbThroughput.Meter

/-!
# What is done to a meter

A meter is started, given completed transfers and failures, and asked for its report, in any order
and any number of times (`Meter.Act`). The acts are done one after the other, up to the first that
the meter has no room for (`Meter.after?`). Everything that one act can change is written down in
`Meter.Effect`.
-/

namespace UsbThroughput.Meter

/-- Something that is done to a meter, with the reading of the clock at that time. -/
inductive Act where
  | start (now : Duration)
  | record (now : Duration) (bytes : Nat)
  | fail (now : Duration) (failure : Failure)
  | finish (now : Duration) (direction : Direction)
  deriving DecidableEq, Repr

namespace Act

/-- The meter after an act, if it has room for it. The report is only read off the meter. -/
def perform? : Act → Meter → Option Meter
  | start now, meter => some (meter.start now)
  | record now bytes, meter => meter.record? now bytes
  | fail now failure, meter => some (meter.fail now failure)
  | finish _ _, meter => some meter

/-- The bytes of a completed transfer. -/
def bytes? : Act → Option Nat
  | record _ bytes => some bytes
  | _ => none

/-- The failure that the meter is given. -/
def failure? : Act → Option Failure
  | fail _ failure => some failure
  | _ => none

end Act

/-- The meter after acts done in order, if it has room for all of them. -/
def after? (acts : List Act) (meter : Meter) : Option Meter :=
  acts.foldlM (fun meter act => act.perform? meter) meter

theorem after?_append (first second : List Act) (meter : Meter) :
    after? (first ++ second) meter = (after? first meter).bind (after? second) := by
  simp only [after?, List.foldlM_append]
  rfl

/-- The last act is performed on what the acts before it have left. -/
theorem after?_concat (acts : List Act) (act : Act) (meter : Meter) :
    after? (acts ++ [act]) meter = (after? acts meter).bind act.perform? := by
  simp [after?, List.foldlM_append]

/-- What every act keeps is kept by all of them. -/
theorem after?_induction (holds : Meter → Prop) {meter last : Meter} (start : holds meter)
    (step : ∀ {act : Act} {meter other : Meter},
      holds meter → act.perform? meter = some other → holds other)
    {acts : List Act} (done : after? acts meter = some last) : holds last := by
  induction acts using List.reverseRecOn generalizing last with
  | nil =>
      cases done
      exact start
  | append_singleton acts act ih =>
      rw [after?_concat] at done
      obtain ⟨between, before, performed⟩ := Option.bind_eq_some_iff.mp done
      exact step (ih before) performed

/-! ## One act -/

/-- Whether there is no room for a transfer of so many bytes. -/
def Full (meter : Meter) (bytes : Nat) : Prop :=
  capacity < meter.bytesTotal + bytes ∨ capacity < meter.completions + 1

/-- **What one act can do** to a meter: no more than to start the clock, or to count a transfer, or
to keep a failure. -/
inductive Effect (meter : Meter) : Act → Meter → Prop where
  | kept {act : Act} (started : Option Duration)
      (idle : meter.failure.isSome = true ∨ act.bytes? = none ∧ act.failure? = none) :
      Effect meter act { meter with started }
  | counted (now : Duration) (bytes : Nat) (finished : Option Duration)
      (fine : meter.failure = none) (room : ¬ meter.Full bytes)
      (timed : finished =
        if meter.target < meter.bytesTotal + bytes then meter.finished.or (some now)
        else meter.finished) :
      Effect meter (.record now bytes)
        { meter with
          bytesTotal := meter.bytesTotal + bytes
          completions := meter.completions + 1
          finished }
  | failed (now : Duration) (failure : Failure) (fine : meter.failure = none) :
      Effect meter (.fail now failure)
        { meter with failure := some failure, finished := meter.finished.or (some now) }

variable {meter other : Meter} {act : Act}

/-- An act cannot be done only if it is a transfer that would be counted and there is no room. -/
theorem perform?_eq_none_iff :
    act.perform? meter = none ↔
      meter.failure = none ∧ ∃ bytes, act.bytes? = some bytes ∧ meter.Full bytes := by
  cases act with
  | record now bytes =>
      by_cases failed : meter.failure.isSome = true
      · have kept : meter.failure ≠ none := Option.isSome_iff_ne_none.mp failed
        simp [Act.perform?, record?, failed, kept]
      · have fine := Option.not_isSome_iff_eq_none.mp failed
        simp [Act.perform?, record?, Act.bytes?, Full, fine]
        omega
  | _ => simp [Act.perform?, Act.bytes?]

/-- An act that is done has its effect. -/
theorem effect_of_perform? (performed : act.perform? meter = some other) :
    meter.Effect act other := by
  by_cases failed : meter.failure.isSome = true
  · -- The one act that changes something is the start of the clock.
    have kept : other = { meter with started := other.started } := by
      cases act <;> simp [Act.perform?, record?, fail, start, failed] at performed <;>
        simp [← performed]
    rw [kept]
    exact .kept other.started (Or.inl failed)
  · have fine := Option.not_isSome_iff_eq_none.mp failed
    cases act with
    | start now =>
        cases performed
        exact .kept _ (Or.inr ⟨rfl, rfl⟩)
    | record now bytes =>
        have room : ¬ meter.Full bytes := fun full => by
          rw [perform?_eq_none_iff.mpr ⟨fine, bytes, rfl, full⟩] at performed
          contradiction
        have added : other =
            { meter with
              bytesTotal := meter.bytesTotal + bytes
              completions := meter.completions + 1
              finished :=
                if meter.target < meter.bytesTotal + bytes then meter.finished.or (some now)
                else meter.finished } := by
          unfold Full at room
          rw [Act.perform?, record?, if_neg failed, if_neg room] at performed
          dsimp only at performed
          rw [← Option.some.inj performed]
          by_cases past : meter.target < meter.bytesTotal + bytes
          · rw [if_pos past, if_pos past, freeze]
          · rw [if_neg past, if_neg past]
        rw [added]
        exact .counted now bytes _ fine room rfl
    | fail now failure =>
        have first : other =
            { meter with failure := some failure, finished := meter.finished.or (some now) } := by
          simpa [Act.perform?, fail, fine, freeze] using performed.symm
        rw [first]
        exact .failed now failure fine
    | finish now direction =>
        cases performed
        exact .kept meter.started (Or.inr ⟨rfl, rfl⟩)

/-- **The decision is final**, whatever is done afterwards. -/
theorem terminated_perform? (decided : meter.terminated = true)
    (performed : act.perform? meter = some other) : other.terminated = true := by
  cases effect_of_perform? performed with
  | kept started idle => exact decided
  | counted now bytes finished fine room timed =>
      have past : meter.target < meter.bytesTotal := by simpa [terminated, fine] using decided
      have further : meter.target < meter.bytesTotal + bytes := by omega
      simp [terminated, further]
  | failed now failure fine => simp [terminated]

/-- A test that is decided stays decided. -/
theorem terminated_after? (decided : meter.terminated = true) {acts : List Act}
    (done : after? acts meter = some other) : other.terminated = true :=
  after?_induction (fun meter => meter.terminated = true) decided terminated_perform? done

/-- The time of the decision is set exactly when the decision has fallen. -/
def Timed (meter : Meter) : Prop := meter.finished.isSome = meter.terminated

theorem timed_new (target : Nat) : Timed { target } := by
  simp [Timed, terminated]

/-- **The time of the decision is set by the act that brings it.** -/
theorem Timed.perform (timed : meter.Timed) (performed : act.perform? meter = some other) :
    other.Timed := by
  cases effect_of_perform? performed with
  | kept started idle => exact timed
  | counted now bytes finished fine room reading =>
      have before : meter.finished.isSome = decide (meter.target < meter.bytesTotal) := by
        rw [timed, terminated, fine, Option.isSome_none, Bool.or_false]
      by_cases past : meter.target < meter.bytesTotal + bytes
      · simp [Timed, terminated, past, reading]
      · have few : ¬ meter.target < meter.bytesTotal := by omega
        simp [Timed, terminated, past, fine, before, few, reading]
  | failed now failure fine => simp [Timed, terminated]

/-- The clock of a meter stays in order, whatever is done to it. -/
theorem Timed.after (timed : meter.Timed) {acts : List Act}
    (done : after? acts meter = some other) : other.Timed :=
  after?_induction Timed timed Timed.perform done

end UsbThroughput.Meter
