import UsbThroughput.Proofs.Benchmark.Faults
import UsbThroughput.Proofs.Session.Course

/-!
# What holds while a device is open

A property of the states of a rig that every call keeps, but for those that open and close a device
(`Rig.Sustains`), holds from the opening of the device to its closing: a benchmark that is over has
closed its device in a state with that property (`Benchmark.parting_sustained`).
-/

namespace UsbThroughput

variable {σ : Type}

/-- Every call on an open device keeps a property. -/
structure Rig.Sustains (rig : Rig σ) (holds : σ → Prop) : Prop where
  submit : ∀ slot state, holds state → holds (rig.submit slot state).2
  cancel : ∀ slot state, holds state → holds (rig.cancel slot state).2
  poll : ∀ timeout state, holds state → holds (rig.poll timeout state).2
  write : ∀ endpoint data timeout state,
    holds state → holds (rig.write endpoint data timeout state).2
  clearHalt : ∀ endpoint state, holds state → holds (rig.clearHalt endpoint state).2
  now : ∀ state, holds state → holds (rig.now state).2
  note : ∀ notice state, holds state → holds (rig.note notice state)

/-- What a rig sustains is sustained when its calls are written down. -/
theorem Rig.Sustains.journaled {rig : Rig σ} {holds : σ → Prop} (sustains : rig.Sustains holds) :
    rig.journaled.Sustains fun journal => holds journal.state where
  submit slot journal := sustains.submit slot journal.state
  cancel slot journal := sustains.cancel slot journal.state
  poll timeout journal := sustains.poll timeout journal.state
  write endpoint data timeout journal := sustains.write endpoint data timeout journal.state
  clearHalt endpoint journal := sustains.clearHalt endpoint journal.state
  now journal := sustains.now journal.state
  note notice journal := sustains.note notice journal.state

namespace Run

variable {rig : Rig σ} {holds : σ → Prop} {scope : Scope} {run last : Run σ}
  {taken next : List Completion}

private theorem Move.sustained (move : Move rig scope run next last) (sustains : rig.Sustains holds)
    (held : holds run.rigState) : holds last.rigState := by
  cases move with
  | note notice => exact sustains.note notice _ held
  | now => exact sustains.now _ held
  | write endpoint data timeout => exact sustains.write endpoint data timeout _ held
  | clearHalt endpoint _ _ => exact sustains.clearHalt endpoint _ held
  | poll timeout _ => exact sustains.poll timeout _ held
  | take completion rest _ =>
      rw [rigState_receive]
      exact held
  | submit id slot _ free _ =>
      change holds (slot.submit rig run.rigState).2
      rw [rigState_submit rig free]
      exact sustains.submit slot.reset _ held
  | cancel id slot _ _ _ => exact sustains.cancel slot.requestCancel _ held
  | setAside => exact held
  | tend => exact held

private theorem Path.sustained (path : Path rig scope run taken last)
    (sustains : rig.Sustains holds)
    (held : holds run.rigState) : holds last.rigState := by
  induction path with
  | refl => exact held
  | step _ move ih => exact move.sustained sustains ih

/-- Slots are abandoned without a call on the device. -/
theorem abandonQueue_sustained (sustains : rig.Sustains holds) (held : holds run.rigState) :
    holds (run.abandonQueue rig).rigState := by
  have each (slots : List Slot) (state : σ) (held : holds state) :
      holds (Queue.abandonEach rig slots state).2 := by
    induction slots generalizing state with
    | nil => exact held
    | cons slot rest ih =>
        rw [Queue.abandonEach]
        cases slot.isSubmitted with
        | true => exact ih _ (sustains.note _ _ held)
        | false => exact ih _ held
  exact each _ _ held

end Run

namespace Benchmark

variable {rig : Rig σ} {holds : σ → Prop} (benchmark : Benchmark) {state : σ}

/-- As long as a benchmark holds its slots and is not over, its device is open. -/
theorem sustained_runAfter (sustains : rig.Sustains holds)
    (opened : holds (benchmark.connect rig state).2) {count : Nat}
    (holding : (benchmark.runAfter rig state count).stage.holdsSlots = true)
    (going : (benchmark.runAfter rig state count).stage.isOver = false) :
    holds (benchmark.runAfter rig state count).rigState :=
  ((Run.reaches_steps rig (benchmark.runAfter rig state 0) count holding).path going).sustained
    sustains (sustains.note (.moved .idle .deviceOpened) _ opened)

/-- **A benchmark that is over has closed its device**, in a state with every property that an open
device keeps. -/
theorem parting_sustained (sustains : rig.Sustains holds)
    (opened : holds (benchmark.connect rig state).2) {count : Nat}
    (stopped : (benchmark.runAfter rig state count).stage.isOver = true) :
    ∃ parting, holds parting ∧
      (benchmark.runAfter rig state count).rigState = rig.disconnect parting := by
  cases stage : (benchmark.runAfter rig state count).stage with
  | ended verdict =>
      obtain ⟨last, _, abandoning, closed⟩ := benchmark.last_steps rig stage
      have held := benchmark.sustained_runAfter sustains opened
        (congrArg Stage.holdsSlots abandoning) (congrArg Stage.isOver abandoning)
      obtain ⟨middle, stage, quiet, _, same⟩ :
          ∃ middle stage, Run.Path rig .quiet _ [] middle ∧ _ :=
        Run.close_eq_shut ((benchmark.runAfter rig state last).abandonQueue rig)
      refine ⟨middle.rigState, ?_, ?_⟩
      · exact quiet.sustained sustains (Run.abandonQueue_sustained sustains held)
      · rw [closed, same]
        rfl
  | broken fault =>
      -- Only with a journal it is known that the device was closed by the step that broke it off.
      rw [benchmark.runAfter_journaled] at stage ⊢
      have connected : holds (benchmark.connect rig.journaled { state }).2.state := by
        unfold connect at opened ⊢
        split at opened <;> exact opened
      obtain ⟨earlier, _, going, last⟩ :=
        benchmark.last_step_of_isOver rig.journaled { state } (congrArg Stage.isOver stage)
      have brokenOff : (benchmark.runAfter rig.journaled { state } (earlier + 1)).stage =
          .broken fault := last ▸ stage
      rw [benchmark.runAfter_succ] at brokenOff
      obtain ⟨_, _, _, _, _, _, closed⟩ := Run.overflows_of_broken
        (benchmark.sound_runAfter rig.journaled { state } earlier)
        (@benchmark.fitted_runAfter _ rig.journaled { state } earlier) going brokenOff
      have holding : (benchmark.runAfter rig.journaled { state } earlier).stage.holdsSlots = true :=
        Stage.holdsSlots_of_leadsTo (Run.leadsTo_step rig.journaled _) (brokenOff ▸ rfl) |>.1
      have held := benchmark.sustained_runAfter sustains.journaled connected holding going
      refine ⟨_, sustains.journaled.now _ held, ?_⟩
      change (benchmark.runAfter rig.journaled { state } count).rigState.state = _
      rw [last, benchmark.runAfter_succ, closed]
      rfl
  | _ =>
      rw [stage] at stopped
      contradiction

end Benchmark

end UsbThroughput
