import Mathlib.Control.Monad.Basic
import UsbThroughput.Proofs.Slot.Make
import UsbThroughput.Run.Step

/-!
# The order of the stages

Which stage of a run may come after which (`Stage.leadsTo`), and that every step keeps to it
(`Run.leadsTo_step`). What depends on the order alone is read off from there: that slots are held
up to the step that abandons them, and that a run which winds up comes to its end.
-/

namespace UsbThroughput

deriving instance DecidableEq for Stage

namespace Stage

/-- Whether a step may lead from one stage to another. -/
def leadsTo : Stage → Stage → Bool
  | filling, starting | filling, broken _ => true
  | starting, waiting => true
  | waiting, waiting | waiting, handling | waiting, cancelling | waiting, broken _ => true
  | handling, handling | handling, waiting | handling, broken _ => true
  | cancelling, draining _ => true
  | draining _, settling _ | draining _, abandoning => true
  | settling _, settling _ | settling _, draining _ => true
  | abandoning, closing => true
  | closing, ended _ => true
  | ended verdict, ended later => verdict = later
  | broken fault, broken later => fault = later
  | _, _ => false

/-- Whether no slot has been abandoned yet. -/
def holdsSlots : Stage → Bool
  | closing | ended _ => false
  | _ => true

/-- Whether a stage comes only after the decision to end the test. -/
def isFinal : Stage → Bool
  | cancelling | draining _ | settling _ | abandoning | closing | ended _ => true
  | _ => false

/-- Whether no completions can be waiting in a stage. -/
def isClear : Stage → Bool
  | filling | starting | waiting => true
  | _ => false

variable {stage next : Stage}

/-- Slots are abandoned once, and only on the way to the end. -/
theorem holdsSlots_of_leadsTo (leads : stage.leadsTo next = true)
    (holds : next.holdsSlots = true) : stage.holdsSlots = true ∧ stage ≠ .abandoning := by
  cases stage <;> cases next <;> simp_all [leadsTo, holdsSlots]

/-- The stages from which slots are not held any more are the last ones. -/
theorem late_of_leadsTo (leads : stage.leadsTo next = true) (late : next.holdsSlots = false) :
    stage = .abandoning ∨ stage = .closing ∨ ∃ verdict, stage = .ended verdict := by
  cases stage <;> cases next <;> simp_all [leadsTo, holdsSlots]

/-- What was decided stays decided. -/
theorem isFinal_of_leadsTo (leads : stage.leadsTo next = true) (final : stage.isFinal = true) :
    next.isFinal = true := by
  cases stage <;> cases next <;> simp_all [leadsTo, isFinal]

/-- No stage leads back to the first. -/
theorem ne_filling_of_leadsTo (leads : stage.leadsTo next = true) : next ≠ .filling := by
  cases stage <;> cases next <;> simp_all [leadsTo]

/-- The device is closed only after all slots are given up. -/
theorem abandoning_of_leadsTo_closing (leads : stage.leadsTo .closing = true) :
    stage = .abandoning := by
  cases stage <;> simp_all [leadsTo]

/-- A run ends when it is closed, and not again. -/
theorem closing_of_leadsTo_ended {verdict : Except Failure Report}
    (leads : stage.leadsTo (.ended verdict) = true) :
    stage = .closing ∨ stage = .ended verdict := by
  cases stage <;> simp_all [leadsTo]

/-- It is decided to wind up by the step right before what is in flight is cancelled. -/
theorem within_of_leadsTo_cancelling (leads : stage.leadsTo cancelling = true) :
    stage.isFinal = false := by
  cases stage <;> first | rfl | contradiction

/-- A test that was decided is not broken off. -/
theorem ended_of_final (final : stage.isFinal = true) (stopped : stage.isOver = true) :
    ∃ verdict, stage = ended verdict := by
  cases stage <;> first | exact ⟨_, rfl⟩ | contradiction

end Stage

namespace Run

variable {σ : Type} (rig : Rig σ)

/-- After an attempt at submission a run goes on, unless it is broken off. -/
theorem stage_afterSubmission (result : Except Refusal Unit) (next : Stage) (run : Run σ) :
    (run.afterSubmission rig result next).stage = next ∨
      ∃ fault, (run.afterSubmission rig result next).stage = .broken fault := by
  match result with
  | .ok () => exact Or.inl rfl
  | .error (.rejected _) => exact Or.inl rfl
  | .error (.inFlight slot) => exact Or.inr ⟨.slotInFlight slot, rfl⟩

/-- A slot out of flight is not refused for being in flight. -/
theorem refusal_of_free {slot : Slot} (free : slot.isSubmitted = false) (state : σ) (id : Nat) :
    (slot.submit rig state).1.1 ≠ .error (.inFlight id) := by
  rcases slot.submit_cases rig state with ⟨flying, _⟩ | ⟨_, _, same⟩ | ⟨_, _, _, same⟩
  · rw [free] at flying
    contradiction
  · rw [same]
    exact nofun
  · rw [same]
    exact nofun

/-- An attempt at the submission of slots out of flight does not break off the run. -/
theorem stage_afterSubmission_of_free {result : Except Refusal Unit}
    (free : ∀ id, result ≠ .error (.inFlight id)) (next : Stage) (run : Run σ) :
    (run.afterSubmission rig result next).stage = next := by
  match result with
  | .ok () => rfl
  | .error (.rejected _) => rfl
  | .error (.inFlight slot) => exact absurd rfl (free slot)

private theorem stage_fillQueue (run : Run σ) (next : Stage) :
    (run.fillQueue rig next).stage = next ∨
      ∃ fault, (run.fillQueue rig next).stage = .broken fault :=
  stage_afterSubmission rig _ next _

/-- Sending the start command, with each state of the rig by its own name. -/
theorem sendStart_eq (run : Run σ) :
    run.sendStart rig =
      { run with rigState := (run.sendStart rig).rigState, stage := .waiting } := by
  unfold sendStart
  dsimp only
  split <;> rfl

private theorem leadsTo_wait {run : Run σ} (waiting : run.stage = .waiting) :
    Stage.leadsTo .waiting (run.wait rig).stage = true := by
  unfold wait
  split
  · rfl
  · split
    · split
      · unfold recover
        dsimp only
        split
        next rigState _ =>
          rcases stage_fillQueue rig
            { run.note rig (.clearingHalt (run.settings.endpoint run.direction)) with
              rigState, halted := false } .waiting with on | ⟨_, broken⟩
          · rw [on]
            rfl
          · rw [broken]
            rfl
        · change Stage.leadsTo .waiting run.stage = true
          rw [waiting]
          rfl
      · rfl
    · unfold poll
      dsimp only
      split <;> rfl

/-- Acting on a completion keeps to the batch, unless a count overflows. -/
theorem stage_handle {run : Run σ} (handling : run.stage = .handling) (completion : Completion) :
    (run.handle rig completion).stage = .handling ∨
      (run.handle rig completion).stage = .broken .countOverflow := by
  unfold handle
  dsimp only
  split
  · exact Or.inl handling
  next slot _ =>
    have free := slot.isSubmitted_complete completion.status completion.length
    split
    · exact Or.inl handling
    · split
      · unfold onCompleted
        dsimp only
        split
        · exact Or.inr rfl
        · split
          · exact Or.inl handling
          · split
            · exact Or.inl handling
            · exact Or.inl (stage_afterSubmission_of_free rig (refusal_of_free rig free _) _ _)
      · unfold onStall
        split
        · exact Or.inl handling
        · unfold onHalt
          split
          · exact Or.inl handling
          · split <;> exact Or.inl handling
      · unfold onFailed
        split
        · exact Or.inl handling
        · dsimp only
          split <;> exact Or.inl handling

private theorem leadsTo_handleNext {run : Run σ} (handling : run.stage = .handling) :
    Stage.leadsTo .handling (run.handleNext rig).stage = true := by
  unfold handleNext
  split
  · rfl
  next completion rest _ =>
    have kept : { run with arrivals := rest }.stage = .handling := handling
    rcases stage_handle rig kept completion with still | broken
    · rw [still]
      rfl
    · rw [broken]
      rfl

private theorem leadsTo_drain (run : Run σ) (deadline : Duration) :
    (Stage.draining deadline).leadsTo (run.drain rig deadline).stage = true := by
  unfold drain
  split
  · rfl
  · dsimp only
    split
    · rfl
    · split <;> rfl

private theorem leadsTo_settle {run : Run σ} {deadline : Duration}
    (settling : run.stage = .settling deadline) :
    (Stage.settling deadline).leadsTo (run.settle rig deadline).stage = true := by
  unfold settle
  split
  · rfl
  · dsimp only
    split
    all_goals
      change (Stage.settling deadline).leadsTo run.stage = true
      rw [settling]
      rfl

/-- Closing a run ends it with the verdict of its meter. -/
theorem close_final (run : Run σ) :
    (run.close rig).meter = run.meter ∧ (run.close rig).direction = run.direction ∧
      (run.close rig).stage = .ended (run.meter.finish (rig.now run.rigState).1 run.direction) := by
  unfold close
  dsimp only
  split <;> exact ⟨rfl, rfl, rfl⟩

/-- **Every step keeps to the order of the stages.** -/
theorem leadsTo_step (run : Run σ) : run.stage.leadsTo (run.step rig).stage = true := by
  unfold step
  cases stage : run.stage with
  | filling =>
      rcases stage_fillQueue rig _ .starting with on | ⟨_, broken⟩
      · exact congrArg (Stage.leadsTo .filling) on
      · exact congrArg (Stage.leadsTo .filling) broken
  | starting =>
      dsimp only
      rw [sendStart_eq]
      rfl
  | waiting => exact leadsTo_wait rig stage
  | handling => exact leadsTo_handleNext rig stage
  | cancelling => rfl
  | draining deadline => exact leadsTo_drain rig run deadline
  | settling deadline => exact leadsTo_settle rig stage
  | abandoning => rfl
  | closing =>
      dsimp only
      rw [(close_final rig run).2.2]
      rfl
  | ended verdict =>
      dsimp only
      rw [stage]
      exact decide_eq_true rfl
  | broken fault =>
      dsimp only
      rw [stage]
      exact decide_eq_true rfl

end Run

end UsbThroughput
