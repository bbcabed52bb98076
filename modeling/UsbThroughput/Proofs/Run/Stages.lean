import UsbThroughput.Proofs.Run.Course

/-!
# What the stage of a run tells

Before the first completion is acted on nothing has been counted, the run waits only when every
completion has been acted on, and it winds up only after the decision to end the test
(`Run.Staged`). Every step keeps this.
-/

namespace UsbThroughput

namespace Run

variable {σ : Type} (rig : Rig σ)

/-- What holds of a run in view of its stage. -/
structure Staged (run : Run σ) : Prop where
  fresh : run.stage = .filling → run.meter = { target := run.settings.dataSize }
  cleared : run.stage.isClear = true → run.arrivals = []
  decided : run.stage.isFinal = true → run.meter.terminated = true

/-- Nothing is asked of a run that was broken off. -/
theorem Staged.of_broken {run : Run σ} {fault : Fault} (broken : run.stage = .broken fault) :
    run.Staged where
  fresh filling := Stage.noConfusion (broken.symm.trans filling)
  cleared clear := by
    rw [broken] at clear
    contradiction
  decided final := by
    rw [broken] at final
    contradiction

/-- Nothing is asked of a run in the middle of a batch. -/
theorem Staged.of_handling {run : Run σ} (handling : run.stage = .handling) : run.Staged where
  fresh filling := Stage.noConfusion (handling.symm.trans filling)
  cleared clear := by
    rw [handling] at clear
    contradiction
  decided final := by
    rw [handling] at final
    contradiction

/-- A run between two batches has no completion waiting. -/
theorem Staged.of_isClear {run : Run σ} (clear : run.stage.isClear = true)
    (begun : run.stage ≠ .filling) (empty : run.arrivals = []) : run.Staged where
  fresh filling := (begun filling).elim
  cleared _ := empty
  decided final := by
    cases stage : run.stage <;> rw [stage] at clear final <;> contradiction

/-- A run that winds up is decided. -/
theorem Staged.of_terminated {run : Run σ} (final : run.stage.isFinal = true)
    (terminated : run.meter.terminated = true) : run.Staged where
  fresh filling := by
    rw [filling] at final
    contradiction
  cleared clear := by
    cases stage : run.stage <;> rw [stage] at clear final <;> contradiction
  decided _ := terminated

/-! ## Where the steps lead -/

@[simp] theorem arrivals_afterSubmission (result : Except Refusal Unit) (next : Stage)
    (run : Run σ) : (run.afterSubmission rig result next).arrivals = run.arrivals := by
  match result with
  | .ok () => rfl
  | .error (.rejected _) => rfl
  | .error (.inFlight _) => rfl

private theorem terminated_fail (run : Run σ) (failure : Failure) :
    (run.fail rig failure).meter.terminated = true := by
  change (run.meter.fail (rig.now run.rigState).1 failure).terminated = true
  unfold Meter.fail
  split
  next failed => exact Bool.or_eq_true_iff.mpr (Or.inr failed)
  next => exact Bool.or_true _

private theorem staged_fillQueue {run : Run σ} {next : Stage} (clear : next.isClear = true)
    (begun : next ≠ .filling) (empty : run.arrivals = []) : (run.fillQueue rig next).Staged := by
  unfold fillQueue
  dsimp only
  generalize run.queue.submit rig run.rigState = filled
  obtain ⟨⟨result, queue⟩, rigState⟩ := filled
  rcases stage_afterSubmission rig result next { run with queue, rigState } with
    on | ⟨_, broken⟩
  · refine .of_isClear ?_ ?_ ((arrivals_afterSubmission rig _ _ _).trans empty)
    · exact (congrArg Stage.isClear on).trans clear
    · exact fun filling => begun (on.symm.trans filling)
  · exact .of_broken broken

private theorem staged_recover {run : Run σ} (waiting : run.stage = .waiting)
    (empty : run.arrivals = []) :
    (run.recover rig).Staged := by
  unfold recover
  dsimp only
  split
  · exact staged_fillQueue rig rfl Stage.noConfusion empty
  · refine .of_isClear ?_ ?_ empty
    · change run.stage.isClear = true
      rw [waiting]
      rfl
    · change run.stage ≠ .filling
      rw [waiting]
      exact Stage.noConfusion

private theorem staged_wait {run : Run σ} (waiting : run.stage = .waiting)
    (empty : run.arrivals = []) :
    (run.wait rig).Staged := by
  unfold wait
  split
  next terminated => exact .of_terminated rfl terminated
  next =>
    split
    · split
      · exact staged_recover rig waiting empty
      · exact .of_terminated rfl (terminated_fail rig _ _)
    · unfold poll
      dsimp only
      split
      · exact .of_handling rfl
      · exact .of_handling rfl
      · exact .of_terminated rfl (terminated_fail rig _ _)

/-! ## Acting on a completion -/

/-- A completion of no slot of the queue is only noted. -/
theorem handle_of_unknown {run : Run σ} {completion : Completion}
    (unknown : run.queue.slot? completion.slot = none) :
    run.handle rig completion = run.note rig (.unknownSlot completion.slot) := by
  simp only [handle, unknown]

/-- A completion after the decision is applied and noted, and not acted on. -/
theorem handle_of_terminated {run : Run σ} {completion : Completion} {slot : Slot}
    (held : run.queue.slot? completion.slot = some slot)
    (terminated : run.meter.terminated = true) :
    run.handle rig completion =
      (run.receive completion).note rig (.finishedLate completion.slot completion.status) := by
  have still : (run.putSlot completion.slot
    (slot.complete completion.status completion.length)).meter.terminated = true := terminated
  simp only [handle, held, receive_of_held held, still, ↓reduceIte]

/-- A completion that comes before the decision is acted on by its status. -/
theorem handle_of_going {run : Run σ} {completion : Completion} {slot : Slot}
    (held : run.queue.slot? completion.slot = some slot)
    (going : run.meter.terminated = false) :
    run.handle rig completion =
      match completion.status with
      | .completed =>
          (run.receive completion).onCompleted rig completion.slot
            (slot.complete completion.status completion.length)
      | .stall =>
          (run.receive completion).onStall rig completion.slot
            (slot.complete completion.status completion.length)
      | status => (run.receive completion).onFailed rig completion.slot status := by
  have still : (run.putSlot completion.slot
    (slot.complete completion.status completion.length)).meter.terminated = false := going
  rw [receive_of_held held]
  unfold handle
  dsimp only
  rw [held]
  dsimp only
  refine (if_neg (still ▸ Bool.false_ne_true)).trans ?_
  cases completion.status <;> rfl

/-- What comes after the decision is not counted. -/
theorem meter_handle_of_terminated {run : Run σ} (terminated : run.meter.terminated = true)
    (completion : Completion) : (run.handle rig completion).meter = run.meter := by
  cases held : run.queue.slot? completion.slot with
  | none =>
      rw [handle_of_unknown rig held]
      rfl
  | some slot =>
      rw [handle_of_terminated rig held terminated]
      exact meter_receive run completion

private theorem staged_handleNext {run : Run σ} (handling : run.stage = .handling) :
    (run.handleNext rig).Staged := by
  unfold handleNext
  split
  next none => exact .of_isClear rfl Stage.noConfusion none
  next completion rest _ =>
    have kept : { run with arrivals := rest }.stage = .handling := handling
    rcases stage_handle rig kept completion with still | broken
    · exact .of_handling still
    · exact .of_broken broken

private theorem meter_drain (run : Run σ) (deadline : Duration) :
    (run.drain rig deadline).meter = run.meter := by
  unfold drain
  split
  · rfl
  · dsimp only
    split
    · rfl
    · split <;> rfl

/-- What is applied while the run winds up is not counted. -/
theorem meter_settle (run : Run σ) (deadline : Duration) :
    (run.settle rig deadline).meter = run.meter := by
  unfold settle
  split
  · rfl
  · dsimp only
    split <;> rfl

/-- The last steps leave arrivals where they are. -/
theorem arrivals_step_of_late {run : Run σ} (late : (run.step rig).stage.holdsSlots = false) :
    (run.step rig).arrivals = run.arrivals ∧ run.next? = none := by
  rcases Stage.late_of_leadsTo (leadsTo_step rig run) late with
    abandoning | closing | ⟨verdict, ended⟩
  · rw [step, next?, abandoning]
    exact ⟨rfl, rfl⟩
  · rw [step, next?, closing]
    dsimp only
    unfold close
    dsimp only
    split <;> exact ⟨rfl, rfl⟩
  · rw [step, next?, ended]
    exact ⟨rfl, rfl⟩

/-- In the stages after the decision, no step changes the meter. -/
theorem meter_step_of_isFinal {run : Run σ} (final : run.stage.isFinal = true) :
    (run.step rig).meter = run.meter := by
  unfold step
  cases stage : run.stage with
  | cancelling => rfl
  | draining deadline => exact meter_drain rig run deadline
  | settling deadline => exact meter_settle rig run deadline
  | abandoning => rfl
  | closing => exact (close_final rig run).1
  | ended _ => rfl
  | broken _ => rfl
  | _ =>
      rw [stage] at final
      contradiction

/-- After the decision to end the test nothing is counted and no failure is kept. -/
theorem meter_step_of_terminated {run : Run σ} (staged : run.Staged)
    (terminated : run.meter.terminated = true) : (run.step rig).meter = run.meter := by
  cases stage : run.stage with
  | filling =>
      rw [staged.fresh stage] at terminated
      exact absurd terminated (by simp [Meter.terminated])
  | starting =>
      rw [step, stage]
      have sent := congrArg Run.meter (sendStart_eq rig run)
      exact sent
  | waiting =>
      rw [step, stage]
      have passed := congrArg Run.meter (if_pos terminated : run.wait rig = run.goTo .cancelling)
      exact passed
  | handling =>
      rw [step, stage]
      dsimp only
      unfold handleNext
      split
      next => rfl
      next completion rest _ =>
        have late : { run with arrivals := rest }.meter.terminated = true := terminated
        exact meter_handle_of_terminated rig late completion
  | broken fault => rw [step_of_isOver rig (stage ▸ rfl)]
  | _ => exact meter_step_of_isFinal rig (stage ▸ rfl)

/-- **Every step keeps what the stage tells.** -/
theorem Staged.step {run : Run σ} (staged : run.Staged) : (run.step rig).Staged := by
  cases final : run.stage.isFinal with
  | true =>
      have still := Stage.isFinal_of_leadsTo (leadsTo_step rig run) final
      have meter := meter_step_of_isFinal rig final
      exact .of_terminated still (meter ▸ staged.decided final)
  | false =>
      have cleared := staged.cleared
      unfold Run.step
      cases stage : run.stage with
      | filling => exact staged_fillQueue rig rfl Stage.noConfusion (cleared (stage ▸ rfl))
      | starting =>
          rw [sendStart_eq]
          exact .of_isClear rfl Stage.noConfusion (cleared (stage ▸ rfl))
      | waiting => exact staged_wait rig stage (cleared (stage ▸ rfl))
      | handling => exact staged_handleNext rig stage
      | broken fault => exact .of_broken stage
      | _ =>
          rw [stage] at final
          contradiction

/-- Any number of steps keep a run in its stages. -/
theorem Staged.steps {run : Run σ} (staged : run.Staged) (count : Nat) :
    (run.steps rig count).Staged := by
  induction count with
  | zero => exact staged
  | succ count ih =>
      rw [steps_succ]
      exact ih.step rig

/-- A run that ends does so with the verdict of its meter. -/
theorem finish_of_ended {run : Run σ} (begun : ∀ verdict, run.stage ≠ .ended verdict) (count : Nat)
    {verdict : Except Failure Report} (ended : (run.steps rig count).stage = .ended verdict) :
    ∃ now, verdict =
      (run.steps rig count).meter.finish now (run.steps rig count).direction := by
  obtain ⟨earlier, _, _, closed⟩ := closing_of_ended rig begun count ended
  obtain ⟨meter, direction, stage⟩ := close_final rig (run.steps rig earlier)
  rw [closed] at ended ⊢
  rw [meter, direction]
  exact ⟨_, (Stage.ended.inj (stage.symm.trans ended)).symm⟩

end Run

/-- A benchmark keeps to its stages at every step. -/
theorem Benchmark.staged_runAfter {σ : Type} (rig : Rig σ) (benchmark : Benchmark) (state : σ)
    (count : Nat) : (benchmark.runAfter rig state count).Staged := by
  refine Run.Staged.steps rig ⟨fun _ => rfl, fun _ => rfl, fun final => ?_⟩ count
  contradiction

/-- The verdict is how the meter finishes. -/
theorem Benchmark.verdict_runAfter {σ : Type} (rig : Rig σ) (benchmark : Benchmark) (state : σ)
    {count : Nat} {verdict : Except Failure Report}
    (ended : (benchmark.runAfter rig state count).stage = .ended verdict) :
    ∃ now, verdict = (benchmark.runAfter rig state count).meter.finish now
      (benchmark.runAfter rig state count).direction := by
  refine Run.finish_of_ended rig (fun _ done => ?_) count ended
  have filling : (benchmark.runAfter rig state 0).stage = .filling := rfl
  exact Stage.noConfusion (filling.symm.trans done)

end UsbThroughput
