import UsbThroughput.Proofs.Run.Mirror

/-!
# The branches of a step

What a step does in each of the cases that a run tells apart while it waits for completions
(`Run.wait`), asks for them (`Run.poll`), reacts to a stall (`Run.onHalt`) or winds up
(`Run.drain`, `Run.close`). A run is overdue if there is no time left to wait for what was
cancelled (`Run.isOverdue`).
-/

namespace UsbThroughput

variable {σ : Type}

/-- After an answer to a call for completions a run goes on, or the call has failed. -/
theorem Polled.goesOn_or_failed (answer : Polled) :
    (answer.result = .ok () ∨ answer.result = .error .interrupted) ∨
      ∃ error, answer.result = .error error ∧ error ≠ .interrupted := by
  cases result : answer.result with
  | ok _ => exact Or.inl (Or.inl rfl)
  | error error =>
      by_cases mild : error = .interrupted
      · exact Or.inl (Or.inr (congrArg Except.error mild))
      · exact Or.inr ⟨error, rfl, mild⟩

namespace Run

/-- Whether there is no time left to wait for what was cancelled. -/
def isOverdue (rig : Rig σ) (run : Run σ) : Bool :=
  match run.stage with
  | .draining deadline =>
      run.queue.inFlight ≠ 0 && (deadline.since (rig.now run.rigState).1).isZero
  | _ => false

variable {run : Run σ} {answer : Polled} {state : σ} (rig : Rig σ)

theorem steps_three (run : Run σ) :
    run.steps rig 3 = ((run.step rig).step rig).step rig := by
  rw [steps_succ, steps_succ, steps_one]

theorem step_of_waiting (waiting : run.stage = .waiting) : run.step rig = run.wait rig := by
  rw [step, waiting]

/-- A run that waits goes on to cancel once the test is decided. -/
theorem wait_of_terminated (terminated : run.meter.terminated = true) :
    run.wait rig = run.goTo .cancelling := by
  rw [wait, if_pos terminated]

section

variable (going : run.meter.terminated = false)

include going

/-- With something in flight a run that waits asks for completions. -/
theorem wait_of_flying (flying : run.queue.inFlight ≠ 0) : run.wait rig = run.poll rig := by
  rw [wait, going, if_neg Bool.false_ne_true, if_neg flying]

/-- With nothing in flight a run that waits clears the halt, if there is one. -/
theorem wait_of_halted (grounded : run.queue.inFlight = 0) (halted : run.halted = true) :
    run.wait rig = run.recover rig := by
  rw [wait, going, if_neg Bool.false_ne_true, if_pos grounded, if_pos halted]

/-- With nothing in flight and no halt to be cleared, a run that waits fails. -/
theorem wait_of_starved (grounded : run.queue.inFlight = 0) (free : run.halted = false) :
    run.wait rig = ((run.note rig .nothingInFlight).fail rig .stalled).goTo .cancelling := by
  rw [wait, going, if_neg Bool.false_ne_true, if_pos grounded, free, if_neg Bool.false_ne_true]

end

/-- A step of a run that waits with something in flight asks for completions. -/
theorem step_of_asking (waiting : run.stage = .waiting) (going : run.meter.terminated = false)
    (flying : run.queue.inFlight ≠ 0) : run.step rig = run.poll rig :=
  (step_of_waiting rig waiting).trans (wait_of_flying rig going flying)

private theorem step_of_handled (handling : run.stage = .handling) (empty : run.arrivals = []) :
    run.step rig = run.goTo .waiting := by
  rw [step, handling]
  dsimp only
  rw [handleNext, empty]

/-- What an event call handed over is acted on, if the call went well. -/
theorem poll_of_goesOn (polled : rig.poll run.settings.eventTimeout run.rigState = (answer, state))
    (goesOn : answer.result = .ok () ∨ answer.result = .error .interrupted) :
    run.poll rig =
      { run with rigState := state, arrivals := run.arrivals ++ answer.delivered }.goTo
        .handling := by
  rcases answer with ⟨delivered, result⟩
  unfold poll
  rw [polled]
  rcases goesOn with rfl | rfl <;> rfl

/-- An event call that fails fails the test. -/
theorem poll_of_failed (polled : rig.poll run.settings.eventTimeout run.rigState = (answer, state))
    {error : UsbError} (failed : answer.result = .error error) (serious : error ≠ .interrupted) :
    run.poll rig =
      ((note rig (.pollFailed error)
        { run with rigState := state, arrivals := run.arrivals ++ answer.delivered }).fail rig
          (.ofUsbError error)).goTo .cancelling := by
  rcases answer with ⟨delivered, result⟩
  cases failed
  unfold poll
  rw [polled]
  cases error <;> first | rfl | exact (serious rfl).elim

/-- A run that has nothing to act on calls again. -/
theorem steps_of_held (handling : run.stage = .handling) (empty : run.arrivals = [])
    (going : run.meter.terminated = false) (flying : run.queue.inFlight ≠ 0)
    {delivered : List Completion}
    (polled : rig.poll run.settings.eventTimeout run.rigState = (⟨delivered, .ok ()⟩, state)) :
    (run.step rig).step rig =
      { run with rigState := state, arrivals := run.arrivals ++ delivered }.goTo .handling := by
  have waiting : (run.goTo .waiting).stage = .waiting := rfl
  rw [step_of_handled rig handling empty, step_of_asking rig waiting going flying]
  exact poll_of_goesOn rig polled (Or.inl rfl)

variable {deadline timeout : Duration}

/-- In the drain, what an event call handed over is applied, if the call went well. -/
theorem awaitCancelled_of_goesOn (polled : rig.poll timeout run.rigState = (answer, state))
    (goesOn : answer.result = .ok () ∨ answer.result = .error .interrupted) :
    run.awaitCancelled rig deadline timeout =
      { run with rigState := state, arrivals := run.arrivals ++ answer.delivered }.goTo
        (.settling deadline) := by
  rcases answer with ⟨delivered, result⟩
  unfold awaitCancelled
  rw [polled]
  rcases goesOn with rfl | rfl <;> rfl

/-- In the drain, an event call that fails is only noted, and ends the waiting. -/
theorem awaitCancelled_of_failed (polled : rig.poll timeout run.rigState = (answer, state))
    {error : UsbError} (failed : answer.result = .error error) (serious : error ≠ .interrupted) :
    run.awaitCancelled rig deadline timeout =
      (note rig (.drainPollFailed error)
        { run with rigState := state, arrivals := run.arrivals ++ answer.delivered }).goTo
          .abandoning := by
  rcases answer with ⟨delivered, result⟩
  cases failed
  unfold awaitCancelled
  rw [polled]
  cases error <;> first | rfl | exact (serious rfl).elim

theorem step_of_draining (draining : run.stage = .draining deadline) :
    run.step rig = run.drain rig deadline := by
  rw [step, draining]

/-- Nothing in flight is nothing to wait for. -/
theorem drain_of_grounded (grounded : run.queue.inFlight = 0) :
    run.drain rig deadline = run.goTo .abandoning := by
  rw [drain, if_pos grounded]

/-- While there is time, a run waits for what was cancelled. -/
theorem drain_of_time (draining : run.stage = .draining deadline)
    (flying : run.queue.inFlight ≠ 0) (time : run.isOverdue rig = false) :
    run.drain rig deadline =
      { run with rigState := (rig.now run.rigState).2 }.awaitCancelled rig deadline
        ((deadline.since (rig.now run.rigState).1).min run.settings.eventTimeout) := by
  rw [isOverdue, draining] at time
  dsimp only at time
  rw [decide_eq_true flying, Bool.true_and] at time
  rw [drain_eq, if_neg flying]
  exact if_neg (Bool.eq_false_iff.mp time)

theorem step_of_settled (settling : run.stage = .settling deadline) (empty : run.arrivals = []) :
    run.step rig = run.goTo (.draining deadline) := by
  rw [step, settling]
  dsimp only
  rw [settle, empty]

/-- A benchmark that failed is closed without a report. -/
theorem close_of_failed {failure : Failure}
    (verdict : run.meter.finish (rig.now run.rigState).1 run.direction = .error failure) :
    run.close rig =
      ((({ run with rigState := (rig.now run.rigState).2 }.sendStop rig).note rig
        (.moved .draining .failed)).disconnect rig).goTo (.ended (.error failure)) := by
  unfold close
  dsimp only
  rw [verdict]

/-- A benchmark that went well is closed with its report. -/
theorem close_of_reported {report : Report}
    (verdict : run.meter.finish (rig.now run.rigState).1 run.direction = .ok report) :
    run.close rig =
      ((((note rig (.report report) { run with rigState := (rig.now run.rigState).2 }).sendStop
        rig).note rig (.moved .draining .reported)).disconnect rig).goTo (.ended (.ok report)) := by
  unfold close
  dsimp only
  rw [verdict]

variable {maxAttempts id : Nat}

/-- Of a further stall in a recovery nothing comes. -/
theorem onHalt_of_halted (halted : run.halted = true) :
    run.onHalt rig maxAttempts id = run.note rig (.stalledWhileHalted id) := by
  rw [onHalt, if_pos halted]

/-- A stall fails the test if no recovery is left. -/
theorem onHalt_of_spent (free : run.halted = false) (spent : ¬run.recoveries < maxAttempts) :
    run.onHalt rig maxAttempts id = (run.note rig (.stalledAgain id)).fail rig .stalled := by
  rw [onHalt, free, if_neg Bool.false_ne_true, if_pos (Nat.le_of_not_lt spent)]

/-- A stall begins a recovery if one is left. -/
theorem onHalt_of_left (free : run.halted = false) (left : run.recoveries < maxAttempts) :
    run.onHalt rig maxAttempts id =
      (note rig (.recovering (run.recoveries + 1) maxAttempts)
        { run with recoveries := run.recoveries + 1, halted := true }).cancelAll rig := by
  rw [onHalt, free, if_neg Bool.false_ne_true, if_neg (Nat.not_le_of_lt left)]
  rfl

end Run

end UsbThroughput
