import UsbThroughput.Proofs.Rig.Calls
import UsbThroughput.Proofs.Run.Calls

/-!
# What a finished transfer brings about

Everything that acting on a completion can do (`Run.Reaction`): the calls on the device, and the
run as it is afterwards. Nothing else is changed than what is written down there.
-/

namespace UsbThroughput

open RigEvent

namespace Meter

/-- Keeps a failure, if there is one. -/
def failOn (now : Duration) (failure? : Option Failure) (meter : Meter) : Meter :=
  failure?.elim meter (meter.fail now)

@[simp] theorem failOn_some (now : Duration) (failure : Failure) (meter : Meter) :
    meter.failOn now (some failure) = meter.fail now failure := rfl

/-- The first failure is the one that is kept. -/
theorem failure_failOn (now : Duration) (failure? : Option Failure) (meter : Meter) :
    (meter.failOn now failure?).failure = meter.failure.or failure? := by
  cases failure? with
  | none => exact (Option.or_none).symm
  | some failure => exact failure_fail now failure meter

/-- A failure leaves the totals alone. -/
theorem bytesTotal_failOn (now : Duration) (failure? : Option Failure) (meter : Meter) :
    (meter.failOn now failure?).bytesTotal = meter.bytesTotal := by
  cases failure? with
  | none => rfl
  | some failure =>
      rw [failOn_some, fail]
      split <;> rfl

theorem target_failOn (now : Duration) (failure? : Option Failure) (meter : Meter) :
    (meter.failOn now failure?).target = meter.target := by
  cases failure? with
  | none => rfl
  | some failure =>
      rw [failOn_some, fail]
      split <;> rfl

/-- A failure decides the test. -/
theorem terminated_failOn (now : Duration) (failure? : Option Failure) (meter : Meter) :
    (meter.failOn now failure?).terminated = (meter.terminated || failure?.isSome) := by
  rw [terminated, terminated, bytesTotal_failOn, target_failOn, failure_failOn, Option.isSome_or,
    Bool.or_assoc]

end Meter

namespace Run

variable {σ : Type}

/-- Why nothing comes of a finished transfer but that it was applied to its slot. -/
inductive Passes (run : Run σ) (completion : Completion) : Prop where
  | unknown (unheld : run.queue.slot? completion.slot = none)
  | late (terminated : run.meter.terminated = true)
  | leftIdle (stalled : completion.status = .stall)
      (policy : run.settings.stallRecovery = .leaveIdle)
  | stalledWhileHalted (stalled : completion.status = .stall) (halted : run.halted = true)
  | cancelledWhileHalted (cancelled : completion.status = .cancelled) (halted : run.halted = true)

/-- What acting on a finished transfer can do, after it was applied to its slot: the calls on the
device, and the run as it is then. -/
inductive Reaction (run : Run σ) (completion : Completion) : List RigEvent → Run σ → Prop where
  | passed (state : σ) (passes : run.Passes completion) :
      Reaction run completion [] { run with rigState := state }
  | failed (state : σ) (now : Duration) (failure : Failure)
      (going : run.meter.terminated = false)
      (objection : run.objection? completion = some failure) :
      Reaction run completion []
        { run with rigState := state, meter := run.meter.fail now failure }
  | counted (state : σ) (now : Duration) (slot : Slot) (meter : Meter)
      (going : run.meter.terminated = false)
      (held : run.queue.slot? completion.slot = some slot)
      (completed : completion.status = .completed)
      (recorded : run.meter.record? now slot.moved = some meter)
      (kept : meter.terminated = true ∨ run.halted = true) :
      Reaction run completion [] { run with rigState := state, meter }
  | resubmitted (state : σ) (now later : Duration) (slot next : Slot) (meter : Meter)
      (calls : List RigEvent) (refusal : Option SubmissionError)
      (going : run.meter.terminated = false)
      (held : run.queue.slot? completion.slot = some slot)
      (completed : completion.status = .completed)
      (recorded : run.meter.record? now slot.moved = some meter)
      (unfinished : meter.terminated = false) (free : run.halted = false)
      (fills : Fills [slot] calls [next] refusal) :
      Reaction run completion calls
        { run.putSlot completion.slot next with
          rigState := state
          meter := meter.failOn later (refusal.map SubmissionError.failure)
          stage := .handling }
  | overflowed (state : σ) (going : run.meter.terminated = false)
      (completed : completion.status = .completed) :
      Reaction run completion [.disconnected]
        { run with rigState := state, stage := .broken .countOverflow }
  | begun (state : σ) (maxAttempts : Nat) (slot : Slot) (calls : List RigEvent)
      (going : run.meter.terminated = false)
      (held : run.queue.slot? completion.slot = some slot)
      (stalled : completion.status = .stall)
      (policy : run.settings.stallRecovery = .clearHalt maxAttempts)
      (free : run.halted = false) (left : run.recoveries < maxAttempts)
      (cancels : Cancels run.queue.slots calls) :
      Reaction run completion calls
        { run.withSlots (run.queue.slots.map Slot.recalled) state with
          recoveries := run.recoveries + 1
          halted := true }

/-- A completion of a slot of the queue is judged by its status. -/
theorem objection?_of_held {run : Run σ} {completion : Completion} {slot : Slot}
    (held : run.queue.slot? completion.slot = some slot) :
    run.objection? completion = run.objectionTo? completion.status :=
  if_pos (List.getElem?_eq_some_iff.mp held).1

/-! ## Each way that a transfer can finish -/

section

variable {run last : Run σ} {calls : List RigEvent} {completion : Completion} {slot : Slot}

/-- Whether a finished transfer is a stall that begins a recovery. -/
def Begins (run : Run σ) (completion : Completion) : Prop :=
  completion.status = .stall ∧ run.halted = false ∧
    ∃ maxAttempts, run.settings.stallRecovery = .clearHalt maxAttempts ∧
      run.recoveries < maxAttempts

/-- A stall that begins a recovery is no failure. -/
theorem objection?_of_begins (held : run.queue.slot? completion.slot = some slot)
    (begins : run.Begins completion) : run.objection? completion = none := by
  obtain ⟨stalled, _, maxAttempts, policy, left⟩ := begins
  rw [objection?_of_held held, stalled, objectionTo?, policy]
  exact if_neg fun spent => Nat.not_le.mpr left spent.2

/-- A finished transfer of which nothing comes is no failure, and begins no recovery. -/
theorem Passes.unobjectionable (passes : run.Passes completion)
    (held : run.queue.slot? completion.slot = some slot) (going : run.meter.terminated = false) :
    completion.status ≠ .completed ∧ run.objection? completion = none ∧
      ¬run.Begins completion := by
  rw [objection?_of_held held]
  cases passes with
  | unknown unheld => exact (Option.some_ne_none _ (held.symm.trans unheld)).elim
  | late terminated => exact Bool.noConfusion (going.symm.trans terminated)
  | leftIdle stalled policy =>
      rw [stalled, objectionTo?, policy]
      refine ⟨TransferStatus.noConfusion, rfl, fun begins => ?_⟩
      obtain ⟨_, _, _, recovers, _⟩ := begins
      exact StallRecovery.noConfusion (policy.symm.trans recovers)
  | stalledWhileHalted stalled halted =>
      rw [stalled, objectionTo?, halted]
      refine ⟨TransferStatus.noConfusion, ?_,
        fun begins => Bool.noConfusion (halted.symm.trans begins.2.1)⟩
      split
      · rfl
      · exact if_neg fun stuck => Bool.noConfusion stuck.1
  | cancelledWhileHalted cancelled halted =>
      rw [cancelled, objectionTo?, halted]
      exact ⟨TransferStatus.noConfusion, rfl,
        fun begins => TransferStatus.noConfusion (cancelled.symm.trans begins.1)⟩

/-- What comes of a transfer that did not complete: a recovery, or no more than a failure. -/
theorem Reaction.of_not_completed (reaction : run.Reaction completion calls last)
    (held : run.queue.slot? completion.slot = some slot) (going : run.meter.terminated = false)
    (short : completion.status ≠ .completed) :
    (run.Begins completion ∧ Cancels run.queue.slots calls ∧ ∃ state,
      last = { run.withSlots (run.queue.slots.map Slot.recalled) state with
        recoveries := run.recoveries + 1
        halted := true }) ∨
    ¬run.Begins completion ∧ calls = [] ∧ ∃ state now,
      last = { run with
        rigState := state
        meter := run.meter.failOn now (run.objection? completion) } := by
  cases reaction with
  | passed state passes =>
      obtain ⟨_, fine, unbegun⟩ := passes.unobjectionable held going
      refine Or.inr ⟨unbegun, rfl, state, .zero, ?_⟩
      rw [fine]
      rfl
  | failed state now failure _ objection =>
      refine Or.inr ⟨fun begins => ?_, rfl, state, now, ?_⟩
      · rw [objection?_of_begins held begins] at objection
        contradiction
      · rw [objection]
        rfl
  | counted _ _ _ _ _ _ completed => exact absurd completed short
  | resubmitted _ _ _ _ _ _ _ _ _ _ completed => exact absurd completed short
  | overflowed _ _ completed => exact absurd completed short
  | begun state maxAttempts _ _ _ _ stalled policy free left cancels =>
      exact Or.inl ⟨⟨stalled, free, maxAttempts, policy, left⟩, cancels, state, rfl⟩

/-- What comes of a transfer that completed: it is counted, and if the test goes on without a
recovery, its slot is submitted again. -/
theorem Reaction.of_completed (reaction : run.Reaction completion calls last)
    (held : run.queue.slot? completion.slot = some slot) (going : run.meter.terminated = false)
    (completed : completion.status = .completed) (whole : ∀ fault, last.stage ≠ .broken fault) :
    ∃ now meter, run.meter.record? now slot.moved = some meter ∧
      (((meter.terminated || run.halted) = true ∧ calls = [] ∧ ∃ state,
        last = { run with rigState := state, meter }) ∨
      (meter.terminated || run.halted) = false ∧ ∃ state later next refusal,
        Fills [slot] calls [next] refusal ∧
          last = { run.putSlot completion.slot next with
            rigState := state
            meter := meter.failOn later (refusal.map SubmissionError.failure)
            stage := .handling }) := by
  cases reaction with
  | passed state passes => exact absurd completed (passes.unobjectionable held going).1
  | failed state now failure _ objection =>
      rw [objection?_of_held held, completed] at objection
      contradiction
  | counted state now _ meter _ there _ recorded kept =>
      cases held.symm.trans there
      exact ⟨now, meter, recorded, Or.inl ⟨Bool.or_eq_true_iff.mpr kept, rfl, state, rfl⟩⟩
  | resubmitted state now later _ next meter _ refusal _ there _ recorded unfinished free fills =>
      cases held.symm.trans there
      exact ⟨now, meter, recorded, Or.inr ⟨Bool.or_eq_false_iff.mpr ⟨unfinished, free⟩, state,
        later, next, refusal, fills, rfl⟩⟩
  | overflowed _ _ _ => exact absurd rfl (whole .countOverflow)
  | begun _ _ _ _ _ _ stalled =>
      rw [completed] at stalled
      contradiction

end

/-! ## Acting on a completion -/

variable (rig : Rig σ)

/-- A submission that the run goes on after, with the failure of the one that was refused. -/
theorem afterSubmission_answer (refusal : Option SubmissionError) (next : Stage)
    (run : Run (Journal RigEvent σ)) :
    ∃ state now, run.rigState.Performs [] state ∧
      run.afterSubmission rig.journaled (Refusal.answer refusal) next =
        { run with
          rigState := state
          meter := run.meter.failOn now (refusal.map SubmissionError.failure)
          stage := next } := by
  cases refusal with
  | none => exact ⟨run.rigState, .zero, .refl _, rfl⟩
  | some error =>
      refine ⟨_, _, ?_, rfl⟩
      exact (rig.performs_note (.refused error) run.rigState).then_aside (.of_same rfl)

section

variable {run : Run (Journal RigEvent σ)} {completion : Completion} {slot : Slot}

/-- Counting a completed transfer and submitting its slot again. -/
theorem reacts_onCompleted (held : run.queue.slot? completion.slot = some slot)
    (free : slot.isSubmitted = false) (going : run.meter.terminated = false)
    (completed : completion.status = .completed) :
    ∃ calls,
      run.rigState.Performs calls (run.onCompleted rig.journaled completion.slot slot).rigState ∧
      run.Reaction completion calls (run.onCompleted rig.journaled completion.slot slot) := by
  unfold onCompleted
  dsimp only
  split
  next => exact ⟨_, .of_call rfl (rig.history_disconnect _), .overflowed _ going completed⟩
  next meter recorded =>
    have noted : run.rigState.Performs []
        (Run.note rig.journaled (.completed completion.slot slot.moved meter.bytesTotal)
          { run with rigState := (rig.journaled.now run.rigState).2, meter }).rigState :=
      rig.performs_note _ (rig.journaled.now run.rigState).2
    split
    next finished =>
      refine ⟨[], noted.then_aside (rig.performs_note _ _), ?_⟩
      exact .counted _ _ slot meter going held completed recorded (Or.inl finished)
    next unfinished =>
      split
      next halted =>
        refine ⟨[], noted, ?_⟩
        exact .counted _ _ slot meter going held completed recorded (Or.inr halted)
      next filling =>
        generalize counted : Run.note rig.journaled _ _ = middle at noted ⊢
        obtain ⟨calls, refusal, grown, answered, fills⟩ :=
          slot.fills_submit rig free middle.rigState
        obtain ⟨last, later, performs, same⟩ := afterSubmission_answer rig refusal .handling
          ({ middle with rigState := (slot.submit rig.journaled middle.rigState).2 }.putSlot
            completion.slot (slot.submit rig.journaled middle.rigState).1.2)
        rw [← answered] at same
        rw [same]
        refine ⟨calls, (noted.trans (.of_calls fills.onDevice grown)).then_aside performs, ?_⟩
        subst counted
        exact .resubmitted last _ later slot _ meter calls refusal going held completed recorded
          (Bool.eq_false_iff.mpr unfinished) (Bool.eq_false_iff.mpr filling) fills

/-- Beginning the recovery from a halt, or not. -/
theorem reacts_onStall (held : run.queue.slot? completion.slot = some slot)
    (aside : slot.setAside = slot) (going : run.meter.terminated = false)
    (stalled : completion.status = .stall) :
    ∃ calls,
      run.rigState.Performs calls (run.onStall rig.journaled completion.slot slot).rigState ∧
      run.Reaction completion calls (run.onStall rig.journaled completion.slot slot) := by
  unfold onStall
  rw [aside]
  cases policy : run.settings.stallRecovery with
  | leaveIdle =>
      have kept : (run.note rig.journaled .backingOff).putSlot completion.slot slot =
          run.note rig.journaled .backingOff := putSlot_self held
      dsimp only
      rw [kept]
      exact ⟨[], rig.performs_note _ _, .passed _ (.leftIdle stalled policy)⟩
  | clearHalt maxAttempts =>
      dsimp only
      rw [putSlot_self held]
      unfold onHalt
      split
      next halted =>
        refine ⟨[], rig.performs_note _ run.rigState, ?_⟩
        exact .passed _ (.stalledWhileHalted stalled halted)
      next free =>
        split
        next spent =>
          have objection : run.objection? completion = some .stalled := by
            rw [objection?_of_held held, stalled, objectionTo?, policy]
            exact if_pos ⟨Bool.eq_false_iff.mpr free, spent⟩
          refine ⟨[], (rig.performs_note _ run.rigState).then_aside (.of_same rfl), ?_⟩
          exact .failed _ _ .stalled going objection
        next left =>
          let noted := rig.journaled.note (.recovering (run.recoveries + 1) maxAttempts) run.rigState
          obtain ⟨calls, performs, cancels, slots⟩ :=
            Queue.cancels_cancelEach rig run.queue.slots noted
          have begun : run.Reaction completion calls
              { run.withSlots (Queue.cancelEach rig.journaled run.queue.slots noted).1
                  (Queue.cancelEach rig.journaled run.queue.slots noted).2 with
                recoveries := run.recoveries + 1
                halted := true } := by
            rw [slots]
            exact .begun _ maxAttempts slot calls going held stalled policy
              (Bool.eq_false_iff.mpr free) (Nat.lt_of_not_le left) cancels
          exact ⟨calls, Journal.Performs.trans (rig.performs_note _ _) performs, begun⟩

/-- Acting on a transfer that neither completed nor stalled. -/
theorem reacts_onFailed (held : run.queue.slot? completion.slot = some slot)
    (going : run.meter.terminated = false) (short : completion.status ≠ .completed)
    (plain : completion.status ≠ .stall) :
    run.rigState.Performs []
        (run.onFailed rig.journaled completion.slot completion.status).rigState ∧
      run.Reaction completion []
        (run.onFailed rig.journaled completion.slot completion.status) := by
  unfold onFailed
  split
  next both =>
    obtain ⟨cancelled, halted⟩ := Bool.and_eq_true_iff.mp both
    refine ⟨rig.performs_note _ run.rigState, ?_⟩
    exact .passed _ (.cancelledWhileHalted (of_decide_eq_true cancelled) halted)
  next serious =>
    dsimp only
    split
    next failure found =>
      have objection : run.objection? completion = some failure := by
        rw [objection?_of_held held]
        cases status : completion.status with
        | completed => exact (short status).elim
        | stall => exact (plain status).elim
        | cancelled =>
            rw [status] at serious found
            rw [objectionTo?, ← found]
            exact if_neg fun halted => serious (Bool.and_eq_true_iff.mpr ⟨rfl, halted⟩)
        | _ =>
            rw [status] at found
            exact found
      refine ⟨(rig.performs_note _ run.rigState).then_aside (.of_same rfl), ?_⟩
      exact .failed _ _ failure going objection
    next none =>
      cases status : completion.status with
      | completed => exact (short status).elim
      | _ =>
          rw [status] at none
          contradiction

end

/-- **Whatever comes of a finished transfer** is one of the reactions. -/
theorem reacts_handle (run : Run (Journal RigEvent σ)) (completion : Completion) :
    ∃ calls, run.rigState.Performs calls (run.handle rig.journaled completion).rigState ∧
      (run.receive completion).Reaction completion calls (run.handle rig.journaled completion) := by
  cases held : run.queue.slot? completion.slot with
  | none =>
      have same : run.receive completion = run := by rw [receive, held]
      rw [handle_of_unknown _ held, same]
      exact ⟨[], rig.performs_note _ _, .passed _ (.unknown held)⟩
  | some slot =>
      have state := rigState_receive run completion
      have meter := meter_receive run completion
      cases going : run.meter.terminated with
      | true =>
          rw [handle_of_terminated _ held going]
          refine ⟨[], ?_, .passed _ (.late (meter ▸ going))⟩
          rw [← state]
          exact rig.performs_note _ _
      | false =>
          have put : (run.receive completion).queue.slot? completion.slot =
              some (slot.complete completion.status completion.length) := by
            rw [receive_of_held held]
            exact slot?_putSlot held _
          have free := slot.isSubmitted_complete completion.status completion.length
          rw [← meter] at going
          rw [handle_of_going _ held (meter ▸ going), ← state]
          cases status : completion.status with
          | completed => exact reacts_onCompleted rig (status ▸ put) (status ▸ free) going status
          | stall => exact reacts_onStall rig (status ▸ put) rfl going status
          | _ =>
              have reacts := reacts_onFailed rig put going (by simp [status]) (by simp [status])
              rw [status] at reacts
              exact ⟨[], reacts⟩

end Run

end UsbThroughput
