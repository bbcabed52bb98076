import UsbThroughput.Proofs.Run.Boundary
import UsbThroughput.Proofs.Run.Recovery

/-!
# Cancelling the whole queue

The queue is cancelled in two situations only: at the end of a test, and at a stall that begins a
recovery (`Run.Recalls`). Afterwards there is nothing left to ask for (`Queue.AllAsked`), and this
stays so until a slot is submitted.
-/

namespace UsbThroughput

open RigEvent

/-- No slot is in flight that the device was not asked to give up. -/
def Queue.AllAsked (queue : Queue) : Prop := ∀ slot ∈ queue.slots, slot.isCancellable = false

private theorem Slot.isCancellable_recalled (slot : Slot) :
    slot.recalled.isCancellable = false := by
  cases flying : slot.isSubmitted with
  | false => simp [isCancellable, flying]
  | true => simp [isCancellable, cancelRequested_recalled flying]

private theorem Slot.isCancellable_of_grounded {slot : Slot} (grounded : slot.isSubmitted = false) :
    slot.isCancellable = false := by
  simp [isCancellable, grounded]

/-- A queue that was cancelled has nothing left to ask for. -/
theorem Queue.allAsked_of_recalled {queue : Queue} {slots : List Slot}
    (recalled : queue.slots = slots.map Slot.recalled) : queue.AllAsked := by
  intro slot member
  rw [recalled] at member
  obtain ⟨before, _, rfl⟩ := List.mem_map.mp member
  exact before.isCancellable_recalled

/-- All is asked for if this holds of the new slot, too. -/
theorem Queue.AllAsked.replace {queue : Queue} (allAsked : queue.AllAsked) (id : Nat) {next : Slot}
    (settled : next.isCancellable = false) : (queue.replace id next).AllAsked := by
  intro slot member
  rcases List.mem_or_eq_of_mem_set member with among | rfl
  · exact allAsked slot among
  · exact settled

/-- Where there is nothing to ask for, to cancel all makes no call. -/
theorem Cancels.eq_nil {queue : Queue} {calls : List RigEvent}
    (cancels : Cancels queue.slots calls) (allAsked : queue.AllAsked) : calls = [] := by
  have none : queue.slots.filter Slot.isCancellable = [] := by
    apply List.filter_eq_nil_iff.mpr
    intro slot member
    simp [allAsked slot member]
  rw [Cancels, none] at cancels
  exact List.map_eq_nil_iff.mp cancels

namespace Run

variable {σ : Type}

/-! ## When the queue is cancelled -/

/-- The next step cancels a queue: its own, at the end of the test, or the one after a stall that
begins a recovery. -/
def Recalls (run : Run σ) (queue : Queue) : Prop :=
  (run.stage = .cancelling ∧ queue = run.queue) ∨
    ∃ maxAttempts stall, run.settings.stallRecovery = .clearHalt maxAttempts ∧
      run.Stalls maxAttempts stall ∧ queue = (run.receive stall).queue

/-- What a step has to do with cancellation: it cancels a whole queue, or it asks for nothing. -/
inductive Recalling (run : Run σ) (calls : List RigEvent) (last : Run σ) : Prop where
  | whole (queue : Queue) (recalls : run.Recalls queue) (cancels : Cancels queue.slots calls)
      (slots : last.queue.slots = queue.slots.map Slot.recalled)
  | none (idle : ∀ queue, ¬run.Recalls queue) (unasked : ∀ call ∈ calls, call.cancelled? = none)

variable {run last : Run σ} {calls : List RigEvent}

private theorem cancelled?_of_isSubmission
    (submissions : ∀ call ∈ calls, call.isSubmission = true) :
    ∀ call ∈ calls, call.cancelled? = none := by
  intro call member
  have submission := submissions call member
  cases call <;> first | rfl | contradiction

/-- A reaction that begins no recovery asks for nothing. -/
theorem Reaction.unasked {completion : Completion} (reaction : run.Reaction completion calls last)
    (unbegun : ¬run.BeginsAt completion) : ∀ call ∈ calls, call.cancelled? = none := by
  cases reaction with
  | begun state maxAttempts slot calls going held stalled policy free left cancels =>
      exact (unbegun ⟨going, ⟨slot, held⟩, stalled, free, maxAttempts, policy, left⟩).elim
  | resubmitted state now later slot next meter calls refusal _ _ _ _ _ _ fills =>
      exact cancelled?_of_isSubmission fills.isSubmission
  | overflowed => exact List.forall_mem_singleton.mpr rfl
  | _ => exact List.forall_mem_nil _

/-- A queue is cancelled only before the test winds up or in the middle of a batch. -/
theorem Recalls.stage_eq {queue : Queue} (recalls : run.Recalls queue) :
    run.stage = .cancelling ∨ run.stage = .handling := by
  rcases recalls with ⟨cancelling, _⟩ | ⟨_, _, _, stalls, _⟩
  · exact Or.inl cancelling
  · exact Or.inr stalls.handling

/-- **What a step has to do with cancellation.** -/
theorem Advance.recalling (advance : run.Advance calls last) : run.Recalling calls last := by
  have apart {stage : Stage} (same : run.stage = stage)
      (elsewhere : stage ≠ .cancelling ∧ stage ≠ .handling)
      (unasked : ∀ call ∈ calls, call.cancelled? = none) : run.Recalling calls last := by
    refine .none (fun queue recalls => ?_) unasked
    rcases recalls.stage_eq with cancelling | handling
    · exact elsewhere.1 (same.symm.trans cancelling)
    · exact elsewhere.2 (same.symm.trans handling)
  cases advance with
  | recalled state deadline calls cancelling cancels =>
      exact .whole run.queue (Or.inl ⟨cancelling, rfl⟩) cancels rfl
  | handled completion rest calls handling waiting reaction =>
      by_cases begins : ({ run with arrivals := rest }.receive completion).BeginsAt completion
      · obtain ⟨maxAttempts, policy, stalls⟩ := (stalls_iff_beginsAt handling waiting).mpr begins
        obtain ⟨cancels, state, rfl⟩ := reaction.begun_of_beginsAt begins
        rw [queue_receive] at cancels
        refine .whole _ (Or.inr ⟨maxAttempts, completion, policy, stalls, rfl⟩) cancels ?_
        rw [← queue_receive run rest completion]
        rfl
      · refine .none (fun other recalls => ?_) (reaction.unasked begins)
        rcases recalls with ⟨cancelling, _⟩ | ⟨maxAttempts, stall, policy, stalls, _⟩
        · cases handling.symm.trans cancelling
        · obtain ⟨_, same⟩ := stalls.arrivals_eq
          cases waiting.symm.trans same
          exact begins ((stalls_iff_beginsAt handling waiting).mp ⟨maxAttempts, policy, stalls⟩)
  | finished handling empty =>
      refine .none (fun queue recalls => ?_) (List.forall_mem_nil _)
      rcases recalls with ⟨cancelling, _⟩ | ⟨maxAttempts, stall, policy, stalls, _⟩
      · cases handling.symm.trans cancelling
      · obtain ⟨_, same⟩ := stalls.arrivals_eq
        cases empty.symm.trans same
  | stayed done =>
      refine .none (fun queue recalls => ?_) (List.forall_mem_nil _)
      rcases recalls.stage_eq with stage | stage <;> rw [stage] at done <;> contradiction
  | filled state now later slots calls refusal filling empty fills =>
      exact apart filling (by simp) (cancelled?_of_isSubmission fills.isSubmission)
  | recovered state later slots calls refusal waiting going empty halted fills =>
      refine apart waiting (by simp) (List.forall_mem_cons.mpr ⟨rfl, ?_⟩)
      exact cancelled?_of_isSubmission fills.isSubmission
  | closed state now result closing =>
      refine apart closing (by simp) ?_
      split <;> simp [cancelled?]
  | started state result starting => exact apart starting (by simp) (by simp [cancelled?])
  | stuck state now error waiting => exact apart waiting (by simp) (by simp [cancelled?])
  | polled state now answer waiting => exact apart waiting (by simp) (by simp [cancelled?])
  | awaited state deadline timeout answer draining =>
      exact apart draining (by simp) (by simp [cancelled?])
  | notStarted state starting => exact apart starting (by simp) (List.forall_mem_nil _)
  | decided waiting => exact apart waiting (by simp) (List.forall_mem_nil _)
  | starved state now waiting => exact apart waiting (by simp) (List.forall_mem_nil _)
  | drained state deadline draining => exact apart draining (by simp) (List.forall_mem_nil _)
  | resumed deadline settling => exact apart settling (by simp) (List.forall_mem_nil _)
  | settled state deadline completion rest settling =>
      exact apart settling (by simp) (List.forall_mem_nil _)
  | abandoned state abandoning => exact apart abandoning (by simp) (List.forall_mem_nil _)

/-- The slots that a step asks for are asked for from the last to the first. -/
theorem Recalling.decreasing (recalling : run.Recalling calls last)
    (numbered : run.stage.holdsSlots = true → run.queue.Numbered) :
    (calls.filterMap cancelled?).Pairwise fun first second => second.id < first.id := by
  cases recalling with
  | whole queue recalls cancels slots =>
      refine cancels.decreasing ?_
      rcases recalls with ⟨cancelling, rfl⟩ | ⟨_, stall, _, stalls, rfl⟩
      · exact numbered (cancelling ▸ rfl)
      · exact (numbered (stalls.handling ▸ rfl)).of_makes (makes_receive run stall)
  | none idle unasked =>
      rw [List.filterMap_eq_nil_iff.mpr unasked]
      exact List.Pairwise.nil

/-! ## Until the next submission -/

section

variable {rig : Rig σ} {scope : Scope} {run last : Run (Journal RigEvent σ)}
  {taken next : List Completion}

/-- What is recalled has nothing left to ask for if the run has not. -/
theorem Recalls.allAsked {queue : Queue} (recalls : run.Recalls queue)
    (allAsked : run.queue.AllAsked) : queue.AllAsked := by
  rcases recalls with ⟨_, rfl⟩ | ⟨_, stall, _, _, rfl⟩
  · exact allAsked
  · rcases receive_cases run stall with ⟨_, same⟩ | ⟨slot, _, same⟩
    · rw [same]
      exact allAsked
    · rw [same]
      exact allAsked.replace _ (Slot.isCancellable_of_grounded (slot.isSubmitted_complete _ _))

/-- Without a submission there is nothing new to ask for. -/
theorem Move.allAsked (move : Move rig.journaled scope run next last)
    (unsubmitted : last.rigState.history.countP isSubmission =
      run.rigState.history.countP isSubmission)
    (allAsked : run.queue.AllAsked) : last.queue.AllAsked := by
  cases move with
  | take completion rest waiting =>
      rw [queue_receive]
      rcases receive_cases run completion with ⟨_, same⟩ | ⟨slot, _, same⟩
      · rw [same]
        exact allAsked
      · rw [same]
        exact allAsked.replace _ (Slot.isCancellable_of_grounded (slot.isSubmitted_complete _ _))
  | submit id slot held free loud =>
      have written := rig.history_submit run.rigState slot.reset
      rcases slot.submit_cases rig.journaled run.rigState with
        ⟨flying, _⟩ | ⟨_, _, same⟩ | ⟨_, _, _, same⟩
      · rw [free] at flying
        contradiction
      all_goals
        rw [same] at unsubmitted
        change (rig.journaled.submit slot.reset run.rigState).2.history.countP _ = _ at unsubmitted
        rw [written, List.countP_append] at unsubmitted
        simp [isSubmission] at unsubmitted
  | cancel id slot held flying unasked =>
      exact allAsked.replace id (by simp [Slot.isCancellable, Slot.requestCancel])
  | setAside id slot held free =>
      exact allAsked.replace id (Slot.isCancellable_of_grounded rfl)
  | _ => exact allAsked

/-- Without a submission a path leaves nothing new to ask for. -/
theorem Path.allAsked (path : Path rig.journaled scope run taken last)
    (unsubmitted : last.rigState.history.countP isSubmission =
      run.rigState.history.countP isSubmission)
    (allAsked : run.queue.AllAsked) : last.queue.AllAsked := by
  induction path with
  | refl => exact allAsked
  | step path move ih =>
      -- Submissions are never taken back, so there is none in the middle either.
      have before := path.prefix_history.sublist.countP_le (p := isSubmission)
      have after := move.prefix_history.sublist.countP_le (p := isSubmission)
      exact move.allAsked (by omega) (ih (by omega))

end

end Run

end UsbThroughput
