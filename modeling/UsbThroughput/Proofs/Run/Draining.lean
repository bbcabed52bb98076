import UsbThroughput.Proofs.Run.Branches
import UsbThroughput.Proofs.Run.CallOrder
import UsbThroughput.Proofs.Run.Upkeep

/-!
# Winding up

From the step that cancels the queue to the one that abandons it, a run does nothing on the device
but to wait for what was cancelled, with something in flight and before the deadline
(`Run.AwaitsUntil`). Each slot is as the last completion that was applied to it has left it, or as
the cancellation has left it, until what is still in flight is abandoned; and the meter stays as it
is (`Run.Winds`).
-/

namespace UsbThroughput

open RigEvent

/-- A slot with a number, after the queue was cancelled and some completions were applied. -/
def Slot.drained (applied : List Completion) (id : Nat) (slot : Slot) : Slot :=
  match Completion.last? applied id with
  | some completion => slot.recalled.complete completion.status completion.length
  | none => slot.recalled

namespace Slot

variable {applied : List Completion} {completion : Completion} {id : Nat}

/-- Of several completions the last one counts. -/
theorem drained_concat_of_eq (slot : Slot) :
    slot.drained (applied ++ [completion]) completion.slot =
      (slot.drained applied completion.slot).complete completion.status completion.length := by
  rw [drained, Completion.last?_concat_of_eq, drained]
  cases Completion.last? applied completion.slot <;> rfl

private theorem drained_concat_of_ne (slot : Slot) (other : completion.slot ≠ id) :
    slot.drained (applied ++ [completion]) id = slot.drained applied id := by
  rw [drained, Completion.last?_concat_of_ne other, drained]

/-- A slot keeps its buffer when it is recalled. -/
theorem buffer_recalled (slot : Slot) : slot.recalled.buffer = slot.buffer := by
  unfold recalled
  split <;> rfl

/-- A slot out of flight is not recalled. -/
theorem recalled_of_grounded {slot : Slot} (grounded : slot.isSubmitted = false) :
    slot.recalled = slot := by
  simp [recalled, isCancellable, grounded]

end Slot

namespace Run

variable {σ : Type} (rig : Rig σ)

/-- Applying a completion exchanges one slot at most. -/
theorem slot?_receive_eq (run : Run σ) (completion : Completion) (id : Nat) :
    (run.receive completion).queue.slot? id = (run.queue.slot? id).map fun slot =>
      if completion.slot = id then slot.complete completion.status completion.length else slot := by
  rcases receive_cases run completion with ⟨unheld, same⟩ | ⟨slot, held, same⟩
  · rw [same]
    by_cases named : completion.slot = id
    · rw [← named, unheld]
      rfl
    · simp [named]
  · rw [same]
    by_cases named : completion.slot = id
    · rw [← named, slot?_putSlot held, held]
      simp
    · change (run.queue.slots.set completion.slot _)[id]? = _
      rw [List.getElem?_set_ne named]
      simp [named, Queue.slot?]

/-- The next call waits for what was cancelled: something is in flight, there is time left, and the
call takes no longer than that, nor longer than any call. -/
structure AwaitsUntil (deadline : Duration) (run : Run σ) (call : RigEvent) : Prop where
  draining : run.stage = .draining deadline
  flying : run.queue.inFlight ≠ 0
  early : (rig.now run.rigState).1.nanoseconds < deadline.nanoseconds
  brief : ∃ timeout answer, call = .polled timeout answer ∧
    timeout.nanoseconds ≤ run.settings.eventTimeout.nanoseconds ∧
      (rig.now run.rigState).1.nanoseconds + timeout.nanoseconds ≤ deadline.nanoseconds

/-- Winding up since the queue was cancelled: the completions applied since, the cancellations, and
the calls that waited. -/
structure Winds (start : Run (Journal RigEvent σ)) (deadline : Duration)
    (applied : List Completion) (asked awaited : List RigEvent)
    (run : Run (Journal RigEvent σ)) : Prop where
  stage : run.stage = .draining deadline ∨ run.stage = .settling deadline ∨
    run.stage = .abandoning ∨ run.stage = .closing
  performs : start.rigState.Performs (asked ++ awaited) run.rigState
  awaits : ∀ call ∈ awaited, call.isPoll = true
  slots : run.stage ≠ .closing → ∀ id,
    run.queue.slot? id = (start.queue.slot? id).map (Slot.drained applied id)
  abandoned : run.stage = .closing → ∀ id,
    run.queue.slot? id = (start.queue.slot? id).map fun slot => relinquish (slot.drained applied id)
  meter : run.meter = start.meter

/-- The queue is cancelled, and the deadline set by a reading of the clock right after that. -/
theorem winds_cancelQueue (run : Run (Journal RigEvent σ)) :
    ∃ asked deadline reading, Cancels run.queue.slots asked ∧
      run.rigState.Performs asked reading ∧
      deadline = (rig.journaled.now reading).1.add run.settings.drainTimeout ∧
      Winds run deadline [] asked [] (run.cancelQueue rig.journaled) := by
  let noted := rig.journaled.note (.moved .running .draining) run.rigState
  obtain ⟨calls, performs, cancels, slots⟩ := Queue.cancels_cancelEach rig run.queue.slots noted
  have moved : run.rigState.Performs [] noted := rig.performs_note _ _
  let asking := Queue.cancelEach rig.journaled run.queue.slots noted
  let count := ({ run.queue with slots := asking.1 } : Queue).inFlight
  have reading :=
    (moved.trans performs).then_aside (rig.performs_note (.cancelling count) asking.2)
  refine ⟨calls, _, _, cancels, reading, rfl,
    ⟨Or.inl rfl, ?_, List.forall_mem_nil _, fun _ id => ?_, Stage.noConfusion, rfl⟩⟩
  · rw [List.append_nil]
    exact reading.then_aside (.of_same rfl)
  · change asking.1[id]? = _
    rw [slots, List.getElem?_map]
    rfl

/-- Waiting once is one call, after which the run goes on with what came of it or gives up. -/
theorem performs_awaitCancelled (run : Run (Journal RigEvent σ)) (deadline timeout : Duration) :
    ∃ state answer stage,
      run.awaitCancelled rig.journaled deadline timeout =
        { run with rigState := state, arrivals := run.arrivals ++ answer.delivered, stage } ∧
      (stage = .settling deadline ∨ stage = .abandoning) ∧
      run.rigState.Performs [.polled timeout answer] state := by
  have called : run.rigState.Performs [_] _ :=
    .of_call rfl (rig.history_poll run.rigState timeout)
  unfold awaitCancelled
  dsimp only
  split
  · exact ⟨_, _, _, rfl, Or.inl rfl, called⟩
  · exact ⟨_, _, _, rfl, Or.inl rfl, called⟩
  next error _ _ =>
    have noted := called.then_aside (rig.performs_note (.drainPollFailed error) _)
    exact ⟨_, _, _, rfl, Or.inr rfl, noted⟩

/-- What a run does while it waits for what was cancelled: it gives up, or it makes one call. -/
theorem drain_cases (run : Run (Journal RigEvent σ)) {deadline : Duration}
    (draining : run.stage = .draining deadline) :
    ∃ state arrivals stage calls,
      run.drain rig.journaled deadline = { run with rigState := state, arrivals, stage } ∧
      (stage = .settling deadline ∨ stage = .abandoning) ∧ run.rigState.Performs calls state ∧
      ∀ call ∈ calls, call.isPoll = true ∧ run.AwaitsUntil rig.journaled deadline call := by
  have passed : run.rigState.Performs [] (rig.journaled.now run.rigState).2 := .of_same rfl
  rw [drain_eq]
  by_cases empty : run.queue.inFlight = 0
  · rw [if_pos empty]
    exact ⟨_, _, _, [], rfl, Or.inr rfl, .refl _, List.forall_mem_nil _⟩
  · rw [if_neg empty]
    dsimp only
    generalize clock : (rig.journaled.now run.rigState).1 = now
    by_cases late : (deadline.since now).isZero = true
    · rw [if_pos late]
      exact ⟨_, _, _, [], rfl, Or.inr rfl, passed, List.forall_mem_nil _⟩
    · rw [if_neg late]
      obtain ⟨state, answer, stage, same, goesOn, called⟩ := performs_awaitCancelled rig
        { run with rigState := (rig.journaled.now run.rigState).2 } deadline
        ((deadline.since now).min run.settings.eventTimeout)
      have early : now.nanoseconds < deadline.nanoseconds := by
        simp only [Duration.isZero, Duration.since, beq_iff_eq] at late
        omega
      have capped : ((deadline.since now).min run.settings.eventTimeout).nanoseconds ≤
          deadline.nanoseconds - now.nanoseconds := Nat.min_le_left _ _
      refine ⟨state, _, stage, _, same, goesOn, passed.trans called,
        List.forall_mem_singleton.mpr ⟨rfl, draining, empty, by rwa [clock], _, _, rfl,
          Nat.min_le_right _ _, ?_⟩⟩
      rw [clock]
      omega

section

variable {start run : Run (Journal RigEvent σ)} {deadline : Duration}
  {applied : List Completion} {asked awaited : List RigEvent}

/-- A run that winds up asks for completions only in time and with something in flight. -/
theorem Winds.drain (winds : Winds start deadline applied asked awaited run)
    (draining : run.stage = .draining deadline) :
    ∃ calls, run.rigState.Performs calls (run.drain rig.journaled deadline).rigState ∧
      (∀ call ∈ calls, run.AwaitsUntil rig.journaled deadline call) ∧
      Winds start deadline applied asked (awaited ++ calls) (run.drain rig.journaled deadline) := by
  obtain ⟨state, arrivals, next, calls, same, goesOn, called, each⟩ := drain_cases rig run draining
  have unfinished : run.stage ≠ .closing := by simp [draining]
  have still : next ≠ .closing := by rcases goesOn with rfl | rfl <;> exact Stage.noConfusion
  rw [same]
  refine ⟨calls, called, fun call member => (each call member).2, ?_, ?_, ?_, fun _ => ?_,
    fun closing => (still closing).elim, winds.meter⟩
  · exact Or.inr (goesOn.imp id Or.inl)
  · rw [← List.append_assoc]
    exact winds.performs.trans called
  · exact List.forall_mem_append.mpr ⟨winds.awaits, fun call member => (each call member).1⟩
  · exact winds.slots unfinished

/-- A run that winds up applies what was handed over, and asks for nothing meanwhile. -/
theorem Winds.settle (winds : Winds start deadline applied asked awaited run)
    (settling : run.stage = .settling deadline) :
    run.rigState.Performs [] (run.settle rig.journaled deadline).rigState ∧
      Winds start deadline (applied ++ run.arrivals.head?.toList) asked awaited
        (run.settle rig.journaled deadline) := by
  have unfinished : run.stage ≠ .closing := by simp [settling]
  unfold Run.settle
  cases waiting : run.arrivals with
  | nil =>
      rw [List.head?_nil, Option.toList_none, List.append_nil]
      exact ⟨.refl _, Or.inl rfl, winds.performs, winds.awaits, fun _ => winds.slots unfinished,
        Stage.noConfusion, winds.meter⟩
  | cons completion rest =>
      have received : run.rigState.Performs []
          ({ run with arrivals := rest }.receive completion).rigState :=
        .of_same (congrArg Journal.history (rigState_receive _ completion))
      have noted := received.then_aside
        (rig.performs_note (.drained completion.slot completion.status) _)
      have same := stage_receive { run with arrivals := rest } completion
      have open' : ({ run with arrivals := rest }.receive completion).stage ≠ .closing := by
        rw [same]
        exact unfinished
      rw [List.head?_cons, Option.toList_some]
      refine ⟨noted, Or.inr (Or.inl (same.trans settling)), winds.performs.then_aside noted,
        winds.awaits, fun _ id => ?_, fun closing => (open' closing).elim, ?_⟩
      · have before := winds.slots unfinished id
        have put := slot?_receive_eq { run with arrivals := rest } completion id
        refine put.trans ?_
        change (run.queue.slot? id).map _ = _
        rw [before, Option.map_map]
        congr 1
        funext slot
        by_cases named : completion.slot = id
        · subst named
          rw [Function.comp, if_pos rfl, slot.drained_concat_of_eq]
        · rw [Function.comp, if_neg named, slot.drained_concat_of_ne named]
      · exact (meter_receive _ completion).trans winds.meter

/-- A run that winds up relinquishes what is left, without a call. -/
theorem Winds.abandon (winds : Winds start deadline applied asked awaited run)
    (abandoning : run.stage = .abandoning) :
    run.rigState.Performs [] (run.abandonQueue rig.journaled).rigState ∧
      Winds start deadline applied asked awaited (run.abandonQueue rig.journaled) := by
  have quiet := performs_abandonEach rig run.queue.slots run.rigState
  refine ⟨quiet, Or.inr (Or.inr (Or.inr rfl)), winds.performs.then_aside quiet, winds.awaits,
    fun open' => (open' rfl).elim, fun _ id => ?_, winds.meter⟩
  rw [slot?_abandonQueue, winds.slots (by simp [abandoning]), Option.map_map]
  rfl

/-- **A run that winds up goes on doing so**, up to the step that closes the device. -/
theorem Winds.step (winds : Winds start deadline applied asked awaited run)
    (unfinished : run.stage ≠ .closing) :
    ∃ calls, run.rigState.Performs calls (run.step rig.journaled).rigState ∧
      (∀ call ∈ calls, run.AwaitsUntil rig.journaled deadline call) ∧
      Winds start deadline (applied ++ run.next?.toList) asked (awaited ++ calls)
        (run.step rig.journaled) := by
  unfold Run.step next?
  rcases winds.stage with draining | settling | abandoning | closing
  · simp only [draining, Option.toList_none, List.append_nil]
    exact winds.drain rig draining
  · simp only [settling]
    obtain ⟨quiet, settled⟩ := winds.settle rig settling
    exact ⟨[], quiet, List.forall_mem_nil _, by rwa [List.append_nil]⟩
  · simp only [abandoning, Option.toList_none, List.append_nil]
    obtain ⟨quiet, abandoned⟩ := winds.abandon rig abandoning
    exact ⟨[], quiet, List.forall_mem_nil _, by rwa [List.append_nil]⟩
  · exact (unfinished closing).elim

end

end Run

end UsbThroughput
