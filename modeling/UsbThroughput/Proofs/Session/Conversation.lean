import UsbThroughput.Proofs.Session.Callbacks
import UsbThroughput.Script.Stack

/-!
# Conversations with a session

A program that has opened a device submits and cancels slots, waits for completions, writes and
clears halts, in any order (`Session.converse`). Whatever the stack answers, no completion is lost
(`Session.completions_conserved`).
-/

namespace UsbThroughput.Session

open RigEvent StackEvent

variable {β : Type} (stack : Stack β) {journal later : Watched β}

/-- A call on an open device. -/
inductive Operation where
  | submit (slot : Slot)
  | cancel (slot : Slot)
  | poll (timeout : Duration)
  | write (endpoint : UInt8) (data : List UInt8) (timeout : Duration)
  | clearHalt (endpoint : UInt8)

/-- What a call on a device leaves behind. -/
def Operation.perform {σ : Type} (rig : Rig σ) (operation : Operation) (state : σ) : σ :=
  match operation with
  | submit slot => (rig.submit slot state).2
  | cancel slot => (rig.cancel slot state).2
  | poll timeout => (rig.poll timeout state).2
  | write endpoint data timeout => (rig.write endpoint data timeout state).2
  | clearHalt endpoint => (rig.clearHalt endpoint state).2

/-- What some calls on a device leave behind, made one after the other. -/
def converse {σ : Type} (rig : Rig σ) (operations : List Operation) (state : σ) : σ :=
  operations.foldl (fun state operation => operation.perform rig state) state

/-- The last operation is made on what the ones before it have left. -/
theorem converse_concat {σ : Type} (rig : Rig σ) (operations : List Operation)
    (operation : Operation) (state : σ) :
    converse rig (operations ++ [operation]) state =
      operation.perform rig (converse rig operations state) :=
  List.foldl_concat ..

private theorem prefix_perform (operation : Operation) (journal : Watched β) :
    journal.state.stackState.history <+:
      (operation.perform stack.watched journal).state.stackState.history := by
  cases operation with
  | submit slot => exact history_prefix_submit stack slot journal.state
  | cancel slot => exact (untouched_cancel stack slot journal.state).prefix_history
  | poll timeout => exact history_prefix_poll stack timeout journal.state
  | write endpoint data timeout =>
      exact (untouched_write stack endpoint data timeout journal.state).prefix_history
  | clearHalt endpoint => exact (untouched_clearHalt stack endpoint journal.state).prefix_history

/-- **No call loses a completion.** -/
theorem Conserves.perform (conserves : Conserves journal) (operation : Operation)
    (known : Journal.Throughout Known
      (operation.perform stack.watched journal).state.stackState.history) :
    Conserves (operation.perform stack.watched journal) := by
  cases operation with
  | submit slot => exact conserves.submit stack slot
  | cancel slot =>
      exact conserves.of_untouched rfl (untouched_cancel stack slot journal.state) rfl
  | poll timeout => exact conserves.poll stack timeout known
  | write endpoint data timeout =>
      exact conserves.of_untouched rfl
        (untouched_write stack endpoint data timeout journal.state) rfl
  | clearHalt endpoint =>
      exact conserves.of_untouched rfl (untouched_clearHalt stack endpoint journal.state) rfl

private theorem prefix_converse (operations later : List Operation) (journal : Watched β) :
    (converse stack.watched operations journal).state.stackState.history <+:
      (converse stack.watched (operations ++ later) journal).state.stackState.history := by
  induction later using List.reverseRecOn with
  | nil => rw [List.append_nil]
  | append_singleton later operation ih =>
      rw [← List.append_assoc, converse_concat]
      exact ih.trans (prefix_perform stack operation _)

/-- Nor do calls in any order. -/
theorem Conserves.converse (conserves : Conserves journal) (operations : List Operation)
    (known : Journal.Throughout Known
      (converse stack.watched operations journal).state.stackState.history) :
    Conserves (converse stack.watched operations journal) := by
  induction operations using List.reverseRecOn with
  | nil => exact conserves
  | append_singleton operations operation ih =>
      have before := ih (known.of_isPrefix (prefix_converse stack operations [operation] journal))
      rw [converse_concat] at known ⊢
      exact before.perform stack operation known

/-- **How a call goes about event calls** on the stack. It makes one only with nothing waiting and
with the flag lowered, and just if callbacks ran in it the flag is raised afterwards. All the while
what the callbacks so far have put in comes after what was handed over before. A wait that fails
hands over nothing, and one that does not leaves nothing waiting. -/
structure Defers (operation : Operation) (before after : Watched β) : Prop where
  entered : ∃ events,
    after.state.stackState.history = before.state.stackState.history ++ events ∧
    ∀ call answer, .handled call answer ∈ events →
      before.state.arrivals = [] ∧ call.raised = false ∧
      (after.state.raised = true ↔ answer.callbacks ≠ []) ∧
      ∀ called, called <+: answer.callbacks →
        List.Forall₂ (Announces before) (announced before.state.stackState.history ++ called)
          (delivered before.history ++ called.filterMap before.state.completionOf?)
  handed : ∀ timeout, operation = .poll timeout → ∃ answer,
    after.history = before.history ++ [.polled timeout answer] ∧
    (∀ error, answer.result = .error error → answer.delivered = []) ∧
    (answer.result = .ok () → after.state.arrivals = [])

/-- An operation that asks for no completions defers nothing. -/
theorem Defers.of_silent {operation : Operation} (other : ∀ timeout, operation ≠ .poll timeout)
    (silent : journal.state.Silent later.state) : Defers operation journal later where
  entered := by
    obtain ⟨events, grown, others⟩ := silent
    refine ⟨events, grown, fun call answer member => ?_⟩
    have eventCall := others _ member
    contradiction
  handed timeout same := (other timeout same).elim

/-- Waiting makes an event call with nothing waiting, and hands over nothing if it fails. -/
private theorem Conserves.defers_poll (conserves : Conserves journal) (timeout : Duration)
    (known : Journal.Throughout Known
      (journal.state.poll stack.journaled timeout).2.stackState.history) :
    Defers (.poll timeout) journal (stack.watched.poll timeout journal).2 where
  entered := by
    by_cases empty : journal.state.arrivals = []
    · have history := history_poll_of_empty stack timeout empty
      rw [history] at known
      have allocated := (Journal.throughout_concat.mp known).2
      refine ⟨_, history, fun call answer member => ?_⟩
      cases List.mem_singleton.mp member
      refine ⟨empty, rfl, raised_poll_of_empty stack timeout empty conserves.bindings allocated, ?_⟩
      intro called first
      exact conserves.during empty fun callback among => allocated callback (first.mem among)
    · refine ⟨[], ?_, fun _ _ => nofun⟩
      change (journal.state.poll stack.journaled timeout).2.stackState.history = _
      rw [poll_of_waiting stack.journaled timeout empty, List.append_nil]
      rfl
  handed := by
    rintro _ ⟨⟩
    refine ⟨_, (rig stack.journaled).history_poll journal timeout, ?_⟩
    change (∀ error, (journal.state.poll stack.journaled timeout).1.result = .error error →
        (journal.state.poll stack.journaled timeout).1.delivered = []) ∧
      ((journal.state.poll stack.journaled timeout).1.result = .ok () →
        (journal.state.poll stack.journaled timeout).2.arrivals = [])
    rcases poll_cases stack.journaled timeout journal.state with same | ⟨_, same⟩ | same
    · rw [same]
      exact ⟨nofun, fun _ => rfl⟩
    · rw [same]
      exact ⟨fun _ _ => rfl, nofun⟩
    · rw [same]
      exact ⟨nofun, fun _ => rfl⟩

/-- Each operation goes about event calls as it has to. -/
private theorem Conserves.defers (conserves : Conserves journal) (operation : Operation)
    (known : Journal.Throughout Known
      (operation.perform stack.watched journal).state.stackState.history) :
    Defers operation journal (operation.perform stack.watched journal) := by
  cases operation with
  | submit slot => exact .of_silent nofun (supplies_submit stack slot conserves.bindings).silent
  | cancel slot => exact .of_silent nofun (untouched_cancel stack slot journal.state).silent
  | poll timeout => exact conserves.defers_poll stack timeout known
  | write endpoint data timeout =>
      exact .of_silent nofun (untouched_write stack endpoint data timeout journal.state).silent
  | clearHalt endpoint =>
      exact .of_silent nofun (untouched_clearHalt stack endpoint journal.state).silent

/-- **No completion is lost, added or moved in a session.** Whatever calls are made on a device that
was just opened, in any order, and whatever the stack answers, as long as callbacks run only of
transfers that were allocated: the completions that were handed over and those that still wait are
what the callbacks announced, one for one and in order. -/
theorem completions_conserved (stack : Stack β) (state : β) (nextNumber : Nat)
    (interface : UInt8) (operations : List Operation) :
    let after := fun operations => converse stack.watched operations
      { state := { stackState := { state }, nextNumber, interface } }
    Journal.Throughout Known (after operations).state.stackState.history →
      List.Forall₂ (Announces (after operations))
        (announced (after operations).state.stackState.history)
        (delivered (after operations).history ++ (after operations).state.arrivals) ∧
      ∀ earlier operation later, operations = earlier ++ operation :: later →
        Defers operation (after earlier) (after (earlier ++ [operation])) := by
  intro after known
  have fresh := Conserves.fresh state nextNumber interface
  refine ⟨(fresh.converse stack operations known).conserved, ?_⟩
  rintro earlier operation later rfl
  rw [List.append_cons] at known
  have sooner : Journal.Throughout Known
      (after (earlier ++ [operation])).state.stackState.history :=
    known.of_isPrefix (prefix_converse stack (earlier ++ [operation]) later _)
  have before := fresh.converse stack earlier
    (sooner.of_isPrefix (prefix_converse stack earlier [operation] _))
  unfold after at sooner ⊢
  rw [converse_concat] at sooner ⊢
  exact before.defers stack operation sooner

/-- A stack whose first event call runs two callbacks and fails. -/
def interrupting : ScriptedStack where
  host :=
    { script :=
        { events := [{ deliveries := some [⟨1, 4, -1⟩, ⟨0, 0, 8⟩], result := some (-10) }] } }

/-- Two slots are submitted, and waited for twice. -/
def waitTwice : List Operation :=
  [.submit (.inbound 1 1 8 (.ofSeconds 1)), .submit (.inbound 0 1 8 (.ofSeconds 1)),
    .poll (.ofSeconds 1), .poll (.ofSeconds 1)]

/-- What came with the wait that failed is handed over by the next one. -/
theorem completions_conserved_interrupting :
    let after := fun operations => converse ScriptedStack.calls.watched operations
      { state := { stackState := { state := interrupting } } }
    delivered (after waitTwice).history = [⟨0, .stall, 0⟩, ⟨1, .completed, 8⟩] ∧
      List.Forall₂ (Announces (after waitTwice)) [⟨1, 4, -1⟩, ⟨0, 0, 8⟩]
        [⟨0, .stall, 0⟩, ⟨1, .completed, 8⟩] ∧
      Defers (.poll (.ofSeconds 1)) (after (waitTwice.take 2)) (after (waitTwice.take 3)) := by
  intro after
  have known : Journal.Throughout Known (after waitTwice).state.stackState.history := by
    decide +kernel
  obtain ⟨conserved, defers⟩ :=
    completions_conserved ScriptedStack.calls interrupting 0 0 waitTwice known
  have handed : delivered (after waitTwice).history = [⟨0, .stall, 0⟩, ⟨1, .completed, 8⟩] := by
    decide +kernel
  have ran : announced (after waitTwice).state.stackState.history = [⟨1, 4, -1⟩, ⟨0, 0, 8⟩] := by
    decide +kernel
  have none : (after waitTwice).state.arrivals = [] := by decide +kernel
  change List.Forall₂ (Announces (after waitTwice))
    (announced (after waitTwice).state.stackState.history)
    (delivered (after waitTwice).history ++ (after waitTwice).state.arrivals) at conserved
  rw [ran, handed, none] at conserved
  exact ⟨handed, conserved, defers (waitTwice.take 2) _ _ rfl⟩

end UsbThroughput.Session
