import UsbThroughput.Proofs.Rig.Calls
import UsbThroughput.Proofs.Run.Frame
import UsbThroughput.Script.Device

/-!
# Filling the queue

A queue with nothing in flight is submitted from its first slot on, up to the first that the device
refuses (`Queue.filled_up_to_refusal`). This is so at the start of a test as well as after a halt,
whatever the slots went through before.
-/

namespace UsbThroughput

open RigEvent

/-- The call by which the device takes a slot. -/
def RigEvent.taking (slot : Slot) : RigEvent := .submitted slot.reset (.ok ())

namespace Fills

variable {slots next : List Slot} {calls : List RigEvent} {refusal : Option SubmissionError}

/-- **Either every slot is taken, or those before the first that is refused.** The slots behind
that one are left alone. -/
theorem splits (fills : Fills slots calls next refusal) :
    (refusal = none ∧ calls = slots.map taking ∧ next = slots.map Slot.lent) ∨
      ∃ before slot rest cause, slots = before ++ slot :: rest ∧
        refusal = some { slot := slot.id, cause } ∧
        calls = before.map taking ++ [.submitted slot.reset (.error cause)] ∧
        next = before.map Slot.lent ++ slot.declined :: rest := by
  induction fills with
  | done => exact Or.inl ⟨rfl, rfl, rfl⟩
  | refused slot rest cause => exact Or.inr ⟨[], slot, rest, cause, rfl, rfl, rfl, rfl⟩
  | taken first _ ih =>
      rcases ih with ⟨none, rfl, rfl⟩ | ⟨before, slot, rest, cause, rfl, refused, rfl, rfl⟩
      · exact Or.inl ⟨none, rfl, rfl⟩
      · exact Or.inr ⟨first :: before, slot, rest, cause, rfl, refused, rfl, rfl⟩

/-- Slots that stand at the places that their numbers name are submitted in the order of their
numbers, each once. -/
theorem inOrder {queue : Queue} (fills : Fills queue.slots calls next refusal)
    (numbered : queue.Numbered) :
    calls.map submittedId? = (List.range calls.length).map some ∧ calls.length ≤ queue.depth ∧
      (refusal = none → calls.length = queue.depth) := by
  obtain ⟨ids, all⟩ := fills.ids_eq
  have most : calls.length ≤ queue.depth := by
    have same := congrArg List.length ids
    rw [List.length_map, List.length_map, List.length_take, List.length_map] at same
    exact same ▸ Nat.min_le_right _ _
  refine ⟨?_, most, all⟩
  rw [ids, numbered.ids_eq, List.take_range, Nat.min_eq_left most]

end Fills

namespace Queue

private theorem countP_isSubmitted_lent (slots : List Slot) :
    (slots.map Slot.lent).countP Slot.isSubmitted = slots.length := by
  rw [List.countP_map]
  exact List.countP_eq_length.mpr fun _ _ => rfl

/-- A queue whose slots were taken before the one at a place, which was refused. -/
structure FilledUpTo (place : Nat) (queue next : Queue) : Prop where
  taken : ∀ id < place, next.slot? id = (queue.slot? id).map Slot.lent
  refused : next.slot? place = (queue.slot? place).map Slot.declined
  untouched : ∀ id > place, next.slot? id = queue.slot? id
  inFlight_eq : next.inFlight = place

/-- A queue that was lent up to a slot that is out of flight is filled up to it. -/
private theorem filledUpTo_of_split {direction : Direction} {before rest : List Slot} {slot : Slot}
    (free : ∀ other ∈ rest, other.isSubmitted = false) :
    FilledUpTo before.length { direction, slots := before ++ slot :: rest }
      { direction, slots := before.map Slot.lent ++ slot.declined :: rest } where
  taken id early := by
    have still : id < (before.map Slot.lent).length := by rwa [List.length_map]
    rw [slot?, slot?, List.getElem?_append_left still, List.getElem?_append_left early,
      List.getElem?_map]
  refused := by
    rw [slot?, slot?, List.getElem?_append_right (List.length_map Slot.lent).le, List.length_map,
      List.getElem?_append_right (Nat.le_refl _), Nat.sub_self]
    rfl
  untouched id late := by
    obtain ⟨behind, rfl⟩ := Nat.exists_eq_add_of_lt late
    have length : (before.map Slot.lent).length = before.length := List.length_map Slot.lent
    rw [slot?, slot?, List.getElem?_append_right (by omega), List.getElem?_append_right (by omega),
      length, Nat.add_assoc, Nat.add_sub_cancel_left]
    rfl
  inFlight_eq := by
    have grounded : rest.countP Slot.isSubmitted = 0 :=
      List.countP_eq_zero.mpr fun other member => Bool.eq_false_iff.mp (free other member)
    rw [inFlight, List.countP_append, countP_isSubmitted_lent, List.countP_cons, grounded]
    rfl

variable {σ : Type} (rig : Rig σ)

/-- **The queue is filled up to the first refusal.** Whatever its slots have been through, and
whatever the device answers: a queue with nothing in flight is submitted slot by slot, in order, and
nothing else is called. Either the device takes every slot, and all of them are in flight. Or it
refuses one, which is the last call; the answer names that slot and the error of the device, the
slots before it are in flight, it has failed, and those behind it are as they were. -/
theorem filled_up_to_refusal (queue : Queue) (free : queue.inFlight = 0)
    (journal : Journal RigEvent σ) :
    let answer := queue.submit rig.journaled journal
    ∃ calls, answer.2.history = journal.history ++ calls ∧
      (queue.Numbered → calls.map submittedId? = (List.range calls.length).map some) ∧
      ((answer.1.1 = .ok () ∧ calls = queue.slots.map taking ∧
          answer.1.2 = { queue with slots := queue.slots.map Slot.lent } ∧
          answer.1.2.inFlight = queue.depth) ∨
        ∃ place slot cause, queue.slot? place = some slot ∧ (queue.Numbered → slot.id = place) ∧
          answer.1.1 = .error (.rejected { slot := slot.id, cause }) ∧
          calls = (queue.slots.take place).map taking ++ [.submitted slot.reset (.error cause)] ∧
          calls.length = place + 1 ∧ queue.FilledUpTo place answer.1.2) := by
  intro answer
  have grounded : ∀ slot ∈ queue.slots, slot.isSubmitted = false := fun slot member =>
    Bool.eq_false_iff.mpr (List.countP_eq_zero.mp free slot member)
  obtain ⟨calls, refusal, grown, answered, fills⟩ := fills_submitEach rig grounded journal
  refine ⟨calls, grown, fun numbered => (fills.inOrder numbered).1, ?_⟩
  rcases fills.splits with ⟨rfl, all, next⟩ | ⟨before, slot, rest, cause, split, rfl, upTo, next⟩
  · have filled : answer.1.2 = { queue with slots := queue.slots.map Slot.lent } :=
      congrArg (fun slots => { queue with slots }) next
    refine Or.inl ⟨answered, all, filled, ?_⟩
    rw [filled]
    exact countP_isSubmitted_lent queue.slots
  · have held : queue.slot? before.length = some slot := by
      rw [slot?, split, List.getElem?_append_right (Nat.le_refl _), Nat.sub_self]
      rfl
    have first : queue.slots.take before.length = before := by rw [split, List.take_left]
    have behind : ∀ other ∈ rest, other.isSubmitted = false := fun other member =>
      grounded other (split ▸ List.mem_append_right _ (List.mem_cons_of_mem slot member))
    refine Or.inr ⟨before.length, slot, cause, held, fun numbered => numbered _ _ held, answered,
      ?_, ?_, ?_⟩
    · rw [first, upTo]
    · rw [upTo, List.length_append, List.length_map, List.length_singleton]
    · have same : queue = { queue with slots := before ++ slot :: rest } := by rw [← split]
      have filled : answer.1.2 =
          { queue with slots := before.map Slot.lent ++ slot.declined :: rest } :=
        congrArg (fun slots => { queue with slots }) next
      rw [filled, same]
      exact filledUpTo_of_split behind

/-- Three slots out of flight: one has failed, one has completed after it was asked to be given up,
and one was never submitted. -/
def used : Queue where
  direction := .inbound
  slots :=
    [{ Slot.inbound 0 1 8 (.ofSeconds 1) with state := .failed },
      { Slot.inbound 1 1 8 (.ofSeconds 1) with
        state := .completed, actualLength := 5, cancelRequested := true },
      .inbound 2 1 8 (.ofSeconds 1)]

/-- A device that refuses the second submission. -/
def refusing : ScriptedDevice where
  host := { script := { submit := [none, some (.error .notFound)] } }

/-- The second slot is refused, so that the third is not submitted. -/
theorem filled_up_to_refusal_second :
    let answer := used.submit ScriptedDevice.rig.journaled { state := refusing }
    used.inFlight = 0 ∧
      answer.1.1 = .error (.rejected { slot := 1, cause := .notFound }) ∧
      answer.2.history.map submittedId? = [some 0, some 1] ∧ used.FilledUpTo 1 answer.1.2 := by
  intro answer
  have numbered : used.Numbered := by
    intro id slot held
    rcases id with _ | _ | _ | id <;> cases held <;> rfl
  have answered : answer.1.1 = .error (.rejected { slot := 1, cause := .notFound }) := by
    decide +kernel
  have two : answer.2.history.length = 2 := by decide +kernel
  obtain ⟨calls, history, inOrder, ⟨taken, _⟩ | ⟨place, _, _, _, _, _, _, length, filled⟩⟩ :=
    filled_up_to_refusal ScriptedDevice.rig used (by decide) { state := refusing }
  · cases answered.symm.trans taken
  · obtain rfl : answer.2.history = calls := history
    obtain rfl : place = 1 := Nat.succ.inj (length.symm.trans two)
    have ids := inOrder numbered
    rw [length] at ids
    exact ⟨by decide, answered, ids, filled⟩

end Queue

end UsbThroughput
