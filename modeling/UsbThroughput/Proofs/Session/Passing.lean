import UsbThroughput.Proofs.Session.Binding
import UsbThroughput.Proofs.Session.Requests

/-!
# Calls that a session passes on

A session leaves it to its stack what becomes of a call. It would refuse a submission that is too
long by itself, and a write to an inbound endpoint; as long as it is asked for neither, what the
stack is asked for are the calls on the rig, one after the other (`Session.PassesOn`).
-/

namespace UsbThroughput

/-- Whether a call is addressed to no endpoint: it is neither a submission, nor a write, nor the
clearing of a halt. -/
def RigEvent.isUnaddressed : RigEvent → Bool
  | submitted _ _ | wrote _ _ _ _ | haltCleared _ _ => false
  | _ => true

namespace Session

open StackEvent

/-- **What the stack is asked for by a call**, and the answer that comes of it. A submission asks
for a transfer first, if the slot has none; it fails before the stack is asked to submit anything
only if there is no memory for one, or no place. -/
inductive PassedOn : RigEvent → List StackEvent → Prop where
  | submitted {slot : Slot} {first : List StackEvent} (transfer : Nat)
      (supplied : first = [] ∨ first = [.allocated transfer true]) (code : Int) :
      PassedOn (.submitted slot (.ofCode code))
        (first ++
          [.submitted
            { transfer
              endpoint := slot.endpoint
              length := slot.length
              timeout := min slot.timeout.milliseconds maxTimeout } code])
  | starved {slot : Slot} (transfer : Nat) :
      PassedOn (.submitted slot (.error .noMem)) [.allocated transfer false]
  | unplaced {slot : Slot} (past : maxSlots ≤ slot.id) :
      PassedOn (.submitted slot (.error .noMem)) []
  | wrote {endpoint : UInt8} {data : List UInt8} {timeout : Duration} (answer : WriteAnswer) :
      PassedOn (.wrote endpoint data timeout (writeResult answer))
        [.wrote endpoint data (timeout.milliseconds % (maxTimeout + 1)) answer]
  | haltCleared {endpoint : UInt8} (code : Int) :
      PassedOn (.haltCleared endpoint (.ofCode code)) [.haltCleared endpoint code]
  | other {event : RigEvent} {asked : List StackEvent} (apart : event.isUnaddressed = true)
      (unaddressed : ∀ call ∈ asked, call.isUnaddressed = true) : PassedOn event asked

/-- A call that a session has no reason to refuse. -/
def Passable : RigEvent → Prop
  | .submitted slot _ => slot.length ≤ Settings.maxLength
  | .wrote endpoint _ _ _ => Direction.ofAddress endpoint = .outbound
  | _ => True

variable {β : Type} (stack : Stack β)

/-- A submission is passed on as the transfer that the slot describes. -/
private theorem passedOn_submit {slot : Slot} (fits : slot.length ≤ Settings.maxLength)
    (session : Session (Journal StackEvent β)) :
    ∃ asked, (session.submit stack.journaled slot).2.stackState.history =
        session.stackState.history ++ asked ∧
      PassedOn (.submitted slot (session.submit stack.journaled slot).1) asked := by
  by_cases placed : slot.id < maxSlots
  · obtain ⟨number?, first, second, obtains, asks, _, grown⟩ :=
      (submits stack placed session).asked
    refine ⟨first ++ second, grown, ?_⟩
    generalize (session.submit stack.journaled slot).1 = answer at asks
    cases asks with
    | without =>
        cases obtains with
        | refused => exact .starved _
    | tooLong long => exact absurd fits (Nat.not_le.mpr long)
    | answered _ code =>
        cases obtains with
        | bound => exact .submitted _ (Or.inl rfl) code
        | allocated => exact .submitted _ (Or.inr rfl) code
  · have past := Nat.not_lt.mp placed
    have answered : session.submit stack.journaled slot =
        (.error .noMem, { session with broken := some .countOverflow }) := if_pos past
    rw [answered]
    exact ⟨[], (List.append_nil _).symm, .unplaced past⟩

/-- A write to an endpoint for output is passed on as it is. -/
private theorem passedOn_write {endpoint : UInt8}
    (outward : Direction.ofAddress endpoint = .outbound)
    (data : List UInt8) (timeout : Duration) (session : Session (Journal StackEvent β)) :
    ∃ asked, (session.write stack.journaled endpoint data timeout).2.stackState.history =
        session.stackState.history ++ asked ∧
      PassedOn (.wrote endpoint data timeout
        (session.write stack.journaled endpoint data timeout).1) asked := by
  rw [write_eq, if_neg (outward.trans_ne (by decide))]
  exact ⟨_, stack.history_write session.stackState endpoint data _, .wrote _⟩

/-- **Every call is passed on**, unless the session is asked for something that it refuses: what
the stack was asked for since an earlier time is what the calls on the rig asked for. -/
def PassesOn (before : List StackEvent) (journal : Watched β) : Prop :=
  (∀ event ∈ journal.history, Passable event) →
    ∃ asked : List (List StackEvent),
      journal.state.stackState.history = before ++ asked.flatten ∧
      List.Forall₂ PassedOn journal.history asked

variable {before : List StackEvent} {journal later : Watched β} {event : RigEvent}

/-- A session that passes on this call, too, passes on all of them. -/
theorem PassesOn.then_call (passes : PassesOn before journal)
    (grown : later.history = journal.history ++ [event])
    (call : Passable event → ∃ asked,
      later.state.stackState.history = journal.state.stackState.history ++ asked ∧
        PassedOn event asked) : PassesOn before later := by
  intro passable
  rw [grown] at passable ⊢
  obtain ⟨earlier, last⟩ := List.forall_mem_append.mp passable
  obtain ⟨asked, same, each⟩ := passes earlier
  obtain ⟨next, added, passed⟩ := call (List.forall_mem_singleton.mp last)
  refine ⟨asked ++ [next], ?_, List.rel_append each (.cons passed .nil)⟩
  rw [added, same, List.flatten_concat, List.append_assoc]

/-- A call that is addressed nowhere has nothing to pass on. -/
theorem PassesOn.then_unaddressed (passes : PassesOn before journal)
    (grown : later.history = journal.history ++ [event]) (apart : event.isUnaddressed = true)
    (grows : GrowsBy isUnaddressed journal.state.stackState.history
      later.state.stackState.history) : PassesOn before later := by
  obtain ⟨asked, added, each⟩ := grows
  exact passes.then_call grown fun _ => ⟨asked, added, .other apart each⟩

/-- Every call on the rig is passed on. -/
theorem keeps_passesOn (before : List StackEvent) :
    stack.watched.Keeps (PassesOn (β := β) before) where
  connect target journal passes :=
    passes.then_unaddressed (Journal.history_record ..) rfl
      (unaddressed_connect stack target journal.state)
  submit slot journal passes :=
    passes.then_call ((rig stack.journaled).history_submit journal slot) fun fits =>
      passedOn_submit stack fits journal.state
  cancel slot journal passes :=
    passes.then_unaddressed ((rig stack.journaled).history_cancel journal slot) rfl
      (unaddressed_cancel stack slot journal.state)
  poll timeout journal passes :=
    passes.then_unaddressed ((rig stack.journaled).history_poll journal timeout) rfl
      (unaddressed_poll stack timeout journal.state)
  write endpoint data timeout journal passes :=
    passes.then_call ((rig stack.journaled).history_write journal endpoint data timeout)
      fun outward => passedOn_write stack outward data timeout journal.state
  clearHalt endpoint journal passes :=
    passes.then_call ((rig stack.journaled).history_clearHalt journal endpoint) fun _ =>
      ⟨_, stack.history_clearHalt journal.state.stackState endpoint, .haltCleared _⟩
  disconnect journal passes :=
    passes.then_unaddressed ((rig stack.journaled).history_disconnect journal) rfl
      (unaddressed_disconnect stack journal.state)
  now _ passes := passes
  note notice journal passes :=
    passes.then_unaddressed ((rig stack.journaled).history_note journal notice) rfl
      (unaddressed_note stack notice journal.state)

end Session

end UsbThroughput
