import UsbThroughput.Proofs.Rig.Calls
import UsbThroughput.Proofs.Session.Requests

/-!
# What a session writes

The bytes that are written on a stack through a session are those that its rig was asked to write
to outbound endpoints, in the same order (`Session.Relays`). Every call on the rig keeps this, so
that the output of a run can be read off its calls.
-/

namespace UsbThroughput

namespace StackEvent

/-- The bytes that a call writes. -/
def written : StackEvent → List UInt8
  | wrote _ data _ _ => data
  | _ => []

/-- All bytes that were written, in order, whether they were taken or not. -/
def output (history : List StackEvent) : List UInt8 := history.flatMap written

@[simp] theorem output_append (first second : List StackEvent) :
    output (first ++ second) = output first ++ output second :=
  List.flatMap_append

@[simp] theorem output_nil : output [] = [] := List.flatMap_nil

@[simp] theorem output_cons (event : StackEvent) (rest : List StackEvent) :
    output (event :: rest) = event.written ++ output rest :=
  List.flatMap_cons

/-- What goes on plainly writes nothing. -/
theorem Plainly.output_eq {before after : List StackEvent} (plainly : Plainly before after) :
    output after = output before := by
  obtain ⟨events, rfl, plain⟩ := plainly
  have silent : output events = [] := by
    apply List.flatMap_eq_nil_iff.mpr
    intro event member
    have still := plain event member
    cases event <;> first | rfl | contradiction
  rw [output_append, silent, List.append_nil]

end StackEvent

namespace RigEvent

/-- The bytes that a call passes on. Those for an inbound endpoint are held back. -/
def written : RigEvent → List UInt8
  | wrote endpoint data _ _ => if Direction.ofAddress endpoint = .inbound then [] else data
  | _ => []

/-- All bytes that were passed on, in order. -/
def output (history : List RigEvent) : List UInt8 := history.flatMap written

@[simp] theorem output_append (first second : List RigEvent) :
    output (first ++ second) = output first ++ output second :=
  List.flatMap_append

@[simp] theorem output_nil : output [] = [] := List.flatMap_nil

@[simp] theorem output_cons (event : RigEvent) (rest : List RigEvent) :
    output (event :: rest) = event.written ++ output rest :=
  List.flatMap_cons

/-- Calls that write nothing add nothing to what is written. -/
theorem output_of_silent {events : List RigEvent}
    (silent : ∀ event ∈ events, event.written = []) : output events = [] :=
  List.flatMap_eq_nil_iff.mpr silent

/-- Bytes are passed on by calls on the device only. -/
theorem output_deviceCalls (history : List RigEvent) :
    output (deviceCalls history) = output history := by
  induction history with
  | nil => rfl
  | cons event rest ih =>
      rw [← List.singleton_append, deviceCalls_append, output_append, output_append, ih]
      cases event <;> rfl

end RigEvent

namespace Session

open StackEvent

variable {β : Type} (stack : Stack β)

private theorem output_submit (slot : Slot) (session : Session (Journal StackEvent β)) :
    output (session.submit stack.journaled slot).2.stackState.history =
      output session.stackState.history := by
  rcases history_submit_cases stack slot session with
    plainly | ⟨before, transfer, code, plainly, grown⟩
  · exact plainly.output_eq
  · rw [grown, output_append, plainly.output_eq]
    exact List.append_nil _

/-- What a write adds to the output. -/
theorem output_write (endpoint : UInt8) (data : List UInt8) (timeout : Duration)
    (session : Session (Journal StackEvent β)) :
    output (session.write stack.journaled endpoint data timeout).2.stackState.history =
      output session.stackState.history ++
        if Direction.ofAddress endpoint = .inbound then [] else data := by
  rw [session_write]
  split
  · rw [List.append_nil]
  · simp [stack.history_write, written]

/-- The output is that of an earlier time, followed by the bytes that the rig has passed on. -/
def Relays (before : List UInt8) (journal : Watched β) : Prop :=
  output journal.state.stackState.history = before ++ RigEvent.output journal.history

/-- A call is relayed if the stack writes what it says. -/
theorem Relays.then_call {before : List UInt8} {journal later : Watched β} {event : RigEvent}
    (relays : Relays before journal) (grown : later.history = journal.history ++ [event])
    (added : output later.state.stackState.history =
      output journal.state.stackState.history ++ event.written) : Relays before later := by
  unfold Relays at relays ⊢
  simp [added, relays, grown]

/-- A call that writes nothing. -/
theorem Relays.then_plainly {before : List UInt8} {journal later : Watched β} {event : RigEvent}
    (relays : Relays before journal) (grown : later.history = journal.history ++ [event])
    (silent : event.written = [])
    (plainly : Plainly journal.state.stackState.history later.state.stackState.history) :
    Relays before later :=
  relays.then_call grown (by rw [silent, List.append_nil, plainly.output_eq])

/-- **A session relays what it is asked to write**, and writes nothing else. -/
theorem keeps_relays (before : List UInt8) :
    stack.watched.Keeps (Relays (β := β) before) where
  connect target journal relays :=
    relays.then_plainly (Journal.history_record ..) rfl
      (unaddressed_connect stack target journal.state).plainly
  submit slot journal relays :=
    relays.then_call ((Session.rig stack.journaled).history_submit journal slot)
      ((output_submit stack slot journal.state).trans (List.append_nil _).symm)
  cancel slot journal relays :=
    relays.then_plainly ((Session.rig stack.journaled).history_cancel journal slot) rfl
      (unaddressed_cancel stack slot journal.state).plainly
  poll timeout journal relays :=
    relays.then_plainly ((Session.rig stack.journaled).history_poll journal timeout) rfl
      (unaddressed_poll stack timeout journal.state).plainly
  write endpoint data timeout journal relays :=
    relays.then_call ((Session.rig stack.journaled).history_write journal endpoint data timeout)
      (output_write stack endpoint data timeout journal.state)
  clearHalt endpoint journal relays :=
    relays.then_plainly ((Session.rig stack.journaled).history_clearHalt journal endpoint) rfl
      (plainly_clearHalt stack endpoint journal.state)
  disconnect journal relays :=
    relays.then_plainly ((Session.rig stack.journaled).history_disconnect journal) rfl
      (unaddressed_disconnect stack journal.state).plainly
  now _ relays := relays
  note notice journal relays :=
    relays.then_plainly ((Session.rig stack.journaled).history_note journal notice) rfl
      (unaddressed_note stack notice journal.state).plainly

end Session

end UsbThroughput
