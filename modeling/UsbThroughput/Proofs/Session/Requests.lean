import UsbThroughput.Proofs.Run.Mirror
import UsbThroughput.Proofs.Session.Course
import UsbThroughput.Proofs.Session.Teardown

/-!
# What a session asks of its stack

Most calls on a session neither submit a transfer nor write anything (`StackEvent.Plainly`). A
session submits a transfer only for the submission of a slot, and asks for what the slot says
(`Session.Backed`). It is broken only by a slot that has no place among its transfers
(`Session.Whole`). Both are kept by every call on the rig, so that they hold of every run.
-/

namespace UsbThroughput

namespace StackEvent

/-- What a call submits, if it is a submission. -/
def request? : StackEvent → Option Request
  | submitted request _ => some request
  | _ => none

/-- All that was submitted, in order. -/
def requests (history : List StackEvent) : List Request := history.filterMap request?

@[simp] theorem requests_append (first second : List StackEvent) :
    requests (first ++ second) = requests first ++ requests second :=
  List.filterMap_append ..

private theorem requests_of_isQuiet {events : List StackEvent}
    (quiet : ∀ event ∈ events, event.isQuiet = true) : requests events = [] := by
  apply List.filterMap_eq_nil_iff.mpr
  intro event member
  have still := quiet event member
  cases event <;> first | rfl | contradiction

/-- A history goes on with calls of one kind. -/
def GrowsBy (kind : StackEvent → Bool) (before after : List StackEvent) : Prop :=
  ∃ events, after = before ++ events ∧ ∀ event ∈ events, kind event = true

namespace GrowsBy

variable {kind other : StackEvent → Bool} {before after : List StackEvent}

theorem refl (history : List StackEvent) : GrowsBy kind history history :=
  ⟨[], (List.append_nil _).symm, List.forall_mem_nil _⟩

theorem append (grows : GrowsBy kind before after) {events : List StackEvent}
    (each : ∀ event ∈ events, kind event = true) : GrowsBy kind before (after ++ events) := by
  obtain ⟨earlier, rfl, first⟩ := grows
  exact ⟨earlier ++ events, List.append_assoc .., List.forall_mem_append.mpr ⟨first, each⟩⟩

theorem concat (grows : GrowsBy kind before after) {event : StackEvent}
    (last : kind event = true) : GrowsBy kind before (after ++ [event]) :=
  grows.append (List.forall_mem_singleton.mpr last)

theorem mono (grows : GrowsBy kind before after)
    (wider : ∀ event, kind event = true → other event = true) : GrowsBy other before after :=
  grows.imp fun _ ⟨grown, each⟩ => ⟨grown, fun event member => wider event (each event member)⟩

end GrowsBy

/-- Whether an event is addressed to no endpoint: it is neither a submission, nor a write, nor a
cleared halt. -/
def isUnaddressed : StackEvent → Bool
  | submitted _ _ | wrote _ _ _ _ | haltCleared _ _ => false
  | _ => true

/-- Whether an event neither submits anything nor writes anything. -/
def isPlain : StackEvent → Bool
  | submitted _ _ | wrote _ _ _ _ => false
  | _ => true

/-- A history goes on without submissions and writes. -/
def Plainly (before after : List StackEvent) : Prop :=
  ∃ events, after = before ++ events ∧ ∀ event ∈ events, event.isPlain = true

/-- What is addressed to no transfer neither submits nor writes. -/
theorem GrowsBy.plainly {before after : List StackEvent}
    (grows : GrowsBy isUnaddressed before after) : Plainly before after :=
  grows.mono fun event unaddressed => by cases event <;> first | rfl | contradiction

namespace Plainly

variable {before after : List StackEvent}

theorem refl (history : List StackEvent) : Plainly history history :=
  GrowsBy.refl history

theorem concat (plainly : Plainly before after) {event : StackEvent}
    (plain : event.isPlain = true) : Plainly before (after ++ [event]) :=
  GrowsBy.concat plainly plain

/-- A session that goes on plainly makes no further request. -/
theorem requests_eq (plainly : Plainly before after) : requests after = requests before := by
  obtain ⟨events, rfl, plain⟩ := plainly
  have none : requests events = [] := by
    apply List.filterMap_eq_nil_iff.mpr
    intro event member
    have still := plain event member
    cases event <;> first | rfl | contradiction
  rw [requests_append, none, List.append_nil]

end Plainly

end StackEvent

namespace Session

open StackEvent

variable {β : Type} (stack : Stack β)

/-! ## Calls that submit nothing and write nothing -/

/-- Writing a notice is addressed to no transfer. -/
theorem unaddressed_note (notice : Notice) (session : Session (Journal StackEvent β)) :
    GrowsBy isUnaddressed session.stackState.history
      (session.note stack.journaled notice).stackState.history := by
  rw [show (session.note stack.journaled notice).stackState.history = _ from
    stack.history_note session.stackState notice]
  exact (GrowsBy.refl _).concat rfl

/-- Opening the device is addressed to no transfer. -/
theorem unaddressed_connect (target : Target) (session : Session (Journal StackEvent β)) :
    GrowsBy isUnaddressed session.stackState.history
      (session.connect stack.journaled target).2.stackState.history := by
  have opened := stack.history_openDevice session.stackState target.vendor target.product
  unfold connect
  rcases answer : stack.journaled.openDevice target.vendor target.product session.stackState with
    ⟨found, first⟩
  rw [answer] at opened
  have searched : GrowsBy isUnaddressed session.stackState.history first.history :=
    opened ▸ (GrowsBy.refl _).concat rfl
  cases found with
  | false => exact searched
  | true =>
      have claimed := stack.history_claim first target.interface
      dsimp only
      split
      · rw [stack.history_close, claimed]
        exact (searched.concat rfl).concat rfl
      · rw [note, stack.history_note, claimed]
        exact (searched.concat rfl).concat rfl

/-- A cancellation neither submits nor writes anything. -/
theorem unaddressed_cancel (slot : Slot) (session : Session (Journal StackEvent β)) :
    GrowsBy isUnaddressed session.stackState.history
      (session.cancel stack.journaled slot).2.stackState.history := by
  unfold cancel
  split
  · exact .refl _
  · split
    · dsimp only
      rw [stack.history_cancel]
      exact (GrowsBy.refl _).concat rfl
    · exact .refl _

/-- Waiting for completions neither submits nor writes anything. -/
theorem unaddressed_poll (timeout : Duration) (session : Session (Journal StackEvent β)) :
    GrowsBy isUnaddressed session.stackState.history
      (session.poll stack.journaled timeout).2.stackState.history := by
  have handled : GrowsBy isUnaddressed session.stackState.history
      (session.handleEvents stack.journaled timeout).2.stackState.history := by
    rw [handleEvents]
    dsimp only
    rw [stack.history_handleEvents]
    exact (GrowsBy.refl _).concat rfl
  rcases poll_cases stack.journaled timeout session with same | ⟨_, same⟩ | same
  · rw [same]
    exact .refl _
  · rw [same]
    exact handled
  · rw [same]
    exact handled

/-- Closing the device neither submits nor writes anything. -/
theorem unaddressed_disconnect (session : Session (Journal StackEvent β)) :
    GrowsBy isUnaddressed session.stackState.history
      (session.disconnect stack.journaled).stackState.history := by
  have dropped := history_dropTransfers stack session.transfers session.stackState
  have farewells : ∀ event ∈ session.transfers.map farewell, event.isUnaddressed = true := by
    intro event member
    obtain ⟨transfer, _, rfl⟩ := List.mem_map.mp member
    unfold farewell
    split <;> rfl
  have freed := (GrowsBy.refl session.stackState.history).append farewells
  unfold disconnect releaseInterface
  dsimp only
  split
  · rw [stack.history_close, stack.history_release, dropped]
    exact (freed.concat rfl).concat rfl
  · rw [stack.history_close, stack.history_release, stack.history_note, stack.history_release,
      dropped]
    exact (((freed.concat rfl).concat rfl).concat rfl).concat rfl

/-- Clearing a halt neither submits nor writes anything. -/
theorem plainly_clearHalt (endpoint : UInt8) (session : Session (Journal StackEvent β)) :
    Plainly session.stackState.history
      (session.clearHalt stack.journaled endpoint).2.stackState.history := by
  rw [show (session.clearHalt stack.journaled endpoint).2.stackState.history = _ from
    stack.history_clearHalt session.stackState endpoint]
  exact (Plainly.refl _).concat rfl

private theorem plainly_obtainTransfer (slot : Nat) (session : Session (Journal StackEvent β)) :
    Plainly session.stackState.history
      (session.obtainTransfer stack.journaled slot).2.stackState.history := by
  rcases obtainTransfer_cases stack.journaled slot session with
    ⟨_, _, same⟩ | ⟨_, _, same⟩ | ⟨_, _, same⟩ <;> rw [same]
  · exact .refl _
  · rw [stack.history_allocate]
    exact (Plainly.refl _).concat rfl
  · rw [stack.history_allocate]
    exact (Plainly.refl _).concat rfl

/-- The submission of a slot makes one call, that for the slot, after plain ones; or none. -/
theorem history_submit_cases (slot : Slot) (session : Session (Journal StackEvent β)) :
    Plainly session.stackState.history
        (session.submit stack.journaled slot).2.stackState.history ∨
      ∃ before transfer code, Plainly session.stackState.history before ∧
        (session.submit stack.journaled slot).2.stackState.history =
          before ++ [.submitted (request transfer slot) code] := by
  have first := plainly_obtainTransfer stack slot.id session
  rcases submit_cases stack.journaled slot session with
    ⟨_, same⟩ | ⟨_, _, same⟩ | ⟨transfer, obtained, found, ends⟩
  · rw [same]
    exact Or.inl (.refl _)
  · rw [same]
    exact Or.inl first
  · have written := stack.history_submit obtained.stackState (request transfer slot)
    rw [found] at first
    rcases ends with same | ⟨_, _, same⟩ | ⟨_, same⟩
    · rw [same]
      exact Or.inl first
    · rw [same]
      exact Or.inr ⟨_, transfer, _, first, written⟩
    · rw [same]
      exact Or.inr ⟨_, transfer, _, first, written⟩

/-! ## Requests -/

/-- The requests made through a session so far. -/
def requested (session : Session (Journal StackEvent β)) : List Request :=
  requests session.stackState.history

/-- A write requests no transfer. -/
theorem requested_write (endpoint : UInt8) (data : List UInt8) (timeout : Duration)
    (session : Session (Journal StackEvent β)) :
    (session.write stack.journaled endpoint data timeout).2.requested = session.requested := by
  obtain ⟨events, grown, quiet⟩ := (untouched_write stack endpoint data timeout session).grows
  rw [requested, grown, requests_append, requests_of_isQuiet quiet, List.append_nil]
  rfl

/-- The submission of a slot makes one request at most, that for the slot. -/
theorem requested_submit (slot : Slot) (session : Session (Journal StackEvent β)) :
    (session.submit stack.journaled slot).2.requested = session.requested ∨
      ∃ transfer, (session.submit stack.journaled slot).2.requested =
        session.requested ++ [request transfer slot] := by
  rcases history_submit_cases stack slot session with
    plainly | ⟨before, transfer, code, plainly, grown⟩
  · exact Or.inl plainly.requests_eq
  · right
    refine ⟨transfer, ?_⟩
    rw [requested, grown, requests_append, plainly.requests_eq]
    rfl

/-- Every request was made for the submission of a slot: it asks for the transfer that the slot
describes, with the timeout in whole milliseconds. -/
def Backed (journal : Watched β) : Prop :=
  ∀ asked ∈ journal.state.requested, ∃ slot result, .submitted slot result ∈ journal.history ∧
    asked.endpoint = slot.endpoint ∧ asked.length = slot.length ∧
    asked.timeout = min slot.timeout.milliseconds maxTimeout

/-- A call that makes no request leaves every request backed. -/
theorem Backed.then_call {journal later : Watched β} (backed : Backed journal)
    (grows : journal.history <+: later.history)
    (same : later.state.requested = journal.state.requested) : Backed later := by
  intro asked member
  rw [same] at member
  obtain ⟨slot, result, among, asks⟩ := backed asked member
  exact ⟨slot, result, grows.mem among, asks⟩

/-- **Every request is backed**, whatever is called. -/
theorem keeps_backed : stack.watched.Keeps (Backed (β := β)) where
  connect target journal backed :=
    backed.then_call ⟨_, (Journal.history_record ..).symm⟩
      (unaddressed_connect stack target journal.state).plainly.requests_eq
  submit slot journal backed := by
    have written := (Session.rig stack.journaled).history_submit journal slot
    rcases requested_submit stack slot journal.state with same | ⟨transfer, grown⟩
    · exact backed.then_call ⟨_, written.symm⟩ same
    · intro asked member
      rw [show (stack.watched.submit slot journal).2.state.requested = _ from grown] at member
      rw [written]
      rcases List.mem_append.mp member with before | new
      · obtain ⟨other, result, among, asks⟩ := backed asked before
        exact ⟨other, result, List.mem_append_left _ among, asks⟩
      · cases List.mem_singleton.mp new
        exact ⟨slot, _, List.mem_append_right _ (List.mem_singleton_self _), rfl, rfl, rfl⟩
  cancel slot journal backed :=
    backed.then_call ⟨_, ((Session.rig stack.journaled).history_cancel journal slot).symm⟩
      (unaddressed_cancel stack slot journal.state).plainly.requests_eq
  poll timeout journal backed :=
    backed.then_call ⟨_, ((Session.rig stack.journaled).history_poll journal timeout).symm⟩
      (unaddressed_poll stack timeout journal.state).plainly.requests_eq
  write endpoint data timeout journal backed :=
    backed.then_call
      ⟨_, ((Session.rig stack.journaled).history_write journal endpoint data timeout).symm⟩
      (requested_write stack endpoint data timeout journal.state)
  clearHalt endpoint journal backed :=
    backed.then_call ⟨_, ((Session.rig stack.journaled).history_clearHalt journal endpoint).symm⟩
      (plainly_clearHalt stack endpoint journal.state).requests_eq
  disconnect journal backed :=
    backed.then_call ⟨_, ((Session.rig stack.journaled).history_disconnect journal).symm⟩
      (unaddressed_disconnect stack journal.state).plainly.requests_eq
  now journal backed :=
    backed.then_call (List.prefix_refl _) rfl
  note notice journal backed :=
    backed.then_call ⟨_, ((Session.rig stack.journaled).history_note journal notice).symm⟩
      (unaddressed_note stack notice journal.state).plainly.requests_eq

/-! ## Sessions that are not broken -/

section

variable {σ : Type} (stack : Stack σ)

/-- A session that is not broken, now or after any call before, provided that every slot submitted
to it has a place among the transfers. -/
def Whole (journal : Journal RigEvent (Session σ)) : Prop :=
  (∀ slot result, .submitted slot result ∈ journal.history → slot.id < maxSlots) →
    journal.state.broken = none ∧ ∀ entry ∈ journal.entries, entry.2.broken = none

/-- A call that does not break the session leaves it whole. -/
theorem Whole.record {α : Type} {journal : Journal RigEvent (Session σ)} (whole : Whole journal)
    (describe : α → RigEvent) (act : Session σ → α × Session σ)
    (keeps : (∀ slot result, describe (act journal.state).1 = .submitted slot result →
      slot.id < maxSlots) → journal.state.broken = none → (act journal.state).2.broken = none) :
    Whole (journal.record describe act).2 := by
  intro placed
  rw [Journal.history_record] at placed
  obtain ⟨unbroken, before⟩ := whole fun slot result member =>
    placed slot result (List.mem_append_left _ member)
  have still := keeps (fun slot result same =>
    placed slot result (List.mem_append_right _ (List.mem_singleton.mpr same.symm))) unbroken
  exact ⟨still, List.forall_mem_cons.mpr ⟨still, before⟩⟩

/-- A call without an answer that does not break the session leaves it whole. -/
theorem Whole.recordChange {journal : Journal RigEvent (Session σ)} (whole : Whole journal)
    (event : RigEvent) (change : Session σ → Session σ)
    (keeps : journal.state.broken = none → (change journal.state).broken = none) :
    Whole (journal.recordChange event change) := by
  intro placed
  rw [Journal.history_recordChange] at placed
  obtain ⟨unbroken, before⟩ := whole fun slot result member =>
    placed slot result (List.mem_append_left _ member)
  exact ⟨keeps unbroken, List.forall_mem_cons.mpr ⟨keeps unbroken, before⟩⟩

/-- Opening the device does not break a session. -/
theorem broken_connect (target : Target) {session : Session σ} (unbroken : session.broken = none) :
    (session.connect stack target).2.broken = none := by
  unfold connect
  rcases stack.openDevice target.vendor target.product session.stackState with ⟨found, first⟩
  cases found with
  | false => exact unbroken
  | true =>
      dsimp only
      split
      · exact unbroken
      · rfl

/-- Submitting a slot that has a place does not break a session. -/
theorem broken_submit {slot : Slot} (placed : slot.id < maxSlots) (session : Session σ) :
    (session.submit stack slot).2.broken = session.broken := by
  have first : (session.obtainTransfer stack slot.id).2.broken = session.broken := by
    rcases obtainTransfer_cases stack slot.id session with
      ⟨_, _, same⟩ | ⟨_, _, same⟩ | ⟨_, _, same⟩ <;> rw [same]
  unfold submit
  rw [if_neg (Nat.not_le.mpr placed)]
  rcases answer : session.obtainTransfer stack slot.id with ⟨_ | transfer, obtained⟩ <;>
    rw [answer] at first
  · exact first
  · dsimp only
    split
    · exact first
    · split <;> exact first

private theorem broken_cancel (slot : Slot) (session : Session σ) :
    (session.cancel stack slot).2.broken = session.broken := by
  unfold cancel
  split
  · rfl
  · split <;> rfl

private theorem broken_poll (timeout : Duration) (session : Session σ) :
    (session.poll stack timeout).2.broken = session.broken := by
  rcases poll_cases stack timeout session with same | ⟨_, same⟩ | same <;> rw [same] <;> rfl

private theorem broken_write (endpoint : UInt8) (data : List UInt8) (timeout : Duration)
    (session : Session σ) :
    (session.write stack endpoint data timeout).2.broken = session.broken := by
  rw [session_write]
  split <;> rfl

/-- **Only a slot without a place breaks a session.** -/
theorem keeps_whole : (Session.rig stack).journaled.Keeps Whole where
  connect target _ whole := whole.record _ _ fun _ => broken_connect stack target
  submit slot journal whole := whole.record _ _ fun placed unbroken =>
    (broken_submit stack (placed slot _ rfl) journal.state).trans unbroken
  cancel slot journal whole := whole.record _ _ fun _ unbroken =>
    (broken_cancel stack slot journal.state).trans unbroken
  poll timeout journal whole := whole.record _ _ fun _ unbroken =>
    (broken_poll stack timeout journal.state).trans unbroken
  write endpoint data timeout journal whole := whole.record _ _ fun _ unbroken =>
    (broken_write stack endpoint data timeout journal.state).trans unbroken
  clearHalt _ _ whole := whole.record _ _ fun _ unbroken => unbroken
  disconnect _ whole := whole.recordChange _ _ fun _ => rfl
  now _ whole := whole
  note _ _ whole := whole.recordChange _ _ id

end

end Session

end UsbThroughput
