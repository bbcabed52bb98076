import UsbThroughput.Proofs.Rig.History
import UsbThroughput.Proofs.Slot.Make

/-!
# Calls on the device

Of what a history tells, the calls on the device itself (`RigEvent.deviceCalls`), and the calls
that come of work on several slots: they are submitted from first to last, up to the first that is
refused (`Fills`), and cancelled from last to first (`Cancels`).
-/

namespace UsbThroughput

open RigEvent

namespace RigEvent

/-- Whether an event is a call on a device that has been opened. -/
def onDevice : RigEvent → Bool
  | connected _ _ | noted _ => false
  | _ => true

/-- The calls on the device, in order. -/
def deviceCalls (history : List RigEvent) : List RigEvent := history.filter onDevice

@[simp] theorem deviceCalls_append (first second : List RigEvent) :
    deviceCalls (first ++ second) = deviceCalls first ++ deviceCalls second :=
  List.filter_append ..

/-- Calls of some kind can be counted among the calls on the device. -/
theorem countP_deviceCalls {kind : RigEvent → Bool}
    (calls : ∀ event, kind event = true → event.onDevice = true) (history : List RigEvent) :
    (deviceCalls history).countP kind = history.countP kind := by
  rw [deviceCalls, List.countP_filter]
  apply List.countP_congr
  intro event _
  rw [Bool.and_eq_true]
  exact ⟨And.left, fun named => ⟨named, calls event named⟩⟩

/-- The slot whose transfer a call asks to be given up. -/
def cancelled? : RigEvent → Option Slot
  | cancelled slot _ => some slot
  | _ => none

/-- The number of the slot that a call submits. -/
def submittedId? : RigEvent → Option Nat
  | submitted slot _ => some slot.id
  | _ => none

/-- Whether a call is a cancellation. -/
def isCancellation (event : RigEvent) : Bool := event.cancelled?.isSome

end RigEvent

/-- A journal grows by some calls on the device, and by whatever else there is to write down. -/
def Journal.Performs {σ : Type} (journal : Journal RigEvent σ) (calls : List RigEvent)
    (later : Journal RigEvent σ) : Prop :=
  ∃ events, later.history = journal.history ++ events ∧ deviceCalls events = calls

namespace Journal.Performs

variable {σ : Type} {journal middle later : Journal RigEvent σ} {calls others : List RigEvent}

/-- Without calls a journal may stay as it is. -/
theorem refl (journal : Journal RigEvent σ) : journal.Performs [] journal :=
  ⟨[], (List.append_nil _).symm, rfl⟩

/-- Calls that follow one another. -/
theorem trans (first : journal.Performs calls middle) (second : middle.Performs others later) :
    journal.Performs (calls ++ others) later := by
  obtain ⟨earlier, grown, same⟩ := first
  obtain ⟨events, grows, still⟩ := second
  refine ⟨earlier ++ events, ?_, ?_⟩
  · rw [grows, grown, List.append_assoc]
  · rw [deviceCalls_append, same, still]

/-- A history that did not grow holds no further call. -/
theorem of_same (same : later.history = journal.history) : journal.Performs [] later :=
  ⟨[], same.trans (List.append_nil _).symm, rfl⟩

/-- Writing down a call on the device. -/
theorem of_call {event : RigEvent} (call : event.onDevice = true)
    (history : later.history = journal.history ++ [event]) : journal.Performs [event] later := by
  refine ⟨[event], history, ?_⟩
  rw [deviceCalls, List.filter_singleton, call]
  rfl

/-- Writing down something that is no call on the device. -/
theorem of_aside {event : RigEvent} (aside : event.onDevice = false)
    (history : later.history = journal.history ++ [event]) : journal.Performs [] later := by
  refine ⟨[event], history, ?_⟩
  rw [deviceCalls, List.filter_singleton, aside]
  rfl

/-- Writing down several calls on the device. -/
theorem of_calls (each : ∀ call ∈ calls, call.onDevice = true)
    (history : later.history = journal.history ++ calls) : journal.Performs calls later :=
  ⟨calls, history, List.filter_eq_self.mpr each⟩

/-- What is written down besides calls may stand anywhere. -/
theorem then_aside (first : journal.Performs calls middle) (second : middle.Performs [] later) :
    journal.Performs calls later := by
  have both := first.trans second
  rwa [List.append_nil] at both

/-- What was performed is added to the calls on the device. -/
theorem deviceCalls_eq (performs : journal.Performs calls later) :
    deviceCalls later.history = deviceCalls journal.history ++ calls := by
  obtain ⟨events, grown, same⟩ := performs
  rw [grown, deviceCalls_append, same]

/-- What was written down stays. -/
theorem isPrefix (performs : journal.Performs calls later) :
    journal.history <+: later.history := by
  obtain ⟨events, grown, _⟩ := performs
  exact ⟨events, grown.symm⟩

/-- What was performed is found in the history. -/
theorem mem_history (performs : journal.Performs calls later) {call : RigEvent}
    (member : call ∈ calls) : call ∈ later.history := by
  obtain ⟨events, grown, rfl⟩ := performs
  rw [grown]
  exact List.mem_append_right _ (List.mem_of_mem_filter member)

end Journal.Performs

theorem Rig.performs_note {σ : Type} (rig : Rig σ) (notice : Notice)
    (journal : Journal RigEvent σ) :
    journal.Performs [] (rig.journaled.note notice journal) :=
  .of_aside rfl (rig.history_note journal notice)

/-! ## Submission in turn -/

/-- Slots are submitted from first to last, up to the first that the device refuses: the calls,
the slots as they are afterwards, and the refusal. -/
inductive Fills : List Slot → List RigEvent → List Slot → Option SubmissionError → Prop where
  | done : Fills [] [] [] none
  | refused (slot : Slot) (rest : List Slot) (cause : UsbError) :
      Fills (slot :: rest) [.submitted slot.reset (.error cause)] (slot.declined :: rest)
        (some { slot := slot.id, cause })
  | taken (slot : Slot) {rest next : List Slot} {calls : List RigEvent}
      {refusal : Option SubmissionError} (fills : Fills rest calls next refusal) :
      Fills (slot :: rest) (.submitted slot.reset (.ok ()) :: calls) (slot.lent :: next) refusal

namespace Fills

variable {slots next : List Slot} {calls : List RigEvent} {refusal : Option SubmissionError}

/-- Filling a queue makes no calls but submissions. -/
theorem isSubmission (fills : Fills slots calls next refusal) :
    ∀ call ∈ calls, call.isSubmission = true := by
  induction fills with
  | done => exact List.forall_mem_nil _
  | refused slot rest cause => exact List.forall_mem_singleton.mpr rfl
  | taken slot _ ih => exact List.forall_mem_cons.mpr ⟨rfl, ih⟩

/-- Filling a queue makes no calls but on the device. -/
theorem onDevice (fills : Fills slots calls next refusal) :
    ∀ call ∈ calls, call.onDevice = true := by
  intro call member
  have submission := fills.isSubmission call member
  cases call <;> first | rfl | contradiction

/-- Without a refusal every slot is in flight. -/
theorem next_eq_of_none (fills : Fills slots calls next none) : next = slots.map Slot.lent := by
  generalize accepted : (none : Option SubmissionError) = refusal at fills
  induction fills with
  | done => rfl
  | refused slot rest cause => contradiction
  | taken slot _ ih => rw [List.map_cons, ih accepted]

/-- Slots are submitted in their order, and all of them if none is refused. -/
theorem ids_eq (fills : Fills slots calls next refusal) :
    calls.map submittedId? = ((slots.map Slot.id).take calls.length).map some ∧
      (refusal = none → calls.length = slots.length) := by
  induction fills with
  | done => exact ⟨rfl, fun _ => rfl⟩
  | refused slot rest cause => exact ⟨rfl, nofun⟩
  | taken slot _ ih =>
      refine ⟨congrArg (some slot.id :: ·) ih.1, fun all => ?_⟩
      rw [List.length_cons, List.length_cons, ih.2 all]

/-- A single slot is lent, or declined for some cause. -/
theorem of_singleton {slot : Slot} (fills : Fills [slot] calls next refusal) :
    (calls = [.submitted slot.reset (.ok ())] ∧ next = [slot.lent] ∧ refusal = none) ∨
      ∃ cause, calls = [.submitted slot.reset (.error cause)] ∧ next = [slot.declined] ∧
        refusal = some { slot := slot.id, cause } := by
  cases fills with
  | refused _ _ cause => exact Or.inr ⟨cause, rfl, rfl, rfl⟩
  | taken _ fills =>
      cases fills
      exact Or.inl ⟨rfl, rfl, rfl⟩

end Fills

/-- The answer of a submission with or without a refusal. -/
def Refusal.answer : Option SubmissionError → Except Refusal Unit
  | none => .ok ()
  | some error => .error (.rejected error)

section

variable {σ : Type} (rig : Rig σ)

/-- The submission of one slot that is not in flight. -/
theorem Slot.fills_submit {slot : Slot} (free : slot.isSubmitted = false)
    (journal : Journal RigEvent σ) :
    ∃ calls refusal,
      (slot.submit rig.journaled journal).2.history = journal.history ++ calls ∧
      (slot.submit rig.journaled journal).1.1 = Refusal.answer refusal ∧
      Fills [slot] calls [(slot.submit rig.journaled journal).1.2] refusal := by
  have written := rig.history_submit journal slot.reset
  rcases slot.submit_cases rig.journaled journal with
    ⟨flying, _⟩ | ⟨_, taken, same⟩ | ⟨_, cause, refused, same⟩
  · rw [free] at flying
    contradiction
  · rw [taken] at written
    rw [same]
    exact ⟨_, none, written, rfl, .taken slot .done⟩
  · rw [refused] at written
    rw [same]
    exact ⟨_, some _, written, rfl, .refused slot [] cause⟩

/-- The submission of slots none of which is in flight. -/
theorem Queue.fills_submitEach {slots : List Slot}
    (free : ∀ slot ∈ slots, slot.isSubmitted = false) (journal : Journal RigEvent σ) :
    ∃ calls refusal,
      (submitEach rig.journaled slots journal).2.history = journal.history ++ calls ∧
      (submitEach rig.journaled slots journal).1.1 = Refusal.answer refusal ∧
      Fills slots calls (submitEach rig.journaled slots journal).1.2 refusal := by
  induction slots generalizing journal with
  | nil => exact ⟨[], none, (List.append_nil _).symm, rfl, .done⟩
  | cons slot rest ih =>
      obtain ⟨first, others⟩ := List.forall_mem_cons.mp free
      obtain ⟨call, refusal, written, answered, fill⟩ := slot.fills_submit rig first journal
      rcases answer : slot.submit rig.journaled journal with ⟨⟨result, next⟩, state⟩
      rw [answer] at written answered fill
      rcases fill.of_singleton with ⟨rfl, same, rfl⟩ | ⟨cause, rfl, same, rfl⟩
      · obtain ⟨calls, refusal, grown, last, fills⟩ := ih others state
        cases answered
        cases same
        simp only [submitEach, answer]
        refine ⟨_ :: calls, refusal, ?_, last, .taken slot fills⟩
        rw [grown, written, List.append_assoc]
        rfl
      · cases answered
        cases same
        simp only [submitEach, answer]
        exact ⟨_, _, written, rfl, .refused slot rest cause⟩

end

/-! ## Cancellation in turn -/

/-- Whether a slot is in flight and nobody has asked for its transfer to be given up. -/
def Slot.isCancellable (slot : Slot) : Bool := slot.isSubmitted && !slot.cancelRequested

/-- A slot after its transfer was asked to be given up, if there was anything to ask for. -/
def Slot.recalled (slot : Slot) : Slot := if slot.isCancellable then slot.requestCancel else slot

@[simp] theorem Slot.isSubmitted_recalled (slot : Slot) :
    slot.recalled.isSubmitted = slot.isSubmitted := by
  unfold recalled
  split <;> rfl

/-- Every slot in flight has been asked to be given up. -/
theorem Slot.cancelRequested_recalled {slot : Slot} (flying : slot.isSubmitted = true) :
    slot.recalled.cancelRequested = true := by
  unfold recalled isCancellable
  rw [flying, Bool.true_and]
  cases asked : slot.cancelRequested with
  | true => exact asked
  | false => rfl

/-- One cancellation for each slot that is in flight and was not cancelled before, from last to
first. -/
def Cancels (slots : List Slot) (calls : List RigEvent) : Prop :=
  calls.map cancelled? = (slots.filter Slot.isCancellable).reverse.map (some ∘ Slot.requestCancel)

namespace Cancels

variable {slots : List Slot} {calls : List RigEvent}

/-- Cancelling a queue makes no calls but cancellations. -/
theorem isCancellation (cancels : Cancels slots calls) :
    ∀ call ∈ calls, call.isCancellation = true := by
  intro call member
  have among := List.mem_map_of_mem (f := cancelled?) member
  rw [cancels] at among
  obtain ⟨slot, _, same⟩ := List.mem_map.mp among
  rw [RigEvent.isCancellation, ← same]
  rfl

private theorem cons_of_settled (cancels : Cancels slots calls) {slot : Slot}
    (settled : slot.isCancellable = false) : Cancels (slot :: slots) calls := by
  rw [Cancels, List.filter_cons, if_neg (settled ▸ Bool.false_ne_true)]
  exact cancels

private theorem cons_of_cancellable (cancels : Cancels slots calls) {slot : Slot}
    (cancellable : slot.isCancellable = true) (result : UsbResult Unit) :
    Cancels (slot :: slots) (calls ++ [.cancelled slot.requestCancel result]) := by
  rw [Cancels, List.map_append, cancels, List.filter_cons, if_pos cancellable,
    List.reverse_cons, List.map_append]
  rfl

end Cancels

/-- Cancelling one slot makes at most one call. -/
theorem Slot.performs_cancel {σ : Type} (rig : Rig σ) (slot : Slot)
    (journal : Journal RigEvent σ) :
    (slot.cancel rig.journaled journal).1 = slot.recalled ∧
      if slot.isCancellable then
        ∃ result, journal.Performs [.cancelled slot.requestCancel result]
          (slot.cancel rig.journaled journal).2
      else (slot.cancel rig.journaled journal).2 = journal := by
  have written := rig.history_cancel journal slot.requestCancel
  have called : journal.Performs [.cancelled slot.requestCancel _] _ := .of_call rfl written
  unfold recalled isCancellable
  rcases slot.cancel_cases rig.journaled journal with
    ⟨settled, same⟩ | ⟨flying, unasked, _, same⟩ | ⟨flying, unasked, error, _, same⟩
  · have idle : (slot.isSubmitted && !slot.cancelRequested) = false := by
      rcases settled with grounded | asked
      · rw [grounded, Bool.false_and]
      · rw [asked, Bool.not_true, Bool.and_false]
    rw [same, idle]
    exact ⟨rfl, rfl⟩
  · rw [same, flying, unasked]
    exact ⟨rfl, _, called⟩
  · rw [same, flying, unasked]
    exact ⟨rfl, _, called.then_aside (rig.performs_note _ _)⟩

/-- **Cancelling all slots** asks for each that can be cancelled, and marks it whatever the answer
is. -/
theorem Queue.cancels_cancelEach {σ : Type} (rig : Rig σ) (slots : List Slot)
    (journal : Journal RigEvent σ) :
    ∃ calls, journal.Performs calls (cancelEach rig.journaled slots journal).2 ∧
      Cancels slots calls ∧
      (cancelEach rig.journaled slots journal).1 = slots.map Slot.recalled := by
  induction slots with
  | nil => exact ⟨[], .refl journal, rfl, rfl⟩
  | cons slot rest ih =>
      obtain ⟨calls, performs, cancels, same⟩ := ih
      rcases others : cancelEach rig.journaled rest journal with ⟨next, state⟩
      rw [others] at performs same
      obtain ⟨first, called⟩ := slot.performs_cancel rig state
      have both : (slot.cancel rig.journaled state).1 :: next =
          (slot :: rest).map Slot.recalled := by
        rw [first, List.map_cons, ← same]
      simp only [cancelEach, others]
      cases cancellable : slot.isCancellable with
      | false =>
          rw [cancellable, if_neg Bool.false_ne_true] at called
          rw [← called] at performs
          exact ⟨calls, performs, cancels.cons_of_settled cancellable, both⟩
      | true =>
          rw [cancellable, if_pos rfl] at called
          obtain ⟨result, calling⟩ := called
          exact ⟨_, performs.trans calling, cancels.cons_of_cancellable cancellable result, both⟩

end UsbThroughput
