import UsbThroughput.Proofs.Settings
import UsbThroughput.Queue

/-!
# What a slot is made with

The number, the endpoint, the buffer and the timeout of a slot are its make (`Slot.make`). They
are given once, and no operation but `Slot.abandon` changes them. What does change is the state.
The slots of a test are made as its settings ask (`Queue.serves_of_mem`).
-/

namespace UsbThroughput

namespace Slot

/-- A slot as it was before its first submission. -/
def make (slot : Slot) : Slot where
  id := slot.id
  endpoint := slot.endpoint
  buffer := slot.buffer
  timeout := slot.timeout

theorem id_eq_of_make {first second : Slot} (same : first.make = second.make) :
    first.id = second.id :=
  congrArg (fun slot => slot.id) same

private theorem buffer_eq_of_make {first second : Slot} (same : first.make = second.make) :
    first.buffer = second.buffer :=
  congrArg (fun slot => slot.buffer) same

@[simp] theorem make_complete (slot : Slot) (status : TransferStatus) (length : Nat) :
    (slot.complete status length).make = slot.make := rfl

@[simp] theorem make_setAside (slot : Slot) : slot.setAside.make = slot.make := rfl

/-- A finished transfer leaves flight, however it ended. -/
@[simp] theorem isSubmitted_complete (slot : Slot) (status : TransferStatus) (length : Nat) :
    (slot.complete status length).isSubmitted = false := by
  cases status <;> rfl

@[simp] theorem make_reset (slot : Slot) : slot.reset.make = slot.make := rfl

/-- A slot that the device has taken. -/
def lent (slot : Slot) : Slot := { slot.reset with state := .submitted }

/-- A slot that the device has refused. -/
def declined (slot : Slot) : Slot := { slot.reset with state := .failed }

@[simp] theorem make_lent (slot : Slot) : slot.lent.make = slot.make := rfl

@[simp] theorem make_declined (slot : Slot) : slot.declined.make = slot.make := rfl

variable {σ : Type} (rig : Rig σ)

/-- A slot in flight is not submitted again. -/
theorem submit_of_isSubmitted {slot : Slot} (flying : slot.isSubmitted = true) (state : σ) :
    slot.submit rig state = ((.error (.inFlight slot.id), slot), state) := by
  rw [submit, if_pos flying]

/-- An accepted submission lends the slot to the device. -/
theorem submit_of_taken {slot : Slot} (free : slot.isSubmitted = false) {state : σ}
    (taken : (rig.submit slot.reset state).1 = .ok ()) :
    slot.submit rig state =
      ((.ok (), slot.lent), (rig.submit slot.reset state).2) := by
  rcases answer : rig.submit slot.reset state with ⟨result, after⟩
  rw [answer] at taken
  cases taken
  simp only [submit, free, Bool.false_eq_true, ↓reduceIte, answer, lent]

/-- A refused submission leaves the slot declined, and tells the cause. -/
theorem submit_of_refused {slot : Slot} (free : slot.isSubmitted = false) {state : σ}
    {cause : UsbError} (refused : (rig.submit slot.reset state).1 = .error cause) :
    slot.submit rig state =
      ((.error (.rejected { slot := slot.id, cause }), slot.declined),
        (rig.submit slot.reset state).2) := by
  rcases answer : rig.submit slot.reset state with ⟨result, after⟩
  rw [answer] at refused
  cases refused
  simp only [submit, free, Bool.false_eq_true, ↓reduceIte, answer, declined]

/-- The three ends of a submission: the slot was in flight, the device took it, or the device
refused it. -/
theorem submit_cases (slot : Slot) (state : σ) :
    (slot.isSubmitted = true ∧
      slot.submit rig state = ((.error (.inFlight slot.id), slot), state)) ∨
    (slot.isSubmitted = false ∧ (rig.submit slot.reset state).1 = .ok () ∧
      slot.submit rig state =
        ((.ok (), slot.lent), (rig.submit slot.reset state).2)) ∨
    (slot.isSubmitted = false ∧ ∃ cause, (rig.submit slot.reset state).1 = .error cause ∧
      slot.submit rig state =
        ((.error (.rejected { slot := slot.id, cause }), slot.declined),
          (rig.submit slot.reset state).2)) := by
  cases flight : slot.isSubmitted with
  | true => exact Or.inl ⟨rfl, submit_of_isSubmitted rig flight state⟩
  | false =>
      cases answer : (rig.submit slot.reset state).1 with
      | ok _ => exact Or.inr (Or.inl ⟨rfl, rfl, submit_of_taken rig flight answer⟩)
      | error cause =>
          exact Or.inr (Or.inr ⟨rfl, cause, rfl, submit_of_refused rig flight answer⟩)

/-- A submission changes nothing but the state of a slot. -/
@[simp] theorem make_submit (slot : Slot) (state : σ) :
    (slot.submit rig state).1.2.make = slot.make := by
  rcases submit_cases rig slot state with ⟨_, same⟩ | ⟨_, _, same⟩ | ⟨_, _, _, same⟩
  · rw [same]
  · rw [same]
    exact make_lent slot
  · rw [same]
    exact make_declined slot

/-- A slot whose transfer was asked to be given up. -/
def requestCancel (slot : Slot) : Slot := { slot with cancelRequested := true }

@[simp] theorem make_requestCancel (slot : Slot) : slot.requestCancel.make = slot.make := rfl

@[simp] theorem id_requestCancel (slot : Slot) : slot.requestCancel.id = slot.id := rfl

@[simp] theorem isSubmitted_requestCancel (slot : Slot) :
    slot.requestCancel.isSubmitted = slot.isSubmitted := rfl

/-- The three ends of a cancellation: there was nothing to ask for, the device was asked, or the
device was asked and refused. -/
theorem cancel_cases (slot : Slot) (state : σ) :
    ((slot.isSubmitted = false ∨ slot.cancelRequested = true) ∧
      slot.cancel rig state = (slot, state)) ∨
    (slot.isSubmitted = true ∧ slot.cancelRequested = false ∧
      (rig.cancel slot.requestCancel state).1 = .ok () ∧
      slot.cancel rig state =
        (slot.requestCancel, (rig.cancel slot.requestCancel state).2)) ∨
    (slot.isSubmitted = true ∧ slot.cancelRequested = false ∧ ∃ error,
      (rig.cancel slot.requestCancel state).1 = .error error ∧
      slot.cancel rig state =
        (slot.requestCancel,
          rig.note (.cancelFailed slot.id error) (rig.cancel slot.requestCancel state).2)) := by
  cases flying : slot.isSubmitted with
  | false =>
      refine Or.inl ⟨Or.inl rfl, ?_⟩
      simp only [cancel, flying, Bool.false_and, Bool.false_eq_true, ↓reduceIte]
  | true =>
      cases asked : slot.cancelRequested with
      | true =>
          refine Or.inl ⟨Or.inr rfl, ?_⟩
          simp only [cancel, flying, asked, Bool.not_true, Bool.and_false, Bool.false_eq_true,
            ↓reduceIte]
      | false =>
          rcases answer : rig.cancel slot.requestCancel state with ⟨result, after⟩
          rw [requestCancel] at answer
          cases result with
          | ok _ =>
              refine Or.inr (Or.inl ⟨rfl, rfl, rfl, ?_⟩)
              simp only [cancel, flying, asked, Bool.not_false, Bool.and_true, ↓reduceIte, answer,
                requestCancel]
          | error error =>
              refine Or.inr (Or.inr ⟨rfl, rfl, error, rfl, ?_⟩)
              simp only [cancel, flying, asked, Bool.not_false, Bool.and_true, ↓reduceIte, answer,
                requestCancel]

end Slot

/-! ## The slots of a test -/

/-- A slot that the settings ask for, but for its state. -/
structure Slot.Suits (settings : Settings) (direction : Direction) (slot : Slot) : Prop where
  placed : slot.id < settings.queueDepth direction
  long : slot.length = settings.transferLength direction
  timed : slot.timeout = settings.transferTimeout

variable {settings : Settings} {direction : Direction} {slot : Slot}

/-- Slots of the same make suit the same settings. -/
theorem Slot.Suits.of_make {other : Slot} (suits : other.Suits settings direction)
    (same : slot.make = other.make) : slot.Suits settings direction where
  placed := id_eq_of_make same ▸ suits.placed
  long := (congrArg Buffer.size (buffer_eq_of_make same)).trans suits.long
  timed := (congrArg (fun slot => slot.timeout) same).trans suits.timed

/-- A slot that suits the settings, and is on the endpoint under test. -/
structure Slot.Serves (settings : Settings) (direction : Direction) (slot : Slot) : Prop
    extends Slot.Suits settings direction slot where
  addressed : slot.endpoint = settings.endpoint direction

/-- Slots of the same make serve the same settings. -/
theorem Slot.Serves.of_make {other : Slot} (serves : other.Serves settings direction)
    (same : slot.make = other.make) : slot.Serves settings direction where
  toSuits := serves.toSuits.of_make same
  addressed := (congrArg (fun slot => slot.endpoint) same).trans serves.addressed

/-- The slots of a test serve it. -/
theorem Queue.serves_of_mem (member : slot ∈ (ofSettings settings direction).slots) :
    slot.Serves settings direction := by
  cases direction with
  | inbound =>
      obtain ⟨id, inside, rfl⟩ := List.mem_map.mp member
      exact ⟨⟨List.mem_range.mp inside, Buffer.size_zeros _, rfl⟩,
        Direction.address_address .inbound settings.target.bulkEndpoint⟩
  | outbound =>
      obtain ⟨id, inside, rfl⟩ := List.mem_map.mp member
      exact ⟨⟨List.mem_range.mp inside, Array.size_ofFn, rfl⟩,
        Direction.address_address .outbound settings.target.bulkEndpoint⟩

/-- A test starts with slots that are as they were made. -/
theorem Queue.make_of_mem (member : slot ∈ (ofSettings settings direction).slots) :
    slot.make = slot := by
  cases direction with
  | inbound =>
      obtain ⟨_, _, rfl⟩ := List.mem_map.mp member
      rfl
  | outbound =>
      obtain ⟨_, _, rfl⟩ := List.mem_map.mp member
      rfl

end UsbThroughput
