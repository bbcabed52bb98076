import UsbThroughput.Proofs.Queue.Filling

/-!
# What is done to a slot

A slot is submitted, cancelled, completed, set aside and given up, in any order and whether or not
there is reason to, and the device may write to its buffer at any time (`Slot.Act`). Everything that
one act can do, with the calls that it makes on the device, is written down in `Slot.Turn`.
-/

namespace UsbThroughput.Slot

open RigEvent

/-- Something that is done to a slot. -/
inductive Act where
  | submit
  | cancel
  | complete (status : TransferStatus) (length : Nat)
  | setAside
  | abandon
  /-- The device writes to the buffer. -/
  | fill (data : List UInt8)
  deriving DecidableEq, Repr

/-- The slot after the device has written to its buffer. -/
def fill (slot : Slot) (data : List UInt8) : Slot := { slot with buffer := slot.buffer.fill data }

namespace Act

/-- What an act leaves of a slot and of the rig. -/
def perform {σ : Type} (rig : Rig σ) (act : Act) (held : Slot × σ) : Slot × σ :=
  let (slot, state) := held
  match act with
  | submit =>
      let ((_, slot), state) := slot.submit rig state
      (slot, state)
  | cancel => slot.cancel rig state
  | complete status length => (slot.complete status length, state)
  | setAside => (slot.setAside, state)
  | abandon => (slot.abandon, state)
  | fill data => (slot.fill data, state)

/-- The number of bytes that a completion tells. -/
def length? : Act → Option Nat
  | complete _ length => some length
  | _ => none

/-- Whether an act makes a slot forget its last completion. -/
def forgets : Act → Bool
  | submit | abandon => true
  | _ => false

/-- Whether an act takes a slot out of flight. -/
def lands : Act → Bool
  | complete _ _ | setAside | abandon => true
  | _ => false

end Act

/-- What some acts leave of a slot and of the rig, done one after the other. -/
def handle {σ : Type} (rig : Rig σ) (acts : List Act) (held : Slot × σ) : Slot × σ :=
  acts.foldl (fun held act => act.perform rig held) held

/-- The last act is performed on what the acts before it have left. -/
theorem handle_concat {σ : Type} (rig : Rig σ) (acts : List Act) (act : Act) (held : Slot × σ) :
    handle rig (acts ++ [act]) held = act.perform rig (handle rig acts held) :=
  List.foldl_concat ..

/-- The number of bytes that the last completion told, if there was one since the slot was last
submitted or given up. -/
def told (acts : List Act) : Option Nat :=
  (acts.reverse.takeWhile fun act => !act.forgets).findSome? Act.length?

theorem told_concat (acts : List Act) (act : Act) :
    told (acts ++ [act]) = if act.forgets then none else act.length?.or (told acts) := by
  cases forgetful : act.forgets with
  | true => simp [told, forgetful]
  | false => cases length : act.length? <;> simp [told, forgetful, length]

/-! ## One act -/

/-- **What an act can do to a slot**, and the calls that it makes on the device. -/
inductive Turn (slot : Slot) : Act → List RigEvent → Slot → Prop where
  | barred (flying : slot.isSubmitted = true) : Turn slot .submit [] slot
  | taken (free : slot.isSubmitted = false) : Turn slot .submit [.taking slot] slot.lent
  | declined (free : slot.isSubmitted = false) (cause : UsbError) :
      Turn slot .submit [.submitted slot.reset (.error cause)] slot.declined
  | spared (settled : slot.isCancellable = false) : Turn slot .cancel [] slot
  | asked (cancellable : slot.isCancellable = true) (result : UsbResult Unit) :
      Turn slot .cancel [.cancelled slot.requestCancel result] slot.requestCancel
  | completed (status : TransferStatus) (length : Nat) :
      Turn slot (.complete status length) [] (slot.complete status length)
  | setAside : Turn slot .setAside [] slot.setAside
  | abandoned : Turn slot .abandon [] slot.abandon
  | filled (data : List UInt8) : Turn slot (.fill data) [] (slot.fill data)

section

variable {σ : Type} (rig : Rig σ)

private theorem turn_submit (slot : Slot) (journal : Journal RigEvent σ) :
    ∃ calls, journal.Performs calls (slot.submit rig.journaled journal).2 ∧
      slot.Turn .submit calls (slot.submit rig.journaled journal).1.2 := by
  cases flight : slot.isSubmitted with
  | true =>
      rw [submit_of_isSubmitted rig.journaled flight]
      exact ⟨[], .refl journal, .barred flight⟩
  | false =>
      obtain ⟨calls, refusal, grown, _, fills⟩ := slot.fills_submit rig flight journal
      refine ⟨calls, .of_calls fills.onDevice grown, ?_⟩
      rcases fills.of_singleton with ⟨rfl, next, _⟩ | ⟨cause, rfl, next, _⟩
      · rw [(List.cons.inj next).1]
        exact .taken flight
      · rw [(List.cons.inj next).1]
        exact .declined flight cause

private theorem turn_cancel (slot : Slot) (journal : Journal RigEvent σ) :
    ∃ calls, journal.Performs calls (slot.cancel rig.journaled journal).2 ∧
      slot.Turn .cancel calls (slot.cancel rig.journaled journal).1 := by
  obtain ⟨next, called⟩ := slot.performs_cancel rig journal
  rw [next, recalled]
  cases cancellable : slot.isCancellable with
  | true =>
      rw [cancellable, if_pos rfl] at called
      obtain ⟨result, performs⟩ := called
      exact ⟨_, performs, .asked cancellable result⟩
  | false =>
      rw [cancellable, if_neg Bool.false_ne_true] at called
      rw [called]
      exact ⟨[], .refl journal, .spared cancellable⟩

/-- An act that is done takes one of these turns. -/
theorem turn_perform (act : Act) (held : Slot × Journal RigEvent σ) :
    ∃ calls, held.2.Performs calls (act.perform rig.journaled held).2 ∧
      held.1.Turn act calls (act.perform rig.journaled held).1 := by
  cases act with
  | submit => exact held.1.turn_submit rig held.2
  | cancel => exact held.1.turn_cancel rig held.2
  | complete status length => exact ⟨[], .refl held.2, .completed status length⟩
  | setAside => exact ⟨[], .refl held.2, .setAside⟩
  | abandon => exact ⟨[], .refl held.2, .abandoned⟩
  | fill data => exact ⟨[], .refl held.2, .filled data⟩

end

namespace Turn

variable {slot next : Slot} {act : Act} {calls : List RigEvent}

/-- A slot gets into flight only if the device takes it. -/
theorem isSubmitted_iff (turn : slot.Turn act calls next) (free : slot.isSubmitted = false) :
    next.isSubmitted = true ↔ act = .submit ∧ calls = [.taking slot] := by
  cases turn with
  | taken => exact iff_of_true rfl ⟨rfl, rfl⟩
  | barred flying => exact absurd (free.symm.trans flying) Bool.false_ne_true
  | asked cancellable => simp [isCancellable, free] at cancellable
  | declined _ cause => exact iff_of_false Bool.false_ne_true (by simp [taking])
  | completed status length =>
      exact iff_of_false (ne_true_of_eq_false (slot.isSubmitted_complete status length)) nofun
  | setAside => exact iff_of_false Bool.false_ne_true nofun
  | abandoned => exact iff_of_false Bool.false_ne_true nofun
  | _ => exact iff_of_false (ne_true_of_eq_false free) nofun

/-- A slot in flight stays there until it is completed, set aside or given up. -/
theorem lands_iff (turn : slot.Turn act calls next) (flying : slot.isSubmitted = true) :
    next.isSubmitted = false ↔ act.lands = true := by
  cases turn with
  | taken free => exact absurd (free.symm.trans flying) Bool.false_ne_true
  | declined free => exact absurd (free.symm.trans flying) Bool.false_ne_true
  | completed status length => exact iff_of_true (slot.isSubmitted_complete status length) rfl
  | setAside => exact iff_of_true rfl rfl
  | abandoned => exact iff_of_true rfl rfl
  | _ => exact iff_of_false (ne_false_of_eq_true flying) Bool.false_ne_true

end Turn

end UsbThroughput.Slot
