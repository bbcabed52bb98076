import UsbThroughput.Rig

/-!
# Submission and cancellation of a slot

A slot is lent to the device by `Slot.submit` and is in flight until a completion is applied to
it. `Slot.cancel` asks for an early end, at most once for each submission.
-/

namespace UsbThroughput

/-- Why a slot was not submitted. -/
inductive Refusal where
  /-- Its transfer is still in flight, so the device was not asked. -/
  | inFlight (slot : Nat)
  /-- The device did not take it. -/
  | rejected (error : SubmissionError)
  deriving DecidableEq, Repr

namespace Slot

variable {σ : Type} (rig : Rig σ)

/-- What a slot forgets before each submission. -/
def reset (slot : Slot) : Slot := { slot with actualLength := 0, cancelRequested := false }

/-- Hands a slot to the device. -/
def submit (slot : Slot) (state : σ) : (Except Refusal Unit × Slot) × σ :=
  if slot.isSubmitted then ((.error (.inFlight slot.id), slot), state)
  else
    match rig.submit slot.reset state with
    | (.ok (), state) => ((.ok (), { slot.reset with state := .submitted }), state)
    | (.error cause, state) =>
        ((.error (.rejected { slot := slot.id, cause }), { slot.reset with state := .failed }),
          state)

/-- Asks for the transfer of a slot to be given up, if it is in flight and nobody has asked yet.
A refusal usually means that the transfer has already finished, so it is only noted. -/
def cancel (slot : Slot) (state : σ) : Slot × σ :=
  if slot.isSubmitted && !slot.cancelRequested then
    let slot := { slot with cancelRequested := true }
    match rig.cancel slot state with
    | (.ok (), state) => (slot, state)
    | (.error error, state) => (slot, rig.note (.cancelFailed slot.id error) state)
  else (slot, state)

end Slot

end UsbThroughput
