import UsbThroughput.Proofs.Run.Boundary
import UsbThroughput.Proofs.Run.Bounds
import UsbThroughput.Proofs.Slot.Acts

/-!
# Slots under any treatment

Whatever is done to a slot, it shows as much of its buffer as its last completion told
(`Slot.Shows`), and it remembers whether the device was asked to give it up (`Slot.Remembers`). The
main theorem is `Slot.representation_kept`.
-/

namespace UsbThroughput.Slot

open RigEvent

/-! ## The buffer -/

/-- A slot that was made with a buffer of some length shows what was told of its last transfer. -/
structure Shows (length : Nat) (acts : List Act) (slot : Slot) : Prop where
  length_eq : slot.length = if .abandon ∈ acts then 0 else length
  actualLength_eq : slot.actualLength = min ((told acts).getD 0) slot.length
  untold : slot.isSubmitted = true → told acts = none

private theorem shows_make (slot : Slot) : Shows slot.length [] slot.make where
  length_eq := rfl
  actualLength_eq := (Nat.zero_min _).symm
  untold := fun _ => rfl

namespace Turn

variable {slot next : Slot} {act : Act} {calls : List RigEvent} {length : Nat} {acts : List Act}

/-- Only a slot that is given up loses its buffer. -/
theorem length_eq (turn : slot.Turn act calls next) :
    next.length = if act = .abandon then 0 else slot.length := by
  cases turn with
  | abandoned => rfl
  | filled data => exact slot.buffer.size_fill data
  | _ => rfl

/-- The length that shows is the one told last, no more than the buffer. -/
theorem actualLength_eq (turn : slot.Turn act calls next) (before : Shows length acts slot) :
    next.actualLength = min ((told (acts ++ [act])).getD 0) next.length := by
  rw [turn.length_eq, told_concat]
  cases turn with
  | barred flying =>
      -- Nothing was told since the slot got into flight, so there is nothing to forget.
      rw [before.actualLength_eq, before.untold flying]
      rfl
  | taken => exact (Nat.zero_min _).symm
  | declined => exact (Nat.zero_min _).symm
  | abandoned => rfl
  | completed status length => rfl
  | _ => exact before.actualLength_eq

/-- Of a slot in flight no length is told. -/
theorem untold (turn : slot.Turn act calls next) (before : Shows length acts slot)
    (flying : next.isSubmitted = true) : told (acts ++ [act]) = none := by
  rw [told_concat]
  cases turn with
  | completed status length =>
      rw [isSubmitted_complete] at flying
      contradiction
  | setAside => contradiction
  | spared => exact before.untold flying
  | asked => exact before.untold flying
  | filled data => exact before.untold flying
  | _ => rfl

/-- **Every act keeps what a slot shows.** -/
theorem shows (turn : slot.Turn act calls next) (before : Shows length acts slot) :
    Shows length (acts ++ [act]) next where
  length_eq := by
    rw [turn.length_eq, before.length_eq]
    by_cases last : act = .abandon
    · have among : .abandon ∈ acts ++ [act] :=
        List.mem_append_right acts (List.mem_singleton.mpr last.symm)
      rw [if_pos last, if_pos among]
    · have same : .abandon ∈ acts ++ [act] ↔ .abandon ∈ acts := by simp [Ne.symm last]
      rw [if_neg last]
      exact (if_congr same rfl rfl).symm
  actualLength_eq := turn.actualLength_eq before
  untold := turn.untold before

end Turn

namespace Shows

variable {slot : Slot} {length : Nat} {acts : List Act}

/-- The buffer contains what shows. -/
theorem contained (shows : Shows length acts slot) : slot.Contained := by
  rw [Contained, shows.actualLength_eq]
  exact Nat.min_le_right _ _

/-- A slot out of flight shows as many bytes as were told, no more than its buffer. -/
theorem length_actual (shows : Shows length acts slot) (free : slot.isSubmitted = false) :
    slot.actual.length = min ((told acts).getD 0) slot.length := by
  rw [Slot.length_actual, moved, free, if_neg Bool.false_ne_true, ← shows.actualLength_eq]
  exact Nat.min_eq_left shows.contained

end Shows

/-! ## The device -/

/-- A slot that remembers whether the device was asked to give it up, in view of the calls on the
device so far. -/
structure Remembers (id : Nat) (calls : List RigEvent) (slot : Slot) : Prop where
  named : slot.id = id
  own : ∀ call ∈ calls, call.isCancellation = true → call.recalls id = true
  asked_eq : asked calls id = if slot.cancelRequested then 1 else 0
  orderly : Journal.Throughout AtBoundary calls

namespace Remembers

variable {slot next : Slot} {id : Nat} {act : Act} {calls made : List RigEvent}

/-- A new slot has nothing to remember. -/
theorem of_make (slot : Slot) : Remembers slot.id [] slot.make :=
  ⟨rfl, List.forall_mem_nil _, rfl, Journal.throughout_nil⟩

/-- An act without a call that leaves the mark alone. -/
theorem silent (remembers : Remembers id calls slot) (named : next.id = slot.id)
    (mark : next.cancelRequested = slot.cancelRequested) : Remembers id (calls ++ []) next := by
  rw [List.append_nil]
  exact ⟨named.trans remembers.named, remembers.own, mark ▸ remembers.asked_eq, remembers.orderly⟩

/-- A submission clears the mark, so that one cancellation may follow. -/
theorem submit (remembers : Remembers id calls slot) (free : slot.isSubmitted = false)
    (result : UsbResult Unit) (named : next.id = slot.id) (mark : next.cancelRequested = false) :
    Remembers id (calls ++ [.submitted slot.reset result]) next where
  named := named.trans remembers.named
  own := List.forall_mem_append.mpr ⟨remembers.own, List.forall_mem_singleton.mpr nofun⟩
  asked_eq := by
    have this : (RigEvent.submitted slot.reset result).submits id = true :=
      beq_iff_eq.mpr remembers.named
    rw [asked_concat, if_pos this, mark]
    rfl
  orderly := Journal.throughout_concat.mpr ⟨remembers.orderly, free, rfl, rfl⟩

/-- A cancellation leaves its mark, so that it is the only one until the next submission. -/
theorem cancel (remembers : Remembers id calls slot) (cancellable : slot.isCancellable = true)
    (result : UsbResult Unit) :
    Remembers id (calls ++ [.cancelled slot.requestCancel result]) slot.requestCancel := by
  obtain ⟨flying, unasked⟩ : slot.isSubmitted = true ∧ slot.cancelRequested = false := by
    simpa [isCancellable] using cancellable
  have never : asked calls id = 0 := by
    rw [remembers.asked_eq, unasked, if_neg Bool.false_ne_true]
  have this : (RigEvent.cancelled slot.requestCancel result).recalls id = true :=
    beq_iff_eq.mpr remembers.named
  refine ⟨remembers.named, ?_, ?_, ?_⟩
  · exact List.forall_mem_append.mpr
      ⟨remembers.own, List.forall_mem_singleton.mpr fun _ => this⟩
  · have other : (RigEvent.cancelled slot.requestCancel result).submits id = false := rfl
    rw [asked_concat, other, if_neg Bool.false_ne_true, never, if_pos this]
    rfl
  · refine Journal.throughout_concat.mpr ⟨remembers.orderly, flying, rfl, ?_⟩
    rw [id_requestCancel, remembers.named, never]

/-- **Every act keeps what a slot remembers.** -/
theorem turn (remembers : Remembers id calls slot) (turn : slot.Turn act made next) :
    Remembers id (calls ++ made) next := by
  cases turn with
  | taken free => exact remembers.submit free (.ok ()) rfl rfl
  | declined free cause => exact remembers.submit free (.error cause) rfl rfl
  | asked cancellable result => exact remembers.cancel cancellable result
  | _ => exact remembers.silent rfl rfl

/-- The device is asked at most once without a submission in between. -/
theorem countP_le_one (remembers : Remembers id calls slot) {before stretch later : List RigEvent}
    (split : calls = before ++ stretch ++ later)
    (unsubmitted : ∀ call ∈ stretch, call.isSubmission = false) :
    stretch.countP isCancellation ≤ 1 := by
  have own : ∀ call ∈ stretch, call.isCancellation = true → call.recalls id = true :=
    fun call member => remembers.own call <| by
      rw [split]
      exact List.mem_append_left _ (List.mem_append_right _ member)
  have spared : ∀ call ∈ stretch, call.submits id = false := by
    intro call member
    have other := unsubmitted call member
    cases call <;> first | rfl | contradiction
  calc stretch.countP isCancellation
      ≤ stretch.countP (RigEvent.recalls id) := List.countP_mono_left own
    _ ≤ asked (before ++ stretch) id := countP_recalls_le_asked spared
    _ ≤ 1 := asked_le_one (remembers.orderly.of_isPrefix ⟨later, split.symm⟩) id

end Remembers

/-! ## Any number of acts -/

variable {σ : Type} (rig : Rig σ)

/-- What a slot shows and remembers is right whatever was done to it. -/
theorem kept_handle (slot : Slot) (state : σ) (acts : List Act) :
    Shows slot.length acts (handle rig.journaled acts (slot.make, { state })).1 ∧
      Remembers slot.id
        (deviceCalls (handle rig.journaled acts (slot.make, { state })).2.history)
        (handle rig.journaled acts (slot.make, { state })).1 := by
  induction acts using List.reverseRecOn with
  | nil => exact ⟨slot.shows_make, .of_make slot⟩
  | append_singleton acts act ih =>
      obtain ⟨calls, performs, turn⟩ :=
        turn_perform rig act (handle rig.journaled acts (slot.make, { state }))
      rw [handle_concat, performs.deviceCalls_eq]
      exact ⟨turn.shows ih.1, ih.2.turn turn⟩

/-- A submission is not allowed just if the slot is in flight. -/
theorem submit_eq_inFlight_iff (slot : Slot) (state : σ) :
    (∃ id, (slot.submit rig state).1.1 = .error (.inFlight id)) ↔ slot.isSubmitted = true := by
  rcases slot.submit_cases rig state with
    ⟨flying, same⟩ | ⟨free, _, same⟩ | ⟨free, _, _, same⟩
  · rw [same]
    exact iff_of_true ⟨_, rfl⟩ flying
  · rw [same]
    exact iff_of_false nofun (ne_true_of_eq_false free)
  · rw [same]
    exact iff_of_false nofun (ne_true_of_eq_false free)

/-- A submission that is not allowed changes nothing, and neither does the device hear of it. -/
theorem perform_submit_of_isSubmitted {held : Slot × σ} (flying : held.1.isSubmitted = true) :
    Act.submit.perform rig held = held := by
  unfold Act.perform
  dsimp only
  rw [submit_of_isSubmitted rig flying]

/-- A cancellation leaves a slot where it is in its life. -/
theorem state_perform_cancel (held : Slot × Journal RigEvent σ) :
    (Act.cancel.perform rig.journaled held).1.state = held.1.state := by
  obtain ⟨_, _, turn⟩ := turn_perform rig .cancel held
  generalize (Act.cancel.perform rig.journaled held).1 = next at turn
  cases turn with
  | spared => rfl
  | asked => rfl

/-- **A slot stays in order, whatever is done to it.** Let a slot that was just made be submitted,
cancelled, completed, set aside and given up in any order, whatever the device answers, writes to
the buffer and tells of its transfers. Then it never shows more than its buffer holds: nothing in
flight, and otherwise as much as the last completion told, if there was one since it was last
submitted or given up. Its length is that of its making until it is given up. It gets into flight
only when the device takes it, and stays there until it is completed, set aside or given up. To
submit it is not allowed just while it is in flight, and then nothing happens. To cancel it does not
change where it is in its life, and the device is asked at most once between two submissions. -/
theorem representation_kept (slot : Slot) (state : σ) (acts : List Act) :
    let after := fun acts => handle rig.journaled acts (slot.make, { state })
    let last := (after acts).1
    let journal := (after acts).2
    (last.Contained ∧ (last.isSubmitted = true → last.actual = []) ∧
      (last.isSubmitted = false →
        last.actual.length = min ((told acts).getD 0) last.length)) ∧
    last.length = (if .abandon ∈ acts then 0 else slot.length) ∧
    (∀ act, ∃ calls, journal.Performs calls (after (acts ++ [act])).2 ∧
      (last.isSubmitted = false →
        ((after (acts ++ [act])).1.isSubmitted = true ↔
          act = .submit ∧ calls = [.taking last])) ∧
      (last.isSubmitted = true →
        ((after (acts ++ [act])).1.isSubmitted = false ↔ act.lands = true))) ∧
    (((∃ id, (last.submit rig.journaled journal).1.1 = .error (.inFlight id)) ↔
        last.isSubmitted = true) ∧
      (last.isSubmitted = true → after (acts ++ [.submit]) = after acts)) ∧
    (after (acts ++ [.cancel])).1.state = last.state ∧
    ∀ before stretch later, deviceCalls journal.history = before ++ stretch ++ later →
      (∀ call ∈ stretch, call.isSubmission = false) → stretch.countP isCancellation ≤ 1 := by
  intro after last journal
  obtain ⟨shows, remembers⟩ := kept_handle rig slot state acts
  have next (act : Act) : after (acts ++ [act]) = act.perform rig.journaled (after acts) :=
    handle_concat ..
  refine ⟨⟨shows.contained, fun flying => if_pos flying, shows.length_actual⟩, shows.length_eq,
    fun act => ?_, ⟨submit_eq_inFlight_iff rig.journaled last journal, fun flying => ?_⟩, ?_,
    fun before stretch later => remembers.countP_le_one⟩
  · obtain ⟨calls, performs, turn⟩ := turn_perform rig act (after acts)
    rw [next]
    exact ⟨calls, performs, turn.isSubmitted_iff, turn.lands_iff⟩
  · rw [next]
    exact perform_submit_of_isSubmitted rig.journaled flying
  · rw [next]
    exact state_perform_cancel rig (after acts)

/-- A device that takes a slot once and does not give it up. -/
def grudging : ScriptedDevice where
  host :=
    { script := { submit := [none, some (.error .notFound)], cancel := [some (.error .other)] } }

/-- A slot is submitted and cancelled twice, completed with too long a transfer, submitted again in
vain, and completed although it is not in flight. -/
def mishandling : List Act :=
  [.submit, .submit, .cancel, .cancel, .complete .completed 9, .submit, .complete .stall 3]

/-- In the end the slot shows what the stray completion told. The device was asked once to give it
up, between the two submissions that it has seen. -/
theorem representation_kept_mishandled :
    let after := fun acts =>
      handle ScriptedDevice.rig.journaled acts ((inbound 0 1 8 (.ofSeconds 1)).make,
        { state := grudging })
    let last := after mishandling
    (last.1.isSubmitted = false ∧ told mishandling = some 3 ∧ last.1.actual.length = 3) ∧
      ((after (mishandling.take 1)).1.isSubmitted = true ∧
        after (mishandling.take 2) = after (mishandling.take 1)) ∧
      ((after (mishandling.take 5)).1.actual.length = 8 ∧
        (after (mishandling ++ [.abandon])).1.length = 0) ∧
      (deviceCalls last.2.history).map submittedId? = [some 0, none, some 0] ∧
      (((deviceCalls last.2.history).drop 1).take 1).countP isCancellation ≤ 1 := by
  intro after last
  have kept := representation_kept ScriptedDevice.rig (inbound 0 1 8 (.ofSeconds 1)) grudging
  have free : last.1.isSubmitted = false := by decide +kernel
  have flying : (after (mishandling.take 1)).1.isSubmitted = true := by decide +kernel
  obtain ⟨⟨_, _, shown⟩, _, _, _, _, once⟩ := kept mishandling
  obtain ⟨_, _, _, ⟨_, barred⟩, _⟩ := kept (mishandling.take 1)
  obtain ⟨⟨_, _, whole⟩, _⟩ := kept (mishandling.take 5)
  obtain ⟨_, gone, _⟩ := kept (mishandling ++ [.abandon])
  refine ⟨⟨free, by decide, shown free⟩, ⟨flying, barred flying⟩,
    ⟨whole (by decide +kernel), gone⟩, by decide +kernel, ?_⟩
  exact once ((deviceCalls last.2.history).take 1) _ ((deviceCalls last.2.history).drop 2)
    (by decide +kernel) (by decide +kernel)

end UsbThroughput.Slot
