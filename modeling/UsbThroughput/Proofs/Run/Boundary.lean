import UsbThroughput.Proofs.Run.Advance
import UsbThroughput.Proofs.Run.Frame

/-!
# Slots as the device gets to see them

A slot is handed to the device with nothing left over from its last transfer, and it is asked to be
given up while it is in flight, once at most for each submission (`RigEvent.AtBoundary`). What
makes this so is that a slot remembers whether the device was asked since its last submission
(`Queue.Remembers`). Every elementary change keeps both (`Run.Boundary`), whatever the device
answers and whatever completions it makes up.
-/

namespace UsbThroughput

namespace RigEvent

/-- Whether an event is a submission of a slot. -/
def submits (id : Nat) : RigEvent → Bool
  | submitted slot _ => slot.id == id
  | _ => false

/-- Whether an event asks the device to give up a slot. -/
def recalls (id : Nat) : RigEvent → Bool
  | cancelled slot _ => slot.id == id
  | _ => false

/-- How often the device was asked to give up a slot since it was last submitted. -/
def asked (history : List RigEvent) (id : Nat) : Nat :=
  (history.reverse.takeWhile fun event => !event.submits id).countP (recalls id)

/-- How often a slot was asked for starts again with each submission. -/
theorem asked_concat (history : List RigEvent) (event : RigEvent) (id : Nat) :
    asked (history ++ [event]) id =
      if event.submits id then 0 else asked history id + if event.recalls id then 1 else 0 := by
  cases submission : event.submits id <;>
    simp [asked, submission, List.countP_cons]

/-- Whether an event neither submits slots nor asks for them. -/
def isApart : RigEvent → Bool
  | submitted _ _ | cancelled _ _ => false
  | _ => true

private theorem asked_concat_of_isApart {event : RigEvent} (apart : event.isApart = true)
    (history : List RigEvent) (id : Nat) : asked (history ++ [event]) id = asked history id := by
  cases event <;> first | contradiction | simp [asked_concat, submits, recalls]

/-- What the device gets to see of a slot, in view of what happened before: it is submitted while
it is out of flight, with nothing left over, and it is asked to be given up while it is in flight,
with the mark set, and for the first time since its submission. -/
def AtBoundary (before : List RigEvent) : RigEvent → Prop
  | submitted slot _ =>
      slot.isSubmitted = false ∧ slot.cancelRequested = false ∧ slot.actualLength = 0
  | cancelled slot _ =>
      slot.isSubmitted = true ∧ slot.cancelRequested = true ∧ asked before slot.id = 0
  | _ => True

/-- What is apart from all slots is at the boundary. -/
theorem atBoundary_of_isApart {event : RigEvent} (apart : event.isApart = true)
    (before : List RigEvent) : AtBoundary before event := by
  cases event <;> first | contradiction | trivial

/-- Where every event is right at the boundary, a slot is asked for at most once after each
submission. -/
theorem asked_le_one {history : List RigEvent} (orderly : Journal.Throughout AtBoundary history)
    (id : Nat) : asked history id ≤ 1 := by
  induction history using List.reverseRecOn with
  | nil => exact Nat.zero_le 1
  | append_singleton history event ih =>
      obtain ⟨before, last⟩ := Journal.throughout_concat.mp orderly
      have few := ih before
      rw [asked_concat]
      split
      · exact Nat.zero_le 1
      · split
        next recalled =>
          cases event with
          | cancelled slot result =>
              have named : slot.id = id := by simpa [recalls] using recalled
              rw [← named, last.2.2]
          | _ => contradiction
        · exact few

/-- Over a stretch without a submission of a slot, all that is asked for it counts. -/
theorem countP_recalls_le_asked {before stretch : List RigEvent} {id : Nat}
    (unsubmitted : ∀ event ∈ stretch, event.submits id = false) :
    stretch.countP (recalls id) ≤ asked (before ++ stretch) id := by
  induction stretch using List.reverseRecOn with
  | nil => exact Nat.zero_le _
  | append_singleton stretch event ih =>
      obtain ⟨earlier, last⟩ := List.forall_mem_append.mp unsubmitted
      have few := ih earlier
      rw [← List.append_assoc, asked_concat, last event (List.mem_singleton_self event),
        List.countP_append, List.countP_singleton]
      simpa using few

end RigEvent

open RigEvent

/-- Each slot remembers whether the device was asked to give it up since its submission. -/
def Queue.Remembers (queue : Queue) (history : List RigEvent) : Prop :=
  ∀ id slot, queue.slot? id = some slot →
    asked history id = if slot.cancelRequested then 1 else 0

private theorem Queue.remembers_of_isApart {queue : Queue} {history : List RigEvent}
    (remembers : queue.Remembers history) {event : RigEvent} (apart : event.isApart = true) :
    queue.Remembers (history ++ [event]) := by
  intro id slot held
  rw [asked_concat_of_isApart apart]
  exact remembers id slot held

/-- A slot that is exchanged remembers what it has to, if the others are not asked for. -/
theorem Queue.Remembers.replace {queue : Queue} {history later : List RigEvent}
    (remembers : queue.Remembers history) {id : Nat} {slot : Slot}
    (held : queue.slot? id = some slot) (next : Slot)
    (others : ∀ other, other ≠ id → asked later other = asked history other)
    (this : asked later id = if next.cancelRequested then 1 else 0) :
    (queue.replace id next).Remembers later := by
  intro place found there
  by_cases same : place = id
  · subst same
    have put : (queue.replace place next).slot? place = some next :=
      List.getElem?_set_self (List.getElem?_eq_some_iff.mp held).1
    cases put.symm.trans there
    exact this
  · rw [others place same]
    change (queue.slots.set id next)[place]? = some found at there
    rw [List.getElem?_set_ne (Ne.symm same)] at there
    exact remembers place found there

namespace Run

variable {σ : Type} {rig : Rig σ} {scope : Scope} {run last : Run (Journal RigEvent σ)}
  {taken next : List Completion}

/-- A run that has kept to the boundary, with slots that remember what they have to. -/
structure Boundary (run : Run (Journal RigEvent σ)) : Prop where
  numbered : run.queue.Numbered
  remembers : run.queue.Remembers run.rigState.history
  orderly : Journal.Throughout AtBoundary run.rigState.history

/-- An event apart from all slots keeps a run at the boundary. -/
theorem Boundary.of_isApart (boundary : run.Boundary) {event : RigEvent}
    (apart : event.isApart = true)
    (history : last.rigState.history = run.rigState.history ++ [event])
    (queue : last.queue = run.queue) : last.Boundary where
  numbered := queue ▸ boundary.numbered
  remembers := by
    rw [history, queue]
    exact Queue.remembers_of_isApart boundary.remembers apart
  orderly := by
    rw [history, Journal.throughout_concat]
    exact ⟨boundary.orderly, atBoundary_of_isApart apart _⟩

/-- A slot that is exchanged without a call keeps what it remembers. -/
theorem Boundary.putSlot (boundary : run.Boundary) {id : Nat} {slot next : Slot}
    (held : run.queue.slot? id = some slot) (make : next.make = slot.make)
    (mark : next.cancelRequested = slot.cancelRequested) : (run.putSlot id next).Boundary where
  numbered := boundary.numbered.of_makes (makes_putSlot held make)
  remembers := boundary.remembers.replace held next (fun _ _ => rfl)
    (mark ▸ boundary.remembers id slot held)
  orderly := boundary.orderly

/-- A submission starts anew, whether the device takes the slot or not. -/
theorem Boundary.submit (boundary : run.Boundary) {id : Nat} {slot next : Slot}
    (held : run.queue.slot? id = some slot) (free : slot.isSubmitted = false)
    {result : UsbResult Unit} {later : Journal RigEvent σ}
    (written : later.history = run.rigState.history ++ [.submitted slot.reset result])
    (make : next.make = slot.make) (mark : next.cancelRequested = false) :
    ({ run with rigState := later }.putSlot id next).Boundary where
  numbered := boundary.numbered.of_makes (makes_putSlot held make)
  remembers := by
    have named := boundary.numbered id slot held
    change (run.queue.replace id next).Remembers later.history
    rw [written]
    refine boundary.remembers.replace held next (fun other different => ?_) ?_
    · simp [asked_concat, submits, recalls, Slot.reset, named, Ne.symm different]
    · simp [asked_concat, submits, Slot.reset, named, mark]
  orderly := by
    change Journal.Throughout AtBoundary later.history
    rw [written, Journal.throughout_concat]
    exact ⟨boundary.orderly, free, rfl, rfl⟩

/-- A cancellation is the first one since the submission, since the slot remembers none. -/
theorem Boundary.cancel (boundary : run.Boundary) {id : Nat} {slot : Slot}
    (held : run.queue.slot? id = some slot) (flying : slot.isSubmitted = true)
    (unasked : slot.cancelRequested = false) {result : UsbResult Unit}
    {later : Journal RigEvent σ}
    (written : later.history = run.rigState.history ++ [.cancelled slot.requestCancel result]) :
    ({ run with rigState := later }.putSlot id slot.requestCancel).Boundary := by
  have named := boundary.numbered id slot held
  have before : asked run.rigState.history id = 0 := by
    rw [boundary.remembers id slot held, unasked, if_neg Bool.false_ne_true]
  refine ⟨boundary.numbered.of_makes (makes_putSlot held (Slot.make_requestCancel slot)), ?_, ?_⟩
  · change (run.queue.replace id slot.requestCancel).Remembers later.history
    rw [written]
    refine boundary.remembers.replace held _ (fun other different => ?_) ?_
    · simp [asked_concat, submits, recalls, named, Ne.symm different]
    · simp [asked_concat, submits, recalls, named, before, Slot.requestCancel]
  · change Journal.Throughout AtBoundary later.history
    rw [written, Journal.throughout_concat]
    refine ⟨boundary.orderly, flying, rfl, ?_⟩
    rw [Slot.id_requestCancel, named, before]

/-- **Every elementary change keeps to the boundary.** -/
theorem Move.boundary (move : Move rig.journaled scope run next last) (boundary : run.Boundary) :
    last.Boundary := by
  cases move with
  | note notice => exact boundary.of_isApart rfl (rig.history_note run.rigState notice) rfl
  | now => exact ⟨boundary.numbered, boundary.remembers, boundary.orderly⟩
  | write endpoint data timeout =>
      exact boundary.of_isApart rfl (rig.history_write run.rigState endpoint data timeout) rfl
  | clearHalt endpoint empty loud =>
      exact boundary.of_isApart rfl (rig.history_clearHalt run.rigState endpoint) rfl
  | poll timeout loud =>
      exact boundary.of_isApart rfl (rig.history_poll run.rigState timeout) rfl
  | take completion rest waiting =>
      have kept : Boundary { run with arrivals := rest } :=
        ⟨boundary.numbered, boundary.remembers, boundary.orderly⟩
      rcases receive_cases { run with arrivals := rest } completion with
        ⟨_, same⟩ | ⟨slot, held, same⟩
      · rw [same]
        exact kept
      · rw [same]
        exact kept.putSlot held (slot.make_complete _ _) rfl
  | submit id slot held free loud =>
      have written := rig.history_submit run.rigState slot.reset
      rcases slot.submit_cases rig.journaled run.rigState with
        ⟨flying, _⟩ | ⟨_, _, same⟩ | ⟨_, _, _, same⟩
      · rw [free] at flying
        contradiction
      · rw [same]
        exact boundary.submit held free written slot.make_lent rfl
      · rw [same]
        exact boundary.submit held free written slot.make_declined rfl
  | cancel id slot held flying unasked =>
      exact boundary.cancel held flying unasked
        (rig.history_cancel run.rigState slot.requestCancel)
  | setAside id slot held free => exact boundary.putSlot held slot.make_setAside rfl
  | tend => exact ⟨boundary.numbered, boundary.remembers, boundary.orderly⟩

/-- A path keeps a run at the boundary. -/
theorem Path.boundary (path : Path rig.journaled scope run taken last) (boundary : run.Boundary) :
    last.Boundary := by
  induction path with
  | refl => exact boundary
  | step _ move ih => exact move.boundary ih

/-- A run that keeps to the boundary keeps to it wherever it comes to. -/
theorem Reaches.boundary (reached : Reaches rig.journaled run taken last)
    (boundary : run.Boundary) : last.Boundary := by
  cases reached with
  | on path => exact path.boundary boundary
  | stopped path _ _ =>
      exact (path.boundary boundary).of_isApart rfl (rig.history_disconnect _) rfl

end Run

end UsbThroughput
