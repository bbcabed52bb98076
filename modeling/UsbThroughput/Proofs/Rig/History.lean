import Mathlib.Control.Monad.Basic
import Mathlib.Data.List.Infix
import UsbThroughput.Proofs.Journal
import UsbThroughput.Rig.Event

/-!
# What a history says about submissions and completions

For each slot, a history of a rig tells how many of its submissions were taken
(`RigEvent.accepted`) and which completions were handed over for it (`RigEvent.delivered`). A
device is faithful in a history if it never has handed over more completions of a slot than it
has taken submissions of it (`RigEvent.Faithful`).
-/

namespace UsbThroughput

deriving instance DecidableEq for Polled, RigEvent

/-- How many of some completions are those of a slot. -/
def Completion.countFor (completions : List Completion) (id : Nat) : Nat :=
  completions.countP fun completion => completion.slot == id

@[simp] theorem Completion.countFor_nil (id : Nat) : countFor [] id = 0 := rfl

@[simp] theorem Completion.countFor_append (first second : List Completion) (id : Nat) :
    countFor (first ++ second) id = countFor first id + countFor second id :=
  List.countP_append

@[simp] theorem Completion.countFor_cons (completion : Completion) (rest : List Completion)
    (id : Nat) :
    countFor (completion :: rest) id =
      countFor rest id + if completion.slot = id then 1 else 0 := by
  unfold countFor
  rw [List.countP_cons]
  simp only [beq_iff_eq]

/-- A slot has at least the completion that names it. -/
theorem Completion.countFor_pos {completions : List Completion} {completion : Completion}
    (member : completion ∈ completions) : 0 < countFor completions completion.slot :=
  List.countP_pos_iff.mpr ⟨completion, member, beq_self_eq_true _⟩

/-- The completions of a slot, counted among the slots they name. -/
theorem Completion.countFor_eq_count (completions : List Completion) (id : Nat) :
    countFor completions id = (completions.map Completion.slot).count id := by
  rw [List.count, List.countP_map]
  rfl

namespace RigEvent

/-- Whether an event is a submission of a slot that the device took. -/
def accepts (id : Nat) : RigEvent → Bool
  | submitted slot (.ok _) => slot.id == id
  | _ => false

/-- The completions that an event handed over. -/
def handedOver : RigEvent → List Completion
  | polled _ answer => answer.delivered
  | _ => []

/-- How many submissions of a slot the device took. -/
def accepted (history : List RigEvent) (id : Nat) : Nat := history.countP (accepts id)

/-- The completions that the device handed over, in order. -/
def delivered (history : List RigEvent) : List Completion := history.flatMap handedOver

/-- The device hands over at most one completion for each submission that it took, only after
that submission, and no other completion: at every moment of the history, at most as many
completions of a slot as submissions of it. -/
def Faithful (history : List RigEvent) : Prop :=
  ∀ earlier, earlier <+: history →
    ∀ id, Completion.countFor (delivered earlier) id ≤ accepted earlier id

@[simp] theorem accepted_append (first second : List RigEvent) (id : Nat) :
    accepted (first ++ second) id = accepted first id + accepted second id :=
  List.countP_append

@[simp] theorem delivered_append (first second : List RigEvent) :
    delivered (first ++ second) = delivered first ++ delivered second :=
  List.flatMap_append

@[simp] theorem accepted_singleton (event : RigEvent) (id : Nat) :
    accepted [event] id = if accepts id event then 1 else 0 :=
  List.countP_singleton

@[simp] theorem delivered_singleton (event : RigEvent) : delivered [event] = event.handedOver :=
  List.flatMap_singleton _ _

/-- Whether an event is neither a submission, nor a wait for completions, nor a cleared halt. -/
def isQuiet : RigEvent → Bool
  | submitted _ _ | polled _ _ | haltCleared _ _ => false
  | _ => true

theorem handedOver_of_isQuiet {event : RigEvent} (quiet : event.isQuiet = true) :
    event.handedOver = [] := by
  cases event <;> first | rfl | contradiction

theorem accepts_of_isQuiet {event : RigEvent} (quiet : event.isQuiet = true) (id : Nat) :
    event.accepts id = false := by
  cases event <;> first | rfl | contradiction

/-- No submission was accepted in a quiet history. -/
theorem accepted_of_isQuiet {history : List RigEvent}
    (quiet : ∀ event ∈ history, event.isQuiet = true) (id : Nat) : accepted history id = 0 := by
  apply List.countP_eq_zero.mpr
  intro event member
  rw [accepts_of_isQuiet (quiet event member)]
  exact Bool.false_ne_true

/-- Nothing was handed over in a quiet history. -/
theorem delivered_of_isQuiet {history : List RigEvent}
    (quiet : ∀ event ∈ history, event.isQuiet = true) : delivered history = [] :=
  List.flatMap_eq_nil_iff.mpr fun event member => handedOver_of_isQuiet (quiet event member)

/-- Whether an event is a submission. -/
def isSubmission : RigEvent → Bool
  | submitted _ _ => true
  | _ => false

/-- The events of a history that are not quiet. -/
def calls (history : List RigEvent) : List RigEvent := history.filter fun event => !event.isQuiet

@[simp] theorem calls_append (first second : List RigEvent) :
    calls (first ++ second) = calls first ++ calls second :=
  List.filter_append ..

theorem calls_of_isQuiet {history : List RigEvent}
    (quiet : ∀ event ∈ history, event.isQuiet = true) : calls history = [] := by
  apply List.filter_eq_nil_iff.mpr
  intro event member
  rw [quiet event member]
  exact Bool.false_ne_true

/-- A history without calls is quiet. -/
theorem isQuiet_of_calls {history : List RigEvent} (none : calls history = []) :
    ∀ event ∈ history, event.isQuiet = true := by
  intro event member
  have quiet := List.filter_eq_nil_iff.mp none event member
  rw [Bool.not_eq_true, Bool.not_eq_false'] at quiet
  exact quiet

theorem calls_of_isSubmission {history : List RigEvent}
    (submissions : ∀ event ∈ history, event.isSubmission = true) : calls history = history := by
  apply List.filter_eq_self.mpr
  intro event member
  have submission := submissions event member
  cases event with
  | submitted slot result => rfl
  | _ => contradiction

/-- Submissions hand nothing over. -/
theorem delivered_of_isSubmission {history : List RigEvent}
    (submissions : ∀ event ∈ history, event.isSubmission = true) : delivered history = [] := by
  apply List.flatMap_eq_nil_iff.mpr
  intro event member
  have submission := submissions event member
  cases event with
  | submitted slot result => rfl
  | _ => contradiction

/-- Completions are handed over by calls that are not quiet. -/
@[simp] theorem delivered_calls (history : List RigEvent) :
    delivered (calls history) = delivered history := by
  induction history with
  | nil => rfl
  | cons event rest ih =>
      rw [← List.singleton_append, calls_append, delivered_append, delivered_append, ih]
      cases event <;> rfl

/-- What a device is faithful in, it was faithful in before. -/
theorem Faithful.of_isPrefix {earlier history : List RigEvent} (faithful : Faithful history)
    (before : earlier <+: history) : Faithful earlier :=
  fun first among => faithful first (among.trans before)

/-- Faithfulness is looked at event by event. -/
theorem faithful_concat {history : List RigEvent} {event : RigEvent} :
    Faithful (history ++ [event]) ↔ Faithful history ∧ ∀ id,
      Completion.countFor (delivered (history ++ [event])) id ≤
        accepted (history ++ [event]) id := by
  constructor
  · intro faithful
    exact ⟨faithful.of_isPrefix ⟨_, rfl⟩, faithful _ (List.prefix_refl _)⟩
  · rintro ⟨faithful, last⟩ earlier before id
    rcases List.prefix_concat_iff.mp before with rfl | among
    · exact last id
    · exact faithful earlier among id

/-- A faithful device completes no slot more often than it accepted it. -/
theorem Faithful.le {history : List RigEvent} (faithful : Faithful history) (id : Nat) :
    Completion.countFor (delivered history) id ≤ accepted history id :=
  faithful history (List.prefix_refl _) id

/-- Faithfulness need only be looked at for slots of completions. -/
theorem faithful_iff (history : List RigEvent) :
    Faithful history ↔ ∀ earlier ∈ history.inits, ∀ completion ∈ delivered earlier,
      Completion.countFor (delivered earlier) completion.slot ≤
        accepted earlier completion.slot := by
  constructor
  · intro faithful earlier among completion _
    exact faithful earlier ((List.mem_inits _ _).mp among) completion.slot
  · intro bounded earlier before id
    by_cases finished : ∃ completion ∈ delivered earlier, completion.slot = id
    · obtain ⟨completion, member, rfl⟩ := finished
      exact bounded earlier ((List.mem_inits _ _).mpr before) completion member
    · have none : Completion.countFor (delivered earlier) id = 0 := by
        apply List.countP_eq_zero.mpr
        intro completion member same
        exact finished ⟨completion, member, beq_iff_eq.mp same⟩
      rw [none]
      exact Nat.zero_le _

instance (history : List RigEvent) : Decidable (Faithful history) :=
  decidable_of_iff _ (faithful_iff history).symm

end RigEvent

/-! ## What each call writes down -/

namespace Rig

variable {σ : Type} (rig : Rig σ) (journal : Journal RigEvent σ)

theorem history_submit (slot : Slot) :
    (rig.journaled.submit slot journal).2.history =
      journal.history ++ [.submitted slot (rig.journaled.submit slot journal).1] :=
  Journal.history_record ..

theorem history_cancel (slot : Slot) :
    (rig.journaled.cancel slot journal).2.history =
      journal.history ++ [.cancelled slot (rig.journaled.cancel slot journal).1] :=
  Journal.history_record ..

theorem history_poll (timeout : Duration) :
    (rig.journaled.poll timeout journal).2.history =
      journal.history ++ [.polled timeout (rig.journaled.poll timeout journal).1] :=
  Journal.history_record ..

theorem history_write (endpoint : UInt8) (data : List UInt8) (timeout : Duration) :
    (rig.journaled.write endpoint data timeout journal).2.history =
      journal.history ++
        [.wrote endpoint data timeout (rig.journaled.write endpoint data timeout journal).1] :=
  Journal.history_record ..

theorem history_clearHalt (endpoint : UInt8) :
    (rig.journaled.clearHalt endpoint journal).2.history =
      journal.history ++ [.haltCleared endpoint (rig.journaled.clearHalt endpoint journal).1] :=
  Journal.history_record ..

theorem history_disconnect :
    (rig.journaled.disconnect journal).history = journal.history ++ [.disconnected] :=
  Journal.history_recordChange ..

theorem history_note (notice : Notice) :
    (rig.journaled.note notice journal).history = journal.history ++ [.noted notice] :=
  Journal.history_recordChange ..

end Rig

end UsbThroughput
