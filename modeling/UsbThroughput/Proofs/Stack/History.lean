import Mathlib.Data.List.Infix
import UsbThroughput.Proofs.Journal
import UsbThroughput.Stack.Event

/-!
# What a history says about transfers of a stack

For each transfer, a history of a stack tells how many of its submissions were accepted
(`StackEvent.accepted`) and how often its callback ran (`StackEvent.called`). A host is faithful if
it runs the callback at most once for each accepted submission and never otherwise. A stack is used
rightly if transfers are submitted and freed only with nothing outstanding, and are freed at most
once after they were allocated (`StackEvent.Rightful`).
-/

namespace UsbThroughput

namespace StackEvent

/-- Whether an event is a submission of a transfer that the stack accepted. -/
def accepts (number : Nat) : StackEvent → Bool
  | submitted request code => request.transfer == number && UsbResult.ofCode code = .ok ()
  | _ => false

/-- The callbacks that ran in an event. -/
def callbacks : StackEvent → List Callback
  | handled _ answer => answer.callbacks
  | _ => []

/-- The transfer that an event allocates. -/
def allocation? : StackEvent → Option Nat
  | allocated transfer true => some transfer
  | _ => none

/-- Whether an event frees a transfer. -/
def frees (number : Nat) : StackEvent → Bool
  | freed transfer => transfer == number
  | _ => false

/-- How many submissions of a transfer the stack accepted. -/
def accepted (history : List StackEvent) (number : Nat) : Nat := history.countP (accepts number)

/-- How often the callback of a transfer ran. -/
def called (history : List StackEvent) (number : Nat) : Nat :=
  (history.flatMap callbacks).countP fun callback => callback.transfer == number

/-- Whether a transfer was allocated. -/
def Allocated (history : List StackEvent) (number : Nat) : Prop :=
  ∃ event ∈ history, event.allocation? = some number

/-- How often a transfer was freed. -/
def freedCount (history : List StackEvent) (number : Nat) : Nat := history.countP (frees number)

/-- The host runs the callback of a transfer at most once for each accepted submission, only after
that submission, and never otherwise. Nothing is said of transfers that were not allocated in the
history: the callbacks of those that an earlier run left behind may still be late. -/
def Faithful (history : List StackEvent) : Prop :=
  ∀ earlier, earlier <+: history → ∀ number, Allocated history number →
    called earlier number ≤ accepted earlier number

/-- A transfer is submitted and freed only with nothing outstanding. It is freed at most once, and
only after it was allocated. -/
def Rightful (before : List StackEvent) : StackEvent → Prop
  | submitted request _ =>
      accepted before request.transfer = called before request.transfer
  | freed number =>
      Allocated before number ∧ freedCount before number = 0 ∧
        accepted before number = called before number
  | _ => True

@[simp] theorem accepted_append (first second : List StackEvent) (number : Nat) :
    accepted (first ++ second) number = accepted first number + accepted second number :=
  List.countP_append

@[simp] theorem called_append (first second : List StackEvent) (number : Nat) :
    called (first ++ second) number = called first number + called second number := by
  rw [called, List.flatMap_append, List.countP_append]
  rfl

@[simp] theorem freedCount_append (first second : List StackEvent) (number : Nat) :
    freedCount (first ++ second) number = freedCount first number + freedCount second number :=
  List.countP_append

@[simp] theorem allocated_append (first second : List StackEvent) (number : Nat) :
    Allocated (first ++ second) number ↔ Allocated first number ∨ Allocated second number := by
  simp only [Allocated, List.mem_append, or_and_right, exists_or]

@[simp] theorem allocated_singleton (event : StackEvent) (number : Nat) :
    Allocated [event] number ↔ event.allocation? = some number := by
  simp only [Allocated, List.mem_singleton, exists_eq_left]

/-- A transfer that was allocated earlier is allocated. -/
theorem Allocated.of_isPrefix {earlier history : List StackEvent} {number : Nat}
    (allocated : Allocated earlier number) (before : earlier <+: history) :
    Allocated history number := by
  obtain ⟨event, member, same⟩ := allocated
  exact ⟨event, before.subset member, same⟩

/-- A faithful library was faithful earlier. -/
theorem Faithful.of_isPrefix {earlier history : List StackEvent} (faithful : Faithful history)
    (before : earlier <+: history) : Faithful earlier := by
  intro first among number allocated
  exact faithful first (among.trans before) number (allocated.of_isPrefix before)

/-- A faithful library calls back no transfer more often than it accepted it. -/
theorem Faithful.le {history : List StackEvent} (faithful : Faithful history) {number : Nat}
    (allocated : Allocated history number) : called history number ≤ accepted history number :=
  faithful history (List.prefix_refl _) number allocated

/-- Faithfulness need only be looked at for transfers that were allocated. -/
theorem faithful_iff (history : List StackEvent) :
    Faithful history ↔ ∀ earlier ∈ history.inits, ∀ event ∈ history,
      ∀ number ∈ event.allocation?, called earlier number ≤ accepted earlier number := by
  constructor
  · intro faithful earlier among event member number allocated
    exact faithful earlier ((List.mem_inits _ _).mp among) number ⟨event, member, allocated⟩
  · rintro bounded earlier before number ⟨event, member, allocated⟩
    exact bounded earlier ((List.mem_inits _ _).mpr before) event member number allocated

instance (history : List StackEvent) : Decidable (Faithful history) :=
  decidable_of_iff _ (faithful_iff history).symm

/-- Whether an event concerns no transfer, as far as its allocation, submissions, callbacks and
release go. -/
def isQuiet : StackEvent → Bool
  | allocated _ success => !success
  | submitted _ _ | handled _ _ | freed _ => false
  | _ => true

/-- Quiet events change no account. -/
theorem quiet_counts {events : List StackEvent} (quiet : ∀ event ∈ events, event.isQuiet = true)
    (number : Nat) :
    accepted events number = 0 ∧ called events number = 0 ∧ freedCount events number = 0 ∧
      ¬Allocated events number := by
  refine ⟨?_, ?_, ?_, ?_⟩
  · apply List.countP_eq_zero.mpr
    intro event member
    have still := quiet event member
    cases event <;> first | contradiction | exact Bool.false_ne_true
  · have none : events.flatMap callbacks = [] := by
      apply List.flatMap_eq_nil_iff.mpr
      intro event member
      have still := quiet event member
      cases event <;> first | contradiction | rfl
    rw [called, none]
    rfl
  · apply List.countP_eq_zero.mpr
    intro event member
    have still := quiet event member
    cases event <;> first | contradiction | exact Bool.false_ne_true
  · rintro ⟨event, member, same⟩
    have still := quiet event member
    cases event with
    | allocated transfer success => cases success <;> contradiction
    | _ => contradiction

theorem rightful_of_isQuiet {event : StackEvent} (quiet : event.isQuiet = true)
    (before : List StackEvent) : Rightful before event := by
  cases event <;> first | contradiction | trivial

end StackEvent

/-! ## What each call writes down -/

namespace Stack

variable {β : Type} (stack : Stack β) (journal : Journal StackEvent β)

theorem history_start :
    (stack.journaled.start journal).2.history =
      journal.history ++ [.started (stack.journaled.start journal).1] :=
  Journal.history_record ..

theorem history_openDevice (vendor product : UInt16) :
    (stack.journaled.openDevice vendor product journal).2.history =
      journal.history ++
        [.opened vendor product (stack.journaled.openDevice vendor product journal).1] :=
  Journal.history_record ..

theorem history_claim (interface : UInt8) :
    (stack.journaled.claim interface journal).2.history =
      journal.history ++ [.claimed interface (stack.journaled.claim interface journal).1] :=
  Journal.history_record ..

theorem history_release (interface : UInt8) :
    (stack.journaled.release interface journal).2.history =
      journal.history ++ [.released interface (stack.journaled.release interface journal).1] :=
  Journal.history_record ..

theorem history_allocate (number : Nat) :
    (stack.journaled.allocate number journal).2.history =
      journal.history ++ [.allocated number (stack.journaled.allocate number journal).1] :=
  Journal.history_record ..

theorem history_submit (request : Request) :
    (stack.journaled.submit request journal).2.history =
      journal.history ++ [.submitted request (stack.journaled.submit request journal).1] :=
  Journal.history_record ..

theorem history_cancel (number : Nat) :
    (stack.journaled.cancel number journal).2.history =
      journal.history ++ [.cancelled number (stack.journaled.cancel number journal).1] :=
  Journal.history_record ..

theorem history_handleEvents (call : EventCall) :
    (stack.journaled.handleEvents call journal).2.history =
      journal.history ++ [.handled call (stack.journaled.handleEvents call journal).1] :=
  Journal.history_record ..

theorem history_write (endpoint : UInt8) (data : List UInt8) (timeout : Nat) :
    (stack.journaled.write endpoint data timeout journal).2.history =
      journal.history ++
        [.wrote endpoint data timeout (stack.journaled.write endpoint data timeout journal).1] :=
  Journal.history_record ..

theorem history_clearHalt (endpoint : UInt8) :
    (stack.journaled.clearHalt endpoint journal).2.history =
      journal.history ++ [.haltCleared endpoint (stack.journaled.clearHalt endpoint journal).1] :=
  Journal.history_record ..

theorem history_free (number : Nat) :
    (stack.journaled.free number journal).history = journal.history ++ [.freed number] :=
  Journal.history_recordChange ..

theorem history_close :
    (stack.journaled.close journal).history = journal.history ++ [.closed] :=
  Journal.history_recordChange ..

theorem history_exit :
    (stack.journaled.exit journal).history = journal.history ++ [.exited] :=
  Journal.history_recordChange ..

theorem history_sleep (span : Duration) :
    (stack.journaled.sleep span journal).history = journal.history ++ [.slept span] :=
  Journal.history_recordChange ..

theorem history_note (notice : Notice) :
    (stack.journaled.note notice journal).history = journal.history ++ [.noted notice] :=
  Journal.history_recordChange ..

end Stack

end UsbThroughput
