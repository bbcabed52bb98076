import Mathlib.Data.List.Forall2
import UsbThroughput.Proofs.Rig.Calls
import UsbThroughput.Proofs.Session.Course

/-!
# What callbacks announce

A callback announces the completion of the slot that its transfer was allocated for. No completion
is lost, added or put before another by a session: those that were handed over and those that
still wait are the callbacks that ran, one for one (`Session.Conserves`).
-/

namespace UsbThroughput

namespace StackEvent

/-- The callbacks that ran in a history, in order. -/
def announced (history : List StackEvent) : List Callback := history.flatMap callbacks

@[simp] theorem announced_append (first second : List StackEvent) :
    announced (first ++ second) = announced first ++ announced second :=
  List.flatMap_append

@[simp] theorem announced_singleton (event : StackEvent) : announced [event] = event.callbacks :=
  List.flatMap_singleton _ _

/-- Whether a call lets callbacks run. -/
def isEventCall : StackEvent → Bool
  | handled _ _ => true
  | _ => false

private theorem isEventCall_of_isQuiet {event : StackEvent} (quiet : event.isQuiet = true) :
    event.isEventCall = false := by
  cases event <;> first | rfl | contradiction

/-- Callbacks run only in event calls. -/
theorem announced_of_others {events : List StackEvent}
    (others : ∀ event ∈ events, event.isEventCall = false) : announced events = [] := by
  apply List.flatMap_eq_nil_iff.mpr
  intro event member
  have other := others event member
  cases event <;> first | rfl | contradiction

instance (history : List StackEvent) (number : Nat) : Decidable (Allocated history number) :=
  inferInstanceAs (Decidable (∃ event ∈ history, event.allocation? = some number))

/-- Callbacks run only of transfers that were allocated. -/
def Known (before : List StackEvent) (event : StackEvent) : Prop :=
  ∀ callback ∈ event.callbacks, Allocated before callback.transfer

instance (before : List StackEvent) (event : StackEvent) : Decidable (Known before event) :=
  inferInstanceAs (Decidable (∀ callback ∈ event.callbacks, Allocated before callback.transfer))

end StackEvent

namespace Session

open RigEvent StackEvent

variable {β : Type}

/-! ## What a callback announces -/

/-- The slot that a transfer was allocated for: that of the submission by which it was. -/
def allocatedFor? (journal : Watched β) (number : Nat) : Option Nat :=
  (journal.entries.reverse.find? fun entry =>
    Allocated entry.2.stackState.history number).bind fun entry => entry.1.submittedId?

/-- A completion is the one that a callback announces: that of the slot its transfer was allocated
for, with its status, and its length unless that is negative. -/
structure Announces (journal : Watched β) (callback : Callback) (completion : Completion) :
    Prop where
  slot : allocatedFor? journal callback.transfer = some completion.slot
  status : completion.status = .ofCode callback.status
  length : completion.length = callback.length.toNat

variable {journal later : Watched β} {event : RigEvent}

/-- The slot of a transfer does not change. -/
theorem allocatedFor?_of_entry (entries : later.entries = (event, later.state) :: journal.entries)
    {number slot : Nat} (placed : allocatedFor? journal number = some slot) :
    allocatedFor? later number = some slot := by
  obtain ⟨entry, found, submitted⟩ := Option.bind_eq_some_iff.mp placed
  unfold allocatedFor?
  rw [entries, List.reverse_cons, List.find?_append, found]
  exact submitted

/-- A transfer that was just allocated is for the slot that was submitted. -/
private theorem allocatedFor?_of_fresh {slot : Slot} {result : UsbResult Unit} {number : Nat}
    (entries : later.entries = (.submitted slot result, later.state) :: journal.entries)
    (fresh : ∀ entry ∈ journal.entries, ¬Allocated entry.2.stackState.history number)
    (allocated : Allocated later.state.stackState.history number) :
    allocatedFor? later number = some slot.id := by
  have none : (journal.entries.reverse.find? fun entry =>
      Allocated entry.2.stackState.history number) = none := by
    apply List.find?_eq_none.mpr
    intro entry member
    rw [decide_eq_true_iff]
    exact fresh entry (List.mem_reverse.mp member)
  unfold allocatedFor?
  rw [entries, List.reverse_cons, List.find?_append, none, List.find?_singleton]
  simp [allocated, submittedId?]

/-- What a callback announces stays, whatever is said afterwards. -/
theorem Announces.of_entry (entries : later.entries = (event, later.state) :: journal.entries)
    {callback : Callback} {completion : Completion}
    (announces : Announces journal callback completion) : Announces later callback completion where
  slot := allocatedFor?_of_entry entries announces.slot
  status := announces.status
  length := announces.length

/-- **No completion is lost, added or moved**, with what carries this from one call to the next:
the transfers are those that were allocated, each for its slot. -/
structure Conserves (journal : Watched β) : Prop where
  bindings :
    Bindings journal.state.stackState.history journal.state.transfers journal.state.nextNumber
  entered : ∀ entry ∈ journal.entries,
    entry.2.stackState.history <+: journal.state.stackState.history
  placed : ∀ transfer ∈ journal.state.transfers,
    allocatedFor? journal transfer.number = some transfer.slot
  conserved : List.Forall₂ (Announces journal) (announced journal.state.stackState.history)
    (delivered journal.history ++ journal.state.arrivals)

/-- A session that has just opened its device. -/
theorem Conserves.fresh (state : β) (nextNumber : Nat) (interface : UInt8) :
    Conserves { state := { stackState := { state }, nextNumber, interface } } where
  bindings := ⟨.nil, List.forall_mem_nil _, List.forall_mem_nil _, fun _ => by
    simp [Allocated, Journal.history]⟩
  entered := List.forall_mem_nil _
  placed := List.forall_mem_nil _
  conserved := .nil

/-- What a call keeps, if the callbacks that it let run are conserved. -/
theorem Conserves.of_entry (conserves : Conserves journal)
    (entries : later.entries = (event, later.state) :: journal.entries)
    (grows : journal.state.stackState.history <+: later.state.stackState.history)
    (bindings : Bindings later.state.stackState.history later.state.transfers
      later.state.nextNumber)
    (placed : ∀ transfer ∈ later.state.transfers,
      (∃ other ∈ journal.state.transfers,
        other.slot = transfer.slot ∧ other.number = transfer.number) ∨
      allocatedFor? later transfer.number = some transfer.slot)
    (conserved : List.Forall₂ (Announces journal) (announced later.state.stackState.history)
      (delivered journal.history ++ event.handedOver ++ later.state.arrivals)) :
    Conserves later where
  bindings := bindings
  entered := by
    rw [entries]
    refine List.forall_mem_cons.mpr ⟨List.prefix_refl _, fun entry member => ?_⟩
    exact (conserves.entered entry member).trans grows
  placed transfer member := by
    rcases placed transfer member with ⟨other, among, slot, number⟩ | found
    · rw [← slot, ← number]
      exact allocatedFor?_of_entry entries (conserves.placed other among)
    · exact found
  conserved := by
    have history : later.history = journal.history ++ [event] := by
      rw [Journal.history, entries]
      exact List.reverse_cons
    rw [history, delivered_append, delivered_singleton]
    exact conserved.imp fun _ _ announces => announces.of_entry entries

/-- A session that asked its stack for things, but for no completions. -/
def Silent (session last : Session (Journal StackEvent β)) : Prop :=
  ∃ events, last.stackState.history = session.stackState.history ++ events ∧
    ∀ event ∈ events, event.isEventCall = false

section

variable {session middle last : Session (Journal StackEvent β)}

/-- Nothing was asked. -/
theorem Silent.of_same (same : last.stackState.history = session.stackState.history) :
    session.Silent last :=
  ⟨[], same.trans (List.append_nil _).symm, List.forall_mem_nil _⟩

/-- A call that asks for no completions. -/
theorem Silent.of_event {event : StackEvent} (other : event.isEventCall = false)
    (history : last.stackState.history = session.stackState.history ++ [event]) :
    session.Silent last :=
  ⟨[event], history, List.forall_mem_singleton.mpr other⟩

/-- Sessions that do without completions, one after the other. -/
theorem Silent.trans (first : session.Silent middle) (second : middle.Silent last) :
    session.Silent last := by
  obtain ⟨earlier, grown, others⟩ := first
  obtain ⟨later, same, still⟩ := second
  refine ⟨earlier ++ later, ?_, List.forall_mem_append.mpr ⟨others, still⟩⟩
  rw [same, grown, List.append_assoc]

/-- A call that leaves the transfers alone asks for no completions. -/
theorem Untouched.silent (untouched : session.Untouched last) : session.Silent last :=
  untouched.grows.imp fun _ ⟨grown, quiet⟩ =>
    ⟨grown, fun event member => isEventCall_of_isQuiet (quiet event member)⟩

private theorem Silent.announced_eq (silent : session.Silent last) :
    announced last.stackState.history = announced session.stackState.history := by
  obtain ⟨events, grown, others⟩ := silent
  rw [grown, announced_append, announced_of_others others, List.append_nil]

/-- What was written down stays. -/
theorem Silent.prefix_history (silent : session.Silent last) :
    session.stackState.history <+: last.stackState.history :=
  silent.imp fun _ grown => grown.1.symm

end

/-- A call that leaves the transfers alone leaves them bound as they are. -/
theorem Bindings.of_untouched {session last : Session (Journal StackEvent β)}
    (bindings : Bindings session.stackState.history session.transfers session.nextNumber)
    (untouched : session.Untouched last) :
    Bindings last.stackState.history last.transfers last.nextNumber := by
  obtain ⟨⟨events, grown, quiet⟩, transfers, _, nextNumber⟩ := untouched
  rw [grown, transfers, nextNumber]
  exact bindings.of_unallocated fun number => (quiet_counts quiet number).2.2.2

/-- A call that leaves the transfers alone. -/
theorem Conserves.of_untouched (conserves : Conserves journal)
    (entries : later.entries = (event, later.state) :: journal.entries)
    (untouched : journal.state.Untouched later.state) (empty : event.handedOver = []) :
    Conserves later := by
  have silent := untouched.silent
  refine conserves.of_entry entries silent.prefix_history
    (conserves.bindings.of_untouched untouched) (fun transfer member => ?_) ?_
  · rw [untouched.transfers] at member
    exact Or.inl ⟨transfer, member, rfl, rfl⟩
  · rw [silent.announced_eq, empty, untouched.arrivals, List.append_nil]
    exact conserves.conserved

/-! ## Submissions -/

variable (stack : Stack β) {session last : Session (Journal StackEvent β)}

/-- A session that got a transfer for a slot, unless it has one or there is no memory. -/
structure Supplies (slot : Nat) (session last : Session (Journal StackEvent β)) : Prop where
  bindings : Bindings last.stackState.history last.transfers last.nextNumber
  silent : session.Silent last
  arrivals : last.arrivals = session.arrivals
  supplied : ∀ transfer ∈ last.transfers,
    (∃ other ∈ session.transfers,
      other.slot = transfer.slot ∧ other.number = transfer.number) ∨
    transfer.slot = slot ∧ transfer.number = session.nextNumber

/-- A session that has its transfer needs no other. -/
theorem Supplies.refl (slot : Nat)
    (bindings : Bindings session.stackState.history session.transfers session.nextNumber) :
    Supplies slot session session :=
  ⟨bindings, .of_same rfl, rfl, fun transfer member => Or.inl ⟨transfer, member, rfl, rfl⟩⟩

/-- A slot is supplied with a transfer, which is its own from then on. -/
private theorem supplies_obtainTransfer (slot : Nat)
    (bindings : Bindings session.stackState.history session.transfers session.nextNumber) :
    Supplies slot session (session.obtainTransfer stack.journaled slot).2 ∧
      ∀ transfer, (session.obtainTransfer stack.journaled slot).1 = .ok transfer →
        transfer ∈ (session.obtainTransfer stack.journaled slot).2.transfers := by
  have written := stack.history_allocate session.stackState session.nextNumber
  rcases obtainTransfer_cases stack.journaled slot session with
    ⟨transfer, found, same⟩ | ⟨absent, failed, same⟩ | ⟨absent, allocated, same⟩
  · rw [same]
    refine ⟨.refl slot bindings, ?_⟩
    rintro _ ⟨⟩
    exact (mem_of_transfer found).1
  · rw [failed] at written
    rw [same]
    refine ⟨⟨?_, .of_event rfl written, rfl, fun transfer member => ?_⟩, nofun⟩
    · rw [written]
      exact bindings.of_unallocated fun number => by simp [allocation?]
    · exact Or.inl ⟨transfer, member, rfl, rfl⟩
  · rw [allocated] at written
    have inserted := @mem_insertTransfer session.transfers
      { slot, number := session.nextNumber, inFlight := false } bindings.inOrder
    rw [same]
    refine ⟨⟨?_, .of_event rfl written, rfl, fun transfer member => ?_⟩, ?_⟩
    · rw [written]
      exact bindings.allocate (slot_ne_of_transfer absent)
    · rcases inserted.mp member with rfl | ⟨among, _⟩
      · exact Or.inr ⟨rfl, rfl⟩
      · exact Or.inl ⟨transfer, among, rfl, rfl⟩
    · rintro _ ⟨⟩
      exact inserted.mpr (Or.inl rfl)

/-- A submission allocates no transfer but one for its slot. -/
theorem supplies_submit (slot : Slot)
    (bindings : Bindings session.stackState.history session.transfers session.nextNumber) :
    Supplies slot.id session (session.submit stack.journaled slot).2 := by
  obtain ⟨supplies, obtains⟩ := supplies_obtainTransfer stack slot.id bindings
  rcases submit_cases stack.journaled slot session with
    ⟨_, same⟩ | ⟨_, _, same⟩ | ⟨transfer, obtained, found, ends⟩
  · rw [same]
    exact ⟨bindings, .of_same rfl, rfl, fun transfer member => Or.inl ⟨transfer, member, rfl, rfl⟩⟩
  · rw [same]
    exact supplies
  · have written := stack.history_submit obtained.stackState (request transfer slot)
    rw [found] at supplies obtains
    have submitted : Bindings
        (stack.journaled.submit (request transfer slot) obtained.stackState).2.history
        obtained.transfers obtained.nextNumber := by
      rw [written]
      exact supplies.bindings.of_unallocated fun number => by simp [allocation?]
    rcases ends with same | ⟨_, _, same⟩ | ⟨_, same⟩
    · rw [same]
      exact supplies
    · rw [same]
      exact ⟨submitted, supplies.silent.trans (.of_event rfl written), supplies.arrivals,
        supplies.supplied⟩
    · rw [same, insertTransfer_mark supplies.bindings.inOrder (obtains transfer rfl)]
      refine ⟨submitted.map (slot_mark transfer.slot) (number_mark transfer.slot),
        supplies.silent.trans (.of_event rfl written), supplies.arrivals, fun marked member => ?_⟩
      obtain ⟨other, among, rfl⟩ := List.mem_map.mp member
      rw [slot_mark, number_mark]
      exact supplies.supplied other among

/-- A submission conserves the completions. -/
theorem Conserves.submit (conserves : Conserves journal) (slot : Slot) :
    Conserves (stack.watched.submit slot journal).2 := by
  have supplies := supplies_submit stack slot conserves.bindings
  refine conserves.of_entry rfl supplies.silent.prefix_history supplies.bindings
    (fun transfer member => ?_) ?_
  · refine (supplies.supplied transfer member).imp_right fun ⟨named, number⟩ => ?_
    -- No entry before this one can have known the number that is next.
    have fresh : ∀ entry ∈ journal.entries,
        ¬Allocated entry.2.stackState.history transfer.number := by
      intro entry among allocated
      obtain ⟨other, there, same⟩ := (conserves.bindings.allocated transfer.number).mp
        (allocated.of_isPrefix (conserves.entered entry among))
      have less := conserves.bindings.below other there
      rw [same, number] at less
      exact Nat.lt_irrefl _ less
    rw [named]
    exact allocatedFor?_of_fresh rfl fresh (supplies.bindings.present member)
  · change List.Forall₂ _
      (announced (journal.state.submit stack.journaled slot).2.stackState.history)
      (_ ++ [] ++ (journal.state.submit stack.journaled slot).2.arrivals)
    rw [supplies.silent.announced_eq, supplies.arrivals, List.append_nil]
    exact conserves.conserved

/-! ## Event calls -/

/-- The event call that a session makes. Its flag is lowered. -/
def eventCall {σ : Type} (session : Session σ) (timeout : Duration) : EventCall where
  wait := waitTime timeout
  watched := session.transfers.map Transfer.number
  raised := false

/-- The answer to the event call that a session makes. -/
def eventAnswer {σ : Type} (stack : Stack σ) (session : Session σ) (timeout : Duration) :
    EventAnswer :=
  (stack.handleEvents (session.eventCall timeout) session.stackState).1

/-- With no completion waiting, one event call is made. -/
theorem history_poll_of_empty (timeout : Duration) (empty : session.arrivals = []) :
    (session.poll stack.journaled timeout).2.stackState.history =
      session.stackState.history ++
        [.handled (session.eventCall timeout)
          (session.eventAnswer stack.journaled timeout)] := by
  have written := stack.history_handleEvents session.stackState (session.eventCall timeout)
  rcases poll_cases_of_empty stack.journaled timeout empty with ⟨_, same⟩ | same
  · rw [same]
    exact written
  · rw [same]
    exact written

/-- A callback of an allocated transfer puts in the completion that it announces. -/
theorem Conserves.announces (conserves : Conserves journal) {callback : Callback}
    (allocated : Allocated journal.state.stackState.history callback.transfer) :
    ∃ completion, journal.state.completionOf? callback = some completion ∧
      Announces journal callback completion := by
  obtain ⟨transfer, member, number⟩ := (conserves.bindings.allocated _).mp allocated
  unfold completionOf?
  cases found : journal.state.transfers.find? fun transfer =>
      transfer.number == callback.transfer with
  | none => exact absurd (beq_iff_eq.mpr number) (List.find?_eq_none.mp found transfer member)
  | some bound =>
      have named := List.find?_some found
      rw [beq_iff_eq] at named
      refine ⟨_, rfl, ?_, rfl, rfl⟩
      rw [← named]
      exact conserves.placed bound (List.mem_of_find?_eq_some found)

/-- **Callbacks put in what they announce**, one completion each, in order. -/
theorem Conserves.put_in (conserves : Conserves journal) {called : List Callback}
    (known : ∀ callback ∈ called,
      Allocated journal.state.stackState.history callback.transfer) :
    List.Forall₂ (Announces journal) called (called.filterMap journal.state.completionOf?) := by
  induction called with
  | nil => exact .nil
  | cons callback rest ih =>
      obtain ⟨first, others⟩ := List.forall_mem_cons.mp known
      obtain ⟨completion, some, announces⟩ := conserves.announces first
      rw [List.filterMap_cons_some some]
      exact .cons announces (ih others)

/-- Callbacks that ran one after another since nothing was waiting. -/
theorem Conserves.during (conserves : Conserves journal) (empty : journal.state.arrivals = [])
    {called : List Callback}
    (known : ∀ callback ∈ called,
      Allocated journal.state.stackState.history callback.transfer) :
    List.Forall₂ (Announces journal) (announced journal.state.stackState.history ++ called)
      (delivered journal.history ++ called.filterMap journal.state.completionOf?) := by
  have before := conserves.conserved
  rw [empty, List.append_nil] at before
  exact List.rel_append before (conserves.put_in known)

/-- A wait takes the marks from the transfers whose completions it hands over, and only those. -/
theorem transfers_poll {σ : Type} (stack : Stack σ) (timeout : Duration) (session : Session σ) :
    (session.poll stack timeout).2.nextNumber = session.nextNumber ∧
      (session.poll stack timeout).2.transfers =
        session.transfers.map (unmark (session.poll stack timeout).1.delivered) := by
  rcases poll_cases stack timeout session with same | ⟨_, same⟩ | same
  · rw [same]
    exact ⟨rfl, rfl⟩
  · rw [same]
    exact ⟨rfl, (List.map_id _).symm⟩
  · rw [same]
    exact ⟨rfl, rfl⟩

/-- What the callbacks of an event call put in is handed over, or waits. -/
theorem handed_poll_of_empty {σ : Type} (stack : Stack σ) (timeout : Duration)
    {session : Session σ} (empty : session.arrivals = []) :
    (session.poll stack timeout).1.delivered ++ (session.poll stack timeout).2.arrivals =
      (session.eventAnswer stack timeout).callbacks.filterMap session.completionOf? := by
  have put : (session.handleEvents stack timeout).2.arrivals =
      (session.eventAnswer stack timeout).callbacks.filterMap session.completionOf? :=
    (congrArg (· ++ _) empty).trans (List.nil_append _)
  rcases poll_cases_of_empty stack timeout empty with ⟨_, same⟩ | same
  · rw [same]
    exact put
  · rw [same]
    exact (List.append_nil _).trans put

/-- Waits for completions allocate no transfers. -/
theorem Bindings.poll
    (bindings : Bindings session.stackState.history session.transfers session.nextNumber)
    (timeout : Duration) :
    Bindings (session.poll stack.journaled timeout).2.stackState.history
      (session.poll stack.journaled timeout).2.transfers
      (session.poll stack.journaled timeout).2.nextNumber := by
  obtain ⟨nextNumber, transfers⟩ := transfers_poll stack.journaled timeout session
  rw [nextNumber, transfers]
  apply Bindings.map _ (slot_unmark _) (number_unmark _)
  by_cases empty : session.arrivals = []
  · rw [history_poll_of_empty stack timeout empty]
    exact bindings.of_unallocated fun number => by simp [allocation?]
  · rw [poll_of_waiting stack.journaled timeout empty]
    exact bindings

/-- Waiting for completions conserves them, if callbacks are for transfers that were allocated. -/
theorem Conserves.poll (conserves : Conserves journal) (timeout : Duration)
    (known : Journal.Throughout Known
      (journal.state.poll stack.journaled timeout).2.stackState.history) :
    Conserves (stack.watched.poll timeout journal).2 := by
  have transfers := (transfers_poll stack.journaled timeout journal.state).2
  refine conserves.of_entry rfl (history_prefix_poll stack timeout journal.state)
    (conserves.bindings.poll stack timeout) (fun transfer member => Or.inl ?_) ?_
  · rw [show (stack.watched.poll timeout journal).2.state.transfers = _ from transfers] at member
    obtain ⟨other, among, rfl⟩ := List.mem_map.mp member
    exact ⟨other, among, (slot_unmark _ other).symm, (number_unmark _ other).symm⟩
  · change List.Forall₂ (Announces journal)
      (announced (journal.state.poll stack.journaled timeout).2.stackState.history)
      (delivered journal.history ++ (journal.state.poll stack.journaled timeout).1.delivered ++
        (journal.state.poll stack.journaled timeout).2.arrivals)
    rw [List.append_assoc]
    by_cases empty : journal.state.arrivals = []
    · rw [history_poll_of_empty stack timeout empty] at known ⊢
      rw [handed_poll_of_empty stack.journaled timeout empty, announced_append,
        announced_singleton]
      exact conserves.during empty (Journal.throughout_concat.mp known).2
    · rw [poll_of_waiting stack.journaled timeout empty,
        show journal.state.takeArrivals.2.arrivals = [] from rfl, List.append_nil]
      exact conserves.conserved

/-- Where callbacks run only of transfers that were allocated, they all raise the flag. -/
theorem raised_poll_of_empty (timeout : Duration) (empty : session.arrivals = [])
    (bindings : Bindings session.stackState.history session.transfers session.nextNumber)
    (known : ∀ callback ∈ (session.eventAnswer stack.journaled timeout).callbacks,
      Allocated session.stackState.history callback.transfer) :
    (session.poll stack.journaled timeout).2.raised = true ↔
      (session.eventAnswer stack.journaled timeout).callbacks ≠ [] := by
  have raised : (session.poll stack.journaled timeout).2.raised =
      (session.eventCall timeout).raisedAfter
        (session.eventAnswer stack.journaled timeout).callbacks := by
    rcases poll_cases_of_empty stack.journaled timeout empty with ⟨_, same⟩ | same
    · rw [same]
      rfl
    · rw [same]
      rfl
  rw [raised, EventCall.raisedAfter, show (session.eventCall timeout).raised = false from rfl,
    Bool.false_or, List.any_eq_true]
  constructor
  · rintro ⟨callback, member, _⟩
    exact List.ne_nil_of_mem member
  · intro some
    obtain ⟨callback, member⟩ := List.exists_mem_of_ne_nil _ some
    obtain ⟨transfer, among, number⟩ := (bindings.allocated _).mp (known callback member)
    refine ⟨callback, member, List.contains_iff_mem.mpr ?_⟩
    exact List.mem_map.mpr ⟨transfer, among, number⟩

end Session

end UsbThroughput
