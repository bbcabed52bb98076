import UsbThroughput.Proofs.Rig.History
import UsbThroughput.Proofs.Session.Transfers
import UsbThroughput.Proofs.Stack.History

/-!
# The ledger of a session

A session translates between two histories: the calls of a run on its rig, by slots, and the calls
of the session on its stack, by transfers. The ledger (`Session.Ledger`) says that the two agree.
A slot and its transfer have been submitted equally often. Each callback of a transfer has led to a
completion, which has been handed over or waits in the session. And a transfer is marked as in
flight just while its slot has one submission more than completions handed over.
-/

namespace UsbThroughput.Session

open Completion

/-- The transfers of a session are those that were allocated, one for a slot. -/
structure Bindings (history : List StackEvent) (transfers : List Transfer) (nextNumber : Nat) :
    Prop where
  inOrder : InOrder transfers
  distinct : ∀ first ∈ transfers, ∀ second ∈ transfers,
    first.number = second.number → first = second
  below : ∀ transfer ∈ transfers, transfer.number < nextNumber
  allocated : ∀ number, StackEvent.Allocated history number ↔
    ∃ transfer ∈ transfers, transfer.number = number

/-- **Two histories that agree**, the calls on a rig and those on the stack below it, in view of
the transfers and the waiting completions of the session between them. -/
structure Ledger (calls : List RigEvent) (history : List StackEvent) (transfers : List Transfer)
    (arrivals : List Completion) (nextNumber : Nat) : Prop where
  bindings : Bindings history transfers nextNumber
  submitted : ∀ transfer ∈ transfers,
    StackEvent.accepted history transfer.number = RigEvent.accepted calls transfer.slot
  called : ∀ transfer ∈ transfers,
    StackEvent.called history transfer.number =
      countFor (RigEvent.delivered calls ++ arrivals) transfer.slot
  marked : ∀ transfer ∈ transfers,
    RigEvent.accepted calls transfer.slot =
      countFor (RigEvent.delivered calls) transfer.slot + if transfer.inFlight then 1 else 0
  unbound : ∀ slot, (∀ transfer ∈ transfers, transfer.slot ≠ slot) →
    RigEvent.accepted calls slot = 0 ∧
      countFor (RigEvent.delivered calls ++ arrivals) slot = 0
  unused : ∀ number, (∀ transfer ∈ transfers, transfer.number ≠ number) →
    StackEvent.accepted history number = 0
  faithful : RigEvent.Faithful calls
  rightful : Journal.Throughout StackEvent.Rightful history
  unfreed : ∀ number, StackEvent.freedCount history number = 0

variable {calls : List RigEvent} {history : List StackEvent} {transfers : List Transfer}
  {arrivals : List Completion} {nextNumber : Nat}

/-! ## Bindings -/

namespace Bindings

/-- Each transfer was allocated. -/
theorem present (bindings : Bindings history transfers nextNumber) {transfer : Transfer}
    (member : transfer ∈ transfers) : StackEvent.Allocated history transfer.number :=
  (bindings.allocated _).mpr ⟨transfer, member, rfl⟩

/-- Transfers are told apart by their numbers as well as by their slots. -/
theorem number_eq_iff (bindings : Bindings history transfers nextNumber)
    {first second : Transfer} (member : first ∈ transfers) (other : second ∈ transfers) :
    first.number = second.number ↔ first.slot = second.slot := by
  constructor
  · intro same
    rw [bindings.distinct first member second other same]
  · intro same
    rw [bindings.inOrder.eq_of_slot member other same]

/-- Transfers stay bound as long as none is allocated. -/
theorem of_unallocated (bindings : Bindings history transfers nextNumber)
    {events : List StackEvent} (none : ∀ number, ¬StackEvent.Allocated events number) :
    Bindings (history ++ events) transfers nextNumber where
  inOrder := bindings.inOrder
  distinct := bindings.distinct
  below := bindings.below
  allocated number := by
    rw [StackEvent.allocated_append, or_iff_left (none number)]
    exact bindings.allocated number

/-- Transfers stay bound when only their marks are changed. -/
theorem map (bindings : Bindings history transfers nextNumber) {change : Transfer → Transfer}
    (slots : ∀ transfer, (change transfer).slot = transfer.slot)
    (numbers : ∀ transfer, (change transfer).number = transfer.number) :
    Bindings history (transfers.map change) nextNumber where
  inOrder := by
    apply List.pairwise_map.mpr
    simp only [slots]
    exact bindings.inOrder
  distinct := by
    simp only [List.forall_mem_map, numbers]
    intro first member second other same
    rw [bindings.distinct first member second other same]
  below := by
    simp only [List.forall_mem_map, numbers]
    exact bindings.below
  allocated number := by
    simp only [List.mem_map, exists_exists_and_eq_and, numbers]
    exact bindings.allocated number

/-- A transfer is allocated for a slot that has none. -/
theorem allocate (bindings : Bindings history transfers nextNumber) {slot : Nat}
    (absent : ∀ transfer ∈ transfers, transfer.slot ≠ slot) :
    Bindings (history ++ [.allocated nextNumber true])
      (insertTransfer { slot, number := nextNumber, inFlight := false } transfers)
      (nextNumber + 1) := by
  have mem := @mem_insertTransfer transfers { slot, number := nextNumber, inFlight := false }
    bindings.inOrder
  refine ⟨bindings.inOrder.insert _, ?_, ?_, ?_⟩
  · intro first member second other same
    rcases mem.mp member with rfl | ⟨among, _⟩ <;> rcases mem.mp other with rfl | ⟨others, _⟩
    · rfl
    · exact absurd same.symm (Nat.ne_of_lt (bindings.below second others))
    · exact absurd same (Nat.ne_of_lt (bindings.below first among))
    · exact bindings.distinct first among second others same
  · intro transfer member
    rcases mem.mp member with rfl | ⟨among, _⟩
    · exact Nat.lt_succ_self nextNumber
    · exact Nat.lt_succ_of_lt (bindings.below transfer among)
  · intro number
    rw [StackEvent.allocated_append, StackEvent.allocated_singleton, bindings.allocated number]
    simp only [StackEvent.allocation?, Option.some.injEq]
    constructor
    · rintro (⟨transfer, among, same⟩ | rfl)
      · exact ⟨transfer, mem.mpr (Or.inr ⟨among, absent transfer among⟩), same⟩
      · exact ⟨_, mem.mpr (Or.inl rfl), rfl⟩
    · rintro ⟨transfer, member, same⟩
      rcases mem.mp member with rfl | ⟨among, _⟩
      · exact Or.inr same
      · exact Or.inl ⟨transfer, among, same⟩

end Bindings

/-! ## Calls that move no transfer -/

namespace Ledger

/-- The ledger of a session that has just begun. -/
theorem empty (nextNumber : Nat) : Ledger [] [] [] [] nextNumber where
  bindings := ⟨.nil, nofun, nofun, fun _ => by simp [StackEvent.Allocated]⟩
  submitted := nofun
  called := nofun
  marked := nofun
  unbound _ _ := ⟨rfl, rfl⟩
  unused _ _ := rfl
  faithful := by
    intro earlier before id
    rw [List.prefix_nil.mp before]
    exact Nat.le_refl 0
  rightful := Journal.throughout_nil
  unfreed _ := rfl

/-- Nothing is outstanding on the stack for a transfer if nothing is for its slot. -/
theorem nothing_out (ledger : Ledger calls history transfers arrivals nextNumber)
    (faithful : StackEvent.Faithful history) {transfer : Transfer} (member : transfer ∈ transfers)
    (out : RigEvent.accepted calls transfer.slot =
      countFor (RigEvent.delivered calls) transfer.slot) :
    StackEvent.accepted history transfer.number = StackEvent.called history transfer.number := by
  have most := faithful.le (ledger.bindings.present member)
  have called := ledger.called transfer member
  have submitted := ledger.submitted transfer member
  rw [countFor_append] at called
  omega

/-- A call on the rig that neither submits a slot nor hands over completions. -/
theorem of_call (ledger : Ledger calls history transfers arrivals nextNumber) {event : RigEvent}
    (refused : ∀ id, event.accepts id = false) (empty : event.handedOver = []) :
    Ledger (calls ++ [event]) history transfers arrivals nextNumber := by
  have accepted (id : Nat) :
      RigEvent.accepted (calls ++ [event]) id = RigEvent.accepted calls id := by
    simp [refused]
  have delivered : RigEvent.delivered (calls ++ [event]) = RigEvent.delivered calls := by
    simp [empty]
  refine
    { ledger with
      submitted := ?_
      called := ?_
      marked := ?_
      unbound := ?_
      faithful := ?_ }
  · intro transfer member
    rw [accepted]
    exact ledger.submitted transfer member
  · rw [delivered]
    exact ledger.called
  · intro transfer member
    rw [accepted, delivered]
    exact ledger.marked transfer member
  · intro slot absent
    rw [accepted, delivered]
    exact ledger.unbound slot absent
  · rw [RigEvent.faithful_concat]
    refine ⟨ledger.faithful, fun id => ?_⟩
    rw [accepted, delivered]
    exact ledger.faithful.le id

/-- Calls on the stack that change no account. -/
theorem of_idle (ledger : Ledger calls history transfers arrivals nextNumber)
    {events : List StackEvent}
    (idle : ∀ number, StackEvent.accepted events number = 0 ∧
      StackEvent.called events number = 0 ∧ StackEvent.freedCount events number = 0 ∧
      ¬StackEvent.Allocated events number)
    (rightful : Journal.Throughout StackEvent.Rightful (history ++ events)) :
    Ledger calls (history ++ events) transfers arrivals nextNumber := by
  refine
    { ledger with
      bindings := ledger.bindings.of_unallocated fun number => (idle number).2.2.2
      submitted := ?_
      called := ?_
      unused := ?_
      rightful := rightful
      unfreed := ?_ }
  · intro transfer member
    rw [StackEvent.accepted_append, (idle _).1]
    exact ledger.submitted transfer member
  · intro transfer member
    rw [StackEvent.called_append, (idle _).2.1]
    exact ledger.called transfer member
  · intro number absent
    rw [StackEvent.accepted_append, (idle _).1]
    exact ledger.unused number absent
  · intro number
    rw [StackEvent.freedCount_append, (idle _).2.2.1]
    exact ledger.unfreed number

/-- Calls on the stack that concern no transfer. -/
theorem of_quiet (ledger : Ledger calls history transfers arrivals nextNumber)
    {events : List StackEvent} (quiet : ∀ event ∈ events, event.isQuiet = true) :
    Ledger calls (history ++ events) transfers arrivals nextNumber := by
  apply ledger.of_idle (StackEvent.quiet_counts quiet)
  apply ledger.rightful.append
  intro event member
  exact StackEvent.rightful_of_isQuiet (quiet event member)

/-- A submission that the stack refused. -/
theorem refuse (ledger : Ledger calls history transfers arrivals nextNumber)
    (request : Request) {code : Int} {error : UsbError}
    (refused : UsbResult.ofCode code = .error error)
    (out : StackEvent.accepted history request.transfer =
      StackEvent.called history request.transfer) :
    Ledger calls (history ++ [.submitted request code]) transfers arrivals nextNumber := by
  apply ledger.of_idle
  · intro number
    refine ⟨?_, rfl, rfl, ?_⟩
    · simp [StackEvent.accepted, StackEvent.accepts, refused]
    · simp [StackEvent.allocation?]
  · exact Journal.throughout_concat.mpr ⟨ledger.rightful, out⟩

/-! ## Calls that do -/

/-- A transfer is allocated for a slot that has none. -/
theorem allocate (ledger : Ledger calls history transfers arrivals nextNumber)
    {slot : Nat}
    (faithful : StackEvent.Faithful (history ++ [.allocated nextNumber true]))
    (absent : ∀ transfer ∈ transfers, transfer.slot ≠ slot) :
    Ledger calls (history ++ [.allocated nextNumber true])
      (insertTransfer { slot, number := nextNumber, inFlight := false } transfers) arrivals
      (nextNumber + 1) := by
  obtain ⟨idle, empty⟩ := ledger.unbound slot absent
  have fresh : StackEvent.accepted history nextNumber = 0 := by
    apply ledger.unused
    intro transfer member
    exact Nat.ne_of_lt (ledger.bindings.below transfer member)
  have silent : StackEvent.called history nextNumber = 0 := by
    apply Nat.eq_zero_of_le_zero
    rw [← fresh]
    apply faithful history (List.prefix_append _ _)
    simp [StackEvent.allocation?]
  have mem := @mem_insertTransfer transfers { slot, number := nextNumber, inFlight := false }
    ledger.bindings.inOrder
  have still {transfer : Transfer} (member : transfer ∈ transfers) :
      transfer ∈ insertTransfer { slot, number := nextNumber, inFlight := false } transfers :=
    mem.mpr (Or.inr ⟨member, absent transfer member⟩)
  refine
    { bindings := ledger.bindings.allocate absent
      submitted := ?_
      called := ?_
      marked := ?_
      unbound := ?_
      unused := ?_
      faithful := ledger.faithful
      rightful := Journal.throughout_concat.mpr ⟨ledger.rightful, trivial⟩
      unfreed := ?_ }
  · intro transfer member
    rw [StackEvent.accepted_append]
    rcases mem.mp member with rfl | ⟨among, _⟩
    · exact (fresh.trans idle.symm :)
    · exact ledger.submitted transfer among
  · intro transfer member
    rw [StackEvent.called_append]
    rcases mem.mp member with rfl | ⟨among, _⟩
    · exact (silent.trans empty.symm :)
    · exact ledger.called transfer among
  · intro transfer member
    rcases mem.mp member with rfl | ⟨among, _⟩
    · rw [countFor_append] at empty
      dsimp only
      rw [idle, Nat.eq_zero_of_add_eq_zero_right empty]
      rfl
    · exact ledger.marked transfer among
  · intro other apart
    apply ledger.unbound
    intro transfer member
    exact apart transfer (still member)
  · intro number apart
    rw [StackEvent.accepted_append]
    apply ledger.unused
    intro transfer member
    exact apart transfer (still member)
  · intro number
    rw [StackEvent.freedCount_append]
    exact ledger.unfreed number

/-- A submission that the stack accepted, with the mark of the transfer that goes with it. -/
theorem accept (ledger : Ledger calls history transfers arrivals nextNumber)
    (faithful : StackEvent.Faithful history) {transfer : Transfer} (member : transfer ∈ transfers)
    {slot : Slot} (named : slot.id = transfer.slot) (request : Request)
    (asks : request.transfer = transfer.number) {code : Int}
    (accepted : UsbResult.ofCode code = .ok ())
    (out : RigEvent.accepted calls transfer.slot =
      countFor (RigEvent.delivered calls) transfer.slot) :
    Ledger (calls ++ [.submitted slot (.ok ())]) (history ++ [.submitted request code])
      (transfers.map (mark transfer.slot)) arrivals nextNumber := by
  have onRig (id : Nat) :
      RigEvent.accepted (calls ++ [.submitted slot (.ok ())]) id =
        RigEvent.accepted calls id + if transfer.slot = id then 1 else 0 := by
    simp [RigEvent.accepts, named]
  have onStack (number : Nat) :
      StackEvent.accepted (history ++ [.submitted request code]) number =
        StackEvent.accepted history number + if transfer.number = number then 1 else 0 := by
    simp [StackEvent.accepted, StackEvent.accepts, asks, accepted]
  have delivered :
      RigEvent.delivered (calls ++ [.submitted slot (.ok ())]) = RigEvent.delivered calls := by
    simp [RigEvent.handedOver]
  refine
    { bindings := ?_
      submitted := ?_
      called := ?_
      marked := ?_
      unbound := ?_
      unused := ?_
      faithful := ?_
      rightful := ?_
      unfreed := ?_ }
  · have bindings : Bindings (history ++ [.submitted request code]) transfers nextNumber := by
      apply ledger.bindings.of_unallocated
      simp [StackEvent.allocation?]
    exact bindings.map (slot_mark transfer.slot) (number_mark transfer.slot)
  · simp only [List.forall_mem_map, slot_mark, number_mark, onRig, onStack]
    intro other there
    rw [ledger.submitted other there]
    simp only [ledger.bindings.number_eq_iff member there]
  · simp only [List.forall_mem_map, slot_mark, number_mark, delivered]
    intro other there
    rw [StackEvent.called_append]
    exact ledger.called other there
  · simp only [List.forall_mem_map, slot_mark, onRig, delivered]
    intro other there
    by_cases same : other.slot = transfer.slot
    · rw [ledger.bindings.inOrder.eq_of_slot there member same, out, if_pos rfl, mark, if_pos rfl]
      rfl
    · rw [if_neg (Ne.symm same), mark_of_ne same]
      exact ledger.marked other there
  · intro id apart
    simp only [List.forall_mem_map, slot_mark] at apart
    rw [onRig, delivered, if_neg (apart transfer member)]
    exact ledger.unbound id apart
  · intro number apart
    simp only [List.forall_mem_map, number_mark] at apart
    rw [onStack, if_neg (apart transfer member)]
    exact ledger.unused number apart
  · rw [RigEvent.faithful_concat]
    refine ⟨ledger.faithful, fun id => ?_⟩
    rw [delivered, onRig]
    exact Nat.le_add_right_of_le (ledger.faithful.le id)
  · have idle := ledger.nothing_out faithful member out
    rw [← asks] at idle
    exact Journal.throughout_concat.mpr ⟨ledger.rightful, idle⟩
  · intro number
    rw [StackEvent.freedCount_append]
    exact ledger.unfreed number

/-- An event call whose callbacks put in completions of their slots. -/
theorem handle (ledger : Ledger calls history transfers arrivals nextNumber) (call : EventCall)
    {answer : EventAnswer} {completions : List Completion}
    (announced : ∀ transfer ∈ transfers, countFor completions transfer.slot =
      answer.callbacks.countP fun callback => callback.transfer == transfer.number)
    (ours : ∀ slot, (∀ transfer ∈ transfers, transfer.slot ≠ slot) →
      countFor completions slot = 0) :
    Ledger calls (history ++ [.handled call answer]) transfers (arrivals ++ completions)
      nextNumber := by
  have accepted (number : Nat) :
      StackEvent.accepted (history ++ [.handled call answer]) number =
        StackEvent.accepted history number := by
    simp [StackEvent.accepted, StackEvent.accepts]
  refine
    { ledger with
      bindings := ?_
      submitted := ?_
      called := ?_
      unbound := ?_
      unused := ?_
      rightful := Journal.throughout_concat.mpr ⟨ledger.rightful, trivial⟩
      unfreed := ?_ }
  · apply ledger.bindings.of_unallocated
    simp [StackEvent.allocation?]
  · intro transfer member
    rw [accepted]
    exact ledger.submitted transfer member
  · intro transfer member
    rw [StackEvent.called_append, ledger.called transfer member, ← List.append_assoc,
      countFor_append _ completions, announced transfer member]
    simp [StackEvent.called, StackEvent.callbacks]
  · intro slot absent
    obtain ⟨idle, empty⟩ := ledger.unbound slot absent
    rw [← List.append_assoc, countFor_append, empty, ours slot absent]
    exact ⟨idle, rfl⟩
  · intro number absent
    rw [accepted]
    exact ledger.unused number absent
  · intro number
    rw [StackEvent.freedCount_append]
    exact ledger.unfreed number

end Ledger

/-- A mark that stands for at least the completions of its slot is removed along with them. -/
theorem mark_unmark {arrivals : List Completion} {transfer : Transfer}
    (most : countFor arrivals transfer.slot ≤ if transfer.inFlight then 1 else 0) :
    countFor arrivals transfer.slot + (if (unmark arrivals transfer).inFlight then 1 else 0) =
      if transfer.inFlight then 1 else 0 := by
  unfold unmark
  by_cases waits : ∃ completion ∈ arrivals, completion.slot = transfer.slot
  · obtain ⟨completion, member, same⟩ := waits
    have some : (arrivals.any fun completion => completion.slot == transfer.slot) = true :=
      List.any_eq_true.mpr ⟨completion, member, beq_iff_eq.mpr same⟩
    have positive := countFor_pos member
    rw [same] at positive
    rw [if_pos some]
    have one : (if transfer.inFlight then 1 else 0) ≤ 1 := by
      split <;> omega
    simp only [Bool.false_eq_true, ↓reduceIte]
    omega
  · have none : ¬(arrivals.any fun completion => completion.slot == transfer.slot) = true := by
      simpa using waits
    have empty : countFor arrivals transfer.slot = 0 := by
      apply List.countP_eq_zero.mpr
      intro completion member same
      exact waits ⟨completion, member, beq_iff_eq.mp same⟩
    rw [if_neg none, empty, Nat.zero_add]

/-- The completions that wait are handed over, and the marks of their transfers removed. -/
theorem Ledger.handOver (ledger : Ledger calls history transfers arrivals nextNumber)
    (faithful : StackEvent.Faithful history) (timeout : Duration) :
    Ledger (calls ++ [.polled timeout ⟨arrivals, .ok ()⟩]) history
      (transfers.map (unmark arrivals)) [] nextNumber := by
  have accepted (id : Nat) :
      RigEvent.accepted (calls ++ [.polled timeout ⟨arrivals, .ok ()⟩]) id =
        RigEvent.accepted calls id := by
    simp [RigEvent.accepts]
  have delivered :
      RigEvent.delivered (calls ++ [.polled timeout ⟨arrivals, .ok ()⟩]) =
        RigEvent.delivered calls ++ arrivals := by
    simp [RigEvent.handedOver]
  -- A mark stands for one completion only: it is the host that keeps a second one from waiting.
  have most {transfer : Transfer} (member : transfer ∈ transfers) :
      countFor arrivals transfer.slot ≤ if transfer.inFlight then 1 else 0 := by
    have bound := faithful.le (ledger.bindings.present member)
    have marked := ledger.marked transfer member
    rw [ledger.called transfer member, ledger.submitted transfer member, countFor_append] at bound
    omega
  refine
    { ledger with
      bindings := ledger.bindings.map (slot_unmark arrivals) (number_unmark arrivals)
      submitted := ?_
      called := ?_
      marked := ?_
      unbound := ?_
      unused := ?_
      faithful := ?_ }
  · simp only [List.forall_mem_map, slot_unmark, number_unmark, accepted]
    exact ledger.submitted
  · simp only [List.forall_mem_map, slot_unmark, number_unmark, delivered, List.append_nil]
    exact ledger.called
  · simp only [List.forall_mem_map, slot_unmark, accepted, delivered, countFor_append]
    intro transfer member
    have marked := ledger.marked transfer member
    have removed := mark_unmark (most member)
    omega
  · intro slot apart
    simp only [List.forall_mem_map, slot_unmark] at apart
    rw [accepted, delivered, List.append_nil]
    exact ledger.unbound slot apart
  · intro number apart
    simp only [List.forall_mem_map, number_unmark] at apart
    exact ledger.unused number apart
  · rw [RigEvent.faithful_concat]
    refine ⟨ledger.faithful, fun id => ?_⟩
    rw [delivered, accepted]
    by_cases bound : ∃ transfer ∈ transfers, transfer.slot = id
    · obtain ⟨transfer, member, rfl⟩ := bound
      have limit := most member
      have marked := ledger.marked transfer member
      rw [countFor_append]
      omega
    · obtain ⟨_, empty⟩ := ledger.unbound id fun transfer member same =>
        bound ⟨transfer, member, same⟩
      rw [empty]
      exact Nat.zero_le _

end UsbThroughput.Session
