import UsbThroughput.Proofs.Session.Operations

/-!
# The end of a session

When the device is closed, each transfer is freed, or leaked if it is still marked as in flight
(`Session.farewell`). With a ledger that agrees, every transfer that was allocated gets one of the
two, and it is leaked just if a submission of it may still be out.
-/

namespace UsbThroughput.Session

open StackEvent Completion

/-- What becomes of a transfer at the end of its session. -/
def farewell (transfer : Transfer) : StackEvent :=
  if transfer.inFlight then .noted .leaking else .freed transfer.number

private theorem allocation_farewell (transfer : Transfer) :
    (farewell transfer).allocation? = none := by
  unfold farewell
  split <;> rfl

/-- The end of a transfer is no submission and runs no callback. -/
theorem counts_farewell (transfer : Transfer) (number : Nat) :
    accepted [farewell transfer] number = 0 ∧ called [farewell transfer] number = 0 ∧
      freedCount [farewell transfer] number =
        if transfer.inFlight = false ∧ transfer.number = number then 1 else 0 := by
  unfold farewell
  cases transfer.inFlight with
  | true => exact ⟨rfl, rfl, by simp [freedCount, frees]⟩
  | false => exact ⟨rfl, rfl, by simp [freedCount, frees]⟩

private theorem counts_farewells (transfers : List Transfer) (number : Nat) :
    accepted (transfers.map farewell) number = 0 ∧ called (transfers.map farewell) number = 0 := by
  induction transfers with
  | nil => exact ⟨rfl, rfl⟩
  | cons first rest ih =>
      obtain ⟨none, silent, _⟩ := counts_farewell first number
      rw [List.map_cons, ← List.singleton_append, accepted_append, called_append, none, silent,
        ih.1, ih.2]
      exact ⟨rfl, rfl⟩

/-- A transfer that is not among those dropped is not freed. -/
theorem freedCount_farewells_of_notMem {transfers : List Transfer} {number : Nat}
    (absent : number ∉ transfers.map Transfer.number) :
    freedCount (transfers.map farewell) number = 0 := by
  apply List.countP_eq_zero.mpr
  intro event member
  obtain ⟨transfer, among, rfl⟩ := List.mem_map.mp member
  have different : transfer.number ≠ number := by
    intro same
    exact absent (List.mem_map.mpr ⟨transfer, among, same⟩)
  unfold farewell
  split
  · simp [frees]
  · simpa [frees] using different

/-- A transfer is freed once, unless it is leaked. -/
theorem freedCount_farewells {transfers : List Transfer}
    (apart : (transfers.map Transfer.number).Nodup) {transfer : Transfer}
    (member : transfer ∈ transfers) :
    freedCount (transfers.map farewell) transfer.number = if transfer.inFlight then 0 else 1 := by
  induction transfers with
  | nil => exact absurd member List.not_mem_nil
  | cons first rest ih =>
      obtain ⟨fresh, others⟩ := List.nodup_cons.mp apart
      rw [List.map_cons, ← List.singleton_append, freedCount_append,
        (counts_farewell first transfer.number).2.2]
      rcases List.mem_cons.mp member with rfl | among
      · rw [freedCount_farewells_of_notMem fresh]
        cases transfer.inFlight <;> simp
      · have different : first.number ≠ transfer.number := by
          intro same
          exact fresh (List.mem_map.mpr ⟨transfer, among, same.symm⟩)
        rw [ih others among, if_neg fun both => different both.2, Nat.zero_add]

/-- Freeing transfers with nothing out, none of them twice, is right. -/
theorem rightful_farewells {history : List StackEvent} {transfers : List Transfer}
    (rightful : Journal.Throughout Rightful history)
    (apart : (transfers.map Transfer.number).Nodup)
    (allocated : ∀ transfer ∈ transfers, Allocated history transfer.number)
    (unfreed : ∀ transfer ∈ transfers, freedCount history transfer.number = 0)
    (idle : ∀ transfer ∈ transfers, transfer.inFlight = false →
      accepted history transfer.number = called history transfer.number) :
    Journal.Throughout Rightful (history ++ transfers.map farewell) := by
  induction transfers generalizing history with
  | nil =>
      rw [List.map_nil, List.append_nil]
      exact rightful
  | cons first rest ih =>
      obtain ⟨fresh, others⟩ := List.nodup_cons.mp apart
      obtain ⟨present, presents⟩ := List.forall_mem_cons.mp allocated
      obtain ⟨once, onces⟩ := List.forall_mem_cons.mp unfreed
      obtain ⟨still, stills⟩ := List.forall_mem_cons.mp idle
      have next : Rightful history (farewell first) := by
        unfold farewell
        split
        · trivial
        next free => exact ⟨present, once, still (Bool.eq_false_iff.mpr free)⟩
      rw [List.map_cons, ← List.singleton_append, ← List.append_assoc]
      apply ih
      · exact Journal.throughout_concat.mpr ⟨rightful, next⟩
      · exact others
      · intro transfer member
        rw [allocated_append]
        exact Or.inl (presents transfer member)
      · intro transfer member
        have different : first.number ≠ transfer.number := by
          intro same
          exact fresh (List.mem_map.mpr ⟨transfer, member, same.symm⟩)
        rw [freedCount_append, onces transfer member, (counts_farewell first _).2.2,
          if_neg fun both => different both.2]
      · intro transfer member free
        obtain ⟨none, silent, _⟩ := counts_farewell first transfer.number
        rw [accepted_append, called_append, none, silent]
        exact stills transfer member free

variable {β : Type} (stack : Stack β)

/-- Dropping the transfers frees them or leaks them, one after the other. -/
theorem history_dropTransfers (transfers : List Transfer) (journal : Journal StackEvent β) :
    (dropTransfers stack.journaled transfers journal).history =
      journal.history ++ transfers.map farewell := by
  induction transfers generalizing journal with
  | nil => exact (List.append_nil _).symm
  | cons first rest ih =>
      rw [dropTransfers, ih, List.map_cons, ← List.singleton_append, ← List.append_assoc]
      unfold farewell
      split
      · rw [stack.history_note]
      · rw [stack.history_free]

/-- Releasing the interface leaves the transfers alone. -/
theorem untouched_releaseInterface (session : Session (Journal StackEvent β)) :
    session.Untouched (session.releaseInterface stack.journaled) := by
  have released : session.Untouched
      { session with
        stackState := (stack.journaled.release session.interface session.stackState).2 } :=
    .of_event (stack.history_release session.stackState session.interface) rfl
  unfold releaseInterface
  dsimp only
  split
  · exact released
  next error _ =>
    have noted := released.trans (untouched_note stack (.releaseFailed session.interface error) _)
    exact noted.trans (.of_event (stack.history_release _ session.interface) rfl)

/-- All that is done on the stack to close a device. -/
theorem history_disconnect (session : Session (Journal StackEvent β)) :
    ∃ events, (session.disconnect stack.journaled).stackState.history =
        session.stackState.history ++ session.transfers.map farewell ++ events ∧
      ∀ event ∈ events, event.isQuiet = true := by
  obtain ⟨events, grown, quiet⟩ := (untouched_releaseInterface stack
    { session with
      stackState := dropTransfers stack.journaled session.transfers session.stackState }).grows
  refine ⟨events ++ [.closed], ?_, List.forall_mem_append.mpr ⟨quiet, ?_⟩⟩
  · unfold disconnect
    dsimp only
    rw [stack.history_close, grown, history_dropTransfers, ← List.append_assoc]
  · exact List.forall_mem_singleton.mpr rfl

/-- Closing the device keeps what was written down. -/
theorem history_prefix_disconnect (session : Session (Journal StackEvent β)) :
    session.stackState.history <+: (session.disconnect stack.journaled).stackState.history := by
  obtain ⟨events, grown, _⟩ := history_disconnect stack session
  rw [grown, List.append_assoc]
  exact ⟨_, rfl⟩

variable {calls : List RigEvent} {session : Session (Journal StackEvent β)}

/-- No transfer is bound twice. -/
theorem Bindings.nodup {history : List StackEvent} {transfers : List Transfer} {nextNumber : Nat}
    (bindings : Bindings history transfers nextNumber) :
    (transfers.map Transfer.number).Nodup := by
  have once : transfers.Nodup := by
    apply bindings.inOrder.imp
    intro first second before same
    rw [same] at before
    exact Nat.lt_irrefl _ before
  exact once.map_on fun first member second other same =>
    bindings.distinct first member second other same

/-- **The stack was used rightly to the end.** Of some transfers, all that there are, those that
are still marked as in flight were leaked, and the others freed, with nothing out. -/
structure Released (history : List StackEvent) (transfers : List Transfer) : Prop where
  rightful : Journal.Throughout Rightful history
  allocated : ∀ number, Allocated history number → ∃ transfer ∈ transfers, transfer.number = number
  freed : ∀ transfer ∈ transfers,
    freedCount history transfer.number = if transfer.inFlight then 0 else 1
  settled : ∀ transfer ∈ transfers, transfer.inFlight = false →
    accepted history transfer.number = called history transfer.number

/-- A session with a faithful host releases its transfers. -/
theorem Agrees.disconnect (agrees : session.Agrees calls)
    (faithful : Faithful (session.disconnect stack.journaled).stackState.history) :
    Released (session.disconnect stack.journaled).stackState.history session.transfers := by
  have before := faithful.of_isPrefix (history_prefix_disconnect stack session)
  obtain ⟨events, grown, quiet⟩ := history_disconnect stack session
  have bindings := Ledger.bindings agrees
  have counts := quiet_counts quiet
  have idle : ∀ transfer ∈ session.transfers, transfer.inFlight = false →
      accepted session.stackState.history transfer.number =
        called session.stackState.history transfer.number := by
    intro transfer member free
    apply Ledger.nothing_out agrees before member
    have marked := Ledger.marked agrees transfer member
    simpa [free] using marked
  have settled (transfer : Transfer) (member : transfer ∈ session.transfers) :
      freedCount (session.stackState.history ++ session.transfers.map farewell ++ events)
          transfer.number = (if transfer.inFlight then 0 else 1) ∧
        accepted (session.stackState.history ++ session.transfers.map farewell ++ events)
          transfer.number = accepted session.stackState.history transfer.number ∧
        called (session.stackState.history ++ session.transfers.map farewell ++ events)
          transfer.number = called session.stackState.history transfer.number := by
    obtain ⟨none, silent⟩ := counts_farewells session.transfers transfer.number
    obtain ⟨noMore, quieter, unfreed, _⟩ := counts transfer.number
    simp only [freedCount_append, accepted_append, called_append, none, silent, noMore, quieter,
      unfreed, Ledger.unfreed agrees, freedCount_farewells bindings.nodup member, Nat.zero_add,
      Nat.add_zero, and_self]
  rw [grown]
  refine ⟨?_, ?_, fun transfer member => (settled transfer member).1, ?_⟩
  · have freed := rightful_farewells (Ledger.rightful agrees) bindings.nodup
      (fun transfer member => (bindings.allocated _).mpr ⟨transfer, member, rfl⟩)
      (fun transfer _ => Ledger.unfreed agrees transfer.number) idle
    apply freed.append
    intro event member
    exact rightful_of_isQuiet (quiet event member)
  · intro number allocated
    rw [allocated_append, allocated_append, or_iff_left (counts number).2.2.2] at allocated
    rcases allocated with before | ⟨event, member, same⟩
    · exact (bindings.allocated number).mp before
    · obtain ⟨transfer, _, rfl⟩ := List.mem_map.mp member
      rw [allocation_farewell] at same
      contradiction
  · intro transfer member free
    rw [(settled transfer member).2.1, (settled transfer member).2.2]
    exact idle transfer member free

end UsbThroughput.Session
