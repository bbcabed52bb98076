import UsbThroughput.Proofs.Session.HostCalls

/-!
# Sessions with a transfer for each slot in turn

The slots of a test are first submitted in the order of their numbers, so that the session gives
each the transfer of its own number (`Session.Bound`). The mark of a transfer then tells whether it
is out, and the completion of a callback is that of the slot with the same number.
-/

namespace UsbThroughput

open Completion

/-- The transfer of a slot that has the number of the slot. -/
def Transfer.ofSlot (out : Nat → Bool) (slot : Nat) : Transfer where
  slot
  number := slot
  inFlight := out slot

namespace Session

private theorem insertTransfer_of_last {transfers : List Transfer} {transfer : Transfer}
    (before : ∀ other ∈ transfers, other.slot < transfer.slot) :
    insertTransfer transfer transfers = transfers ++ [transfer] := by
  induction transfers with
  | nil => rfl
  | cons first rest ih =>
      obtain ⟨earlier, others⟩ := List.forall_mem_cons.mp before
      rw [insertTransfer, if_neg (Nat.lt_asymm earlier), if_neg (Nat.ne_of_gt earlier), ih others]
      rfl

variable {β : Type} {session : Session β} {armed : Nat} {out : Nat → Bool}

private theorem mark_ofSlot (out : Nat → Bool) (id slot : Nat) :
    mark id (.ofSlot out slot) = .ofSlot (Function.update out id true) slot := by
  unfold mark Transfer.ofSlot
  by_cases same : slot = id
  · subst same
    rw [if_pos rfl, Function.update_self]
  · rw [if_neg same, Function.update_of_ne same]

/-- The slots up to one have their transfers, and those that are out are marked. -/
structure Bound (armed : Nat) (out : Nat → Bool) (session : Session β) : Prop where
  transfers : session.transfers = (List.range armed).map (Transfer.ofSlot out)
  numbered : session.nextNumber = armed
  below : ∀ id, out id = true → id < armed

namespace Bound

variable (bound : session.Bound armed out)

include bound

/-- The transfers of a bound session are in order. -/
theorem inOrder : InOrder session.transfers := by
  rw [bound.transfers]
  exact List.pairwise_map.mpr List.pairwise_lt_range

private theorem mem_iff {transfer : Transfer} :
    transfer ∈ session.transfers ↔ ∃ id < armed, transfer = .ofSlot out id := by
  rw [bound.transfers, List.mem_map]
  simp only [List.mem_range, eq_comm]

/-- Each slot that was armed has its transfer. -/
theorem transfer_eq {id : Nat} (reached : id < armed) :
    session.transfer? id = some (.ofSlot out id) := by
  have member : Transfer.ofSlot out id ∈ session.transfers := bound.mem_iff.mpr ⟨id, reached, rfl⟩
  cases found : session.transfer? id with
  | none => exact absurd rfl (slot_ne_of_transfer found _ member)
  | some transfer =>
      obtain ⟨there, named⟩ := mem_of_transfer found
      rw [bound.inOrder.eq_of_slot there member named]

/-- A slot that was never armed has no transfer. -/
theorem transfer_eq_none {id : Nat} (fresh : armed ≤ id) : session.transfer? id = none := by
  cases found : session.transfer? id with
  | none => rfl
  | some transfer =>
      obtain ⟨there, rfl⟩ := mem_of_transfer found
      obtain ⟨id, reached, rfl⟩ := bound.mem_iff.mp there
      exact absurd fresh (Nat.not_le_of_lt reached)

/-- A callback of a transfer that is out puts in the completion of its slot. -/
theorem completionOf_eq {callback : Callback} (flying : out callback.transfer = true) :
    session.completionOf? callback = some callback.completion := by
  have member : Transfer.ofSlot out callback.transfer ∈ session.transfers :=
    bound.mem_iff.mpr ⟨_, bound.below _ flying, rfl⟩
  unfold completionOf?
  cases found : session.transfers.find? fun transfer => transfer.number == callback.transfer with
  | none => exact absurd (beq_self_eq_true _) (List.find?_eq_none.mp found _ member)
  | some transfer =>
      have named := List.find?_some found
      obtain ⟨id, _, rfl⟩ := bound.mem_iff.mp (List.mem_of_find?_eq_some found)
      obtain rfl : id = callback.transfer := eq_of_beq named
      rfl

/-- Callbacks of transfers that are out bring in one completion each. -/
theorem completions_eq {callbacks : List Callback}
    (flying : ∀ callback ∈ callbacks, out callback.transfer = true) :
    callbacks.filterMap session.completionOf? = callbacks.map Callback.completion := by
  rw [← List.filterMap_eq_map]
  exact List.filterMap_congr fun callback member => bound.completionOf_eq (flying callback member)

/-- A slot that is submitted in its turn has the transfer of its number, or gets it. -/
theorem obtainTransfer {stack : Stack β} {id : Nat} (turn : id ≤ armed)
    (memory : (stack.allocate armed session.stackState).1 = true) :
    ∃ stackState, (stackState = session.stackState ∨
        stackState = (stack.allocate armed session.stackState).2) ∧
      session.obtainTransfer stack id =
        (.ok (.ofSlot out id),
          { session with
            stackState
            nextNumber := max armed (id + 1)
            transfers := (List.range (max armed (id + 1))).map (Transfer.ofSlot out) }) := by
  rcases Nat.lt_or_eq_of_le turn with reached | rfl
  · refine ⟨session.stackState, Or.inl rfl, ?_⟩
    unfold Session.obtainTransfer
    rw [bound.transfer_eq reached, Nat.max_eq_left reached, ← bound.transfers, ← bound.numbered]
  · have free : out id = false :=
      Bool.eq_false_iff.mpr fun flying => Nat.lt_irrefl id (bound.below id flying)
    have last : insertTransfer { slot := id, number := id, inFlight := false } session.transfers =
        (List.range (id + 1)).map (Transfer.ofSlot out) := by
      rw [bound.transfers, insertTransfer_of_last, List.range_succ, List.map_append,
        List.map_singleton, Transfer.ofSlot.eq_def out id, free]
      refine List.forall_mem_map.mpr fun other member => ?_
      exact List.mem_range.mp member
    refine ⟨_, Or.inr rfl, ?_⟩
    rcases obtainTransfer_cases stack id session with
      ⟨_, found, _⟩ | ⟨_, failed, _⟩ | ⟨_, _, same⟩
    · rw [bound.transfer_eq_none (Nat.le_refl id)] at found
      contradiction
    · rw [bound.numbered, memory] at failed
      contradiction
    · rw [same, bound.numbered, last, Nat.max_eq_right (Nat.le_succ id), Transfer.ofSlot.eq_def,
        free]

/-- **The submission of a slot in its turn** is one of the transfer with its number. -/
theorem submit {stack : Stack β} {slot : Slot} (fits : slot.Fits) (turn : slot.id ≤ armed)
    (memory : (stack.allocate armed session.stackState).1 = true) :
    ∃ stackState, (stackState = session.stackState ∨
        stackState = (stack.allocate armed session.stackState).2) ∧
      (session.submit stack slot).1 = UsbResult.ofCode (stack.submit slot.request stackState).1 ∧
      (session.submit stack slot).2.stackState = (stack.submit slot.request stackState).2 ∧
      (session.submit stack slot).2.arrivals = session.arrivals ∧
      ((session.submit stack slot).1 = .ok () →
        (session.submit stack slot).2.Bound (max armed (slot.id + 1))
          (Function.update out slot.id true)) ∧
      ∀ error, (session.submit stack slot).1 = .error error →
        (session.submit stack slot).2.Bound (max armed (slot.id + 1)) out := by
  obtain ⟨stackState, known, obtained⟩ := bound.obtainTransfer turn memory
  refine ⟨stackState, known, ?_⟩
  have reached : slot.id < max armed (slot.id + 1) := Nat.le_max_right _ _
  have below : ∀ id, out id = true → id < max armed (slot.id + 1) := fun id flying =>
    Nat.lt_of_lt_of_le (bound.below id flying) (Nat.le_max_left _ _)
  have kept : Bound (max armed (slot.id + 1)) out { session with
      stackState
      nextNumber := max armed (slot.id + 1)
      transfers := (List.range (max armed (slot.id + 1))).map (Transfer.ofSlot out) } :=
    ⟨rfl, rfl, below⟩
  have member : Transfer.ofSlot out slot.id ∈
      (List.range (max armed (slot.id + 1))).map (Transfer.ofSlot out) :=
    List.mem_map_of_mem (List.mem_range.mpr reached)
  have marks := insertTransfer_mark kept.inOrder member
  have same : request (.ofSlot out slot.id) slot = slot.request := rfl
  unfold Session.submit
  rw [if_neg (Nat.not_le_of_lt fits.placed), obtained]
  dsimp only
  rw [if_neg (Nat.not_lt_of_le fits.short), same]
  cases result : UsbResult.ofCode (stack.submit slot.request stackState).1 with
  | error error => exact ⟨rfl, rfl, rfl, nofun, fun _ _ => ⟨rfl, rfl, below⟩⟩
  | ok _ =>
      refine ⟨rfl, rfl, rfl, fun _ => ⟨?_, rfl, ?_⟩, nofun⟩
      · refine marks.trans ?_
        rw [List.map_map]
        exact List.map_congr_left fun id _ => mark_ofSlot out slot.id id
      · intro id flying
        by_cases named : id = slot.id
        · exact named ▸ reached
        · rw [Function.update_of_ne named] at flying
          exact below id flying

/-- A slot is cancelled if it is out. -/
theorem cancel (stack : Stack β) (slot : Slot) :
    session.cancel stack slot =
      if out slot.id then
        (UsbResult.ofCode (stack.cancel slot.id session.stackState).1,
          { session with stackState := (stack.cancel slot.id session.stackState).2 })
      else (.error .notFound, session) := by
  unfold Session.cancel
  rcases Nat.lt_or_ge slot.id armed with reached | fresh
  · rw [bound.transfer_eq reached]
    rfl
  · have free : out slot.id = false :=
      Bool.eq_false_iff.mpr fun flying => Nat.not_lt_of_le fresh (bound.below _ flying)
    rw [bound.transfer_eq_none fresh, free]
    rfl

/-- When completions are handed over, their transfers are not out any more. -/
theorem takeArrivals :
    session.takeArrivals.2.Bound armed (stillOut session.arrivals out) where
  transfers := by
    change session.transfers.map (unmark session.arrivals) = _
    rw [bound.transfers, List.map_map]
    refine List.map_congr_left fun id _ => ?_
    change unmark session.arrivals (.ofSlot out id) = _
    unfold unmark Transfer.ofSlot stillOut
    cases session.arrivals.any fun completion => completion.slot == id with
    | true => rw [if_pos rfl, Bool.not_true, Bool.and_false]
    | false => rw [if_neg Bool.false_ne_true, Bool.not_false, Bool.and_true]
  numbered := bound.numbered
  below id flying := bound.below id (Bool.and_eq_true_iff.mp flying).1

end Bound

end Session

end UsbThroughput
