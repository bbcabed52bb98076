import Mathlib.Data.List.Nodup
import UsbThroughput.Session

/-!
# The transfers of a session

A session keeps its transfers in the order of their slots, at most one for each slot
(`Session.InOrder`). Binding a transfer puts it in place of the one for the same slot, if there is
one, and leaves the others alone.
-/

namespace UsbThroughput.Session

/-- Transfers in the order of their slots. -/
def InOrder (transfers : List Transfer) : Prop :=
  transfers.Pairwise fun first second => first.slot < second.slot

variable {transfers : List Transfer} {transfer : Transfer}

/-- There is at most one transfer for a slot. -/
theorem InOrder.eq_of_slot (inOrder : InOrder transfers) {first second : Transfer}
    (member : first ∈ transfers) (other : second ∈ transfers)
    (same : first.slot = second.slot) : first = second := by
  have apart : (transfers.map Transfer.slot).Nodup := by
    apply List.pairwise_map.mpr
    exact inOrder.imp Nat.ne_of_lt
  exact List.inj_on_of_nodup_map apart member other same

/-- A transfer replaces the one of its slot, and leaves the others. -/
theorem mem_insertTransfer (inOrder : InOrder transfers) {other : Transfer} :
    other ∈ insertTransfer transfer transfers ↔
      other = transfer ∨ other ∈ transfers ∧ other.slot ≠ transfer.slot := by
  induction transfers with
  | nil => simp [insertTransfer]
  | cons first rest ih =>
      obtain ⟨before, later⟩ := List.pairwise_cons.mp inOrder
      unfold insertTransfer
      split
      next earlier =>
        have apart : ∀ next ∈ first :: rest, next.slot ≠ transfer.slot := by
          intro next member
          rcases List.mem_cons.mp member with rfl | among
          · omega
          · have := before next among
            omega
        rw [List.mem_cons]
        constructor
        · rintro (same | among)
          · exact Or.inl same
          · exact Or.inr ⟨among, apart other among⟩
        · rintro (same | ⟨among, _⟩)
          · exact Or.inl same
          · exact Or.inr among
      next late =>
        split
        next same =>
          have apart : ∀ next ∈ rest, next.slot ≠ transfer.slot := by
            intro next member
            have := before next member
            omega
          simp only [List.mem_cons]
          constructor
          · rintro (equal | among)
            · exact Or.inl equal
            · exact Or.inr ⟨Or.inr among, apart other among⟩
          · rintro (equal | ⟨rfl | among, different⟩)
            · exact Or.inl equal
            · exact absurd same.symm different
            · exact Or.inr among
        next different =>
          simp only [List.mem_cons, ih later]
          constructor
          · rintro (rfl | equal | ⟨among, apart⟩)
            · exact Or.inr ⟨Or.inl rfl, Ne.symm different⟩
            · exact Or.inl equal
            · exact Or.inr ⟨Or.inr among, apart⟩
          · rintro (equal | ⟨rfl | among, apart⟩)
            · exact Or.inr (Or.inl equal)
            · exact Or.inl rfl
            · exact Or.inr (Or.inr ⟨among, apart⟩)

/-- Nothing but the new transfer is added. -/
theorem mem_of_mem_insertTransfer {other : Transfer}
    (member : other ∈ insertTransfer transfer transfers) :
    other = transfer ∨ other ∈ transfers := by
  induction transfers with
  | nil => exact Or.inl (List.mem_singleton.mp member)
  | cons first rest ih =>
      unfold insertTransfer at member
      split at member
      · exact List.mem_cons.mp member
      · split at member
        · rcases List.mem_cons.mp member with same | among
          · exact Or.inl same
          · exact Or.inr (List.mem_cons_of_mem first among)
        · rcases List.mem_cons.mp member with rfl | among
          · exact Or.inr List.mem_cons_self
          · exact (ih among).imp_right (List.mem_cons_of_mem first)

/-- Transfers stay in the order of their slots. -/
theorem InOrder.insert (inOrder : InOrder transfers) (transfer : Transfer) :
    InOrder (insertTransfer transfer transfers) := by
  induction transfers with
  | nil => exact List.pairwise_singleton _ _
  | cons first rest ih =>
      obtain ⟨before, later⟩ := List.pairwise_cons.mp inOrder
      unfold insertTransfer
      split
      next earlier =>
        refine List.pairwise_cons.mpr ⟨?_, inOrder⟩
        intro next member
        rcases List.mem_cons.mp member with rfl | among
        · exact earlier
        · exact Nat.lt_trans earlier (before next among)
      next late =>
        split
        next same =>
          refine List.pairwise_cons.mpr ⟨?_, later⟩
          intro next member
          rw [same]
          exact before next member
        next different =>
          refine List.pairwise_cons.mpr ⟨?_, ih later⟩
          intro next member
          rcases (mem_insertTransfer later).mp member with rfl | ⟨among, _⟩
          · omega
          · exact before next among

/-! ## Marks -/

/-- A transfer with its mark, if it is the one of a slot. -/
def mark (slot : Nat) (transfer : Transfer) : Transfer :=
  if transfer.slot = slot then { transfer with inFlight := true } else transfer

@[simp] theorem slot_mark (slot : Nat) (transfer : Transfer) :
    (mark slot transfer).slot = transfer.slot := by
  unfold mark
  split <;> rfl

@[simp] theorem number_mark (slot : Nat) (transfer : Transfer) :
    (mark slot transfer).number = transfer.number := by
  unfold mark
  split <;> rfl

/-- The transfer of another slot is left as it is. -/
theorem mark_of_ne {slot : Nat} (apart : transfer.slot ≠ slot) : mark slot transfer = transfer :=
  if_neg apart

/-- Binding a transfer with its mark does nothing but mark it. -/
theorem insertTransfer_mark (inOrder : InOrder transfers) (member : transfer ∈ transfers) :
    insertTransfer { transfer with inFlight := true } transfers =
      transfers.map (mark transfer.slot) := by
  induction transfers with
  | nil => exact absurd member List.not_mem_nil
  | cons first rest ih =>
      obtain ⟨before, later⟩ := List.pairwise_cons.mp inOrder
      rw [insertTransfer, List.map_cons]
      rcases List.mem_cons.mp member with rfl | among
      · have others : rest.map (mark transfer.slot) = rest.map id := by
          apply List.map_congr_left
          intro next there
          exact mark_of_ne (Nat.ne_of_gt (before next there))
        rw [if_neg (Nat.lt_irrefl _), if_pos rfl, others, List.map_id, mark, if_pos rfl]
      · have earlier : first.slot < transfer.slot := before transfer among
        rw [if_neg (Nat.lt_asymm earlier), if_neg (Nat.ne_of_gt earlier), ih later among,
          mark_of_ne (Nat.ne_of_lt earlier)]

/-- A transfer without its mark, if a completion of its slot is among some. -/
def unmark (arrivals : List Completion) (transfer : Transfer) : Transfer :=
  if arrivals.any fun completion => completion.slot == transfer.slot then
    { transfer with inFlight := false }
  else transfer

@[simp] theorem slot_unmark (arrivals : List Completion) (transfer : Transfer) :
    (unmark arrivals transfer).slot = transfer.slot := by
  unfold unmark
  split <;> rfl

@[simp] theorem number_unmark (arrivals : List Completion) (transfer : Transfer) :
    (unmark arrivals transfer).number = transfer.number := by
  unfold unmark
  split <;> rfl

/-! ## Finding a transfer -/

variable {β : Type} {session : Session β}

/-- The transfer that is found for a slot is one of the session's. -/
theorem mem_of_transfer {slot : Nat} (found : session.transfer? slot = some transfer) :
    transfer ∈ session.transfers ∧ transfer.slot = slot := by
  have named := List.find?_some found
  exact ⟨List.mem_of_find?_eq_some found, eq_of_beq named⟩

/-- A slot without a transfer has none. -/
theorem slot_ne_of_transfer {slot : Nat} (absent : session.transfer? slot = none) :
    ∀ transfer ∈ session.transfers, transfer.slot ≠ slot := by
  intro transfer member same
  exact List.find?_eq_none.mp absent transfer member (beq_iff_eq.mpr same)

/-- Each transfer is the one of its slot. -/
theorem InOrder.transfer_eq (inOrder : InOrder session.transfers)
    (member : transfer ∈ session.transfers) :
    session.transfer? transfer.slot = some transfer := by
  cases found : session.transfer? transfer.slot with
  | none => exact (slot_ne_of_transfer found transfer member rfl).elim
  | some other =>
      obtain ⟨among, same⟩ := mem_of_transfer found
      rw [inOrder.eq_of_slot among member same]

/-- What is found after a transfer was put in: the transfer for its slot, and what there was for
any other. -/
theorem find?_insertTransfer (transfer : Transfer) (transfers : List Transfer) (id : Nat) :
    (insertTransfer transfer transfers).find? (fun other => other.slot == id) =
      if transfer.slot = id then some transfer
      else transfers.find? fun other => other.slot == id := by
  have skip {other : Transfer} (apart : other.slot ≠ id) (rest : List Transfer) :
      (other :: rest).find? (fun next => next.slot == id) =
        rest.find? fun next => next.slot == id :=
    List.find?_cons_of_neg (mt eq_of_beq apart)
  have stop {other : Transfer} (named : other.slot = id) (rest : List Transfer) :
      (other :: rest).find? (fun next => next.slot == id) = some other :=
    List.find?_cons_of_pos (beq_iff_eq.mpr named)
  by_cases named : transfer.slot = id
  · rw [if_pos named]
    induction transfers with
    | nil => exact stop named []
    | cons first rest ih =>
        unfold insertTransfer
        split
        · exact stop named _
        · split
          · exact stop named _
          next different => rw [skip (named ▸ Ne.symm different), ih]
  · rw [if_neg named]
    induction transfers with
    | nil => exact skip named []
    | cons first rest ih =>
        unfold insertTransfer
        split
        · exact skip named _
        · split
          next same => rw [skip named, skip (same ▸ named)]
          · rw [List.find?_cons, List.find?_cons, ih]

/-- The number of the transfer that is bound to a slot. -/
def number? (session : Session β) (id : Nat) : Option Nat :=
  (session.transfer? id).map Transfer.number

/-- Whether the transfer of a slot is marked as in flight. -/
def isInFlight (session : Session β) (id : Nat) : Bool :=
  (session.transfer? id).any Transfer.inFlight

/-- The number of a slot is that of its transfer. -/
theorem number?_of_transfer {id : Nat} (found : session.transfer? id = some transfer) :
    session.number? id = some transfer.number :=
  congrArg (Option.map Transfer.number) found

@[simp] theorem number?_bindTransfer (transfer : Transfer) (session : Session β) (id : Nat) :
    (session.bindTransfer transfer).number? id =
      if transfer.slot = id then some transfer.number else session.number? id :=
  (congrArg (Option.map Transfer.number) (find?_insertTransfer transfer session.transfers id)).trans
    (apply_ite (Option.map Transfer.number) ..)

@[simp] theorem isInFlight_bindTransfer (transfer : Transfer) (session : Session β) (id : Nat) :
    (session.bindTransfer transfer).isInFlight id =
      if transfer.slot = id then transfer.inFlight else session.isInFlight id :=
  (congrArg (Option.any Transfer.inFlight)
    (find?_insertTransfer transfer session.transfers id)).trans
    (apply_ite (Option.any Transfer.inFlight) ..)

/-- What is found after all transfers were changed, but left to their slots. -/
theorem transfer?_of_map {last : Session β} {change : Transfer → Transfer}
    (slots : ∀ transfer, (change transfer).slot = transfer.slot)
    (transfers : last.transfers = session.transfers.map change) (id : Nat) :
    last.transfer? id = (session.transfer? id).map change := by
  have same : ((fun transfer => transfer.slot == id) ∘ change) =
      fun transfer => transfer.slot == id :=
    funext fun transfer => by rw [Function.comp_apply, slots]
  rw [transfer?, transfers, List.find?_map, same]
  rfl

/-- A callback of one of the session's transfers puts in a completion of its slot, any other
nothing. -/
theorem completionOf_cases (session : Session β) (callback : Callback) :
    (session.completionOf? callback = none ∧
      ∀ transfer ∈ session.transfers, transfer.number ≠ callback.transfer) ∨
    ∃ transfer ∈ session.transfers, transfer.number = callback.transfer ∧
      ∃ completion, session.completionOf? callback = some completion ∧
        completion.slot = transfer.slot := by
  unfold completionOf?
  cases found : session.transfers.find? fun transfer => transfer.number == callback.transfer with
  | none =>
      refine Or.inl ⟨rfl, fun transfer member same => ?_⟩
      exact List.find?_eq_none.mp found transfer member (beq_iff_eq.mpr same)
  | some transfer =>
      have named := List.find?_some found
      exact Or.inr ⟨transfer, List.mem_of_find?_eq_some found, eq_of_beq named, _, rfl, rfl⟩

end UsbThroughput.Session
