import UsbThroughput.Proofs.Run.Accounting
import UsbThroughput.Proofs.Session.Operations

/-!
# The ledger over a run

A run on the sessions of a stack, with journals of the calls on both (`Stack.watched`). As long as
the host below is faithful, every elementary change of the run keeps the ledger of its session
along with the accounts of its slots (`Run.Kept`). Each keeps up the other: a faithful host makes
for a faithful device, and accounts that are balanced let a slot be submitted only with nothing
of it out.
-/

namespace UsbThroughput

open RigEvent Completion

/-- A session on a stack with a journal, as the state of a rig with a journal. -/
abbrev Watched (β : Type) := Journal RigEvent (Session (Journal StackEvent β))

/-- The sessions of a stack as a rig, with journals of the calls on the rig and on the stack. -/
abbrev Stack.watched {β : Type} (stack : Stack β) : Rig (Watched β) :=
  (Session.rig stack.journaled).journaled

namespace Run

variable {β : Type}

/-- The calls on the stack. -/
def stackHistory (run : Run (Watched β)) : List StackEvent := run.rigState.state.stackState.history

/-- The transfers of the session. -/
def transfers (run : Run (Watched β)) : List Transfer := run.rigState.state.transfers

/-- The ledger of the session agrees with the calls on the rig. -/
def Agrees (run : Run (Watched β)) : Prop := run.rigState.state.Agrees run.rigState.history

/-- Balanced accounts and a ledger that agrees, with transfers for slots of the queue only. -/
structure Kept (taken : List Completion) (run : Run (Watched β)) : Prop where
  accounts : run.Accounts taken
  agrees : run.Agrees
  placed : ∀ transfer ∈ run.transfers, transfer.slot < run.queue.depth

variable {stack : Stack β} {scope : Scope} {run last : Run (Watched β)}
  {taken next : List Completion}

/-! ## Quiet changes -/

/-- A quiet change asks the stack for nothing about any transfer. -/
theorem Move.untouched (move : Move stack.watched .quiet run next last) :
    run.rigState.state.Untouched last.rigState.state := by
  cases move with
  | note notice => exact Session.untouched_note stack notice run.rigState.state
  | now => exact Session.untouched_now stack run.rigState.state
  | write endpoint data timeout =>
      exact Session.untouched_write stack endpoint data timeout run.rigState.state
  | cancel id slot _ _ _ =>
      exact Session.untouched_cancel stack slot.requestCancel run.rigState.state
  | take completion rest _ =>
      rw [rigState_receive]
      exact .refl
  | setAside => exact .refl
  | tend => exact .refl
  | clearHalt _ _ loud => contradiction
  | poll _ loud => contradiction
  | submit _ _ _ _ loud => contradiction

/-- A quiet path leaves the transfers of the session alone. -/
theorem Path.untouched (path : Path stack.watched .quiet run taken last) :
    run.rigState.state.Untouched last.rigState.state := by
  induction path with
  | refl => exact .refl
  | step _ move ih => exact ih.trans move.untouched

/-- Where nothing was asked about transfers, the ledger still agrees. -/
theorem Agrees.of_untouched (agrees : run.Agrees)
    (untouched : run.rigState.state.Untouched last.rigState.state)
    (grows : Grows .quiet run last) : last.Agrees := by
  obtain ⟨events, grown, quiet⟩ := grows
  unfold Agrees
  rw [grown]
  exact (Session.Agrees.of_untouched agrees untouched).of_quiet (quiet rfl)

/-- A quiet path leaves the ledger in agreement. -/
theorem Path.agrees (path : Path stack.watched .quiet run taken last) (agrees : run.Agrees) :
    last.Agrees :=
  agrees.of_untouched path.untouched path.grows

/-! ## All changes -/

/-- An elementary change is quiet, or it is one of the three that are not. -/
theorem Move.quiet_or {σ : Type} {rig : Rig σ} {run last : Run σ} {next : List Completion}
    (move : Move rig scope run next last) :
    Move rig .quiet run next last ∨
    (∃ endpoint, last =
      { run with rigState := (rig.clearHalt endpoint run.rigState).2 }) ∨
    (∃ timeout, last =
      { run with
        rigState := (rig.poll timeout run.rigState).2
        arrivals := run.arrivals ++ (rig.poll timeout run.rigState).1.delivered }) ∨
    ∃ id slot, run.queue.slot? id = some slot ∧ slot.isSubmitted = false ∧ last =
      { run with rigState := (slot.submit rig run.rigState).2 }.putSlot id
        (slot.submit rig run.rigState).1.2 := by
  cases move with
  | note notice => exact Or.inl (.note run notice)
  | now => exact Or.inl (.now run)
  | write endpoint data timeout => exact Or.inl (.write run endpoint data timeout)
  | take completion rest waiting => exact Or.inl (.take run completion rest waiting)
  | cancel id slot held flying unasked => exact Or.inl (.cancel run id slot held flying unasked)
  | setAside id slot held free => exact Or.inl (.setAside run id slot held free)
  | tend meter channel recoveries halted stage =>
      exact Or.inl (.tend run meter channel recoveries halted stage)
  | clearHalt endpoint _ _ => exact Or.inr (Or.inl ⟨endpoint, rfl⟩)
  | poll timeout _ => exact Or.inr (Or.inr (Or.inl ⟨timeout, rfl⟩))
  | submit id slot held free _ => exact Or.inr (Or.inr (Or.inr ⟨id, slot, held, free, rfl⟩))

/-- What a submission does to the state of the rig: nothing, or what the rig does. -/
theorem rigState_submit {σ : Type} (rig : Rig σ) {slot : Slot} (free : slot.isSubmitted = false)
    (state : σ) : (slot.submit rig state).2 = (rig.submit slot.reset state).2 := by
  rcases slot.submit_cases rig state with ⟨flying, _⟩ | ⟨_, _, same⟩ | ⟨_, _, _, same⟩
  · rw [free] at flying
    contradiction
  · rw [same]
  · rw [same]

/-- Nothing is taken back from the history of the stack. -/
theorem Move.prefix_stackHistory (move : Move stack.watched scope run next last) :
    run.stackHistory <+: last.stackHistory := by
  rcases move.quiet_or with quiet | ⟨endpoint, rfl⟩ | ⟨timeout, rfl⟩ | ⟨id, slot, _, free, rfl⟩
  · exact quiet.untouched.prefix_history
  · exact (Session.untouched_clearHalt stack endpoint run.rigState.state).prefix_history
  · exact Session.history_prefix_poll stack timeout run.rigState.state
  · unfold stackHistory
    change _ <+: (slot.submit stack.watched run.rigState).2.state.stackState.history
    rw [rigState_submit stack.watched free]
    exact Session.history_prefix_submit stack slot.reset run.rigState.state

/-- A submission keeps the accounts balanced and the ledger in agreement. -/
theorem Kept.submit (kept : Kept taken run) {id : Nat} {slot : Slot}
    (held : run.queue.slot? id = some slot) (free : slot.isSubmitted = false)
    (submitted : last = { run with rigState := (slot.submit stack.watched run.rigState).2 }.putSlot
      id (slot.submit stack.watched run.rigState).1.2)
    (faithful : StackEvent.Faithful last.stackHistory) : last.Agrees := by
  subst submitted
  -- The ledger is asked about the slot, and only the accounts know that nothing of it is out.
  have grounded : run.queue.flying id = 0 := by
    rw [Queue.flying_of_slot kept.accounts.numbered held, free, if_neg Bool.false_ne_true]
  have out : accepted run.rigState.history slot.reset.id =
      countFor (delivered run.rigState.history) slot.reset.id := by
    have named : slot.reset.id = id := kept.accounts.numbered id slot held
    rw [named]
    exact kept.accounts.nothing_out kept.agrees.faithful grounded
  unfold stackHistory at faithful
  unfold Agrees
  change StackEvent.Faithful (slot.submit stack.watched run.rigState).2.state.stackState.history
    at faithful
  change Session.Agrees (slot.submit stack.watched run.rigState).2.history
    (slot.submit stack.watched run.rigState).2.state
  rw [rigState_submit stack.watched free] at faithful ⊢
  rw [Rig.history_submit]
  exact Session.Agrees.submit stack kept.agrees faithful out

/-- On a faithful stack a move leaves the ledger in agreement. -/
theorem Move.agrees (move : Move stack.watched scope run next last)
    (faithful : StackEvent.Faithful last.stackHistory) (kept : Kept taken run) : last.Agrees := by
  rcases move.quiet_or with quiet | ⟨endpoint, rfl⟩ | ⟨timeout, rfl⟩ | ⟨id, slot, held, free, rfl⟩
  · exact kept.agrees.of_untouched quiet.untouched quiet.grows
  · have cleared := Session.Agrees.of_untouched kept.agrees
      (Session.untouched_clearHalt stack endpoint run.rigState.state)
    unfold Agrees
    dsimp only
    rw [Rig.history_clearHalt]
    exact cleared.of_call (fun _ => rfl) rfl
  · have polled := Session.Agrees.poll stack kept.agrees timeout faithful
    unfold Agrees
    dsimp only
    rw [Rig.history_poll]
    exact polled
  · exact kept.submit held free rfl faithful

/-- No slot outside the queue gets a transfer. -/
theorem Move.placed (move : Move stack.watched scope run next last)
    (numbered : run.queue.Numbered)
    (placed : ∀ transfer ∈ run.transfers, transfer.slot < run.queue.depth) :
    ∀ transfer ∈ last.transfers, transfer.slot < last.queue.depth := by
  have depth : last.queue.depth = run.queue.depth := by
    simpa [Queue.depth] using congrArg List.length move.makes_eq
  intro transfer member
  rw [depth]
  rcases move.quiet_or with quiet | ⟨endpoint, rfl⟩ | ⟨timeout, rfl⟩ | ⟨id, slot, held, free, rfl⟩
  · have same : last.transfers = run.transfers := quiet.untouched.transfers
    rw [same] at member
    exact placed transfer member
  · exact placed transfer member
  · obtain ⟨other, among, same⟩ := Session.slot_of_mem_poll stack member
    rw [← same]
    exact placed other among
  · change transfer ∈ (slot.submit stack.watched run.rigState).2.state.transfers at member
    rw [rigState_submit stack.watched free] at member
    rcases Session.slot_of_mem_submit stack member with named | among
    · rw [named]
      change slot.id < _
      rw [numbered id slot held]
      exact (List.getElem?_eq_some_iff.mp held).1
    · exact placed transfer among

/-- **An elementary change keeps accounts and ledger together.** -/
theorem Move.kept (move : Move stack.watched scope run next last)
    (faithful : StackEvent.Faithful last.stackHistory) (kept : Kept taken run) :
    Kept (taken ++ next) last where
  accounts := move.accounts kept.agrees.faithful kept.accounts
  agrees := move.agrees faithful kept
  placed := move.placed kept.accounts.numbered kept.placed

/-- A path keeps what was asked of the stack. -/
theorem Path.prefix_stackHistory (path : Path stack.watched scope run taken last) :
    run.stackHistory <+: last.stackHistory := by
  induction path with
  | refl => exact List.prefix_refl _
  | step _ move ih => exact ih.trans move.prefix_stackHistory

/-- So does every sequence of them. -/
theorem Path.kept {earlier : List Completion} (path : Path stack.watched scope run next last)
    (faithful : StackEvent.Faithful last.stackHistory) (kept : Kept earlier run) :
    Kept (earlier ++ next) last := by
  induction path with
  | refl =>
      rw [List.append_nil]
      exact kept
  | step path move ih =>
      rw [← List.append_assoc]
      exact move.kept faithful (ih (faithful.of_isPrefix move.prefix_stackHistory))

end Run

end UsbThroughput
