import UsbThroughput.Proofs.Benchmark.InFlight
import UsbThroughput.Proofs.Run.Bounds
import UsbThroughput.Proofs.Run.Ending
import UsbThroughput.Proofs.Run.Mirror
import UsbThroughput.Proofs.Session.Course
import UsbThroughput.Proofs.Session.Teardown
import UsbThroughput.Script.Stack

/-!
# Who owns the transfers

A benchmark on the sessions of a stack whose host runs callbacks at most once for each accepted
submission. The transfers are submitted and freed only with nothing outstanding, to the very end
(`Benchmark.rightful_watched`), and those that are leaked are the transfers of the slots that were
abandoned (`Benchmark.parting_watched`). A run that is broken off abandons no slot, and leaks the
transfers of those whose completion it has not heard of (`Benchmark.severed_watched`).
-/

namespace UsbThroughput

namespace Run

variable {β : Type} {stack : Stack β} {run last : Run (Watched β)}

/-- The transfer of a slot in flight is marked, unless the completion of the slot is at hand. -/
theorem Kept.marks {taken : List Completion} (kept : Kept taken run) {transfer : Transfer}
    (member : transfer ∈ run.transfers) {slot : Slot}
    (held : run.queue.slot? transfer.slot = some slot) :
    Completion.countFor run.arrivals transfer.slot + (if transfer.inFlight then 1 else 0) =
      if slot.isSubmitted then 1 else 0 := by
  have marked := Session.Ledger.marked kept.agrees transfer member
  have balanced := kept.accounts.balanced transfer.slot
  rw [Queue.flying_of_slot kept.accounts.numbered held] at balanced
  rw [kept.accounts.handed, Completion.countFor_append, balanced, Nat.add_assoc] at marked
  exact (Nat.add_left_cancel marked).symm

/-- A run that is about to abandon its slots marks just the transfers of those in flight. -/
theorem Kept.marked {taken : List Completion} (kept : Kept taken run) (empty : run.arrivals = [])
    {transfer : Transfer} (member : transfer ∈ run.transfers) {slot : Slot}
    (held : run.queue.slot? transfer.slot = some slot) :
    transfer.inFlight = slot.isSubmitted := by
  have marks := kept.marks member held
  rw [empty, Completion.countFor_nil, Nat.zero_add] at marks
  cases mark : transfer.inFlight <;> cases flying : slot.isSubmitted <;> simp_all

/-- A slot in flight has a transfer. -/
theorem Kept.bound {taken : List Completion} (kept : Kept taken run) {id : Nat} {slot : Slot}
    (held : run.queue.slot? id = some slot) (flying : slot.isSubmitted = true) :
    ∃ transfer ∈ run.transfers, transfer.slot = id := by
  -- Without a transfer the slot was never taken, so it would not be in flight.
  by_contra none
  have apart : ∀ transfer ∈ run.transfers, transfer.slot ≠ id := by
    intro transfer member same
    exact none ⟨transfer, member, same⟩
  have idle := (Session.Ledger.unbound kept.agrees id apart).1
  have balanced := kept.accounts.balanced id
  rw [idle, Queue.flying_of_slot kept.accounts.numbered held, if_pos flying] at balanced
  omega

/-- Abandoning slots asks the stack for nothing. -/
theorem untouched_abandonEach (slots : List Slot) (journal : Watched β) :
    journal.state.Untouched (Queue.abandonEach stack.watched slots journal).2.state := by
  induction slots generalizing journal with
  | nil => exact .refl
  | cons slot rest ih =>
      unfold Queue.abandonEach
      cases slot.isSubmitted with
      | true =>
          have noted := Session.untouched_note stack (.abandoned slot.id) journal.state
          exact noted.trans (ih (stack.watched.note (.abandoned slot.id) journal))
      | false => exact ih journal

private theorem untouched_abandonQueue (run : Run (Watched β)) :
    run.rigState.state.Untouched (run.abandonQueue stack.watched).rigState.state :=
  untouched_abandonEach run.queue.slots run.rigState

/-- Giving up the slots leaves the ledger in agreement. -/
theorem Agrees.abandonQueue (agrees : run.Agrees) : (run.abandonQueue stack.watched).Agrees := by
  apply agrees.of_untouched (untouched_abandonQueue run)
  obtain ⟨events, grown, quiet⟩ :=
    abandonEach_quiet (Session.rig stack.journaled) run.queue.slots run.rigState
  exact ⟨events, grown, fun _ => quiet⟩

/-- A run that is shut has used its stack rightly to the end. -/
theorem Agrees.shut (agrees : run.Agrees) (stage : Stage)
    (faithful : StackEvent.Faithful (run.shut stack.watched stage).stackHistory) :
    Session.Released (run.shut stack.watched stage).stackHistory run.transfers :=
  Session.Agrees.disconnect stack agrees faithful

/-- A run that is closed releases its transfers. -/
theorem Agrees.close (agrees : run.Agrees)
    (faithful : StackEvent.Faithful (run.close stack.watched).stackHistory) :
    Session.Released (run.close stack.watched).stackHistory run.transfers := by
  obtain ⟨last, stage, path, _, same⟩ : ∃ last stage, Path stack.watched .quiet run [] last ∧ _ :=
    close_eq_shut run
  have kept : last.transfers = run.transfers := path.untouched.transfers
  rw [same] at faithful ⊢
  rw [← kept]
  exact (path.agrees agrees).shut stage faithful

/-- The stack is used rightly by every run that goes on, and by one that was shut. -/
theorem Reaches.rightful {taken next : List Completion}
    (reached : Reaches stack.watched run next last)
    (faithful : StackEvent.Faithful last.stackHistory) (kept : Kept taken run) :
    Journal.Throughout StackEvent.Rightful last.stackHistory := by
  cases reached with
  | on path => exact Session.Ledger.rightful (path.kept faithful kept).agrees
  | @stopped middle path stage _ =>
      have before := faithful.of_isPrefix
        (Session.history_prefix_disconnect stack middle.rigState.state)
      exact ((path.kept before kept).agrees.shut stage faithful).rightful

/-- **What becomes of slots and transfers.** A run has ended after it gave up, at `parting`, what
was in flight. All transfers that were allocated were bound to slots. Those of slots in flight are
leaked, and their slots are abandoned. The others are freed, with nothing outstanding. -/
structure Settled (parting last : Run (Session (Journal StackEvent β))) : Prop where
  allocated : ∀ number, StackEvent.Allocated last.rigState.stackState.history number →
    ∃ transfer ∈ parting.rigState.transfers, transfer.number = number
  inOrder : Session.InOrder parting.rigState.transfers
  bound : ∀ transfer ∈ parting.rigState.transfers,
    ∃ slot, parting.queue.slot? transfer.slot = some slot
  abandoned : ∀ id, last.queue.slot? id = (parting.queue.slot? id).map relinquish
  freed : ∀ transfer ∈ parting.rigState.transfers, ∀ slot,
    parting.queue.slot? transfer.slot = some slot →
      StackEvent.freedCount last.rigState.stackState.history transfer.number =
        if slot.isSubmitted then 0 else 1
  idle : ∀ transfer ∈ parting.rigState.transfers, ∀ slot,
    parting.queue.slot? transfer.slot = some slot → slot.isSubmitted = false →
      StackEvent.accepted last.rigState.stackState.history transfer.number =
        StackEvent.called last.rigState.stackState.history transfer.number
  flying : ∀ id slot, parting.queue.slot? id = some slot → slot.isSubmitted = true →
    ∃ transfer ∈ parting.rigState.transfers, transfer.slot = id

/-- Marks and slots agree when slots are abandoned, so that transfers are released as they are
settled. -/
theorem Kept.settled {parting : Run (Watched β)} {taken : List Completion}
    (kept : Kept taken parting) (empty : parting.arrivals = [])
    (abandoned : last.queue = (parting.abandonQueue stack.watched).queue)
    (released : Session.Released last.stackHistory parting.transfers) :
    (parting.mapRig Journal.state).Settled (last.mapRig Journal.state) where
  allocated := released.allocated
  inOrder := (Session.Ledger.bindings kept.agrees).inOrder
  bound transfer member := ⟨_, List.getElem?_eq_getElem (kept.placed transfer member)⟩
  abandoned id := by
    change last.queue.slot? id = _
    rw [abandoned]
    exact slot?_abandonQueue stack.watched parting id
  freed transfer member slot held := by
    have mark := kept.marked empty member held
    rw [← mark]
    exact released.freed transfer member
  idle transfer member slot held free := by
    have mark := kept.marked empty member held
    exact released.settled transfer member (mark.trans free)
  flying id slot held flying := kept.bound held flying

end Run

namespace Benchmark

variable {β : Type} (stack : Stack β) (benchmark : Benchmark) (state : β) (nextNumber : Nat)

/-- The run of a benchmark on the sessions of a stack, with journals of all calls. -/
def watchedAfter (count : Nat) : Run (Watched β) :=
  benchmark.runAfter stack.watched { state := { stackState := { state }, nextNumber } } count

variable {stack benchmark state nextNumber}

/-- A stack on which transfers that are cancelled are never heard of again. -/
def forgetful : ScriptedStack where
  host := { script := { acknowledges := false } }

end Benchmark

end UsbThroughput
