import UsbThroughput.Proofs.Benchmark.CallOrder
import UsbThroughput.Proofs.Benchmark.Ownership
import UsbThroughput.Proofs.Run.Addressing
import UsbThroughput.Proofs.Session.Passing

/-!
# The endpoints of a benchmark

All that a benchmark does is addressed to the endpoint under test or to that of commands, on every
device and on the sessions of every stack (`Benchmark.addressed_consistently`). No submission is too
long for a stack, and no command is held back because of its endpoint.
-/

namespace UsbThroughput

open RigEvent

/-- A call of a stack on the right endpoint, and of the right length. -/
def StackEvent.Addressed (settings : Settings) (direction : Direction) : StackEvent → Prop
  | submitted request _ =>
      request.endpoint = settings.endpoint direction ∧
        request.length = settings.transferLength direction
  | haltCleared endpoint _ => endpoint = settings.endpoint direction
  | wrote endpoint data _ _ =>
      endpoint = settings.commandEndpoint ∧ ∃ command : Command, data = [command.byte]
  | _ => True

/-- What is passed on goes where it was addressed to. -/
theorem Session.PassedOn.addressed {settings : Settings} {direction : Direction} {event : RigEvent}
    {asked : List StackEvent} (passed : PassedOn event asked)
    (right : event.Addressed settings direction) :
    ∀ call ∈ asked, call.Addressed settings direction := by
  cases passed with
  | submitted transfer supplied code =>
      refine List.forall_mem_append.mpr
        ⟨?_, List.forall_mem_singleton.mpr ⟨right.addressed, right.long⟩⟩
      rcases supplied with rfl | rfl
      · exact List.forall_mem_nil _
      · exact List.forall_mem_singleton.mpr trivial
  | starved => exact List.forall_mem_singleton.mpr trivial
  | unplaced => exact List.forall_mem_nil _
  | wrote answer => exact List.forall_mem_singleton.mpr right
  | haltCleared code => exact List.forall_mem_singleton.mpr right
  | other _ unaddressed =>
      intro call member
      have apart := unaddressed call member
      cases call <;> trivial

private theorem Session.PassedOn.addressed_flatten {settings : Settings} {direction : Direction}
    {history : List RigEvent} {asked : List (List StackEvent)}
    (passed : List.Forall₂ PassedOn history asked)
    (right : ∀ event ∈ history, event.Addressed settings direction) :
    ∀ call ∈ asked.flatten, call.Addressed settings direction := by
  induction passed with
  | nil => exact List.forall_mem_nil _
  | cons passes _ ih =>
      obtain ⟨first, others⟩ := List.forall_mem_cons.mp right
      exact List.forall_mem_append.mpr ⟨passes.addressed first, ih others⟩

namespace Benchmark

section

variable {σ : Type} (rig : Rig σ) (benchmark : Benchmark) (state : σ)

/-- Every call of a benchmark is on the right endpoint, on every device. -/
theorem addressed_runAfter (count : Nat) :
    ∀ event ∈ (benchmark.runAfter rig.journaled { state } count).rigState.history,
      event.Addressed benchmark.settings benchmark.direction := by
  intro event member
  cases called : event.onDevice with
  | false => cases event <;> trivial
  | true =>
      obtain ⟨before, after, split⟩ := List.append_of_mem member
      obtain ⟨earlier, _, calls, first, rest, advance, _, _, same⟩ :=
        benchmark.call_of_split rig state count called split
      have equipped := benchmark.equipped_runAfter rig state earlier
      have addressed := advance.addressed equipped fun holds held among => by
        have serves := (benchmark.fitted_runAfter rig.journaled { state } holds).serves among
        rwa [equipped.settings_eq, equipped.direction_eq] at serves
      apply addressed
      rw [← same]
      exact List.mem_append_right _ List.mem_cons_self

/-- Every submission of a benchmark suits its settings. -/
theorem suits_of_submitted {count : Nat} {slot : Slot} {result : UsbResult Unit}
    (member : .submitted slot result ∈
      (benchmark.runAfter rig.journaled { state } count).rigState.history) :
    slot.Suits benchmark.settings benchmark.direction :=
  (benchmark.addressed_runAfter rig state count _ member).toSuits

end

variable {β : Type} (stack : Stack β) (benchmark : Benchmark) (state : β) (nextNumber : Nat)

/-- A session has no reason to refuse a call of a benchmark with valid settings. -/
theorem passable_watched (valid : benchmark.settings.validate = .ok ()) (count : Nat) :
    ∀ event ∈ (benchmark.watchedAfter stack state nextNumber count).rigState.history,
      Session.Passable event := by
  intro event member
  have addressed := benchmark.addressed_runAfter (Session.rig stack.journaled) _ count event member
  cases event with
  | submitted slot result =>
      rw [Session.Passable, addressed.long]
      exact (Settings.transferLength_bounds valid benchmark.direction).2
  | wrote endpoint data timeout result =>
      rw [Session.Passable, addressed.1]
      exact Direction.ofAddress_address ..
  | _ => trivial

/-- Every call of a benchmark is passed on to the stack as it is. -/
private theorem passedOn_watched (valid : benchmark.settings.validate = .ok ()) (count : Nat) :
    ∃ asked,
      (benchmark.watchedAfter stack state nextNumber count).stackHistory = asked.flatten ∧
      List.Forall₂ Session.PassedOn
        (benchmark.watchedAfter stack state nextNumber count).rigState.history asked := by
  have start : Session.PassesOn []
      { state := { stackState := { state }, nextNumber } : Watched β } := fun _ => ⟨[], rfl, .nil⟩
  exact benchmark.keeps_runAfter (Session.keeps_passesOn stack []) _ start count
    (benchmark.passable_watched stack state nextNumber valid count)

/-- **A benchmark addresses its calls consistently.** With valid settings, whatever the numbers of
the endpoints: slots are submitted, cancelled and cleared of a halt on one endpoint, whose address
has the top bit of the direction and the other bits of the number; every slot is one of the queue
and has the length of the settings, which is a word of the stack; and all that is written are
commands of one byte, for an address whose top bit is clear. This is so on every device. On a
session of a stack it is so of what the stack is asked for as well, and every call is passed on: no
submission is refused for its length, and no command for its endpoint. -/
theorem addressed_consistently (benchmark : Benchmark)
    (valid : benchmark.settings.validate = .ok ()) :
    let settings := benchmark.settings
    let direction := benchmark.direction
    ((settings.endpoint direction).toNat.testBit 7 = true ↔ direction = .inbound) ∧
    (settings.endpoint direction).toNat % 2 ^ 7 = settings.target.bulkEndpoint.toNat % 2 ^ 7 ∧
    settings.commandEndpoint.toNat.testBit 7 = false ∧
    settings.transferLength direction ≤ Settings.maxLength ∧
    (∀ {σ : Type} (rig : Rig σ) (state : σ) (count : Nat),
      ∀ event ∈ (benchmark.runAfter rig.journaled { state } count).rigState.history,
        event.Addressed settings direction) ∧
    ∀ {β : Type} (stack : Stack β) (state : β) (nextNumber count : Nat),
      let run := benchmark.watchedAfter stack state nextNumber count
      (∀ call ∈ run.stackHistory, call.Addressed settings direction) ∧
      ∃ asked, run.stackHistory = asked.flatten ∧
        List.Forall₂ Session.PassedOn run.rigState.history asked := by
  intro settings direction
  refine ⟨Direction.testBit_address .., Direction.address_mod .., ?_,
    (Settings.transferLength_bounds valid direction).2,
    fun rig state count => benchmark.addressed_runAfter rig state count, ?_⟩
  · have outward := Direction.testBit_address .outbound settings.target.commandEndpoint
    exact Bool.eq_false_iff.mpr fun set => nomatch outward.mp set
  · intro β stack state nextNumber count run
    obtain ⟨asked, history, passed⟩ :=
      benchmark.passedOn_watched stack state nextNumber valid count
    refine ⟨?_, asked, history, passed⟩
    rw [history]
    exact Session.PassedOn.addressed_flatten passed
      (benchmark.addressed_runAfter (Session.rig stack.journaled) _ count)

/-- An outbound test of endpoints whose numbers carry the bit of inbound addresses. -/
def misnumbered : Benchmark where
  settings :=
    { target := { bulkEndpoint := 0x85, commandEndpoint := 0x83 }
      dataSize := 10
      outboundLength := 8 }
  direction := .outbound

/-- A stack whose first event call reports a stall. -/
def halting : ScriptedStack where
  host := { script := { events := [{ deliveries := some [⟨0, 4, 0⟩] }] } }

/-- The slot is submitted to endpoint five, and again once the halt is cleared there. -/
theorem addressed_consistently_misnumbered :
    let run := misnumbered.watchedAfter ScriptedStack.calls halting 0 6
    misnumbered.settings.validate = .ok () ∧
      (run.stackHistory.filter fun call => !call.isUnaddressed) =
        [.submitted ⟨0, 0x05, 8, 1000⟩ 0, .wrote 0x03 [0x42] 1000 ⟨0, 1⟩, .haltCleared 0x05 0,
          .submitted ⟨0, 0x05, 8, 1000⟩ 0] ∧
      ∀ call ∈ run.stackHistory, call.Addressed misnumbered.settings .outbound := by
  intro run
  have valid : misnumbered.settings.validate = .ok () := by decide +kernel
  obtain ⟨_, _, _, _, _, sessions⟩ := addressed_consistently misnumbered valid
  exact ⟨valid, by decide +kernel, (sessions ScriptedStack.calls halting 0 6).1⟩

end Benchmark

end UsbThroughput
