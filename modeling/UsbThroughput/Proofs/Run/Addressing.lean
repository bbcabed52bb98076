import UsbThroughput.Proofs.Run.CallOrder
import UsbThroughput.Proofs.Run.Tally

/-!
# Where calls are addressed to

A run works on two endpoints: its slots and the clearing of a halt go to the endpoint under test,
and its commands to the endpoint for commands (`RigEvent.Addressed`). This is so of every call that
one step makes (`Run.Advance.addressed`), and thus of every call.
-/

namespace UsbThroughput

open RigEvent

/-- **A call on the right endpoint.** Slots are submitted and cancelled as the settings ask for
them, a halt is cleared on the endpoint under test, and what is written are commands, each one byte
for the endpoint of commands. -/
def RigEvent.Addressed (settings : Settings) (direction : Direction) : RigEvent → Prop
  | submitted slot _ | cancelled slot _ => slot.Serves settings direction
  | haltCleared endpoint _ => endpoint = settings.endpoint direction
  | wrote endpoint data _ _ =>
      endpoint = settings.commandEndpoint ∧ ∃ command : Command, data = [command.byte]
  | _ => True

/-! ## Slots that are submitted and cancelled -/

/-- What is submitted is a slot of the queue, reset. -/
private theorem Fills.reset_of_mem {slots next : List Slot} {calls : List RigEvent}
    {refusal : Option SubmissionError} (fills : Fills slots calls next refusal) {slot : Slot}
    {result : UsbResult Unit} (member : .submitted slot result ∈ calls) :
    ∃ held ∈ slots, slot = held.reset := by
  induction fills with
  | done => exact (List.not_mem_nil member).elim
  | refused held rest cause =>
      cases List.mem_singleton.mp member
      exact ⟨held, List.mem_cons_self, rfl⟩
  | taken held fills ih =>
      rcases List.mem_cons.mp member with same | later
      · cases same
        exact ⟨held, List.mem_cons_self, rfl⟩
      · obtain ⟨other, among, same⟩ := ih later
        exact ⟨other, List.mem_cons_of_mem held among, same⟩

variable {settings : Settings} {direction : Direction} {slots : List Slot} {calls : List RigEvent}

/-- Submissions of slots that serve the settings are addressed by them. -/
theorem Fills.addressed {next : List Slot} {refusal : Option SubmissionError}
    (fills : Fills slots calls next refusal)
    (serves : ∀ held ∈ slots, held.Serves settings direction) :
    ∀ call ∈ calls, call.Addressed settings direction := by
  intro call member
  have submission := fills.isSubmission call member
  cases call with
  | submitted slot result =>
      obtain ⟨held, among, rfl⟩ := fills.reset_of_mem member
      exact (serves held among).of_make held.make_reset
  | _ => contradiction

/-- Cancellations of slots that serve the settings are addressed by them. -/
theorem Cancels.addressed (cancels : Cancels slots calls)
    (serves : ∀ held ∈ slots, held.Serves settings direction) :
    ∀ call ∈ calls, call.Addressed settings direction := by
  intro call member
  have cancellation := cancels.isCancellation call member
  cases call with
  | cancelled slot result =>
      have among : some slot ∈ calls.map cancelled? := List.mem_map.mpr ⟨_, member, rfl⟩
      rw [cancels] at among
      obtain ⟨held, asked, same⟩ := List.mem_map.mp among
      cases same
      have there := List.mem_of_mem_filter (List.mem_reverse.mp asked)
      exact (serves held there).of_make held.make_requestCancel
  | _ => contradiction

/-! ## Steps -/

namespace Run

variable {σ : Type} {run last : Run σ}

/-- Each slot of a fitted run serves the settings. -/
theorem Fitted.serves (fitted : run.Fitted) {held : Slot} (member : held ∈ run.queue.slots) :
    held.Serves run.settings run.direction := by
  have made : held.make ∈ run.queue.slots.map Slot.make := List.mem_map_of_mem member
  rw [fitted] at made
  obtain ⟨other, among, same⟩ := List.mem_map.mp made
  exact (Queue.serves_of_mem among).of_make same.symm

/-- The calls of a reaction are addressed by the settings. -/
theorem Reaction.addressed {completion : Completion}
    (reaction : run.Reaction completion calls last)
    (serves : ∀ held ∈ run.queue.slots, held.Serves settings direction) :
    ∀ call ∈ calls, call.Addressed settings direction := by
  cases reaction with
  | resubmitted state now later slot next meter calls refusal _ held _ _ _ _ fills =>
      have there := serves slot (List.mem_of_getElem? held)
      exact fills.addressed (List.forall_mem_singleton.mpr there)
  | overflowed => exact List.forall_mem_singleton.mpr trivial
  | begun state maxAttempts slot calls _ _ _ _ _ _ cancels => exact cancels.addressed serves
  | _ => exact List.forall_mem_nil _

/-- **Every call of a step is on the right endpoint.** -/
theorem Advance.addressed (advance : run.Advance calls last)
    (equipped : run.Equipped settings direction)
    (serves : run.stage.holdsSlots = true →
      ∀ held ∈ run.queue.slots, held.Serves settings direction) :
    ∀ call ∈ calls, call.Addressed settings direction := by
  have cleared (result : UsbResult Unit) :
      (haltCleared (run.settings.endpoint run.direction) result).Addressed settings direction := by
    rw [equipped.settings_eq, equipped.direction_eq]
    rfl
  have sent (unfinished : run.stage.isOver = false) (command : Command)
      (result : UsbResult Nat) :
      (wrote run.channel.endpoint [command.byte] run.channel.timeout result).Addressed settings
        direction := by
    rw [equipped.channel_eq unfinished]
    exact ⟨rfl, command, rfl⟩
  cases advance with
  | filled state now later slots calls refusal filling empty fills =>
      exact fills.addressed (serves (filling ▸ rfl))
  | started state result starting =>
      exact List.forall_mem_singleton.mpr (sent (starting ▸ rfl) _ result)
  | recovered state later slots calls refusal waiting going empty halted fills =>
      exact List.forall_mem_cons.mpr ⟨cleared _, fills.addressed (serves (waiting ▸ rfl))⟩
  | stuck => exact List.forall_mem_singleton.mpr (cleared _)
  | polled | awaited => exact List.forall_mem_singleton.mpr trivial
  | handled completion rest calls handling waiting reaction =>
      refine reaction.addressed fun held among => ?_
      -- The completion was applied to a slot of the queue, and that does not change its make.
      have made := makes_receive { run with arrivals := rest } completion
      obtain ⟨other, there, same⟩ := List.mem_map.mp (made ▸ List.mem_map_of_mem among)
      exact (serves (handling ▸ rfl) other there).of_make same.symm
  | recalled state deadline calls cancelling cancels =>
      exact cancels.addressed (serves (cancelling ▸ rfl))
  | closed state now result closing =>
      split
      · exact List.forall_mem_singleton.mpr trivial
      · exact List.forall_mem_cons.mpr
          ⟨sent (closing ▸ rfl) _ result, List.forall_mem_singleton.mpr trivial⟩
  | _ => exact List.forall_mem_nil _

end Run

end UsbThroughput
