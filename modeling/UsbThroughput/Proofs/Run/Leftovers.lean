import Mathlib.Data.List.DropRight
import UsbThroughput.Proofs.Run.CallOrder
import UsbThroughput.Proofs.Run.Ending
import UsbThroughput.Proofs.Run.Termination

/-!
# Completions that are left over

A run applies finished transfers batch by batch, after an event call that did not fail. What comes
with a call that fails waits for the next one that does not (`RigEvent.heard`), so between two
batches a run has taken up just what it has heard of (`Run.Hears`).
-/

namespace UsbThroughput

namespace RigEvent

/-- What was handed over up to the last event call that did not fail. -/
def heard (history : List RigEvent) : List Completion :=
  delivered (history.rdropWhile fun event => !event.goesOn)

/-- A call that does not fail tells of all that was handed over. -/
theorem heard_concat_of_goesOn {event : RigEvent} (goesOn : event.goesOn = true)
    (history : List RigEvent) : heard (history ++ [event]) = delivered (history ++ [event]) := by
  rw [heard, List.rdropWhile_concat_neg]
  simp [goesOn]

private theorem heard_concat_of_fails {event : RigEvent} (fails : event.goesOn = false)
    (history : List RigEvent) : heard (history ++ [event]) = heard history := by
  rw [heard, List.rdropWhile_concat_pos, heard]
  simp [fails]

/-- Calls that fail bring nothing to hear. -/
theorem heard_append_of_fails {events : List RigEvent}
    (fails : ∀ event ∈ events, event.goesOn = false) (history : List RigEvent) :
    heard (history ++ events) = heard history := by
  induction events using List.reverseRecOn with
  | nil => rw [List.append_nil]
  | append_singleton events event ih =>
      obtain ⟨earlier, last⟩ := List.forall_mem_append.mp fails
      rw [← List.append_assoc, heard_concat_of_fails (last event (List.mem_singleton_self event)),
        ih earlier]

/-- Where calls that fail hand over nothing, all that was handed over was heard of. -/
theorem heard_eq_delivered {history : List RigEvent}
    (empty : ∀ event ∈ history, event.goesOn = false → event.handedOver = []) :
    heard history = delivered history := by
  induction history using List.reverseRecOn with
  | nil => rfl
  | append_singleton history event ih =>
      obtain ⟨earlier, last⟩ := List.forall_mem_append.mp empty
      cases goesOn : event.goesOn with
      | true => exact heard_concat_of_goesOn goesOn history
      | false =>
          have nothing := last event (List.mem_singleton_self event) goesOn
          rw [heard_concat_of_fails goesOn, delivered_append, delivered_singleton, nothing,
            List.append_nil, ih earlier]

/-- What is no event call is none that went well. -/
theorem goesOn_of_isPoll_eq_false {event : RigEvent} (other : event.isPoll = false) :
    event.goesOn = false := by
  cases event <;> first | rfl | contradiction

theorem handedOver_of_isPoll_eq_false {event : RigEvent} (other : event.isPoll = false) :
    event.handedOver = [] := by
  cases event <;> first | rfl | contradiction

theorem isPoll_of_isQuiet {event : RigEvent} (quiet : event.isQuiet = true) :
    event.isPoll = false := by
  cases event <;> first | rfl | contradiction

theorem isPoll_of_isSubmission {event : RigEvent} (submission : event.isSubmission = true) :
    event.isPoll = false := by
  cases event <;> first | rfl | contradiction

private theorem isPoll_of_isCancellation {event : RigEvent}
    (cancellation : event.isCancellation = true) :
    event.isPoll = false := by
  cases event <;> first | rfl | contradiction

theorem isPoll_of_goesOn {event : RigEvent} (goesOn : event.goesOn = true) :
    event.isPoll = true := by
  cases event <;> first | rfl | contradiction

theorem onDevice_of_isPoll {event : RigEvent} (polls : event.isPoll = true) :
    event.onDevice = true := by
  cases event <;> first | rfl | contradiction

/-- What is not a call on the device is not an event call. -/
theorem isPoll_of_aside {event : RigEvent} (aside : event.onDevice = false) :
    event.isPoll = false := by
  cases event <;> first | rfl | contradiction

@[simp] theorem delivered_deviceCalls (history : List RigEvent) :
    delivered (deviceCalls history) = delivered history := by
  induction history with
  | nil => rfl
  | cons event rest ih =>
      rw [← List.singleton_append, deviceCalls_append, delivered_append, delivered_append, ih]
      cases event <;> rfl

@[simp] theorem heard_deviceCalls (history : List RigEvent) :
    heard (deviceCalls history) = heard history := by
  induction history using List.reverseRecOn with
  | nil => rfl
  | append_singleton history event ih =>
      rw [deviceCalls_append]
      cases call : event.onDevice with
      | false =>
          have aside : deviceCalls [event] = [] := List.filter_singleton.trans (by rw [call]; rfl)
          rw [aside, List.append_nil, ih,
            heard_concat_of_fails (goesOn_of_isPoll_eq_false (isPoll_of_aside call))]
      | true =>
          have kept : deviceCalls [event] = [event] :=
            List.filter_singleton.trans (by rw [call]; rfl)
          rw [kept]
          cases goesOn : event.goesOn with
          | false => rw [heard_concat_of_fails goesOn, heard_concat_of_fails goesOn, ih]
          | true =>
              rw [heard_concat_of_goesOn goesOn, heard_concat_of_goesOn goesOn, delivered_append,
                delivered_append, delivered_deviceCalls]

end RigEvent

open RigEvent

namespace Journal.Performs

variable {σ : Type} {journal later : Journal RigEvent σ} {calls : List RigEvent}

/-- Calls that fail tell of nothing new. -/
theorem heard_of_fails (performs : journal.Performs calls later)
    (fails : ∀ call ∈ calls, call.goesOn = false) :
    heard later.history = heard journal.history := by
  rw [← heard_deviceCalls, performs.deviceCalls_eq, heard_append_of_fails fails, heard_deviceCalls]

/-- An event call that does not fail tells of all that was handed over. -/
theorem heard_of_goesOn {call : RigEvent} (performs : journal.Performs [call] later)
    (goesOn : call.goesOn = true) : heard later.history = delivered later.history := by
  rw [← heard_deviceCalls, ← delivered_deviceCalls, performs.deviceCalls_eq,
    heard_concat_of_goesOn goesOn]

private theorem delivered_of_others (performs : journal.Performs calls later)
    (others : ∀ call ∈ calls, call.isPoll = false) :
    delivered later.history = delivered journal.history := by
  have nothing : delivered calls = [] := List.flatMap_eq_nil_iff.mpr fun call member =>
    handedOver_of_isPoll_eq_false (others call member)
  rw [← delivered_deviceCalls, performs.deviceCalls_eq, delivered_append, nothing,
    List.append_nil, delivered_deviceCalls]

end Journal.Performs

namespace Run

variable {σ : Type}

private theorem next?_of_isCalm {run : Run σ} (calm : run.stage.isCalm = true) :
    run.next? = none := by
  unfold next?
  split <;> simp_all [Stage.isCalm]

/-- Acting on a completion asks for no others. -/
theorem Reaction.isPoll_eq_false {run last : Run σ} {completion : Completion}
    {calls : List RigEvent} (reaction : run.Reaction completion calls last) :
    ∀ call ∈ calls, call.isPoll = false := by
  cases reaction with
  | resubmitted state now later slot next meter calls refusal _ _ _ _ _ _ fills =>
      exact fun call member => isPoll_of_isSubmission (fills.isSubmission call member)
  | overflowed => exact List.forall_mem_singleton.mpr rfl
  | begun state maxAttempts slot calls _ _ _ _ _ _ cancels =>
      exact fun call member => isPoll_of_isCancellation (cancels.isCancellation call member)
  | _ => exact List.forall_mem_nil _

/-- A reaction leaves a run in the middle of its batch. -/
private theorem Reaction.isCalm_eq_false {run last : Run σ} {completion : Completion}
    {calls : List RigEvent} (reaction : run.Reaction completion calls last)
    (handling : run.stage = .handling) : last.stage.isCalm = false := by
  rcases reaction.stage handling with ⟨still, _⟩ | broken
  · exact congrArg Stage.isCalm still
  · exact congrArg Stage.isCalm broken

/-- **What a run has heard of**, in view of the completions taken up so far: between two batches
it has taken up just that, and in a batch it has heard of all that was handed over. -/
structure Hears (taken : List Completion) (run : Run (Journal RigEvent σ)) : Prop where
  calm : run.stage.isCalm = true → taken = heard run.rigState.history
  batch : run.stage.isCalm = false →
    heard run.rigState.history = delivered run.rigState.history

variable {run last : Run (Journal RigEvent σ)} {taken : List Completion} {calls : List RigEvent}

/-- A step between two batches, without an event call or with one that fails. -/
theorem Hears.of_calm (hears : run.Hears taken)
    (performs : run.rigState.Performs calls last.rigState)
    (fails : ∀ call ∈ calls, call.goesOn = false) (before : run.stage.isCalm = true)
    (after : last.stage.isCalm = true) : last.Hears (taken ++ run.next?.toList) where
  calm _ := by
    rw [next?_of_isCalm before, Option.toList_none, List.append_nil, hears.calm before,
      performs.heard_of_fails fails]
  batch loud := Bool.noConfusion (after.symm.trans loud)

/-- A step inside a batch. -/
theorem Hears.of_batch (hears : run.Hears taken) {others : List Completion}
    (performs : run.rigState.Performs calls last.rigState)
    (apart : ∀ call ∈ calls, call.isPoll = false) (before : run.stage.isCalm = false)
    (after : last.stage.isCalm = false) : last.Hears others where
  calm quiet := Bool.noConfusion (after.symm.trans quiet)
  batch _ := by
    rw [performs.heard_of_fails fun call member => goesOn_of_isPoll_eq_false (apart call member),
      performs.delivered_of_others apart, hears.batch before]

/-- An event call begins a batch, unless it fails. -/
theorem Hears.of_call (hears : run.Hears taken) {call : RigEvent}
    (performs : run.rigState.Performs [call] last.rigState) (before : run.stage.isCalm = true)
    (after : last.stage.isCalm = !call.goesOn) : last.Hears (taken ++ run.next?.toList) := by
  cases goesOn : call.goesOn with
  | false =>
      rw [goesOn] at after
      exact hears.of_calm performs (List.forall_mem_singleton.mpr goesOn) before after
  | true =>
      rw [goesOn] at after
      refine ⟨fun quiet => Bool.noConfusion (after.symm.trans quiet), fun _ => ?_⟩
      exact performs.heard_of_goesOn goesOn

/-- A batch ends when nothing is left of it. -/
theorem Hears.of_last (hears : run.Hears taken) (handed : run.Handed taken)
    (performs : run.rigState.Performs [] last.rigState) (before : run.stage.isCalm = false)
    (empty : run.arrivals = []) (after : last.stage.isCalm = true) :
    last.Hears (taken ++ run.next?.toList) where
  calm _ := by
    have nothing : run.next? = none := by
      unfold next?
      split <;> simp [empty]
    rw [nothing, Option.toList_none, performs.heard_of_fails (List.forall_mem_nil _),
      hears.batch before, handed, empty]
  batch loud := Bool.noConfusion (after.symm.trans loud)

/-- **Every step keeps to what was heard of.** -/
theorem Hears.step (hears : run.Hears taken) (handed : run.Handed taken)
    (performs : run.rigState.Performs calls last.rigState) (advance : run.Advance calls last) :
    last.Hears (taken ++ run.next?.toList) := by
  -- An event call begins a batch unless it fails; every other call is silent.
  cases advance with
  | stayed done =>
      cases calm : run.stage.isCalm with
      | true => exact hears.of_calm performs (List.forall_mem_nil _) calm calm
      | false => exact hears.of_batch performs (List.forall_mem_nil _) calm calm
  | filled state now later slots calls refusal filling empty fills =>
      refine hears.of_calm performs (fun call member => ?_) (filling ▸ rfl) rfl
      exact goesOn_of_isPoll_eq_false (isPoll_of_isSubmission (fills.isSubmission call member))
  | started state result starting =>
      exact hears.of_calm performs (List.forall_mem_singleton.mpr rfl) (starting ▸ rfl) rfl
  | notStarted state starting =>
      exact hears.of_calm performs (List.forall_mem_nil _) (starting ▸ rfl) rfl
  | decided waiting => exact hears.of_calm performs (List.forall_mem_nil _) (waiting ▸ rfl) rfl
  | starved state now waiting =>
      exact hears.of_calm performs (List.forall_mem_nil _) (waiting ▸ rfl) rfl
  | recovered state later slots calls refusal waiting going empty halted fills =>
      refine hears.of_calm performs (List.forall_mem_cons.mpr ⟨rfl, fun call member => ?_⟩)
        (waiting ▸ rfl) rfl
      exact goesOn_of_isPoll_eq_false (isPoll_of_isSubmission (fills.isSubmission call member))
  | stuck state now error waiting =>
      have calm : run.stage.isCalm = true := waiting ▸ rfl
      exact hears.of_calm performs (List.forall_mem_singleton.mpr rfl) calm calm
  | polled state now answer waiting =>
      refine hears.of_call performs (waiting ▸ rfl) ?_
      dsimp only [goesOn]
      cases fatal? (.polled run.settings.eventTimeout answer) <;> rfl
  | finished handling empty => exact hears.of_last handed performs (handling ▸ rfl) empty rfl
  | handled completion rest calls handling waiting reaction =>
      have received : ({ run with arrivals := rest }.receive completion).stage = .handling :=
        (stage_receive _ completion).trans handling
      exact hears.of_batch performs reaction.isPoll_eq_false (handling ▸ rfl)
        (reaction.isCalm_eq_false received)
  | recalled state deadline calls cancelling cancels =>
      refine hears.of_calm performs (fun call member => ?_) (cancelling ▸ rfl) rfl
      exact goesOn_of_isPoll_eq_false
        (isPoll_of_isCancellation (cancels.isCancellation call member))
  | drained state deadline draining =>
      exact hears.of_calm performs (List.forall_mem_nil _) (draining ▸ rfl) rfl
  | awaited state deadline timeout answer draining =>
      refine hears.of_call performs (draining ▸ rfl) ?_
      dsimp only [goesOn]
      cases fatal? (.polled timeout answer) <;> rfl
  | resumed deadline settling empty =>
      exact hears.of_last handed performs (settling ▸ rfl) empty rfl
  | settled state deadline completion rest settling =>
      have received : ({ run with arrivals := rest }.receive completion).stage =
          .settling deadline := (stage_receive _ completion).trans settling
      exact hears.of_batch performs (List.forall_mem_nil _) (settling ▸ rfl)
        (congrArg Stage.isCalm received)
  | abandoned state abandoning =>
      exact hears.of_calm performs (List.forall_mem_nil _) (abandoning ▸ rfl) rfl
  | closed state now result closing =>
      refine hears.of_calm performs ?_ (closing ▸ rfl) rfl
      split
      · exact List.forall_mem_singleton.mpr rfl
      · exact List.forall_mem_cons.mpr ⟨rfl, List.forall_mem_singleton.mpr rfl⟩

end Run

/-- Between two batches a benchmark has taken up all that it has heard of. -/
theorem Benchmark.hears_runAfter {σ : Type} (rig : Rig σ) (benchmark : Benchmark) (state : σ)
    (count : Nat) :
    (benchmark.runAfter rig.journaled { state } count).Hears
      (benchmark.takenUp rig.journaled { state } count) := by
  induction count with
  | zero =>
      refine ⟨fun _ => ?_, nofun⟩
      have quiet := benchmark.quiet_begin rig state
      have silent := heard_append_of_fails (fun event member =>
        goesOn_of_isPoll_eq_false (isPoll_of_isQuiet (quiet event member))) []
      rw [List.nil_append] at silent
      exact silent.symm
  | succ count ih =>
      obtain ⟨calls, performs, advance⟩ := benchmark.advances_runAfter rig state count
      exact ih.step (benchmark.handed_runAfter rig state count) performs advance

end UsbThroughput
