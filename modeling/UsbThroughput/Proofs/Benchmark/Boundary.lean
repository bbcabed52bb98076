import UsbThroughput.Proofs.Benchmark.Addressing
import UsbThroughput.Proofs.Benchmark.Recovery
import UsbThroughput.Proofs.Run.Recall

/-!
# Slots at the boundary to the device, over a whole run

Whatever the device answers, and whatever completions it makes up, it is handed each slot out of
flight and with nothing left over, and asked to give it up at most once until the next submission.
-/

namespace UsbThroughput

open RigEvent

namespace RigEvent

private theorem isApart_of_aside {event : RigEvent} (aside : event.onDevice = false) :
    event.isApart = true := by
  cases event <;> first | rfl | contradiction

/-- Nothing was asked for where there was no call on the device. -/
theorem asked_of_aside {history : List RigEvent}
    (aside : ∀ event ∈ history, event.onDevice = false) (id : Nat) : asked history id = 0 := by
  apply List.countP_eq_zero.mpr
  intro event member
  have among := List.mem_reverse.mp ((List.takeWhile_sublist _).subset member)
  have apart := isApart_of_aside (aside event among)
  cases event <;> first | contradiction | simp [recalls]

end RigEvent

/-- A step after which slots are not held any more neither submits nor cancels any. -/
theorem Run.Advance.isApart_of_late {σ : Type} {run last : Run σ} {calls : List RigEvent}
    (advance : run.Advance calls last)
    (late : run.stage.holdsSlots = false ∨ run.stage = .abandoning) :
    ∀ call ∈ calls, call.isApart = true := by
  cases advance with
  | closed state now result closing => split <;> simp [isApart]
  | _ => simp_all [Stage.holdsSlots]

namespace Benchmark

variable {σ : Type} (rig : Rig σ) (benchmark : Benchmark) (state : σ)

private theorem boundary_begin : (benchmark.runAfter rig.journaled { state } 0).Boundary where
  numbered := Queue.numbered_ofSettings benchmark.settings benchmark.direction
  remembers id slot held := by
    have made := Queue.make_of_mem (List.mem_of_getElem? held)
    rw [asked_of_aside (benchmark.aside_begin rig state), ← made]
    rfl
  orderly := Journal.throughout_nil.append fun event member =>
    atBoundary_of_isApart (isApart_of_aside (benchmark.aside_begin rig state event member))

/-- A benchmark keeps to the boundary at every step. -/
theorem boundary_runAfter {count : Nat}
    (holds : (benchmark.runAfter rig.journaled { state } count).stage.holdsSlots = true) :
    (benchmark.runAfter rig.journaled { state } count).Boundary :=
  (Run.reaches_steps rig.journaled _ count holds).boundary (benchmark.boundary_begin rig state)

/-- The boundary is kept to over the whole history of a run. -/
theorem atBoundary_runAfter (count : Nat) :
    Journal.Throughout AtBoundary
      (benchmark.runAfter rig.journaled { state } count).rigState.history := by
  induction count with
  | zero => exact (benchmark.boundary_begin rig state).orderly
  | succ count ih =>
      cases holds : (benchmark.runAfter rig.journaled { state } (count + 1)).stage.holdsSlots with
      | true => exact (benchmark.boundary_runAfter rig state holds).orderly
      | false =>
          -- Slots are given up, and nothing is asked of the device about them any more.
          obtain ⟨calls, ⟨events, grown, same⟩, advance⟩ :=
            benchmark.advances_runAfter rig state count
          have leads := Run.leadsTo_step rig.journaled
            (benchmark.runAfter rig.journaled { state } count)
          rw [← runAfter_succ] at leads
          rw [grown]
          refine ih.append fun event member => atBoundary_of_isApart ?_
          cases call : event.onDevice with
          | false => exact isApart_of_aside call
          | true =>
              refine advance.isApart_of_late ?_ event
                (same ▸ List.mem_filter.mpr ⟨member, call⟩)
              rcases Stage.late_of_leadsTo leads holds with abandoning | closing | ⟨verdict, ended⟩
              · exact Or.inr abandoning
              · exact Or.inl (closing ▸ rfl)
              · exact Or.inl (ended ▸ rfl)

/-- A run that holds its slots got there from each moment before by elementary changes. -/
theorem reaches_runAfter {count later : Nat} (after : count ≤ later)
    (holds : (benchmark.runAfter rig.journaled { state } later).stage.holdsSlots = true) :
    ∃ taken, Run.Reaches rig.journaled (benchmark.runAfter rig.journaled { state } count) taken
      (benchmark.runAfter rig.journaled { state } later) := by
  obtain ⟨more, rfl⟩ := Nat.exists_eq_add_of_le after
  have split : benchmark.runAfter rig.journaled { state } (count + more) =
      (benchmark.runAfter rig.journaled { state } count).steps rig.journaled more :=
    Run.steps_add rig.journaled _ count more
  rw [split] at holds ⊢
  exact ⟨_, Run.reaches_steps rig.journaled _ more holds⟩

/-- The step that cancels the queue leaves nothing to ask for, and nor is there anything later
without a submission. -/
theorem allAsked_runAfter {count later : Nat} (after : count < later) {queue : Queue}
    (recalls : (benchmark.runAfter rig.journaled { state } count).Recalls queue)
    (holds : (benchmark.runAfter rig.journaled { state } later).stage.holdsSlots = true)
    (going : (benchmark.runAfter rig.journaled { state } later).stage.isOver = false)
    (unsubmitted :
      (benchmark.runAfter rig.journaled { state } later).rigState.history.countP isSubmission =
        (benchmark.runAfter rig.journaled { state } count).rigState.history.countP isSubmission) :
    (benchmark.runAfter rig.journaled { state } later).queue.AllAsked := by
  have asked : (benchmark.runAfter rig.journaled { state } (count + 1)).queue.AllAsked := by
    obtain ⟨_, _, advance⟩ := benchmark.advances_runAfter rig state count
    cases advance.recalling with
    | whole queue _ _ slots => exact Queue.allAsked_of_recalled slots
    | none idle _ => exact (idle queue recalls).elim
  have first := (benchmark.history_runAfter_succ rig state count).sublist.countP_le
    (p := isSubmission)
  have next : count + 1 ≤ later := after
  have rest := (benchmark.history_runAfter_le rig state next).sublist.countP_le (p := isSubmission)
  obtain ⟨_, reached⟩ := benchmark.reaches_runAfter rig state next holds
  exact (reached.path going).allAsked (by omega) asked

/-- After the whole queue was cancelled, to cancel it again makes no call on the device, unless a
slot was submitted in between. -/
theorem performs_nothing {count later : Nat} (after : count < later) {queue again : Queue}
    (recalls : (benchmark.runAfter rig.journaled { state } count).Recalls queue)
    (repeats : (benchmark.runAfter rig.journaled { state } later).Recalls again)
    (unsubmitted :
      (benchmark.runAfter rig.journaled { state } later).rigState.history.countP isSubmission =
        (benchmark.runAfter rig.journaled { state } count).rigState.history.countP isSubmission) :
    (benchmark.runAfter rig.journaled { state } later).rigState.Performs []
      (benchmark.runAfter rig.journaled { state } (later + 1)).rigState := by
  obtain ⟨holds, going⟩ :
      (benchmark.runAfter rig.journaled { state } later).stage.holdsSlots = true ∧
        (benchmark.runAfter rig.journaled { state } later).stage.isOver = false := by
    rcases repeats.stage_eq with stage | stage <;> rw [stage] <;> exact ⟨rfl, rfl⟩
  have allAsked := benchmark.allAsked_runAfter rig state after recalls holds going unsubmitted
  obtain ⟨calls, performs, advance⟩ := benchmark.advances_runAfter rig state later
  cases advance.recalling with
  | whole queue recalled cancels _ =>
      rw [cancels.eq_nil (recalled.allAsked allAsked)] at performs
      exact performs
  | none idle _ => exact (idle again repeats).elim

/-- **Slots at the boundary to the device.** Whatever the device does, it is handed a slot only out
of flight, unmarked, with no bytes left over and with the whole buffer, and it is asked to give up
a slot only in flight and marked. In a stretch of the history in which a slot is not submitted, it
is asked for at most once. What a step asks for goes from the last slot to the first, and no step
asks for any but those that cancel the whole queue; the second of two such steps makes no call at
all, unless a slot was submitted in between. -/
theorem boundary_kept (count : Nat) :
    let run := benchmark.runAfter rig.journaled { state } count
    let history := run.rigState.history
    (∀ slot result, .submitted slot result ∈ history →
      slot.isSubmitted = false ∧ slot.cancelRequested = false ∧ slot.actualLength = 0 ∧
        slot.length = benchmark.settings.transferLength benchmark.direction) ∧
    (∀ slot result, .cancelled slot result ∈ history →
      slot.isSubmitted = true ∧ slot.cancelRequested = true) ∧
    (∀ id before stretch after, history = before ++ stretch ++ after →
      (∀ event ∈ stretch, event.submits id = false) → stretch.countP (recalls id) ≤ 1) ∧
    (∃ calls, run.rigState.Performs calls
        (benchmark.runAfter rig.journaled { state } (count + 1)).rigState ∧
      (calls.filterMap cancelled?).Pairwise (fun first second => second.id < first.id) ∧
      ((∃ call ∈ calls, call.isCancellation = true) → ∃ queue, run.Recalls queue)) ∧
    ∀ later queue again, count < later → run.Recalls queue →
      (benchmark.runAfter rig.journaled { state } later).Recalls again →
      (benchmark.runAfter rig.journaled { state } later).rigState.history.countP isSubmission =
        history.countP isSubmission →
      (benchmark.runAfter rig.journaled { state } later).rigState.Performs []
        (benchmark.runAfter rig.journaled { state } (later + 1)).rigState := by
  intro run history
  have orderly : Journal.Throughout AtBoundary history :=
    benchmark.atBoundary_runAfter rig state count
  refine ⟨?_, ?_, ?_, ?_, ?_⟩
  · intro slot result member
    obtain ⟨before, after, split⟩ := List.append_of_mem member
    obtain ⟨free, unmarked, empty⟩ := orderly before _ after split
    exact ⟨free, unmarked, empty, (benchmark.suits_of_submitted rig state member).long⟩
  · intro slot result member
    obtain ⟨before, after, split⟩ := List.append_of_mem member
    obtain ⟨flying, marked, _⟩ := orderly before _ after split
    exact ⟨flying, marked⟩
  · intro id before stretch after split unsubmitted
    calc stretch.countP (recalls id)
        ≤ asked (before ++ stretch) id := countP_recalls_le_asked unsubmitted
      _ ≤ 1 := asked_le_one (orderly.of_isPrefix ⟨after, split.symm⟩) id
  · obtain ⟨calls, performs, advance⟩ := benchmark.advances_runAfter rig state count
    have recalling := advance.recalling
    refine ⟨calls, performs, recalling.decreasing (benchmark.numbered_runAfter rig state), ?_⟩
    rintro ⟨call, member, cancellation⟩
    cases recalling with
    | whole queue recalls _ _ => exact ⟨queue, recalls⟩
    | none _ unasked =>
        rw [RigEvent.isCancellation, unasked call member] at cancellation
        contradiction
  · intro later queue again after recalls repeats unsubmitted
    exact benchmark.performs_nothing rig state after recalls repeats unsubmitted

/-- A device on which slot 0 stalls, whose refusal to give up slot 1 is followed by an error. -/
def stubborn : ScriptedDevice where
  host :=
    { script :=
        { cancel := [some (.error .other)]
          events :=
            [{ deliveries := some [⟨0, .stall, 0⟩] },
              { deliveries := some [], result := some (.error .io) }] } }

/-- The recovery asks for slot 1 in vain, and the end of the test does not ask again. -/
theorem boundary_kept_stubborn :
    let after := small.runAfter ScriptedDevice.rig.journaled { state := stubborn }
    (after 9).rigState.history.countP isCancellation = 1 ∧
      (after 9).rigState.history.countP (recalls 1) ≤ 1 ∧
      (after 3).Recalls ((after 3).receive ⟨0, .stall, 0⟩).queue ∧
      (after 6).Recalls (after 6).queue ∧ (after 6).queue.inFlight = 1 ∧
      (after 6).rigState.Performs [] (after 7).rigState := by
  intro after
  obtain ⟨submitted, cancelled, once, _, _⟩ := small.boundary_kept ScriptedDevice.rig stubborn 9
  obtain ⟨_, _, _, _, repeats⟩ := small.boundary_kept ScriptedDevice.rig stubborn 3
  have recovery : (after 3).Recalls ((after 3).receive ⟨0, .stall, 0⟩).queue := by
    refine Or.inr ⟨3, ⟨0, .stall, 0⟩, by decide +kernel, ?_, rfl⟩
    exact ⟨by decide +kernel, by decide +kernel, rfl, by decide +kernel, by decide +kernel,
      by decide +kernel, by decide +kernel⟩
  have ending : (after 6).Recalls (after 6).queue := Or.inl ⟨by decide +kernel, rfl⟩
  refine ⟨by decide +kernel, ?_, recovery, ending, by decide +kernel, ?_⟩
  · have since : (after 9).rigState.history.countP (recalls 1) =
        ((after 9).rigState.history.drop 4).countP (recalls 1) := by decide +kernel
    rw [since]
    refine once 1 ((after 9).rigState.history.take 4) _ [] ?_ (by decide +kernel)
    rw [List.append_nil, List.take_append_drop]
  · exact repeats 6 _ _ (by decide) recovery ending (by decide +kernel)

end Benchmark

end UsbThroughput
