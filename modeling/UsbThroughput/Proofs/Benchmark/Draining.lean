import UsbThroughput.Proofs.Benchmark.Boundary
import UsbThroughput.Proofs.Benchmark.Leaks
import UsbThroughput.Proofs.Run.Draining
import UsbThroughput.Proofs.Run.Metering

/-!
# How a test winds up

From the moment at which a test is decided, whatever the device and the clock do: what is in
flight is asked for, then only waited for, and in the end no slot is in flight. What comes in
meanwhile changes slots and nothing else.
-/

namespace UsbThroughput

open RigEvent

/-- The last stage before the end leads to it at once. -/
theorem Stage.going_of_leadsTo {stage next : Stage} (leads : stage.leadsTo next = true)
    (going : next.isOver = false) : stage.isOver = false ∧ stage ≠ .closing := by
  cases stage <;> cases next <;> simp_all [leadsTo, isOver]

namespace Run

variable {σ : Type}

private theorem isSubmitted_relinquish (slot : Slot) : (relinquish slot).isSubmitted = false := by
  unfold relinquish
  split
  · rfl
  next grounded => exact Bool.eq_false_iff.mpr grounded

private theorem relinquish_of_grounded {slot : Slot} (grounded : slot.isSubmitted = false) :
    relinquish slot = slot :=
  if_neg (grounded ▸ Bool.false_ne_true)

section

variable {start run : Run (Journal RigEvent σ)} {deadline : Duration} {applied : List Completion}
  {asked awaited : List RigEvent} {id : Nat} {slot : Slot}

/-- When the device is about to be closed, nothing is in flight. -/
theorem Winds.grounded (winds : Winds start deadline applied asked awaited run)
    (closing : run.stage = .closing) : run.queue.inFlight = 0 := by
  apply List.countP_eq_zero.mpr
  intro slot member
  obtain ⟨id, held⟩ := List.mem_iff_getElem?.mp member
  have there := winds.abandoned closing id
  rw [show run.queue.slot? id = some slot from held] at there
  obtain ⟨before, _, rfl⟩ := Option.map_eq_some_iff.mp there.symm
  simp [isSubmitted_relinquish]

/-- A slot for which completions were applied is as the last of them has left it. -/
theorem Winds.slot_of_heard (winds : Winds start deadline applied asked awaited run)
    (held : start.queue.slot? id = some slot) {completion : Completion}
    (heard : Completion.last? applied id = some completion) :
    run.queue.slot? id =
      some (slot.recalled.complete completion.status completion.length) := by
  have drained : slot.drained applied id =
      slot.recalled.complete completion.status completion.length := by
    rw [Slot.drained, heard]
  by_cases closing : run.stage = .closing
  · rw [winds.abandoned closing, held, Option.map_some, drained,
      relinquish_of_grounded (Slot.isSubmitted_complete ..)]
  · rw [winds.slots closing, held, Option.map_some, drained]

/-- A slot for which no completion was applied is as the cancellation has left it, until it is
abandoned. -/
theorem Winds.slot_of_silent (winds : Winds start deadline applied asked awaited run)
    (held : start.queue.slot? id = some slot) (silent : Completion.last? applied id = none) :
    run.queue.slot? id =
      some (if run.stage = .closing then relinquish slot.recalled else slot.recalled) := by
  have drained : slot.drained applied id = slot.recalled := by rw [Slot.drained, silent]
  by_cases closing : run.stage = .closing
  · rw [winds.abandoned closing, held, Option.map_some, drained, if_pos closing]
  · rw [winds.slots closing, held, Option.map_some, drained, if_neg closing]

end

end Run

namespace Benchmark

variable {σ : Type} (rig : Rig σ) (benchmark : Benchmark) (state : σ)

/-- **A test winds up** from the step that cancels its queue to the one that closes the device. -/
theorem winds_runAfter {first : Nat}
    (cancelling : (benchmark.runAfter rig.journaled { state } first).stage = .cancelling) :
    ∃ deadline asked reading,
      Cancels (benchmark.runAfter rig.journaled { state } first).queue.slots asked ∧
      (benchmark.runAfter rig.journaled { state } first).rigState.Performs asked reading ∧
      deadline = (rig.journaled.now reading).1.add benchmark.settings.drainTimeout ∧
      ∀ count > first, (benchmark.runAfter rig.journaled { state } count).stage.isOver = false →
        ∃ applied awaited,
          benchmark.takenUp rig.journaled { state } count =
            benchmark.takenUp rig.journaled { state } first ++ applied ∧
          Run.Winds (benchmark.runAfter rig.journaled { state } first) deadline applied asked
            awaited (benchmark.runAfter rig.journaled { state } count) := by
  obtain ⟨asked, deadline, reading, cancels, performs, set, winds⟩ :=
    Run.winds_cancelQueue rig (benchmark.runAfter rig.journaled { state } first)
  rw [(benchmark.settings_runAfter rig.journaled { state } first).1] at set
  refine ⟨deadline, asked, reading, cancels, performs, set, fun count after => ?_⟩
  induction count, after using Nat.le_induction with
  | base =>
      intro _
      refine ⟨[], [], ?_, ?_⟩
      · rw [takenUp_succ, Run.next?, cancelling]
        rfl
      · rw [runAfter_succ, Run.step, cancelling]
        exact winds
  | succ count after ih =>
      intro going
      have leads := Run.leadsTo_step rig.journaled
        (benchmark.runAfter rig.journaled { state } count)
      rw [← runAfter_succ] at leads
      obtain ⟨before, unfinished⟩ := Stage.going_of_leadsTo leads going
      obtain ⟨applied, awaited, taken, winding⟩ := ih before
      obtain ⟨calls, _, _, further⟩ := winding.step rig unfinished
      refine ⟨_, _, ?_, by rw [runAfter_succ]; exact further⟩
      rw [takenUp_succ, taken, List.append_assoc]

/-- The step that cancels the queue asks for every slot in flight that was not asked for yet. -/
theorem asked_of_cancelling {first : Nat}
    (cancelling : (benchmark.runAfter rig.journaled { state } first).stage = .cancelling)
    {id : Nat} {slot : Slot}
    (held : (benchmark.runAfter rig.journaled { state } first).queue.slot? id = some slot)
    (flying : slot.isSubmitted = true) :
    (benchmark.runAfter rig.journaled { state } (first + 1)).queue.slot? id = some slot.recalled ∧
      asked (benchmark.runAfter rig.journaled { state } (first + 1)).rigState.history id = 1 := by
  obtain ⟨_, _, _, _, _, _, winds⟩ :=
    Run.winds_cancelQueue rig (benchmark.runAfter rig.journaled { state } first)
  have draining : ((benchmark.runAfter rig.journaled { state } first).cancelQueue
      rig.journaled).stage ≠ .closing := Stage.noConfusion
  have there := winds.slot_of_silent held rfl
  have step : benchmark.runAfter rig.journaled { state } (first + 1) =
      (benchmark.runAfter rig.journaled { state } first).cancelQueue rig.journaled := by
    rw [runAfter_succ, Run.step, cancelling]
  rw [if_neg draining, ← step] at there
  refine ⟨there, ?_⟩
  have holds :
      (benchmark.runAfter rig.journaled { state } (first + 1)).stage.holdsSlots = true := by
    rw [step]
    rfl
  rw [(benchmark.boundary_runAfter rig state holds).remembers id _ there,
    Slot.cancelRequested_recalled flying, if_pos rfl]

/-- **Winding up settles every slot and nothing else.** Whatever the device and the clock do, a test
that is decided cancels what is in flight, so that all of it has been asked for, and sets a
deadline. From then on its only calls wait for completions, each with something in flight, before
the deadline, and for no longer than is left or than any call takes. The meter stays as it is, and
so does the time that it shows. A slot for which completions were applied is in the state of the
last of them, with its buffer; a slot that was out of flight is as it was otherwise. When it is
over nothing is in flight: what no completion came for was abandoned. -/
theorem drain_settles {first : Nat}
    (cancelling : (benchmark.runAfter rig.journaled { state } first).stage = .cancelling) :
    let after := benchmark.runAfter rig.journaled { state }
    let start := after first
    (∀ id slot, start.queue.slot? id = some slot → slot.isSubmitted = true →
      ∃ next, (after (first + 1)).queue.slot? id = some next ∧ next.isSubmitted = true ∧
        next.cancelRequested = true ∧
          asked (after (first + 1)).rigState.history id = 1) ∧
    ∃ deadline recalled reading,
      Cancels start.queue.slots recalled ∧ start.rigState.Performs recalled reading ∧
      deadline = (rig.journaled.now reading).1.add benchmark.settings.drainTimeout ∧
      ∀ count > first, (after count).stage.isOver = false →
        ∃ applied awaited,
          benchmark.takenUp rig.journaled { state } count =
            benchmark.takenUp rig.journaled { state } first ++ applied ∧
          start.rigState.Performs (recalled ++ awaited) (after count).rigState ∧
          (∀ call ∈ awaited, call.isPoll = true) ∧
          ((after count).stage ≠ .closing →
            ∃ calls, (after count).rigState.Performs calls (after (count + 1)).rigState ∧
              ∀ call ∈ calls, (after count).AwaitsUntil rig.journaled deadline call) ∧
          (after count).meter = start.meter ∧
          (∀ now later, (after count).meter.elapsed later = start.meter.elapsed now) ∧
          (∀ id slot completion, start.queue.slot? id = some slot →
            Completion.last? applied id = some completion →
            ∃ next, (after count).queue.slot? id = some next ∧
              next.state = .ofStatus completion.status ∧ next.buffer = slot.buffer) ∧
          (∀ id slot, start.queue.slot? id = some slot → Completion.last? applied id = none →
            ∃ next, (after count).queue.slot? id = some next ∧
              (slot.isSubmitted = false → next = slot) ∧
              (slot.isSubmitted = true →
                if (after count).stage = .closing then
                  next.state = .failed ∧ next.buffer = .empty
                else next.isSubmitted = true ∧ next.buffer = slot.buffer)) ∧
          ((after count).stage = .closing → (after count).queue.inFlight = 0) := by
  intro after start
  refine ⟨?_, ?_⟩
  · intro id slot held flying
    obtain ⟨there, once⟩ := benchmark.asked_of_cancelling rig state cancelling held flying
    refine ⟨_, there, ?_, Slot.cancelRequested_recalled flying, once⟩
    rw [Slot.isSubmitted_recalled, flying]
  · obtain ⟨deadline, recalled, reading, cancels, performs, set, course⟩ :=
      benchmark.winds_runAfter rig state cancelling
    refine ⟨deadline, recalled, reading, cancels, performs, set, fun count later going => ?_⟩
    obtain ⟨applied, awaited, taken, winds⟩ := course count later going
    have decided : start.meter.terminated = true :=
      (benchmark.staged_runAfter rig.journaled { state } first).decided (cancelling ▸ rfl)
    have timed : start.meter.finished.isSome = true :=
      (benchmark.timed_runAfter rig state first).trans decided
    refine ⟨applied, awaited, taken, winds.performs, winds.awaits, ?_, winds.meter, ?_, ?_, ?_,
      winds.grounded⟩
    · intro unfinished
      obtain ⟨calls, performs, awaits, _⟩ := winds.step rig unfinished
      rw [← runAfter_succ] at performs
      exact ⟨calls, performs, awaits⟩
    · intro now later
      rw [winds.meter]
      exact Meter.elapsed_of_finished timed later now
    · intro id slot completion held heard
      refine ⟨_, winds.slot_of_heard held heard, rfl, ?_⟩
      exact slot.buffer_recalled
    · intro id slot held silent
      refine ⟨_, winds.slot_of_silent held silent, fun grounded => ?_, fun flying => ?_⟩
      · rw [Slot.recalled_of_grounded grounded, Run.relinquish_of_grounded grounded, ite_self]
      · have still : slot.recalled.isSubmitted = true := by
          rw [Slot.isSubmitted_recalled, flying]
        by_cases closing : (after count).stage = .closing
        · rw [if_pos closing, if_pos closing, Run.relinquish, if_pos still]
          exact ⟨rfl, rfl⟩
        · rw [if_neg closing, if_neg closing]
          exact ⟨still, slot.buffer_recalled⟩

/-- The completion of slot 0 moves eight bytes that do not count, and slot 1 is abandoned. -/
theorem drain_settles_tardy :
    let after := small.runAfter ScriptedDevice.rig.journaled { state := tardy }
    (after 3).stage = .cancelling ∧ (after 3).queue.inFlight = 2 ∧ (after 9).stage = .closing ∧
      (after 9).meter = (after 3).meter ∧ (after 9).meter.bytesTotal = 0 ∧
      (after 9).queue.inFlight = 0 ∧
      (∃ slot, (after 9).queue.slot? 0 = some slot ∧ slot.state = .completed ∧
        slot.buffer = .zeros 8) ∧
      ∃ slot, (after 9).queue.slot? 1 = some slot ∧ slot.state = .failed ∧
        slot.buffer = .empty := by
  intro after
  have cancelling : (after 3).stage = .cancelling := by decide +kernel
  have closing : (after 9).stage = .closing := by decide +kernel
  obtain ⟨_, deadline, recalled, _, _, _, _, course⟩ :=
    small.drain_settles ScriptedDevice.rig tardy cancelling
  obtain ⟨applied, awaited, taken, _, _, _, meter, _, heard, silent, grounded⟩ :=
    course 9 (by decide) (by decide +kernel)
  have came : applied = [⟨0, .completed, 8⟩] := by
    have all : small.takenUp ScriptedDevice.rig.journaled { state := tardy } 9 =
        small.takenUp ScriptedDevice.rig.journaled { state := tardy } 3 ++
          [⟨0, .completed, 8⟩] := by decide +kernel
    exact (List.append_cancel_left (all.symm.trans taken)).symm
  subst came
  obtain ⟨slot, held, flying⟩ : ∃ slot, (after 3).queue.slot? 1 = some slot ∧
      slot.isSubmitted = true := ⟨_, rfl, by decide +kernel⟩
  obtain ⟨first, there, completed, kept⟩ := heard 0 _ ⟨0, .completed, 8⟩ rfl rfl
  obtain ⟨second, found, _, abandoned⟩ := silent 1 slot held rfl
  rw [if_pos closing] at abandoned
  refine ⟨cancelling, by decide +kernel, closing, meter, ?_, grounded closing,
    ⟨first, there, completed, ?_⟩, ⟨second, found, abandoned flying⟩⟩
  · rw [meter]
    decide +kernel
  · rw [kept]
    decide +kernel

end Benchmark

end UsbThroughput
