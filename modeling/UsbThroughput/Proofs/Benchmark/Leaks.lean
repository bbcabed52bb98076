import UsbThroughput.Proofs.Benchmark.InFlight
import UsbThroughput.Proofs.Run.Leftovers

/-!
# What is leaked

At the end of a run on a faithful device, the slots that are abandoned are those whose last
submission the run has not heard of since. That is less than what the device has handed over: what
came with event calls that failed, after the last one that did not, is never applied.
-/

namespace UsbThroughput

open RigEvent Completion

namespace Run

variable {σ : Type} {rig : Rig σ} {run last : Run (Journal RigEvent σ)}

/-- Without calls a run hears of nothing and has nothing taken. -/
theorem Adds.unheard (adds : run.Adds [] last) :
    heard last.rigState.history = heard run.rigState.history ∧
      ∀ id, accepted last.rigState.history id = accepted run.rigState.history id := by
  obtain ⟨events, grown, none⟩ := adds
  have quiet := isQuiet_of_calls none
  refine ⟨?_, fun id => ?_⟩
  · rw [grown]
    exact heard_append_of_fails (fun event member =>
      goesOn_of_isPoll_eq_false (isPoll_of_isQuiet (quiet event member))) _
  · rw [grown, accepted_append, accepted_of_isQuiet quiet, Nat.add_zero]

end Run

namespace Benchmark

variable {σ : Type} (rig : Rig σ) (benchmark : Benchmark) (state : σ)

/-- **Only what was not heard of is leaked.** A run that has ended on a faithful device has taken up
all that it heard of. It abandoned, at `parting`, the slots that were in flight, and these are the
ones of whose last submission it has not heard. Where failing event calls hand over nothing, it
has heard of all that was handed over. -/
theorem leaked_only_unheard (count : Nat) :
    let run := benchmark.runAfter rig.journaled { state } count
    let history := run.rigState.history
    ∀ verdict, run.stage = .ended verdict → Faithful history →
      benchmark.takenUp rig.journaled { state } count = heard history ∧
      ((∀ event ∈ history, event.goesOn = false → event.handedOver = []) →
        heard history = delivered history) ∧
      ∃ last < count,
        let parting := benchmark.runAfter rig.journaled { state } last
        parting.stage = .abandoning ∧
        ∀ id slot, parting.queue.slot? id = some slot →
          run.queue.slot? id = some (Run.relinquish slot) ∧
          accepted history id =
            countFor (heard history) id + if slot.isSubmitted then 1 else 0 := by
  intro run history verdict ended faithful
  obtain ⟨last, before, abandoning, closed⟩ := benchmark.last_steps rig.journaled ended
  have adds := (Run.adds_abandonQueue rig
    (benchmark.runAfter rig.journaled { state } last)).trans (Run.adds_close rig _)
  rw [← closed] at adds
  obtain ⟨sameHeard, sameAccepted⟩ := Run.Adds.unheard adds
  have hears := (benchmark.hears_runAfter rig state last).calm (abandoning ▸ rfl)
  have accounts := benchmark.accounts_runAfter rig state (abandoning ▸ rfl)
    (faithful.of_isPrefix (adds.imp fun _ grown => grown.1.symm))
  refine ⟨(benchmark.hears_runAfter rig state count).calm (ended ▸ rfl), heard_eq_delivered,
    last, before, abandoning, fun id slot held => ⟨?_, ?_⟩⟩
  · have queue : run.queue = _ := (congrArg Run.queue closed).trans (Run.queue_close _ _)
    rw [queue, Run.slot?_abandonQueue, held]
    rfl
  · rw [sameHeard, sameAccepted, ← hears, accounts.balanced,
      Queue.flying_of_slot accounts.numbered held]

/-- A device that hands over the completion of slot 0 with an error, and that of slot 1 with an
error of the second call after it. -/
def tardy : ScriptedDevice where
  host :=
    { script :=
        { events :=
            [{ deliveries := some [⟨0, .completed, 8⟩], result := some (.error .io) },
              { deliveries := some [] },
              { deliveries := some [⟨1, .cancelled, 0⟩], result := some (.error .io) }] } }

/-- The completion of slot 0 is applied after all, and slot 1 is leaked. -/
theorem leaked_only_unheard_tardy :
    let run := small.runAfter ScriptedDevice.rig.journaled { state := tardy } 10
    let history := run.rigState.history
    heard history = [⟨0, .completed, 8⟩] ∧
      small.takenUp ScriptedDevice.rig.journaled { state := tardy } 10 = heard history ∧
      ∃ last < 10,
        let parting := small.runAfter ScriptedDevice.rig.journaled { state := tardy } last
        parting.stage = .abandoning ∧
        ∀ id slot, parting.queue.slot? id = some slot →
          run.queue.slot? id = some (Run.relinquish slot) ∧
          accepted history id =
            countFor (heard history) id + if slot.isSubmitted then 1 else 0 := by
  have ended : (small.runAfter ScriptedDevice.rig.journaled { state := tardy } 10).stage =
      .ended (.error .error) := by decide +kernel
  have faithful : Faithful (small.runAfter ScriptedDevice.rig.journaled
      { state := tardy } 10).rigState.history := by decide +kernel
  have alone : heard (small.runAfter ScriptedDevice.rig.journaled
      { state := tardy } 10).rigState.history = [⟨0, .completed, 8⟩] := by decide +kernel
  obtain ⟨taken, _, parting⟩ :=
    small.leaked_only_unheard ScriptedDevice.rig tardy 10 _ ended faithful
  exact ⟨alone, taken, parting⟩

/-- A slot of a faithful device that is abandoned at the end of a test with valid settings, although
the device has handed over as many completions of it as it took submissions. -/
theorem leaked_although_completed :
    let run := small.runAfter ScriptedDevice.rig.journaled { state := tardy } 10
    let history := run.rigState.history
    small.settings.validate = .ok () ∧ run.stage = .ended (.error .error) ∧ Faithful history ∧
      accepted history 1 = countFor (delivered history) 1 ∧
      .noted (.abandoned 1) ∈ history := by
  decide +kernel

end Benchmark

end UsbThroughput
