import UsbThroughput.Proofs.Run.Halt
import UsbThroughput.Script.Device

/-!
# Transfers in flight over a whole run

On a faithful device the slots say exactly what the device holds. At every moment up to the step
that abandons slots, a slot has one submission more than completions if it is in flight, and as
many otherwise. So no slot is ever on the device twice, and halts are cleared only when the device
holds nothing.
-/

namespace UsbThroughput

open RigEvent Completion

namespace Benchmark

variable {σ : Type} (rig : Rig σ) (benchmark : Benchmark) (state : σ)

/-- The accounts of a benchmark are balanced at its beginning. -/
theorem accounts_begin : (benchmark.runAfter rig.journaled { state } 0).Accounts [] where
  numbered := Queue.numbered_ofSettings benchmark.settings benchmark.direction
  handed := benchmark.handed_begin rig state
  balanced id := by
    rw [accepted_of_isQuiet (benchmark.quiet_begin rig state), countFor_nil, Nat.zero_add]
    exact (Queue.flying_ofSettings benchmark.settings benchmark.direction id).symm
  orderly := Journal.throughout_nil.append fun event member =>
    nothingOut_of_isQuiet (benchmark.quiet_begin rig state event member)

/-- The accounts are balanced as long as slots are held and the device is faithful. -/
theorem accounts_runAfter {count : Nat}
    (holds : (benchmark.runAfter rig.journaled { state } count).stage.holdsSlots = true)
    (faithful : Faithful (benchmark.runAfter rig.journaled { state } count).rigState.history) :
    (benchmark.runAfter rig.journaled { state } count).Accounts
      (benchmark.takenUp rig.journaled { state } count) :=
  (Run.reaches_steps rig.journaled _ count holds).accounts faithful
    (benchmark.accounts_begin rig state)

/-- Slots are submitted and halts cleared in order over the whole history of a run. -/
theorem orderly_runAfter (count : Nat)
    (faithful : Faithful (benchmark.runAfter rig.journaled { state } count).rigState.history) :
    Journal.Throughout NothingOut
      (benchmark.runAfter rig.journaled { state } count).rigState.history := by
  induction count with
  | zero => exact (benchmark.accounts_begin rig state).orderly
  | succ count ih =>
      cases holds : (benchmark.runAfter rig.journaled { state } (count + 1)).stage.holdsSlots with
      | true => exact (benchmark.accounts_runAfter rig state holds faithful).orderly
      | false =>
          -- The accounts are given up with the slots, but no submission follows.
          have next : benchmark.runAfter rig.journaled { state } (count + 1) =
              (benchmark.runAfter rig.journaled { state } count).step rig.journaled :=
            Run.steps_succ rig.journaled count _
          rw [next] at holds faithful ⊢
          obtain ⟨events, grown, none⟩ := Run.adds_step_of_late rig holds
          rw [grown] at faithful ⊢
          exact (ih (faithful.of_isPrefix ⟨events, rfl⟩)).append fun event member =>
            nothingOut_of_isQuiet (isQuiet_of_calls none event member)

/-- **In-flight accounting.** At every moment of a run before slots are abandoned, if the device
has been faithful until then, the submissions of a slot that were taken exceed the completions
applied to it by one if the slot is in flight, and by none otherwise. If the device is faithful to
the end, a slot is submitted only when none of its submissions is out, so never more than one is;
and a halt is cleared only when nothing is out at all, in a step that begins with every completion
that was handed over taken up. -/
theorem accounts_balance (count : Nat) :
    let run := benchmark.runAfter rig.journaled { state } count
    (run.stage.holdsSlots = true → ∀ applied moment,
      (applied, moment) ∈ run.moments rig.journaled → Faithful moment.rigState.history →
        ∀ id slot, moment.queue.slot? id = some slot →
          accepted moment.rigState.history id =
            countFor (benchmark.takenUp rig.journaled { state } count ++ applied) id +
              if slot.isSubmitted then 1 else 0) ∧
    (Faithful run.rigState.history →
      (∀ before slot result after,
        run.rigState.history = before ++ .submitted slot result :: after →
          accepted before slot.id = countFor (delivered before) slot.id) ∧
      (∀ before, before <+: run.rigState.history →
        ∀ id, accepted before id ≤ countFor (delivered before) id + 1) ∧
      ∀ before endpoint result after,
        run.rigState.history = before ++ .haltCleared endpoint result :: after →
          (∀ id, accepted before id = countFor (delivered before) id) ∧
          ∃ earlier < count,
            (benchmark.runAfter rig.journaled { state } earlier).rigState.history <+: before ∧
            (benchmark.runAfter rig.journaled { state } earlier).arrivals = [] ∧
            delivered before = benchmark.takenUp rig.journaled { state } earlier) := by
  intro run
  refine ⟨?_, fun faithful => ?_⟩
  · intro holds applied moment member faithful id slot held
    have path := Run.path_of_moment rig.journaled member
    have accounts := path.accounts faithful
      (benchmark.accounts_runAfter rig state holds (faithful.of_isPrefix path.prefix_history))
    rw [accounts.balanced, Queue.flying_of_slot accounts.numbered held]
  · have orderly := benchmark.orderly_runAfter rig state count faithful
    refine ⟨?_, ?_, ?_⟩
    · intro before slot result after split
      exact orderly before _ after split
    · intro before among id
      exact accepted_le_of_orderly (orderly.of_isPrefix among) id
    · intro before endpoint result after split
      refine ⟨orderly before _ after split, ?_⟩
      refine Run.haltCleared_steps rig (benchmark.staged_runAfter rig.journaled { state } 0)
        (benchmark.handed_begin rig state) ?_ count rfl split
      intro event member
      have quiet := benchmark.quiet_begin rig state event member
      cases event <;> first | rfl | contradiction

/-- A test of two inbound slots of eight bytes. -/
def small : Benchmark where
  settings := { dataSize := 20, inboundLength := 8, inboundDepth := 2 }
  direction := .inbound

/-- A device on which the first transfer stalls. -/
def stalling : ScriptedDevice where
  host := { script := { outcomes := [some { status := .stall }] } }

/-- After a stall and the recovery from it, two slots are in flight again. -/
theorem accounts_balance_stalling :
    let run := small.runAfter ScriptedDevice.rig.journaled { state := stalling } 9
    (∀ id slot, run.queue.slot? id = some slot →
      accepted run.rigState.history id =
        countFor (small.takenUp ScriptedDevice.rig.journaled { state := stalling } 9) id +
          if slot.isSubmitted then 1 else 0) ∧
    ∃ before after, run.rigState.history = before ++ .haltCleared 129 (.ok ()) :: after ∧
      ∀ id, accepted before id = countFor (delivered before) id := by
  intro run
  obtain ⟨balance, inOrder⟩ := small.accounts_balance ScriptedDevice.rig stalling 9
  have faithful : Faithful run.rigState.history := by decide +kernel
  have holds : run.stage.holdsSlots = true := by decide +kernel
  have split : run.rigState.history =
      run.rigState.history.take 14 ++ .haltCleared 129 (.ok ()) ::
        run.rigState.history.drop 15 := by decide +kernel
  refine ⟨fun id slot held => ?_, _, _, split, ((inOrder faithful).2.2 _ _ _ _ split).1⟩
  have settled := balance holds [] run List.mem_cons_self faithful id slot held
  rw [List.append_nil] at settled
  exact settled

end Benchmark

end UsbThroughput
