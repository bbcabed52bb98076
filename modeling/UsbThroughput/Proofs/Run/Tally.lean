import Mathlib.Algebra.GroupWithZero.Nat
import UsbThroughput.Proofs.Run.Frame
import UsbThroughput.Proofs.Run.Stages

/-!
# What a run counts

Each completed transfer of a slot of the queue is worth the bytes that it moved, and no more than
a whole transfer (`Settings.worth?`). A run counts what the completions that it takes up are worth,
one after the other, until the total exceeds the target (`Run.Tallied`).
-/

namespace UsbThroughput

namespace Settings

variable (settings : Settings) (direction : Direction)

/-- What a completion counts for, if it counts at all. -/
def worth? (completion : Completion) : Option Nat :=
  if completion.status = .completed ∧ completion.slot < settings.queueDepth direction then
    some (min completion.length (settings.transferLength direction))
  else none

/-- What completions count for, in order. -/
def worths (completions : List Completion) : List Nat :=
  completions.filterMap (settings.worth? direction)

@[simp] theorem worths_append (first second : List Completion) :
    settings.worths direction (first ++ second) =
      settings.worths direction first ++ settings.worths direction second :=
  List.filterMap_append ..

variable {settings direction}

/-- No completion counts for more than a whole transfer. -/
theorem le_of_worth? {completion : Completion} {worth : Nat}
    (counts : settings.worth? direction completion = some worth) :
    worth ≤ settings.transferLength direction := by
  unfold worth? at counts
  split at counts
  · cases counts
    exact Nat.min_le_right _ _
  · contradiction

/-- No completion is worth more than the length of a transfer. -/
theorem le_of_mem_worths {completions : List Completion} {worth : Nat}
    (member : worth ∈ settings.worths direction completions) :
    worth ≤ settings.transferLength direction := by
  obtain ⟨_, _, counts⟩ := List.mem_filterMap.mp member
  exact le_of_worth? counts

end Settings

namespace Meter

/-- What the meter has counted, and up to where. -/
def counts (meter : Meter) : Nat × Nat × Nat :=
  (meter.target, meter.bytesTotal, meter.completions)

@[simp] theorem counts_fail (now : Duration) (failure : Failure) (meter : Meter) :
    (meter.fail now failure).counts = meter.counts := by
  unfold fail
  split <;> rfl

/-- The meter has counted some transfers with their bytes, and before the last of them the total
did not exceed the target. -/
structure Tallies (target : Nat) (counted : List Nat) (meter : Meter) : Prop where
  target_eq : meter.target = target
  bytesTotal_eq : meter.bytesTotal = counted.sum
  completions_eq : meter.completions = counted.length
  shortest : ∀ shorter, shorter <+: counted → shorter ≠ counted → shorter.sum ≤ target

variable {meter other : Meter} {target : Nat} {counted : List Nat}

private theorem Tallies.of_counts (tallies : meter.Tallies target counted)
    (same : other.counts = meter.counts) : other.Tallies target counted := by
  obtain ⟨aim, rest⟩ := Prod.mk.inj same
  obtain ⟨bytes, completions⟩ := Prod.mk.inj rest
  exact ⟨aim.trans tallies.target_eq, bytes.trans tallies.bytesTotal_eq,
    completions.trans tallies.completions_eq, tallies.shortest⟩

/-- Before the decision the total does not exceed the target. -/
theorem le_of_going (going : meter.terminated = false) :
    meter.bytesTotal ≤ meter.target ∧ meter.failure = none := by
  obtain ⟨few, fine⟩ := Bool.or_eq_false_iff.mp going
  exact ⟨Nat.le_of_not_lt (of_decide_eq_false few),
    Option.isNone_iff_eq_none.mp (Option.isSome_eq_false_iff.mp fine)⟩

/-- A report shows the totals of a meter without a failure. -/
theorem finish_ok {now : Duration} {direction : Direction} {report : Report}
    (finished : meter.finish now direction = .ok report) :
    meter.failure = none ∧ report.bytesTotal = meter.bytesTotal ∧
      report.completions = meter.completions := by
  unfold finish at finished
  split at finished
  · contradiction
  next fine =>
    cases finished
    exact ⟨fine, rfl, rfl⟩

/-- A meter that ends with a failure has kept it. -/
theorem failure_of_finish {now : Duration} {direction : Direction} {failure : Failure}
    (finished : meter.finish now direction = .error failure) : meter.failure = some failure := by
  unfold finish at finished
  split at finished
  next kept =>
    cases finished
    exact kept
  · contradiction

/-- What was counted exceeds the target by at most the last transfer. -/
theorem Tallies.sum_le (tallies : meter.Tallies target counted) (exceeds : target < counted.sum)
    {most : Nat} (bounded : ∀ worth ∈ counted, worth ≤ most) : counted.sum ≤ target + most := by
  rcases List.eq_nil_or_concat counted with rfl | ⟨rest, last, rfl⟩
  · exact absurd exceeds (Nat.not_lt_zero _)
  · rw [List.concat_eq_append] at *
    have few := tallies.shortest rest (List.prefix_append _ _) (by simp)
    have small := bounded last (List.mem_append_right _ (List.mem_singleton_self last))
    rw [List.sum_append, List.sum_singleton]
    exact Nat.add_le_add few small

/-- A meter that goes on counts every transfer that it has room for. -/
theorem counts_record (going : meter.terminated = false) {now : Duration} {bytes : Nat}
    (recorded : meter.record? now bytes = some other) :
    other.counts = (meter.target, meter.bytesTotal + bytes, meter.completions + 1) := by
  unfold record? at recorded
  rw [(le_of_going going).2] at recorded
  split at recorded
  · contradiction
  · split at recorded
    · contradiction
    · dsimp only at recorded
      split at recorded <;> cases recorded <;> rfl

/-- One more transfer is counted while the total does not exceed the target. -/
theorem Tallies.record (tallies : meter.Tallies target counted)
    (going : meter.terminated = false) {now : Duration} {bytes : Nat}
    (recorded : meter.record? now bytes = some other) :
    other.Tallies target (counted ++ [bytes]) := by
  obtain ⟨few, _⟩ := le_of_going going
  have added := counts_record going recorded
  obtain ⟨aim, rest⟩ := Prod.mk.inj added
  obtain ⟨total, completions⟩ := Prod.mk.inj rest
  refine ⟨aim.trans tallies.target_eq, ?_, ?_, ?_⟩
  · rw [total, tallies.bytesTotal_eq, List.sum_append, List.sum_singleton]
  · rw [completions, tallies.completions_eq, List.length_append, List.length_singleton]
  · intro shorter before different
    rcases List.prefix_concat_iff.mp before with whole | among
    · exact (different whole).elim
    · obtain ⟨rest, rfl⟩ := among
      rw [tallies.bytesTotal_eq, tallies.target_eq, List.sum_append] at few
      exact (Nat.le_add_right _ _).trans few

end Meter

/-- A finished transfer moved as much as its completion says, if that fits the buffer. -/
theorem Slot.moved_complete (slot : Slot) (status : TransferStatus) (length : Nat) :
    (slot.complete status length).moved = min length slot.buffer.size := by
  rw [Slot.moved, Slot.isSubmitted_complete, if_neg Bool.false_ne_true]
  exact Nat.min_eq_left (Nat.min_le_right _ _)

namespace Run

variable {σ : Type} (rig : Rig σ)

/-! ## Steps that count nothing -/

@[simp] theorem counts_fail (run : Run σ) (failure : Failure) :
    (run.fail rig failure).meter.counts = run.meter.counts :=
  Meter.counts_fail _ _ _

@[simp] theorem counts_note (run : Run σ) (notice : Notice) :
    (run.note rig notice).meter.counts = run.meter.counts := rfl

@[simp] theorem counts_goTo (run : Run σ) (stage : Stage) :
    (run.goTo stage).meter.counts = run.meter.counts := rfl

@[simp] theorem counts_afterSubmission (result : Except Refusal Unit) (next : Stage)
    (run : Run σ) :
    (run.afterSubmission rig result next).meter.counts = run.meter.counts := by
  match result with
  | .ok () => rfl
  | .error (.rejected _) => exact counts_fail rig _ _
  | .error (.inFlight _) => rfl

@[simp] theorem counts_fillQueue (next : Stage) (run : Run σ) :
    (run.fillQueue rig next).meter.counts = run.meter.counts :=
  counts_afterSubmission rig _ next _

private theorem counts_wait (run : Run σ) : (run.wait rig).meter.counts = run.meter.counts := by
  unfold wait
  split
  · rfl
  · split
    · split
      · unfold recover
        dsimp only
        split
        · exact counts_fillQueue rig .waiting _
        · exact counts_fail rig _ .stalled
      · rw [counts_goTo, counts_fail, counts_note]
    · unfold poll
      dsimp only
      split
      · rfl
      · rfl
      · rw [counts_goTo, counts_fail, counts_note]

private theorem counts_onStall (run : Run σ) (id : Nat) (slot : Slot) :
    (run.onStall rig id slot).meter.counts = run.meter.counts := by
  unfold onStall
  split
  · rfl
  · unfold onHalt
    split
    · rfl
    · split
      · rw [counts_fail]
        rfl
      · rfl

private theorem counts_onFailed (run : Run σ) (id : Nat) (status : TransferStatus) :
    (run.onFailed rig id status).meter.counts = run.meter.counts := by
  unfold onFailed
  split
  · rfl
  · dsimp only
    split
    · rw [counts_fail, counts_note]
    · rfl

/-! ## The step that counts -/

/-- A completed transfer is counted, unless that breaks off the run. -/
theorem onCompleted_cases (run : Run σ) (id : Nat) (slot : Slot) :
    (run.onCompleted rig id slot).stage = .broken .countOverflow ∧
        (run.onCompleted rig id slot).meter = run.meter ∨
      ∃ meter, run.meter.record? (rig.now run.rigState).1 slot.moved = some meter ∧
        (run.onCompleted rig id slot).meter.counts = meter.counts := by
  unfold onCompleted
  dsimp only
  split
  · exact Or.inl ⟨rfl, rfl⟩
  next meter recorded =>
    refine Or.inr ⟨meter, recorded, ?_⟩
    split
    · rfl
    · split
      · rfl
      · exact counts_afterSubmission rig _ .handling _

/-- The slots are those that the settings ask for, but for their states. -/
def Fitted (run : Run σ) : Prop :=
  run.queue.slots.map Slot.make =
    (Queue.ofSettings run.settings run.direction).slots.map Slot.make

/-- There are as many slots as the settings ask for. -/
theorem Fitted.depth_eq {run : Run σ} (fitted : run.Fitted) :
    run.queue.depth = run.settings.queueDepth run.direction := by
  have same := congrArg List.length fitted
  rw [List.length_map, List.length_map] at same
  exact same.trans (Queue.depth_ofSettings run.settings run.direction)

/-- Each buffer is as long as the settings ask for. -/
theorem Fitted.size_eq {run : Run σ} (fitted : run.Fitted) {id : Nat} {slot : Slot}
    (held : run.queue.slot? id = some slot) :
    slot.buffer.size = run.settings.transferLength run.direction := by
  obtain ⟨other, there, makes⟩ := Queue.slot_of_makes fitted held
  exact ((Queue.serves_of_mem (List.mem_of_getElem? there)).of_make makes.symm).long

/-- The slots of a test fit up to the step that abandons them. -/
theorem Fitted.steps {run : Run σ} (fitted : run.Fitted) (count : Nat)
    (holds : (run.steps rig count).stage.holdsSlots = true) : (run.steps rig count).Fitted := by
  have reached := reaches_steps rig run count holds
  rw [Fitted, reached.settings_eq.1, reached.settings_eq.2, reached.makes_eq]
  exact fitted

/-- **What a run has counted**, after it has taken up some completions: some of their worths, from
the first on, and all of them as long as the decision has not fallen. -/
def Tallied (taken : List Completion) (run : Run σ) : Prop :=
  ∃ counted, run.meter.Tallies run.settings.dataSize counted ∧
    counted <+: run.settings.worths run.direction taken ∧
    (run.meter.terminated = false → (∀ fault, run.stage ≠ .broken fault) →
      counted = run.settings.worths run.direction taken)

/-- Counting goes on as it was where nothing is counted and nothing worth counting is taken up. -/
theorem Tallied.of_counts {run last : Run σ} {taken next : List Completion}
    (tallied : run.Tallied taken) (going : run.meter.terminated = false)
    (whole : ∀ fault, run.stage ≠ .broken fault)
    (settings : last.settings = run.settings ∧ last.direction = run.direction)
    (counts : last.meter.counts = run.meter.counts)
    (worthless : run.settings.worths run.direction next = []) :
    last.Tallied (taken ++ next) := by
  obtain ⟨counted, tallies, _, all⟩ := tallied
  have same : last.settings.worths last.direction (taken ++ next) = counted := by
    rw [settings.1, settings.2, Settings.worths_append, worthless, List.append_nil,
      all going whole]
  refine ⟨counted, settings.1 ▸ tallies.of_counts counts, ?_, fun _ _ => same.symm⟩
  rw [same]

/-- What is taken up after the decision is not counted. -/
theorem Tallied.of_terminated {run last : Run σ} {taken next : List Completion}
    (tallied : run.Tallied taken) (terminated : run.meter.terminated = true)
    (settings : last.settings = run.settings ∧ last.direction = run.direction)
    (meter : last.meter = run.meter) : last.Tallied (taken ++ next) := by
  obtain ⟨counted, tallies, before, _⟩ := tallied
  refine ⟨counted, ?_, ?_, fun going => ?_⟩
  · rw [meter, settings.1]
    exact tallies
  · rw [settings.1, settings.2, Settings.worths_append]
    exact before.trans (List.prefix_append _ _)
  · rw [meter, terminated] at going
    contradiction

theorem settings_step (run : Run σ) :
    (run.step rig).settings = run.settings ∧ (run.step rig).direction = run.direction := by
  by_cases kept : run.stage = .abandoning
  · rw [step, kept]
    exact ⟨rfl, rfl⟩
  · exact (reaches_step run kept).settings_eq

private theorem settings_steps (run : Run σ) (count : Nat) :
    (run.steps rig count).settings = run.settings ∧
      (run.steps rig count).direction = run.direction := by
  induction count with
  | zero => exact ⟨rfl, rfl⟩
  | succ count ih =>
      obtain ⟨settings, direction⟩ := settings_step rig (run.steps rig count)
      rw [steps_succ]
      exact ⟨settings.trans ih.1, direction.trans ih.2⟩

private theorem worths_of_not {settings : Settings} {direction : Direction}
    {completion : Completion}
    (idle : ¬ (completion.status = .completed ∧
      completion.slot < settings.queueDepth direction)) :
    settings.worths direction [completion] = [] :=
  List.filterMap_cons_none (if_neg idle)

/-- Acting on a completion counts what it is worth. -/
theorem Tallied.handle {run : Run σ} {taken : List Completion} (tallied : run.Tallied taken)
    (fitted : run.Fitted) (going : run.meter.terminated = false)
    (whole : ∀ fault, run.stage ≠ .broken fault) {completion : Completion}
    (settings : (run.handle rig completion).settings = run.settings ∧
      (run.handle rig completion).direction = run.direction) :
    (run.handle rig completion).Tallied (taken ++ [completion]) := by
  cases held : run.queue.slot? completion.slot with
  | none =>
      refine tallied.of_counts going whole settings ?_ (worths_of_not fun known => ?_)
      · rw [handle_of_unknown rig held, counts_note]
      · rw [← fitted.depth_eq] at known
        exact absurd (List.getElem?_eq_none_iff.mp held) (Nat.not_le.mpr known.2)
  | some slot =>
      have handled := handle_of_going rig held going
      have received : (run.receive completion).meter.counts = run.meter.counts := by
        rw [meter_receive]
      have known : completion.slot < run.settings.queueDepth run.direction := by
        rw [← fitted.depth_eq]
        exact (List.getElem?_eq_some_iff.mp held).1
      cases status : completion.status with
      | completed =>
          rw [status] at handled
          have worth : run.settings.worths run.direction [completion] =
              [(slot.complete .completed completion.length).moved] := by
            have counts : completion.status = .completed ∧
                completion.slot < run.settings.queueDepth run.direction := ⟨status, known⟩
            rw [Slot.moved_complete, fitted.size_eq held]
            exact List.filterMap_cons_some (if_pos counts)
          obtain ⟨counted, tallies, before, all⟩ := tallied
          have longer : (run.handle rig completion).settings.worths
              (run.handle rig completion).direction (taken ++ [completion]) =
                counted ++ [(slot.complete .completed completion.length).moved] := by
            rw [settings.1, settings.2, Settings.worths_append, worth, all going whole]
          rw [Tallied, longer, settings.1, handled]
          rcases onCompleted_cases rig (run.receive completion) completion.slot
            (slot.complete .completed completion.length) with
            ⟨broken, same⟩ | ⟨meter, recorded, same⟩
          · refine ⟨counted, ?_, List.prefix_append _ _, fun _ unbroken => ?_⟩
            · rw [same, meter_receive]
              exact tallies
            · exact (unbroken _ broken).elim
          · rw [meter_receive] at recorded
            have counts := (tallies.record going recorded).of_counts same
            exact ⟨_, counts, List.prefix_refl _, fun _ _ => rfl⟩
      | stall =>
          rw [status] at handled
          refine tallied.of_counts going whole settings ?_ (worths_of_not ?_)
          · rw [handled, counts_onStall, received]
          · rw [status]
            exact fun counts => TransferStatus.noConfusion counts.1
      | _ =>
          rw [status] at handled
          refine tallied.of_counts going whole settings ?_ (worths_of_not ?_)
          · rw [handled, counts_onFailed, received]
          · rw [status]
            exact fun counts => TransferStatus.noConfusion counts.1

/-- **Every step counts what the completion that it takes up is worth**, up to the decision. -/
theorem Tallied.step {run : Run σ} {taken : List Completion} (tallied : run.Tallied taken)
    (staged : run.Staged) (fitted : run.stage.holdsSlots = true → run.Fitted) :
    (run.step rig).Tallied (taken ++ run.next?.toList) := by
  have settings := settings_step rig run
  cases going : run.meter.terminated with
  | true => exact tallied.of_terminated going settings (meter_step_of_terminated rig staged going)
  | false =>
      have plain (whole : ∀ fault, run.stage ≠ .broken fault) (nothing : run.next? = none)
          (counts : (run.step rig).meter.counts = run.meter.counts) :
          (run.step rig).Tallied (taken ++ run.next?.toList) := by
        rw [nothing]
        exact tallied.of_counts going whole settings counts rfl
      have unbroken (on : run.stage.isOver = false) (fault : Fault) :
          run.stage ≠ .broken fault := by
        intro broken
        rw [broken] at on
        contradiction
      cases stage : run.stage with
      | filling =>
          refine plain (unbroken (stage ▸ rfl)) (by rw [next?, stage]) ?_
          rw [Run.step, stage]
          exact counts_fillQueue rig .starting _
      | starting =>
          refine plain (unbroken (stage ▸ rfl)) (by rw [next?, stage]) ?_
          rw [Run.step, stage]
          dsimp only
          rw [sendStart_eq]
      | waiting =>
          refine plain (unbroken (stage ▸ rfl)) (by rw [next?, stage]) ?_
          rw [Run.step, stage]
          exact counts_wait rig run
      | handling =>
          rw [Run.step, stage] at settings ⊢
          cases waiting : run.arrivals with
          | nil =>
              have nothing : run.next? = none := by rw [next?, stage, waiting]; rfl
              have idle : run.handleNext rig = run.goTo .waiting := by rw [handleNext, waiting]
              rw [nothing]
              dsimp only
              rw [idle]
              exact tallied.of_counts going (unbroken (stage ▸ rfl)) ⟨rfl, rfl⟩ rfl rfl
          | cons completion rest =>
              have next : run.next? = some completion := by rw [next?, stage, waiting]; rfl
              have acts : run.handleNext rig = { run with arrivals := rest }.handle rig completion :=
                by rw [handleNext, waiting]
              dsimp only at settings ⊢
              rw [acts] at settings ⊢
              rw [next]
              have tallied' : { run with arrivals := rest }.Tallied taken := tallied
              exact tallied'.handle rig (fitted (stage ▸ rfl)) going (unbroken (stage ▸ rfl)) settings
      | broken fault =>
          have nothing : run.next? = none := by rw [next?, stage]
          rw [step_of_isOver rig (stage ▸ rfl), nothing, Option.toList_none, List.append_nil]
          exact tallied
      | _ =>
          have decided := staged.decided (by rw [stage]; rfl)
          rw [going] at decided
          contradiction

/-- Any number of steps keep the tally. -/
theorem Tallied.steps {run : Run σ} (staged : run.Staged) (fitted : run.Fitted)
    (tallied : run.Tallied []) (count : Nat) :
    (run.steps rig count).Tallied (run.takenUp rig count) := by
  induction count with
  | zero => exact tallied
  | succ count ih =>
      rw [steps_succ, takenUp]
      exact ih.step rig (staged.steps rig count) (fitted.steps rig count)

end Run

namespace Benchmark

variable {σ : Type} (rig : Rig σ) (benchmark : Benchmark) (state : σ)

/-- **The meter of a benchmark** tallies the completions that were taken up. -/
theorem tallied_runAfter (count : Nat) :
    (benchmark.runAfter rig state count).Tallied (benchmark.takenUp rig state count) := by
  refine Run.Tallied.steps rig (benchmark.staged_runAfter rig state 0) rfl ?_ count
  refine ⟨[], ⟨rfl, rfl, rfl, ?_⟩, List.prefix_refl _, fun _ _ => rfl⟩
  intro shorter before different
  exact (different (List.prefix_nil.mp before)).elim

/-- A benchmark runs with its own settings and direction. -/
theorem settings_runAfter (count : Nat) :
    (benchmark.runAfter rig state count).settings = benchmark.settings ∧
      (benchmark.runAfter rig state count).direction = benchmark.direction :=
  Run.settings_steps rig _ count

/-- The slots of a benchmark are those that its settings ask for, as long as they are held. -/
theorem fitted_runAfter {count : Nat}
    (holds : (benchmark.runAfter rig state count).stage.holdsSlots = true) :
    (benchmark.runAfter rig state count).Fitted := by
  have begun : (benchmark.runAfter rig state 0).Fitted := rfl
  exact begun.steps rig count holds

end Benchmark

end UsbThroughput
