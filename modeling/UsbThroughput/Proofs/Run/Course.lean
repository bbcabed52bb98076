import Mathlib.Data.List.Basic
import UsbThroughput.Benchmark
import UsbThroughput.Proofs.Run.Move
import UsbThroughput.Proofs.Run.Order

/-!
# The course of a run

How a run goes on from its first step: which completions it takes up (`Run.takenUp`), and that up
to the step that abandons slots it gets nowhere but by elementary changes (`Run.reaches_steps`).
The states that a step passes through on its way are its moments (`Run.moments`).
-/

namespace UsbThroughput

deriving instance DecidableEq for Conclusion

namespace Run

variable {σ : Type} (rig : Rig σ)

/-- A run that is over does nothing more. -/
theorem step_of_isOver {run : Run σ} (done : run.stage.isOver = true) : run.step rig = run := by
  unfold step
  cases stage : run.stage with
  | ended _ => rfl
  | broken _ => rfl
  | _ =>
      rw [stage] at done
      contradiction

private theorem steps_of_isOver {run : Run σ} (done : run.stage.isOver = true) (count : Nat) :
    run.steps rig count = run := by
  cases count with
  | zero => rfl
  | succ count => rw [steps, if_pos done]

/-- The last of the steps. -/
theorem steps_succ (count : Nat) (run : Run σ) :
    run.steps rig (count + 1) = (run.steps rig count).step rig := by
  induction count generalizing run with
  | zero =>
      cases done : run.stage.isOver with
      | true => rw [steps_of_isOver rig done, steps_of_isOver rig done, step_of_isOver rig done]
      | false => simp only [steps, done, Bool.false_eq_true, ↓reduceIte]
  | succ count ih =>
      cases done : run.stage.isOver with
      | true => rw [steps_of_isOver rig done, steps_of_isOver rig done, step_of_isOver rig done]
      | false =>
          calc run.steps rig (count + 1 + 1)
              = (run.step rig).steps rig (count + 1) := by
                rw [steps, done, if_neg Bool.false_ne_true]
            _ = ((run.step rig).steps rig count).step rig := ih (run.step rig)
            _ = (run.steps rig (count + 1)).step rig := by
                rw [steps.eq_2 rig run count, done, if_neg Bool.false_ne_true]

theorem steps_one (run : Run σ) : run.steps rig 1 = run.step rig := steps_succ rig 0 run

/-- Steps that follow one another. -/
theorem steps_add (run : Run σ) (first second : Nat) :
    run.steps rig (first + second) = (run.steps rig first).steps rig second := by
  induction second with
  | zero => rfl
  | succ second ih => rw [← Nat.add_assoc, steps_succ, steps_succ, ih]

/-- The completions that the first steps of a run take up, in order. -/
def takenUp (run : Run σ) : Nat → List Completion
  | 0 => []
  | count + 1 => takenUp run count ++ (run.steps rig count).next?.toList

/-- Up to the step that abandons slots, a run gets nowhere but by elementary changes. -/
theorem reaches_steps (run : Run σ) (count : Nat)
    (holds : (run.steps rig count).stage.holdsSlots = true) :
    Reaches rig run (run.takenUp rig count) (run.steps rig count) := by
  induction count with
  | zero => exact .on .refl
  | succ count ih =>
      rw [steps_succ] at holds ⊢
      obtain ⟨before, kept⟩ := Stage.holdsSlots_of_leadsTo (leadsTo_step rig _) holds
      rw [takenUp]
      have step : Reaches rig _ _ _ := reaches_step (run.steps rig count) kept
      generalize run.steps rig count = middle at ih step before ⊢
      cases ih before with
      | on path => exact path.reaches step
      | @stopped last path stage done =>
          -- The run is over already, and stays as it is.
          have still : (last.shut rig stage).step rig = last.shut rig stage :=
            step_of_isOver rig done
          have nothing : (last.shut rig stage).next? = none := by
            unfold next? shut
            cases stage with
            | ended _ => rfl
            | broken _ => rfl
            | _ => contradiction
          rw [still, nothing, Option.toList_none, List.append_nil]
          exact .stopped path stage done

/-! ## The last steps -/

/-- A run that has ended was closed by one of its steps. -/
theorem closing_of_ended {run : Run σ} (begun : ∀ verdict, run.stage ≠ .ended verdict)
    (count : Nat) {verdict : Except Failure Report}
    (ended : (run.steps rig count).stage = .ended verdict) :
    ∃ earlier < count, (run.steps rig earlier).stage = .closing ∧
      run.steps rig count = (run.steps rig earlier).close rig := by
  induction count with
  | zero => exact (begun verdict ended).elim
  | succ count ih =>
      rw [steps_succ] at ended ⊢
      have leads := leadsTo_step rig (run.steps rig count)
      rw [ended] at leads
      rcases Stage.closing_of_leadsTo_ended leads with closing | before
      · refine ⟨count, Nat.lt_succ_self count, closing, ?_⟩
        rw [step, closing]
      · obtain ⟨earlier, less, closing, same⟩ := ih before
        rw [step_of_isOver rig (before ▸ rfl)]
        exact ⟨earlier, Nat.lt_succ_of_lt less, closing, same⟩

/-- A run that is about to be closed has just abandoned its slots. -/
theorem abandoning_of_closing {run : Run σ} (begun : run.stage ≠ .closing) {count : Nat}
    (closing : (run.steps rig count).stage = .closing) :
    ∃ earlier < count, (run.steps rig earlier).stage = .abandoning ∧
      run.steps rig count = (run.steps rig earlier).abandonQueue rig := by
  cases count with
  | zero => exact (begun closing).elim
  | succ count =>
      rw [steps_succ] at closing ⊢
      have leads := leadsTo_step rig (run.steps rig count)
      rw [closing] at leads
      have abandoning := Stage.abandoning_of_leadsTo_closing leads
      refine ⟨count, Nat.lt_succ_self count, abandoning, ?_⟩
      rw [step, abandoning]

/-! ## Moments in the middle of a step -/

/-- The run as it is when the next step begins to submit the queue, if that is what it does. -/
def atFilling? (run : Run σ) : Option (Run σ) :=
  match run.stage with
  | .filling => some { run with rigState := (rig.now run.rigState).2 }
  | .waiting =>
      if run.meter.terminated || run.queue.inFlight ≠ 0 || !run.halted then none
      else
        let endpoint := run.settings.endpoint run.direction
        match rig.clearHalt endpoint (run.note rig (.clearingHalt endpoint)).rigState with
        | (.ok (), rigState) => some { run with rigState }
        | (.error _, _) => none
  | _ => none

/-- The states of the slots that the next step of a run passes through: as it begins, as it
submits the queue slot by slot, and after it applied the completion that it takes up. Each comes
with the completions applied since the step began. -/
def moments (run : Run σ) : List (List Completion × Run σ) :=
  ([], run) ::
    ((run.atFilling? rig).toList.flatMap fun begun =>
      (List.range (begun.queue.depth + 1)).map fun count => ([], begun.fillFirst rig count)) ++
    run.next?.toList.map fun completion =>
      ([completion], { run with arrivals := run.arrivals.tail }.receive completion)

/-- A run begins to submit the queue after elementary changes. -/
theorem path_atFilling {run begun : Run σ} (filling : run.atFilling? rig = some begun) :
    Path rig .any run [] begun := by
  unfold atFilling? at filling
  split at filling
  next =>
    cases filling
    exact .of_move (.now run)
  next =>
    split at filling
    · contradiction
    next ready =>
      simp only [ne_eq, decide_not, Bool.or_eq_true, Bool.not_eq_eq_eq_not, Bool.not_true,
        decide_eq_false_iff_not, not_or, Decidable.not_not] at ready
      dsimp only at filling
      split at filling
      next state cleared =>
        cases filling
        have noted : Path rig .any run [] _ :=
          path_note run (.clearingHalt (run.settings.endpoint run.direction))
        have reached := noted.then_move
          (.clearHalt _ (run.settings.endpoint run.direction) ready.1.2 rfl)
        rw [cleared] at reached
        exact reached
      · contradiction
  · contradiction

/-- A moment in the middle of a step is reached by elementary changes. -/
theorem path_of_moment {run moment : Run σ} {applied : List Completion}
    (member : (applied, moment) ∈ run.moments rig) : Path rig .any run applied moment := by
  unfold moments at member
  rcases List.mem_append.mp member with first | taking
  · rcases List.mem_cons.mp first with begins | filling
    · cases begins
      exact .refl
    · obtain ⟨begun, found, among⟩ := List.mem_flatMap.mp filling
      obtain ⟨count, _, same⟩ := List.mem_map.mp among
      cases same
      exact (path_atFilling rig (Option.mem_toList.mp found)).then_path
        (path_fillFirst count begun)
  · obtain ⟨completion, found, same⟩ := List.mem_map.mp taking
    cases same
    have head : run.arrivals.head? = some completion := by
      have next := Option.mem_toList.mp found
      unfold next? at next
      split at next
      · exact next
      · exact next
      · contradiction
    exact .of_move (.take run completion _ (List.cons_head?_tail head).symm)

end Run

/-! ## The course of a benchmark -/

namespace Benchmark

variable {σ : Type} (rig : Rig σ) (benchmark : Benchmark)

/-- The run of a benchmark after some steps, from a rig in a given state. -/
def runAfter (state : σ) (count : Nat) : Run σ :=
  (benchmark.begin rig (benchmark.connect rig state).2).steps rig count

/-- The next step of a benchmark. -/
theorem runAfter_succ (state : σ) (count : Nat) :
    benchmark.runAfter rig state (count + 1) = (benchmark.runAfter rig state count).step rig :=
  Run.steps_succ rig count _

/-- A test that was decided stays so. -/
theorem isFinal_runAfter {benchmark : Benchmark} {state : σ} {count later : Nat}
    (after : count ≤ later) (final : (benchmark.runAfter rig state count).stage.isFinal = true) :
    (benchmark.runAfter rig state later).stage.isFinal = true := by
  induction after with
  | refl => exact final
  | step _ ih =>
      rw [runAfter_succ]
      exact Stage.isFinal_of_leadsTo (Run.leadsTo_step rig _) ih

/-- A benchmark that is over stays as it is. -/
theorem runAfter_of_isOver {state : σ} {count later : Nat}
    (stopped : (benchmark.runAfter rig state count).stage.isOver = true) (after : count ≤ later) :
    benchmark.runAfter rig state later = benchmark.runAfter rig state count := by
  obtain ⟨more, rfl⟩ := Nat.exists_eq_add_of_le after
  exact (Run.steps_add rig _ count more).trans (Run.steps_of_isOver rig stopped more)

/-- A benchmark that is over came to that by a step. -/
theorem last_step_of_isOver (state : σ) {count : Nat}
    (stopped : (benchmark.runAfter rig state count).stage.isOver = true) :
    ∃ earlier < count, (benchmark.runAfter rig state earlier).stage.isOver = false ∧
      benchmark.runAfter rig state count = benchmark.runAfter rig state (earlier + 1) := by
  induction count with
  | zero => contradiction
  | succ count ih =>
      cases before : (benchmark.runAfter rig state count).stage.isOver with
      | false => exact ⟨count, Nat.lt_succ_self count, before, rfl⟩
      | true =>
          obtain ⟨earlier, less, unfinished, same⟩ := ih before
          refine ⟨earlier, Nat.lt_succ_of_lt less, unfinished, ?_⟩
          rw [← same]
          exact benchmark.runAfter_of_isOver rig before (Nat.le_succ count)

/-- The completions that the first steps of a benchmark take up, in order. -/
def takenUp (state : σ) (count : Nat) : List Completion :=
  (benchmark.begin rig (benchmark.connect rig state).2).takenUp rig count

/-- The next step takes up the completion that is next. -/
theorem takenUp_succ (state : σ) (count : Nat) :
    benchmark.takenUp rig state (count + 1) =
      benchmark.takenUp rig state count ++ (benchmark.runAfter rig state count).next?.toList := rfl

/-- The last steps of a benchmark: it abandons its slots, and then it is closed. -/
theorem last_steps {state : σ} {count : Nat} {verdict : Except Failure Report}
    (ended : (benchmark.runAfter rig state count).stage = .ended verdict) :
    ∃ last < count, (benchmark.runAfter rig state last).stage = .abandoning ∧
      benchmark.runAfter rig state count =
        ((benchmark.runAfter rig state last).abandonQueue rig).close rig := by
  have filling : (benchmark.runAfter rig state 0).stage = .filling := rfl
  obtain ⟨closing, before, stage, closed⟩ := Run.closing_of_ended rig
    (fun _ done => Stage.noConfusion (filling.symm.trans done)) count ended
  obtain ⟨last, earlier, abandoning, abandoned⟩ := Run.abandoning_of_closing rig
    (fun done => Stage.noConfusion (filling.symm.trans done)) stage
  refine ⟨last, Nat.lt_trans earlier before, abandoning, ?_⟩
  exact closed.trans (congrArg (Run.close rig) abandoned)

/-- With valid settings the device is opened. -/
theorem connect_of_valid {benchmark : Benchmark} (valid : benchmark.settings.validate = .ok ())
    (rig : Rig σ) (state : σ) :
    benchmark.connect rig state = rig.connect benchmark.settings.target state := by
  unfold connect
  rw [valid]

/-- A benchmark that does not open its device does nothing else. -/
theorem run_of_refused {limit : Nat} {state : σ} (idle : benchmark.phase = .idle)
    {error : SetupError} (refused : (benchmark.connect rig state).1 = .error error) :
    benchmark.run rig limit state =
      ((.finished (.error (.setup error)), { benchmark with phase := .failed }),
        (benchmark.connect rig state).2) := by
  unfold run
  rw [if_neg (not_not_intro idle)]
  rcases opened : benchmark.connect rig state with ⟨result, after⟩
  rw [opened] at refused
  cases refused
  rfl

/-- A benchmark that opens its device comes to the conclusion of its run. -/
theorem run_of_connected {limit : Nat} {state : σ} (idle : benchmark.phase = .idle)
    (connected : (benchmark.connect rig state).1 = .ok ()) :
    benchmark.run rig limit state =
      (benchmark.conclude (benchmark.runAfter rig state limit).stage,
        (benchmark.runAfter rig state limit).rigState) := by
  unfold run runAfter
  rw [if_neg (not_not_intro idle)]
  rcases opened : benchmark.connect rig state with ⟨result, after⟩
  rw [opened] at connected
  cases connected
  rfl

/-- What has an outcome is over. -/
theorem isOver_of_finished {benchmark : Benchmark} {stage : Stage}
    (finished : (benchmark.conclude stage).1 ≠ .unfinished) : stage.isOver = true := by
  cases stage <;> first | rfl | exact absurd rfl finished

/-- What is over has an outcome. -/
theorem finished_of_isOver (benchmark : Benchmark) {stage : Stage} (stopped : stage.isOver = true) :
    (benchmark.conclude stage).1 ≠ .unfinished := by
  cases stage with
  | ended verdict => cases verdict <;> nofun
  | broken fault => nofun
  | _ => contradiction

end Benchmark

end UsbThroughput
