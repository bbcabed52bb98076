import UsbThroughput.Proofs.Run.Stages

/-!
# How a run ends

A run is broken off only when a count overflows: no step ever tries to submit a slot that is in
flight (`Run.Sound`). Where failed event calls hand over nothing, no completion is left over by
the time that slots are abandoned (`Run.Calm`). The slots that are abandoned are those in flight
(`Run.slot?_abandonQueue`).
-/

namespace UsbThroughput

/-- Whether a stage is outside of every batch of completions. -/
def Stage.isCalm : Stage → Bool
  | handling | settling _ | broken _ => false
  | _ => true

/-- An event call that fails hands over nothing. -/
def Rig.FailsEmpty {σ : Type} (rig : Rig σ) : Prop :=
  ∀ timeout state error, (rig.poll timeout state).1.result = .error error →
    (rig.poll timeout state).1.delivered = []

namespace Run

variable {σ : Type} (rig : Rig σ)

/-! ## Completions that are left over -/

/-- No completion waits outside of a batch. -/
def Calm (run : Run σ) : Prop := run.stage.isCalm = true → run.arrivals = []

theorem Calm.of_batch {run : Run σ} (batch : run.stage.isCalm = false) : run.Calm := by
  intro calm
  rw [batch] at calm
  contradiction

theorem Calm.of_empty {run : Run σ} (empty : run.arrivals = []) : run.Calm := fun _ => empty

private theorem calm_poll (fails : rig.FailsEmpty) {run : Run σ} (empty : run.arrivals = []) :
    (run.poll rig).Calm := by
  unfold poll
  dsimp only
  split
  · exact .of_batch rfl
  · exact .of_batch rfl
  next failed =>
    apply Calm.of_empty
    change run.arrivals ++ (rig.poll run.settings.eventTimeout run.rigState).1.delivered = []
    rw [fails _ _ _ failed, empty, List.append_nil]

private theorem calm_wait (fails : rig.FailsEmpty) {run : Run σ} (empty : run.arrivals = []) :
    (run.wait rig).Calm := by
  unfold wait
  split
  · exact .of_empty empty
  · split
    · split
      · unfold recover
        dsimp only
        split
        · exact .of_empty ((arrivals_afterSubmission rig _ _ _).trans empty)
        · exact .of_empty empty
      · exact .of_empty empty
    · exact calm_poll rig fails empty

private theorem calm_handleNext {run : Run σ} (handling : run.stage = .handling) :
    (run.handleNext rig).Calm := by
  unfold handleNext
  split
  next none => exact .of_empty none
  next completion rest _ =>
    have kept : { run with arrivals := rest }.stage = .handling := handling
    rcases stage_handle rig kept completion with still | broken
    · exact .of_batch (congrArg Stage.isCalm still)
    · exact .of_batch (congrArg Stage.isCalm broken)

private theorem calm_drain (fails : rig.FailsEmpty) {run : Run σ} (empty : run.arrivals = [])
    (deadline : Duration) : (run.drain rig deadline).Calm := by
  unfold drain
  split
  · exact .of_empty empty
  · dsimp only
    split
    · exact .of_empty empty
    · split
      · exact .of_batch rfl
      · exact .of_batch rfl
      next failed =>
        apply Calm.of_empty
        change run.arrivals ++ (rig.poll _ (rig.now run.rigState).2).1.delivered = []
        rw [fails _ _ _ failed, empty, List.append_nil]

/-- The completions that wait while the run winds up are applied one after the other. -/
theorem calm_settle {run : Run σ} {deadline : Duration}
    (settling : run.stage = .settling deadline) :
    (run.settle rig deadline).Calm := by
  unfold settle
  split
  next none => exact .of_empty none
  next completion rest _ =>
    have batch : run.stage.isCalm = false := congrArg Stage.isCalm settling
    dsimp only
    split
    · exact .of_batch batch
    · exact .of_batch batch

/-- A run that leaves no completion over does not begin to. -/
theorem Calm.step (fails : rig.FailsEmpty) {run : Run σ} (calm : run.Calm) :
    (run.step rig).Calm := by
  unfold Calm at calm
  unfold Run.step
  cases stage : run.stage with
  | filling => exact .of_empty ((arrivals_afterSubmission rig _ _ _).trans (calm (stage ▸ rfl)))
  | starting =>
      rw [sendStart_eq]
      exact .of_empty (calm (stage ▸ rfl))
  | waiting => exact calm_wait rig fails (calm (stage ▸ rfl))
  | handling => exact calm_handleNext rig stage
  | draining deadline => exact calm_drain rig fails (calm (stage ▸ rfl)) deadline
  | settling deadline => exact calm_settle rig stage
  | closing =>
      dsimp only
      unfold close
      dsimp only
      split
      · exact .of_empty (calm (stage ▸ rfl))
      · exact .of_empty (calm (stage ▸ rfl))
  | broken fault =>
      have still : run.Calm := .of_batch (congrArg Stage.isCalm stage)
      exact still
  | _ => exact .of_empty (calm (stage ▸ rfl))

/-- Any number of steps keep a run calm. -/
theorem Calm.steps (fails : rig.FailsEmpty) {run : Run σ} (calm : run.Calm) (count : Nat) :
    (run.steps rig count).Calm := by
  induction count with
  | zero => exact calm
  | succ count ih =>
      rw [steps_succ]
      exact ih.step rig fails

/-! ## Breaking off -/

/-- Nothing is in flight before the first submission, and a run that was broken off was so because
a count overflowed. -/
structure Sound (run : Run σ) : Prop where
  grounded : run.stage = .filling → run.queue.inFlight = 0
  sound : ∀ fault, run.stage = .broken fault → fault = .countOverflow

/-- Slots out of flight are not refused for being in flight. -/
theorem refusal_submitEach {slots : List Slot} (free : ∀ slot ∈ slots, slot.isSubmitted = false)
    (state : σ) (id : Nat) : (Queue.submitEach rig slots state).1.1 ≠ .error (.inFlight id) := by
  induction slots generalizing state with
  | nil => exact nofun
  | cons slot rest ih =>
      obtain ⟨first, others⟩ := List.forall_mem_cons.mp free
      have once := refusal_of_free rig first state id
      unfold Queue.submitEach
      rcases answer : slot.submit rig state with ⟨⟨result, next⟩, after⟩
      rw [answer] at once
      cases result with
      | error refusal => exact once
      | ok _ => exact ih others after

private theorem stage_fillQueue_of_empty (run : Run σ) (empty : run.queue.inFlight = 0)
    (next : Stage) :
    (run.fillQueue rig next).stage = next := by
  apply stage_afterSubmission_of_free
  apply refusal_submitEach
  intro slot member
  exact Bool.eq_false_iff.mpr (List.countP_eq_zero.mp empty slot member)

private theorem Sound.of_stage {run : Run σ} {next : Stage} (same : run.stage = next)
    (begun : next ≠ .filling) (on : ∀ fault, next ≠ .broken fault) : run.Sound where
  grounded filling := (begun (same.symm.trans filling)).elim
  sound fault broken := (on fault (same.symm.trans broken)).elim

private theorem sound_wait {run : Run σ} (waiting : run.stage = .waiting) :
    (run.wait rig).Sound := by
  unfold wait
  split
  · exact .of_stage rfl nofun nofun
  · split
    next empty =>
      split
      · unfold recover
        dsimp only
        split
        next rigState _ =>
          have filled := stage_fillQueue_of_empty rig
            { run.note rig (.clearingHalt (run.settings.endpoint run.direction)) with
              rigState, halted := false } empty .waiting
          exact .of_stage filled nofun nofun
        · exact .of_stage waiting nofun nofun
      · exact .of_stage rfl nofun nofun
    next =>
      unfold poll
      dsimp only
      split <;> exact .of_stage rfl nofun nofun

private theorem sound_handleNext {run : Run σ} (handling : run.stage = .handling) :
    (run.handleNext rig).Sound := by
  unfold handleNext
  split
  · exact .of_stage rfl nofun nofun
  next completion rest _ =>
    have kept : { run with arrivals := rest }.stage = .handling := handling
    rcases stage_handle rig kept completion with still | broken
    · exact .of_stage still nofun nofun
    · refine ⟨fun filling => Stage.noConfusion (broken.symm.trans filling), fun fault same => ?_⟩
      exact Stage.broken.inj (same.symm.trans broken)

/-- One step keeps a run sound. -/
theorem Sound.step {run : Run σ} (sound : run.Sound) : (run.step rig).Sound := by
  have leads := leadsTo_step rig run
  cases stage : run.stage with
  | filling =>
      rw [Run.step, stage]
      have filled := stage_fillQueue_of_empty rig
        { run with
          rigState := (rig.now run.rigState).2
          meter := run.meter.start (rig.now run.rigState).1 } (sound.grounded stage) .starting
      exact .of_stage filled Stage.noConfusion fun _ => Stage.noConfusion
  | waiting =>
      rw [Run.step, stage]
      exact sound_wait rig stage
  | handling =>
      rw [Run.step, stage]
      exact sound_handleNext rig stage
  | broken fault => rwa [step_of_isOver rig (stage ▸ rfl)]
  | _ =>
      rw [stage] at leads
      refine .of_stage rfl (Stage.ne_filling_of_leadsTo leads) fun fault broken => ?_
      rw [broken] at leads
      contradiction

/-- Any number of steps keep a run sound. -/
theorem Sound.steps {run : Run σ} (sound : run.Sound) (count : Nat) :
    (run.steps rig count).Sound := by
  induction count with
  | zero => exact sound
  | succ count ih =>
      rw [steps_succ]
      exact ih.step rig

/-! ## Abandoning -/

/-- A slot as it is after the slots in flight were abandoned. -/
def relinquish (slot : Slot) : Slot := if slot.isSubmitted then slot.abandon else slot

/-- Every slot is relinquished. -/
theorem slots_abandonEach (slots : List Slot) (state : σ) :
    (Queue.abandonEach rig slots state).1 = slots.map relinquish := by
  induction slots generalizing state with
  | nil => rfl
  | cons slot rest ih =>
      rw [List.map_cons, relinquish, Queue.abandonEach]
      cases slot.isSubmitted with
      | true => exact congrArg (slot.abandon :: ·) (ih _)
      | false => exact congrArg (slot :: ·) (ih _)

/-- The slots that are abandoned are those in flight. -/
theorem slot?_abandonQueue (run : Run σ) (id : Nat) :
    (run.abandonQueue rig).queue.slot? id = (run.queue.slot? id).map relinquish := by
  change (Queue.abandonEach rig run.queue.slots run.rigState).1[id]? = _
  rw [slots_abandonEach, List.getElem?_map]
  rfl

/-- Closing the device leaves the queue alone. -/
theorem queue_close (run : Run σ) : (run.close rig).queue = run.queue := by
  unfold close
  dsimp only
  split <;> rfl

end Run

/-! ## Over a whole benchmark -/

namespace Benchmark

variable {σ : Type} (rig : Rig σ) (benchmark : Benchmark) (state : σ)

/-- A new queue has nothing in flight. -/
theorem inFlight_ofSettings (settings : Settings) (direction : Direction) :
    (Queue.ofSettings settings direction).inFlight = 0 := by
  apply List.countP_eq_zero.mpr
  intro slot member
  rw [← Queue.make_of_mem member]
  exact Bool.false_ne_true

/-- A benchmark is broken off only because a count overflowed. -/
theorem fault_runAfter {count : Nat} {fault : Fault}
    (broken : (benchmark.runAfter rig state count).stage = .broken fault) :
    fault = .countOverflow := by
  have sound : (benchmark.begin rig (benchmark.connect rig state).2).Sound :=
    ⟨fun _ => inFlight_ofSettings benchmark.settings benchmark.direction, nofun⟩
  exact (sound.steps rig count).sound fault broken

end Benchmark

end UsbThroughput
