import UsbThroughput.Proofs.Run.InStep

/-!
# Runs in lockstep

A run on one of two rigs in tandem is followed by a run on the other, step by step
(`Run.InStep.steps`). The runs part only when a failed call has handed over completions, or when
there is no time left to wait for what was cancelled.
-/

namespace UsbThroughput

variable {σ τ : Type}

namespace Run

variable {ties : Rig.Ties σ τ} {rig : Rig σ} {other : Rig τ} {depth armed : Nat} {run : Run σ}
  {twin : Run τ} (tandem : ties.Tandem rig other)

include tandem

/-! ## Winding up -/

/-- Runs stay abreast when both cancel what is in flight. -/
private theorem abreast_cancelQueue (abreast : Abreast ties armed run twin)
    (numbered : run.queue.Numbered) (empty : run.arrivals = []) :
    Abreast ties armed (run.cancelQueue rig) (twin.cancelQueue other) := by
  have noted := abreast.note tandem (.moved .running .draining) (.moved .running .draining)
  have cancelled := noted.cancelAll tandem numbered (Or.inl empty)
  rw [cancelQueue_eq, cancelQueue_eq]
  exact ((cancelled.note tandem _ _).now tandem).goTo rfl

/-- Runs stay abreast when both apply what was handed over. -/
private theorem abreast_settle (abreast : Abreast ties armed run twin) (deadline later : Duration) :
    Abreast ties armed (run.settle rig deadline) (twin.settle other later) := by
  unfold settle
  rw [abreast.alike.arrivals]
  split
  · exact abreast.goTo rfl
  next completion rest waiting =>
    exact (abreast.take waiting).note tandem (.drained completion.slot completion.status)
      (.drained completion.slot completion.status)

/-- Runs that give up their slots leave together. -/
private theorem leaving_abandonQueue (abreast : Abreast ties armed run twin) :
    Leaving ties (run.abandonQueue rig) (twin.abandonQueue other) where
  alike := by
    have abandoned {ρ : Type} (rig : Rig ρ) (run : Run ρ) :
        (run.abandonQueue rig).outline =
          { run.outline with
            queue := { run.outline.queue with
              slots := run.outline.queue.slots.map relinquish } } := by
      unfold abandonQueue Queue.abandon
      dsimp only
      rw [slots_abandonEach]
      rfl
    refine ⟨?_, abreast.alike.meter, rfl⟩
    rw [abandoned, abandoned, abreast.alike.outline]
  closing := rfl
  linked := by
    have linked := tandem.abandonEach abreast.linked run.queue.slots
    refine ⟨armed, run.isOut, ?_⟩
    unfold abandonQueue Queue.abandon
    rw [abreast.alike.queue]
    exact linked

/-- After the verdict the stop command is sent and the devices are closed. -/
theorem over_shut {run : Run σ} {twin : Run τ} (outline : twin.outline = run.outline)
    (meter : run.meter.Alike twin.meter) {out : Nat → Bool}
    (linked : ties.Linked armed out run.rigState twin.rigState)
    (outward : Direction.ofAddress run.channel.endpoint = .outbound) (notice : Notice)
    {verdict also : Except Failure Report}
    (same : also.map Report.timeless = verdict.map Report.timeless) :
    Over ties ((((run.sendStop rig).note rig notice).disconnect rig).goTo (.ended verdict))
      ((((twin.sendStop other).note other notice).disconnect other).goTo (.ended also)) := by
  have channelTwin : twin.channel = run.channel := congrArg Run.channel outline
  obtain ⟨channel, stopped⟩ := tandem.stop linked run.channel outward
  rw [← channelTwin] at channel stopped
  refine ⟨⟨?_, meter, congrArg Stage.ended same⟩, rfl, ?_⟩
  · change { twin.outline with channel := (twin.channel.stop other twin.rigState).1.2 } =
      { run.outline with channel := (run.channel.stop rig run.rigState).1.2 }
    rw [channel, channelTwin, outline]
  · rw [channelTwin] at stopped
    have noted := tandem.noteTwin (tandem.note stopped notice) notice
    have own : (twin.sendStop other).rigState = (run.channel.stop other twin.rigState).2 :=
      congrArg (fun channel => (Channel.stop other channel twin.rigState).2) channelTwin
    rw [← own] at noted
    exact tandem.disconnect noted

/-- Runs that leave together come to the same end. -/
private theorem over_close (leaving : Leaving ties run twin)
    (outward : Direction.ofAddress run.channel.endpoint = .outbound) :
    Over ties (run.close rig) (twin.close other) := by
  obtain ⟨armed, out, linked⟩ := leaving.linked
  have read := tandem.now linked
  have meter := leaving.alike.meter
  have same := meter.finish (rig.now run.rigState).1 (other.now twin.rigState).1 run.direction
  rw [← leaving.alike.direction] at same
  have outline : ({ twin with rigState := (other.now twin.rigState).2 } : Run τ).outline =
      ({ run with rigState := (rig.now run.rigState).2 } : Run σ).outline := leaving.alike.outline
  rcases verdict : run.meter.finish (rig.now run.rigState).1 run.direction with failure | report <;>
    rcases also : twin.meter.finish (other.now twin.rigState).1 twin.direction with
      failureTwin | reportTwin <;>
    rw [also, leaving.alike.direction, verdict] at same
  · rw [close_of_failed rig verdict, close_of_failed other also]
    exact over_shut tandem outline meter read outward _ same
  · contradiction
  · contradiction
  · rw [close_of_reported rig verdict, close_of_reported other also]
    have noted := tandem.noteTwin (tandem.note read (.report report)) (.report reportTwin)
    have outlined : (note other (.report reportTwin)
        { twin with rigState := (other.now twin.rigState).2 }).outline =
      (note rig (.report report) { run with rigState := (rig.now run.rigState).2 }).outline :=
        outline
    exact over_shut tandem outlined meter noted outward _ same

/-- Both runs wait for what was cancelled. The second waits again for what was kept back, if there
is still time. -/
theorem inStep_await (abreast : Abreast ties armed run twin) {deadline later : Duration}
    (draining : run.stage = .draining deadline) (drainingTwin : twin.stage = .draining later)
    (flying : run.queue.inFlight ≠ 0) (empty : run.arrivals = [])
    (terminated : run.meter.terminated = true) (inTime : run.isOverdue rig = false)
    (inTimeTwin : twin.isOverdue other = false) (fair : ties.Fair (run.step rig).rigState) :
    ∃ count, InStep ties depth (Cause ties rig other run twin) (run.step rig)
      (twin.steps other count) := by
  have read := abreast.now tandem
  have flyingTwin : twin.queue.inFlight ≠ 0 := abreast.alike.queue ▸ flying
  have emptyTwin := abreast.alike.arrivals.trans empty
  have waits := (step_of_draining rig draining).trans (drain_of_time rig draining flying inTime)
  have waitsTwin := (step_of_draining other drainingTwin).trans
    (drain_of_time other drainingTwin flyingTwin inTimeTwin)
  have parts : Apart (run.step rig) (twin.steps other 0) :=
    (abreast.alike.apart (draining ▸ rfl)).step rig
  have fairly := fair
  rw [waits] at fairly
  obtain ⟨apart, out, answers⟩ := tandem.poll read.linked
    ((deadline.since (rig.now run.rigState).1).min run.settings.eventTimeout)
    ((later.since (other.now twin.rigState).1).min twin.settings.eventTimeout)
    (fairBeforeAwait tandem fairly)
  rcases polled : rig.poll _ (rig.now run.rigState).2 with ⟨answer, state⟩
  rcases polledTwin : other.poll _ (other.now twin.rigState).2 with ⟨answerTwin, last⟩
  rw [polled, polledTwin] at answers
  rw [polled] at apart out
  cases answers with
  | together answer state last none linked =>
      have handed := read.handOver apart out linked
      refine ⟨1, .paced armed ?_⟩
      rw [steps_one, waits, waitsTwin]
      rcases answer.goesOn_or_failed with goesOn | ⟨error, failed, serious⟩
      · rw [awaitCancelled_of_goesOn rig polled goesOn,
          awaitCancelled_of_goesOn other polledTwin goesOn]
        exact ⟨handed.goTo rfl, .of_batch rfl, Or.inr (Or.inl terminated)⟩
      · rw [awaitCancelled_of_failed rig polled failed serious,
          awaitCancelled_of_failed other polledTwin failed serious]
        refine ⟨(handed.note tandem _ _).goTo rfl, .of_empty ?_, Or.inr (Or.inl terminated)⟩
        change run.arrivals ++ answer.delivered = []
        rw [empty, none error failed serious]
        rfl
  | held delivered error state last spilled holding =>
      by_cases interrupted : error = .interrupted
      · subst interrupted
        have next : twin.steps other 2 =
            { twin with rigState := last }.goTo (.draining later) := by
          have settling : ({ twin with rigState := last }.goTo (.settling later)).stage =
            .settling later := rfl
          rw [steps_succ, steps_one, waitsTwin,
            awaitCancelled_of_goesOn other polledTwin (Or.inr rfl)]
          dsimp only
          rw [List.append_nil]
          exact step_of_settled other settling emptyTwin
        -- What was kept back comes at the next call, for which there may be no time left.
        cases lateNext : (twin.steps other 2).isOverdue other with
        | true => exact ⟨0, .apart parts (Or.inr (Or.inr ⟨2, lateNext⟩))⟩
        | false =>
            rw [next] at lateNext
            obtain ⟨answer, linked⟩ := tandem.pollOfHolding (tandem.nowOfHolding holding)
              ((later.since (other.now last).1).min twin.settings.eventTimeout)
            rcases polledNext : other.poll _ (other.now last).2 with ⟨answerNext, final⟩
            rw [polledNext] at answer linked
            subst answer
            have handed := read.handOver apart out linked
            have drainingNext : ({ twin with rigState := last }.goTo (.draining later)).stage =
              .draining later := rfl
            refine ⟨3, .paced armed ?_⟩
            rw [waits, awaitCancelled_of_goesOn rig polled (Or.inr rfl), steps_succ, next,
              step_of_draining other drainingNext,
              drain_of_time other drainingNext flyingTwin lateNext,
              awaitCancelled_of_goesOn other polledNext (Or.inl rfl)]
            exact ⟨handed.goTo rfl, .of_batch rfl, Or.inr (Or.inl terminated)⟩
      · refine ⟨0, .apart parts (Or.inl ?_)⟩
        rw [waits, awaitCancelled_of_failed rig polled rfl interrupted]
        exact tandem.spilledNote (spilled interrupted) _

/-- Both runs wind up as long as there is time for both. -/
theorem inStep_drain (abreast : Abreast ties armed run twin) {deadline : Duration}
    (draining : run.stage = .draining deadline) (empty : run.arrivals = [])
    (terminated : run.meter.terminated = true) (fair : ties.Fair (run.step rig).rigState) :
    ∃ count, InStep ties depth (Cause ties rig other run twin) (run.step rig)
      (twin.steps other count) := by
  obtain ⟨later, drainingTwin⟩ :=
    Stage.draining_of_timeless (abreast.alike.stage.trans (congrArg Stage.timeless draining))
  have parts : Apart (run.step rig) (twin.steps other 0) :=
    (abreast.alike.apart (draining ▸ rfl)).step rig
  by_cases grounded : run.queue.inFlight = 0
  · have groundedTwin : twin.queue.inFlight = 0 := abreast.alike.queue ▸ grounded
    refine ⟨1, .paced armed ?_⟩
    rw [steps_one, step_of_draining rig draining, step_of_draining other drainingTwin,
      drain_of_grounded rig grounded, drain_of_grounded other groundedTwin]
    exact ⟨abreast.goTo rfl, .of_empty empty, Or.inr (Or.inl terminated)⟩
  · cases late : run.isOverdue rig with
    | true => exact ⟨0, .apart parts (Or.inr (Or.inl late))⟩
    | false =>
        cases lateTwin : twin.isOverdue other with
        | true => exact ⟨0, .apart parts (Or.inr (Or.inr ⟨0, lateTwin⟩))⟩
        | false =>
            exact inStep_await tandem abreast draining drainingTwin grounded empty terminated late
              lateTwin fair

/-! ## A step and a run -/

/-- Runs that wait stay in step, unless an event call spills completions. -/
private theorem inStep_wait (paced : Paced ties depth armed run twin) (sized : run.Sized depth)
    (waiting : run.stage = .waiting) (fair : ties.Fair (run.wait rig).rigState) :
    ∃ count, InStep ties depth (ties.Spilled (run.wait rig).rigState) (run.wait rig)
      (twin.steps other count) := by
  have abreast := paced.abreast
  have empty := paced.calm (waiting ▸ rfl)
  have waitingTwin : twin.stage = .waiting :=
    Stage.eq_of_timeless (waiting ▸ abreast.alike.stage) rfl
  have stepTwin : twin.steps other 1 = twin.wait other :=
    (steps_one other twin).trans (step_of_waiting other waitingTwin)
  cases terminated : run.meter.terminated with
  | true =>
      have terminatedTwin := abreast.alike.meter.terminated.trans terminated
      refine ⟨1, .paced armed ?_⟩
      rw [stepTwin, wait_of_terminated rig terminated, wait_of_terminated other terminatedTwin]
      exact ⟨abreast.goTo rfl, .of_empty empty, Or.inr (Or.inl terminated)⟩
  | false =>
      have goingTwin := abreast.alike.meter.terminated.trans terminated
      have covered : depth ≤ armed := by
        rcases paced.covered with filling | decided | covered
        · exact Stage.noConfusion (waiting.symm.trans filling)
        · exact Bool.noConfusion (terminated.symm.trans decided)
        · exact covered
      by_cases grounded : run.queue.inFlight = 0
      · have groundedTwin : twin.queue.inFlight = 0 := abreast.alike.queue ▸ grounded
        refine ⟨1, ?_⟩
        cases halted : run.halted with
        | true =>
            have haltedTwin := abreast.alike.halted.trans halted
            rw [stepTwin, wait_of_halted rig terminated grounded halted,
              wait_of_halted other goingTwin groundedTwin haltedTwin]
            obtain ⟨more, paced⟩ := paced_recover tandem abreast sized empty grounded covered
            exact .paced more paced
        | false =>
            have freeTwin := abreast.alike.halted.trans halted
            rw [stepTwin, wait_of_starved rig terminated grounded halted,
              wait_of_starved other goingTwin groundedTwin freeTwin]
            refine .paced armed ⟨?_, .of_empty empty, Or.inr (Or.inr covered)⟩
            exact ((abreast.note tandem _ _).fail tandem _).goTo rfl
      · rw [wait_of_flying rig terminated grounded] at fair ⊢
        exact inStep_poll tandem abreast waiting terminated grounded empty covered fair

/-- Runs that work off a batch stay in step. -/
private theorem inStep_handleNext (paced : Paced ties depth armed run twin)
    (sized : run.Sized depth)
    (handling : run.stage = .handling) (fair : ties.Fair (run.handleNext rig).rigState) :
    InStep ties depth False (run.handleNext rig) (twin.handleNext other) := by
  have abreast := paced.abreast
  have decided : run.meter.terminated = true ∨ depth ≤ armed :=
    paced.covered.resolve_left fun filling => Stage.noConfusion (handling.symm.trans filling)
  cases waiting : run.arrivals with
  | nil =>
      have emptyTwin := abreast.alike.arrivals.trans waiting
      refine .paced armed ?_
      rw [handleNext, handleNext, waiting, emptyTwin]
      exact ⟨abreast.goTo rfl, .of_empty waiting, Or.inr decided⟩
  | cons completion rest =>
      have waitingTwin := abreast.alike.arrivals.trans waiting
      have handles : run.handleNext rig =
          { run with arrivals := rest }.handle rig completion := by
        rw [handleNext, waiting]
      have handlesTwin : twin.handleNext other =
          { twin with arrivals := rest }.handle other completion := by
        rw [handleNext, waitingTwin]
      rw [handles] at fair ⊢
      rw [handlesTwin]
      have covered (going : run.meter.terminated = false) : depth ≤ armed :=
        decided.resolve_left fun terminated => Bool.noConfusion (going.symm.trans terminated)
      rcases level_handle tandem abreast sized waiting covered fair with
        ⟨more, above, abreast⟩ | both
      · refine .paced more ⟨abreast, .of_batch ?_, Or.inr (decided.imp ?_ ?_)⟩
        · have kept : { run with arrivals := rest }.stage = .handling := handling
          rcases stage_handle rig kept completion with still | broken
          · exact congrArg Stage.isCalm still
          · exact congrArg Stage.isCalm broken
        · intro terminated
          have late : ({ run with arrivals := rest } : Run σ).meter.terminated = true := terminated
          rw [meter_handle_of_terminated rig late]
          exact terminated
        · exact fun reached => Nat.le_trans reached above
      · exact .done both

/-- **The second run follows a step of the first.** -/
theorem Paced.step (paced : Paced ties depth armed run twin)
    (regular : Regular ties depth rig run) :
    ∃ count, InStep ties depth (Cause ties rig other run twin) (run.step rig)
      (twin.steps other count) := by
  obtain ⟨sound, staged, sized, outward, fair⟩ := regular
  have abreast := paced.abreast
  have stageTwin := abreast.alike.stage
  have once {stage : Stage} (stage_eq : run.stage = stage) (untimed : stage.isTimed = false)
      {next : Run σ} {nextTwin : Run τ} (step : run.step rig = next)
      (stepTwin : twin.stage = stage → twin.step other = nextTwin)
      (inStep : InStep ties depth False next nextTwin) :
      ∃ count, InStep ties depth (Cause ties rig other run twin) (run.step rig)
        (twin.steps other count) := by
    refine ⟨1, ?_⟩
    rw [step, steps_one, stepTwin (Stage.eq_of_timeless (stage_eq ▸ stageTwin) untimed)]
    exact inStep.imp False.elim
  cases stage : run.stage with
  | filling =>
      obtain ⟨more, filled⟩ := paced_fill tandem abreast (sized (stage ▸ rfl))
        (paced.calm (stage ▸ rfl)) (sound.grounded stage)
      exact once stage rfl (by rw [Run.step, stage]) (fun same => by rw [Run.step, same])
        (.paced more filled)
  | starting =>
      have sent := abreast_sendStart tandem abreast (outward (stage ▸ rfl))
      have empty := paced.calm (stage ▸ rfl)
      have decided := paced.covered.resolve_left fun filling =>
        Stage.noConfusion (stage.symm.trans filling)
      refine once stage rfl (by rw [Run.step, stage]) (fun same => by rw [Run.step, same])
        (.paced armed ⟨sent, .of_empty ?_, Or.inr ?_⟩)
      · rw [sendStart_eq]
        exact empty
      · rw [sendStart_eq]
        exact decided
  | waiting =>
      -- The one stage in which the second run may need more than a step, but for the end.
      rw [step_of_waiting rig stage] at fair
      obtain ⟨count, inStep⟩ := inStep_wait tandem paced (sized (stage ▸ rfl)) stage fair
      refine ⟨count, ?_⟩
      rw [Cause, step_of_waiting rig stage]
      exact inStep.imp Or.inl
  | handling =>
      have step : run.step rig = run.handleNext rig := by rw [Run.step, stage]
      rw [step] at fair
      exact once stage rfl step (fun same => by rw [Run.step, same])
        (inStep_handleNext tandem paced (sized (stage ▸ rfl)) stage fair)
  | cancelling =>
      have empty := paced.calm (stage ▸ rfl)
      have cancelled := abreast_cancelQueue tandem abreast (sized (stage ▸ rfl)).numbered empty
      exact once stage rfl (by rw [Run.step, stage]) (fun same => by rw [Run.step, same])
        (.paced armed ⟨cancelled, .of_empty empty, Or.inr (Or.inl (staged.decided (stage ▸ rfl)))⟩)
  | draining deadline =>
      exact inStep_drain tandem abreast stage (paced.calm (stage ▸ rfl))
        (staged.decided (stage ▸ rfl)) fair
  | settling deadline =>
      obtain ⟨later, settling⟩ :=
        Stage.settling_of_timeless (stageTwin.trans (congrArg Stage.timeless stage))
      refine ⟨1, .paced armed ?_⟩
      rw [steps_one, Run.step, Run.step, stage, settling]
      refine ⟨abreast_settle tandem abreast deadline later, calm_settle rig stage, Or.inr ?_⟩
      refine Or.inl ?_
      rw [meter_settle]
      exact staged.decided (stage ▸ rfl)
  | abandoning =>
      exact once stage rfl (by rw [Run.step, stage]) (fun same => by rw [Run.step, same])
        (.leaving (leaving_abandonQueue tandem abreast))
  | closing =>
      have leaving : Leaving ties run twin := ⟨abreast.alike, stage, armed, _, abreast.linked⟩
      exact once stage rfl (by rw [Run.step, stage]) (fun same => by rw [Run.step, same])
        (.done (over_close tandem leaving (outward (stage ▸ rfl))))
  | ended _ =>
      rw [step_of_isOver rig (congrArg Stage.isOver stage)]
      exact ⟨0, .paced armed paced⟩
  | broken _ =>
      rw [step_of_isOver rig (congrArg Stage.isOver stage)]
      exact ⟨0, .paced armed paced⟩

/-- Why a run on the first rig and one on the second may part at all. -/
def Parting (ties : Rig.Ties σ τ) (rig : Rig σ) (other : Rig τ) (run : Run σ) (twin : Run τ) :
    Prop :=
  (∃ count, ties.Spilled (run.steps rig count).rigState) ∨
    (∃ count, (run.steps rig count).isOverdue rig = true) ∨
      ∃ count, (twin.steps other count).isOverdue other = true

/-- Runs that are over or have parted need not go on together. -/
theorem InStep.step {cause : Prop} (inStep : InStep ties depth cause run twin)
    (regular : Regular ties depth rig run) :
    ∃ count, InStep ties depth (cause ∨ Cause ties rig other run twin) (run.step rig)
      (twin.steps other count) := by
  cases inStep with
  | paced armed paced =>
      obtain ⟨count, next⟩ := paced.step tandem regular
      exact ⟨count, next.imp Or.inr⟩
  | leaving leaving =>
      have closingTwin : twin.stage = .closing :=
        Stage.eq_of_timeless (leaving.closing ▸ leaving.alike.stage) rfl
      refine ⟨1, ?_⟩
      rw [steps_one, Run.step, Run.step, leaving.closing, closingTwin]
      exact .done (over_close tandem leaving (regular.outward (leaving.closing ▸ rfl)))
  | done both =>
      rw [step_of_isOver rig both.done]
      exact ⟨0, .done both⟩
  | apart apart reason => exact ⟨0, .apart (apart.step rig) (Or.inl reason)⟩

/-- **The second run follows the first.** -/
theorem InStep.steps (begun : Paced ties depth armed run twin)
    (regular : ∀ count, Regular ties depth rig (run.steps rig count)) (count : Nat) :
    ∃ later, InStep ties depth (Parting ties rig other run twin) (run.steps rig count)
      (twin.steps other later) := by
  induction count with
  | zero => exact ⟨0, .paced armed begun⟩
  | succ count ih =>
      obtain ⟨later, inStep⟩ := ih
      obtain ⟨more, next⟩ := inStep.step tandem (regular count)
      rw [steps_succ]
      refine ⟨later + more, ?_⟩
      rw [steps_add]
      refine next.imp ?_
      rintro (parted | spilled | late | ⟨further, late⟩)
      · exact parted
      · rw [← steps_succ] at spilled
        exact Or.inl ⟨count + 1, spilled⟩
      · exact Or.inr (Or.inl ⟨count, late⟩)
      · rw [← steps_add] at late
        exact Or.inr (Or.inr ⟨later + further, late⟩)

end Run

end UsbThroughput
