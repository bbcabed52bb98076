import UsbThroughput.Proofs.Run.Ending
import UsbThroughput.Proofs.Run.Reaction

/-!
# What the next step can do

Everything that one step of a run can do (`Run.Advance`): in which situation, with which calls on
the device, and what the run is like afterwards. In most situations only one of these is left
(`Run.Advance.of_handled` and its like). Every step is one of them (`Run.advances_step`), so a call
that is found in the history of a run was made by one of them (`Benchmark.call_of_split`).
-/

namespace UsbThroughput

open RigEvent

namespace Run

variable {σ : Type}

/-- What one step can do: the calls on the device, and the run afterwards. -/
inductive Advance (run : Run σ) : List RigEvent → Run σ → Prop where
  | stayed (done : run.stage.isOver = true) : Advance run [] run
  /-- The queue is submitted for the first time. -/
  | filled (state : σ) (now later : Duration) (slots : List Slot) (calls : List RigEvent)
      (refusal : Option SubmissionError) (filling : run.stage = .filling)
      (empty : run.queue.inFlight = 0) (fills : Fills run.queue.slots calls slots refusal) :
      Advance run calls
        { run.withSlots slots state with
          meter := (run.meter.start now).failOn later (refusal.map SubmissionError.failure)
          stage := .starting }
  | started (state : σ) (result : UsbResult Nat) (starting : run.stage = .starting)
      (going : run.meter.terminated = false) :
      Advance run
        [.wrote run.channel.endpoint [(Command.start run.direction).byte] run.channel.timeout
          result]
        { run with rigState := state, stage := .waiting }
  | notStarted (state : σ) (starting : run.stage = .starting)
      (terminated : run.meter.terminated = true) :
      Advance run [] { run with rigState := state, stage := .waiting }
  | decided (waiting : run.stage = .waiting) (terminated : run.meter.terminated = true) :
      Advance run [] { run with stage := .cancelling }
  /-- Nothing is in flight, though no halt is to be cleared. -/
  | starved (state : σ) (now : Duration) (waiting : run.stage = .waiting)
      (going : run.meter.terminated = false) (empty : run.queue.inFlight = 0)
      (free : run.halted = false) :
      Advance run []
        { run with rigState := state, meter := run.meter.fail now .stalled, stage := .cancelling }
  /-- The halt is cleared and the queue submitted again. -/
  | recovered (state : σ) (later : Duration) (slots : List Slot) (calls : List RigEvent)
      (refusal : Option SubmissionError) (waiting : run.stage = .waiting)
      (going : run.meter.terminated = false) (empty : run.queue.inFlight = 0)
      (halted : run.halted = true) (fills : Fills run.queue.slots calls slots refusal) :
      Advance run (.haltCleared (run.settings.endpoint run.direction) (.ok ()) :: calls)
        { run.withSlots slots state with
          meter := run.meter.failOn later (refusal.map SubmissionError.failure)
          halted := false
          stage := .waiting }
  /-- The halt cannot be cleared. -/
  | stuck (state : σ) (now : Duration) (error : UsbError) (waiting : run.stage = .waiting)
      (going : run.meter.terminated = false) (empty : run.queue.inFlight = 0)
      (halted : run.halted = true) :
      Advance run [.haltCleared (run.settings.endpoint run.direction) (.error error)]
        { run with rigState := state, meter := run.meter.fail now .stalled }
  | polled (state : σ) (now : Duration) (answer : Polled) (waiting : run.stage = .waiting)
      (going : run.meter.terminated = false) (flying : run.queue.inFlight ≠ 0) :
      Advance run [.polled run.settings.eventTimeout answer]
        { run with
          rigState := state
          arrivals := run.arrivals ++ answer.delivered
          meter := run.meter.failOn now (fatal? (.polled run.settings.eventTimeout answer))
          stage :=
            if (fatal? (.polled run.settings.eventTimeout answer)).isSome then .cancelling
            else .handling }
  | finished (handling : run.stage = .handling) (empty : run.arrivals = []) :
      Advance run [] { run with stage := .waiting }
  | handled {last : Run σ} (completion : Completion) (rest : List Completion)
      (calls : List RigEvent) (handling : run.stage = .handling)
      (waiting : run.arrivals = completion :: rest)
      (reaction : ({ run with arrivals := rest }.receive completion).Reaction completion calls
        last) :
      Advance run calls last
  /-- What is in flight is cancelled at the end of the test. -/
  | recalled (state : σ) (deadline : Duration) (calls : List RigEvent)
      (cancelling : run.stage = .cancelling) (cancels : Cancels run.queue.slots calls) :
      Advance run calls
        { run.withSlots (run.queue.slots.map Slot.recalled) state with
          stage := .draining deadline }
  /-- Nothing is in flight any more, or there is no time left to wait for it. -/
  | drained (state : σ) (deadline : Duration) (draining : run.stage = .draining deadline) :
      Advance run [] { run with rigState := state, stage := .abandoning }
  | awaited (state : σ) (deadline timeout : Duration) (answer : Polled)
      (draining : run.stage = .draining deadline) (flying : run.queue.inFlight ≠ 0) :
      Advance run [.polled timeout answer]
        { run with
          rigState := state
          arrivals := run.arrivals ++ answer.delivered
          stage :=
            if (fatal? (.polled timeout answer)).isSome then .abandoning
            else .settling deadline }
  | resumed (deadline : Duration) (settling : run.stage = .settling deadline)
      (empty : run.arrivals = []) : Advance run [] { run with stage := .draining deadline }
  | settled (state : σ) (deadline : Duration) (completion : Completion) (rest : List Completion)
      (settling : run.stage = .settling deadline) (waiting : run.arrivals = completion :: rest) :
      Advance run []
        { { run with arrivals := rest }.receive completion with rigState := state }
  | abandoned (state : σ) (abandoning : run.stage = .abandoning) :
      Advance run []
        { run.withSlots (run.queue.slots.map relinquish) state with stage := .closing }
  /-- The stop command is sent, unless it was sent before, and the device is closed. -/
  | closed (state : σ) (now : Duration) (result : UsbResult Nat) (closing : run.stage = .closing) :
      Advance run
        (if run.channel.stopSent then [.disconnected]
        else
          [.wrote run.channel.endpoint [Command.stop.byte] run.channel.timeout result,
            .disconnected])
        { run with
          rigState := state
          channel := { run.channel with stopSent := true }
          stage := .ended (run.meter.finish now run.direction) }

/-! ## What a step does in each situation -/

namespace Advance

variable {run last : Run σ} {calls : List RigEvent}

/-- A run that has just begun submits its queue. -/
theorem of_filling (advance : run.Advance calls last) (filling : run.stage = .filling) :
    ∃ state now later slots refusal, Fills run.queue.slots calls slots refusal ∧
      last = { run.withSlots slots state with
        meter := (run.meter.start now).failOn later (refusal.map SubmissionError.failure)
        stage := .starting } := by
  cases advance with
  | filled state now later slots calls refusal _ _ fills =>
      exact ⟨state, now, later, slots, refusal, fills, rfl⟩
  | stayed done =>
      rw [filling] at done
      contradiction
  | _ => exact Stage.noConfusion (filling.symm.trans ‹run.stage = _›)

/-- A run that is not decided when its queue is submitted sends the start command. -/
theorem of_starting (advance : run.Advance calls last) (starting : run.stage = .starting)
    (going : run.meter.terminated = false) :
    ∃ state result,
      calls = [.wrote run.channel.endpoint [(Command.start run.direction).byte]
        run.channel.timeout result] ∧
      last = { run with rigState := state, stage := .waiting } := by
  cases advance with
  | started state result => exact ⟨state, result, rfl, rfl⟩
  | notStarted state _ terminated => exact Bool.noConfusion (going.symm.trans terminated)
  | stayed done =>
      rw [starting] at done
      contradiction
  | _ => exact Stage.noConfusion (starting.symm.trans ‹run.stage = _›)

/-- With nothing in flight a run that waits fails, if there is no halt to be cleared. -/
theorem of_starved (advance : run.Advance calls last) (waiting : run.stage = .waiting)
    (going : run.meter.terminated = false) (empty : run.queue.inFlight = 0)
    (free : run.halted = false) :
    calls = [] ∧ ∃ state now, last = { run with
      rigState := state, meter := run.meter.fail now .stalled, stage := .cancelling } := by
  cases advance with
  | decided _ terminated => exact Bool.noConfusion (going.symm.trans terminated)
  | starved state now => exact ⟨rfl, state, now, rfl⟩
  | stuck _ _ _ _ _ _ halted => exact Bool.noConfusion (free.symm.trans halted)
  | recovered _ _ _ _ _ _ _ _ halted => exact Bool.noConfusion (free.symm.trans halted)
  | polled _ _ _ _ _ flying => exact (flying empty).elim
  | stayed done =>
      rw [waiting] at done
      contradiction
  | _ => exact Stage.noConfusion (waiting.symm.trans ‹run.stage = _›)

/-- With nothing in flight a run that waits attempts to clear the halt, if there is one. -/
theorem of_halted (advance : run.Advance calls last) (waiting : run.stage = .waiting)
    (going : run.meter.terminated = false) (empty : run.queue.inFlight = 0)
    (halted : run.halted = true) :
    (∃ error state now,
      calls = [.haltCleared (run.settings.endpoint run.direction) (.error error)] ∧
      last = { run with rigState := state, meter := run.meter.fail now .stalled }) ∨
    ∃ submissions state later slots refusal,
      calls = .haltCleared (run.settings.endpoint run.direction) (.ok ()) :: submissions ∧
      Fills run.queue.slots submissions slots refusal ∧
      last = { run.withSlots slots state with
        meter := run.meter.failOn later (refusal.map SubmissionError.failure)
        halted := false
        stage := .waiting } := by
  cases advance with
  | decided _ terminated => exact Bool.noConfusion (going.symm.trans terminated)
  | starved _ _ _ _ _ free => exact Bool.noConfusion (halted.symm.trans free)
  | stuck state now error => exact Or.inl ⟨error, state, now, rfl, rfl⟩
  | recovered state later slots submissions refusal _ _ _ _ fills =>
      exact Or.inr ⟨submissions, state, later, slots, refusal, rfl, fills, rfl⟩
  | polled _ _ _ _ _ flying => exact (flying empty).elim
  | stayed done =>
      rw [waiting] at done
      contradiction
  | _ => exact Stage.noConfusion (waiting.symm.trans ‹run.stage = _›)

/-- With something in flight a run that waits asks for completions. -/
theorem of_flying (advance : run.Advance calls last) (waiting : run.stage = .waiting)
    (going : run.meter.terminated = false) (flying : run.queue.inFlight ≠ 0) :
    ∃ state now answer, calls = [.polled run.settings.eventTimeout answer] ∧
      last = { run with
        rigState := state
        arrivals := run.arrivals ++ answer.delivered
        meter := run.meter.failOn now (fatal? (.polled run.settings.eventTimeout answer))
        stage :=
          if (fatal? (.polled run.settings.eventTimeout answer)).isSome then .cancelling
          else .handling } := by
  cases advance with
  | decided _ terminated => exact Bool.noConfusion (going.symm.trans terminated)
  | starved _ _ _ _ empty => exact (flying empty).elim
  | stuck _ _ _ _ _ empty => exact (flying empty).elim
  | recovered _ _ _ _ _ _ _ empty => exact (flying empty).elim
  | polled state now answer => exact ⟨state, now, answer, rfl, rfl⟩
  | stayed done =>
      rw [waiting] at done
      contradiction
  | _ => exact Stage.noConfusion (waiting.symm.trans ‹run.stage = _›)

/-- A run that has acted on everything waits again. -/
theorem of_finished (advance : run.Advance calls last) (handling : run.stage = .handling)
    (empty : run.arrivals = []) : calls = [] ∧ last = { run with stage := .waiting } := by
  cases advance with
  | finished => exact ⟨rfl, rfl⟩
  | handled _ _ _ _ waiting => exact (List.cons_ne_nil _ _ (waiting.symm.trans empty)).elim
  | stayed done =>
      rw [handling] at done
      contradiction
  | _ => exact Stage.noConfusion (handling.symm.trans ‹run.stage = _›)

/-- A run acts on the first of the completions that wait. -/
theorem of_handled (advance : run.Advance calls last) (handling : run.stage = .handling)
    {completion : Completion} {rest : List Completion}
    (waiting : run.arrivals = completion :: rest) :
    ({ run with arrivals := rest }.receive completion).Reaction completion calls last := by
  cases advance with
  | finished _ empty => exact (List.cons_ne_nil _ _ (waiting.symm.trans empty)).elim
  | handled _ _ _ _ also reaction =>
      cases waiting.symm.trans also
      exact reaction
  | stayed done =>
      rw [handling] at done
      contradiction
  | _ => exact Stage.noConfusion (handling.symm.trans ‹run.stage = _›)

end Advance

variable (rig : Rig σ)

/-! ## Each kind of step -/

/-- Submitting the queue when nothing is in flight. -/
theorem fills_fillQueue (run : Run (Journal RigEvent σ)) (empty : run.queue.inFlight = 0)
    (next : Stage) :
    ∃ calls slots refusal state now,
      run.rigState.Performs calls state ∧ Fills run.queue.slots calls slots refusal ∧
      run.fillQueue rig.journaled next =
        { run.withSlots slots state with
          meter := run.meter.failOn now (refusal.map SubmissionError.failure)
          stage := next } := by
  have free : ∀ slot ∈ run.queue.slots, slot.isSubmitted = false := fun slot member =>
    Bool.eq_false_iff.mpr (List.countP_eq_zero.mp empty slot member)
  obtain ⟨calls, refusal, grown, answered, fills⟩ :=
    Queue.fills_submitEach rig free run.rigState
  obtain ⟨state, now, performs, same⟩ := afterSubmission_answer rig refusal next
    (run.withSlots (Queue.submitEach rig.journaled run.queue.slots run.rigState).1.2
      (Queue.submitEach rig.journaled run.queue.slots run.rigState).2)
  rw [← answered] at same
  have submitted : run.rigState.Performs calls state :=
    Journal.Performs.then_aside (.of_calls fills.onDevice grown) performs
  exact ⟨calls, _, refusal, state, now, submitted, fills, same⟩

/-- Sending a command is one call. -/
theorem performs_send (channel : Channel) (command : Command) (journal : Journal RigEvent σ) :
    ∃ result,
      journal.Performs [.wrote channel.endpoint [command.byte] channel.timeout result]
        (channel.send rig.journaled command journal).2 := by
  have noted := rig.performs_note (.sending command channel.endpoint) journal
  have written := rig.history_write
    (rig.journaled.note (.sending command channel.endpoint) journal) channel.endpoint
    [command.byte] channel.timeout
  have called := noted.trans (.of_call rfl written)
  unfold Channel.send
  dsimp only
  split
  next same =>
    rw [same] at called
    exact ⟨_, called⟩
  next same =>
    rw [same] at called
    exact ⟨_, called.then_aside (rig.performs_note _ _)⟩
  next same =>
    rw [same] at called
    exact ⟨_, called.then_aside (rig.performs_note _ _)⟩

private theorem advances_fill {run : Run (Journal RigEvent σ)} (filling : run.stage = .filling)
    (empty : run.queue.inFlight = 0) :
    ∃ calls, run.rigState.Performs calls (run.fill rig.journaled).rigState ∧
      run.Advance calls (run.fill rig.journaled) := by
  obtain ⟨calls, slots, refusal, state, later, performs, fills, same⟩ := fills_fillQueue rig
    { run with
      rigState := (rig.journaled.now run.rigState).2
      meter := run.meter.start (rig.journaled.now run.rigState).1 } empty .starting
  unfold fill
  dsimp only
  rw [same]
  exact ⟨calls, performs, .filled state _ later slots calls refusal filling empty fills⟩

private theorem advances_sendStart {run : Run (Journal RigEvent σ)}
    (starting : run.stage = .starting) :
    ∃ calls, run.rigState.Performs calls (run.sendStart rig.journaled).rigState ∧
      run.Advance calls (run.sendStart rig.journaled) := by
  have noted := rig.performs_note (.moved .deviceOpened .queueArmed) run.rigState
  unfold sendStart
  dsimp only
  split
  next terminated =>
    exact ⟨[], noted.then_aside (rig.performs_note _ _), .notStarted _ starting terminated⟩
  next going =>
    obtain ⟨result, sent⟩ := performs_send rig run.channel (.start run.direction)
      (rig.journaled.note (.moved .deviceOpened .queueArmed) run.rigState)
    refine ⟨_, (noted.trans sent).then_aside (rig.performs_note _ _), ?_⟩
    exact .started _ result starting (Bool.eq_false_iff.mpr going)

private theorem advances_recover {run : Run (Journal RigEvent σ)} (waiting : run.stage = .waiting)
    (going : run.meter.terminated = false) (empty : run.queue.inFlight = 0)
    (halted : run.halted = true) :
    ∃ calls, run.rigState.Performs calls (run.recover rig.journaled).rigState ∧
      run.Advance calls (run.recover rig.journaled) := by
  have noted := rig.performs_note (.clearingHalt (run.settings.endpoint run.direction)) run.rigState
  have written := rig.history_clearHalt
    (rig.journaled.note (.clearingHalt (run.settings.endpoint run.direction)) run.rigState)
    (run.settings.endpoint run.direction)
  have called := noted.trans (.of_call rfl written)
  unfold recover
  dsimp only
  split
  next cleared same =>
    have answer : (rig.journaled.clearHalt (run.settings.endpoint run.direction)
      (rig.journaled.note (.clearingHalt (run.settings.endpoint run.direction)) run.rigState)) =
        (.ok (), cleared) := same
    rw [answer] at called
    obtain ⟨calls, slots, refusal, state, later, performs, fills, filled⟩ := fills_fillQueue rig
      { run.note rig.journaled (.clearingHalt (run.settings.endpoint run.direction)) with
        rigState := cleared, halted := false } empty .waiting
    rw [filled]
    refine ⟨_, called.trans performs, ?_⟩
    exact .recovered state later slots calls refusal waiting going empty halted fills
  next error remains same =>
    have answer : (rig.journaled.clearHalt (run.settings.endpoint run.direction)
      (rig.journaled.note (.clearingHalt (run.settings.endpoint run.direction)) run.rigState)) =
        (.error error, remains) := same
    rw [answer] at called
    refine ⟨_, (called.then_aside (rig.performs_note _ _)).then_aside (.of_same rfl), ?_⟩
    exact .stuck _ _ error waiting going empty halted

private theorem fatal?_of_goesOn {timeout : Duration} {answer : Polled}
    (goesOn : answer.result = .ok () ∨ answer.result = .error .interrupted) :
    fatal? (.polled timeout answer) = none := by
  rcases answer with ⟨delivered, result⟩
  rcases goesOn with rfl | rfl <;> rfl

private theorem fatal?_of_error {timeout : Duration} {answer : Polled} {error : UsbError}
    (failed : answer.result = .error error) (serious : error ≠ .interrupted) :
    fatal? (.polled timeout answer) = some (.ofUsbError error) := by
  rcases answer with ⟨delivered, result⟩
  cases failed
  cases error <;> first | rfl | exact (serious rfl).elim

private theorem advances_poll {run : Run (Journal RigEvent σ)} (waiting : run.stage = .waiting)
    (going : run.meter.terminated = false) (flying : run.queue.inFlight ≠ 0) :
    ∃ calls, run.rigState.Performs calls (run.poll rig.journaled).rigState ∧
      run.Advance calls (run.poll rig.journaled) := by
  have called : run.rigState.Performs [_] _ :=
    .of_call rfl (rig.history_poll run.rigState run.settings.eventTimeout)
  have advance (state : Journal RigEvent σ) (now : Duration) := Advance.polled state now
    (rig.journaled.poll run.settings.eventTimeout run.rigState).1 waiting going flying
  unfold poll
  dsimp only
  split
  next answered =>
    rw [fatal?_of_goesOn (Or.inl answered)] at advance
    exact ⟨_, called, advance _ .zero⟩
  next answered =>
    rw [fatal?_of_goesOn (Or.inr answered)] at advance
    exact ⟨_, called, advance _ .zero⟩
  next error serious failed =>
    rw [fatal?_of_error failed serious] at advance
    exact ⟨_, (called.then_aside (rig.performs_note _ _)).then_aside (.of_same rfl), advance _ _⟩

private theorem advances_wait {run : Run (Journal RigEvent σ)} (waiting : run.stage = .waiting) :
    ∃ calls, run.rigState.Performs calls (run.wait rig.journaled).rigState ∧
      run.Advance calls (run.wait rig.journaled) := by
  unfold wait
  split
  next terminated => exact ⟨[], .refl _, .decided waiting terminated⟩
  next unfinished =>
    have going := Bool.eq_false_iff.mpr unfinished
    split
    next empty =>
      split
      next halted => exact advances_recover rig waiting going empty halted
      next free =>
        refine ⟨[], (rig.performs_note .nothingInFlight run.rigState).then_aside (.of_same rfl), ?_⟩
        exact .starved _ _ waiting going empty (Bool.eq_false_iff.mpr free)
    next flying => exact advances_poll rig waiting going flying

private theorem advances_handleNext {run : Run (Journal RigEvent σ)}
    (handling : run.stage = .handling) :
    ∃ calls, run.rigState.Performs calls (run.handleNext rig.journaled).rigState ∧
      run.Advance calls (run.handleNext rig.journaled) := by
  unfold handleNext
  split
  next empty => exact ⟨[], .refl _, .finished handling empty⟩
  next completion rest waiting =>
    obtain ⟨calls, performs, reaction⟩ := reacts_handle rig { run with arrivals := rest } completion
    exact ⟨calls, performs, .handled completion rest calls handling waiting reaction⟩

private theorem advances_cancelQueue {run : Run (Journal RigEvent σ)}
    (cancelling : run.stage = .cancelling) :
    ∃ calls, run.rigState.Performs calls (run.cancelQueue rig.journaled).rigState ∧
      run.Advance calls (run.cancelQueue rig.journaled) := by
  let noted := rig.journaled.note (.moved .running .draining) run.rigState
  obtain ⟨calls, performs, cancels, slots⟩ := Queue.cancels_cancelEach rig run.queue.slots noted
  have moved : run.rigState.Performs [] noted := rig.performs_note _ _
  have advance (state : Journal RigEvent σ) (deadline : Duration) : run.Advance calls
      { run.withSlots (Queue.cancelEach rig.journaled run.queue.slots noted).1 state with
        stage := .draining deadline } := by
    rw [slots]
    exact .recalled state deadline calls cancelling cancels
  exact ⟨calls, ((moved.trans performs).then_aside (rig.performs_note _ _)).then_aside (.of_same rfl),
    advance _ _⟩

private theorem advances_drain {run : Run (Journal RigEvent σ)} {deadline : Duration}
    (draining : run.stage = .draining deadline) :
    ∃ calls, run.rigState.Performs calls (run.drain rig.journaled deadline).rigState ∧
      run.Advance calls (run.drain rig.journaled deadline) := by
  rcases clock : rig.journaled.now run.rigState with ⟨now, read⟩
  have passed : run.rigState.Performs [] read := by
    have kept : run.rigState.Performs [] (rig.journaled.now run.rigState).2 := .of_same rfl
    rwa [clock] at kept
  unfold drain
  rw [clock]
  split
  next empty => exact ⟨[], .refl _, .drained run.rigState deadline draining⟩
  next flying =>
    dsimp only
    split
    next late => exact ⟨[], passed, .drained _ deadline draining⟩
    next =>
      generalize (deadline.since now).min _ = timeout
      have called := passed.trans (.of_call rfl (rig.history_poll read timeout))
      have advance (state : Journal RigEvent σ) := Advance.awaited state deadline timeout
        (rig.journaled.poll timeout read).1 draining flying
      split
      next answered =>
        rw [fatal?_of_goesOn (Or.inl answered)] at advance
        exact ⟨_, called, advance _⟩
      next answered =>
        rw [fatal?_of_goesOn (Or.inr answered)] at advance
        exact ⟨_, called, advance _⟩
      next error serious failed =>
        rw [fatal?_of_error failed serious] at advance
        exact ⟨_, called.then_aside (rig.performs_note _ _), advance _⟩

private theorem advances_settle {run : Run (Journal RigEvent σ)} {deadline : Duration}
    (settling : run.stage = .settling deadline) :
    ∃ calls, run.rigState.Performs calls (run.settle rig.journaled deadline).rigState ∧
      run.Advance calls (run.settle rig.journaled deadline) := by
  unfold settle
  split
  next empty => exact ⟨[], .refl _, .resumed deadline settling empty⟩
  next completion rest waiting =>
    have received : run.rigState.Performs []
        ({ run with arrivals := rest }.receive completion).rigState :=
      .of_same (congrArg Journal.history (rigState_receive _ completion))
    have noted := received.then_aside
      (rig.performs_note (.drained completion.slot completion.status) _)
    exact ⟨[], noted, .settled _ deadline completion rest settling waiting⟩

/-- Relinquishing slots makes no call on the device. -/
theorem performs_abandonEach (slots : List Slot) (journal : Journal RigEvent σ) :
    journal.Performs [] (Queue.abandonEach rig.journaled slots journal).2 := by
  induction slots generalizing journal with
  | nil => exact .refl journal
  | cons slot rest ih =>
      unfold Queue.abandonEach
      cases slot.isSubmitted with
      | true => exact (rig.performs_note (.abandoned slot.id) journal).then_aside (ih _)
      | false => exact ih journal

private theorem advances_abandonQueue {run : Run (Journal RigEvent σ)}
    (abandoning : run.stage = .abandoning) :
    ∃ calls, run.rigState.Performs calls (run.abandonQueue rig.journaled).rigState ∧
      run.Advance calls (run.abandonQueue rig.journaled) := by
  have advance (state : Journal RigEvent σ) : run.Advance []
      { run.withSlots (Queue.abandonEach rig.journaled run.queue.slots run.rigState).1 state with
        stage := .closing } := by
    rw [slots_abandonEach]
    exact .abandoned state abandoning
  exact ⟨[], performs_abandonEach rig run.queue.slots run.rigState, advance _⟩

/-- Stopping the device is one call, unless it was stopped before. -/
theorem performs_stop (channel : Channel) (journal : Journal RigEvent σ) :
    (channel.stop rig.journaled journal).1.2 = { channel with stopSent := true } ∧
      ∃ result,
        journal.Performs
          (if channel.stopSent then []
          else [.wrote channel.endpoint [Command.stop.byte] channel.timeout result])
          (channel.stop rig.journaled journal).2 := by
  rcases channel with ⟨endpoint, timeout, stopSent⟩
  cases stopSent with
  | true => exact ⟨rfl, .ok 0, .refl journal⟩
  | false =>
      obtain ⟨result, called⟩ := performs_send rig ⟨endpoint, timeout, true⟩ .stop journal
      exact ⟨rfl, result, called⟩

private theorem advances_close {run : Run (Journal RigEvent σ)} (closing : run.stage = .closing) :
    ∃ calls, run.rigState.Performs calls (run.close rig.journaled).rigState ∧
      run.Advance calls (run.close rig.journaled) := by
  let verdict := run.meter.finish (rig.journaled.now run.rigState).1 run.direction
  have shut (before : Journal RigEvent σ) (aside : run.rigState.Performs [] before)
      (notice : Notice) :
      let last := ((({ run with rigState := before }.sendStop rig.journaled).note rig.journaled
        notice).disconnect rig.journaled).goTo (.ended verdict)
      ∃ calls, run.rigState.Performs calls last.rigState ∧ run.Advance calls last := by
    intro last
    obtain ⟨channel, result, stopped⟩ := performs_stop rig run.channel before
    have noted := (aside.trans stopped).then_aside (rig.performs_note notice _)
    have called := noted.trans (.of_call rfl (rig.history_disconnect _))
    have advance := Advance.closed last.rigState (rig.journaled.now run.rigState).1 result closing
    rw [← channel] at advance
    refine ⟨_, called, ?_⟩
    cases sent : run.channel.stopSent with
    | true =>
        rw [sent] at advance
        exact advance
    | false =>
        rw [sent] at advance
        exact advance
  unfold close
  dsimp only
  split
  next report _ =>
    have noted := rig.performs_note (.report report) (rig.journaled.now run.rigState).2
    exact shut (rig.journaled.note (.report report) (rig.journaled.now run.rigState).2)
      (Journal.Performs.trans (.of_same rfl) noted) _
  next => exact shut (rig.journaled.now run.rigState).2 (.of_same rfl) _

/-- **What the next step can do.** -/
theorem advances_step {run : Run (Journal RigEvent σ)} (sound : run.Sound) :
    ∃ calls, run.rigState.Performs calls (run.step rig.journaled).rigState ∧
      run.Advance calls (run.step rig.journaled) := by
  unfold step
  cases stage : run.stage with
  | filling => exact advances_fill rig stage (sound.grounded stage)
  | starting => exact advances_sendStart rig stage
  | waiting => exact advances_wait rig stage
  | handling => exact advances_handleNext rig stage
  | cancelling => exact advances_cancelQueue rig stage
  | draining deadline => exact advances_drain rig stage
  | settling deadline => exact advances_settle rig stage
  | abandoning => exact advances_abandonQueue rig stage
  | closing => exact advances_close rig stage
  | ended _ => exact ⟨[], .refl _, .stayed (stage ▸ rfl)⟩
  | broken _ => exact ⟨[], .refl _, .stayed (stage ▸ rfl)⟩

/-- A run that has just begun is sound. -/
theorem Sound.of_filling {run : Run σ} (filling : run.stage = .filling)
    (empty : run.queue.inFlight = 0) : run.Sound where
  grounded _ := empty
  sound _ broken := Stage.noConfusion (filling.symm.trans broken)

end Run

/-! ## The steps of a benchmark -/

namespace Benchmark

variable {σ : Type} (rig : Rig σ) (benchmark : Benchmark) (state : σ)

/-- Before the first step no call is made but the one that opens the device. -/
theorem aside_begin :
    ∀ event ∈ (benchmark.runAfter rig.journaled { state } 0).rigState.history,
      event.onDevice = false := by
  change ∀ event ∈ (rig.journaled.note _ (benchmark.connect rig.journaled { state }).2).history, _
  rw [rig.history_note]
  unfold connect
  split
  · exact List.forall_mem_cons.mpr ⟨rfl, List.forall_mem_nil _⟩
  · exact List.forall_mem_cons.mpr ⟨rfl, List.forall_mem_cons.mpr ⟨rfl, List.forall_mem_nil _⟩⟩

/-- A benchmark is sound at every step. -/
theorem sound_runAfter (state : σ) (count : Nat) : (benchmark.runAfter rig state count).Sound :=
  (Run.Sound.of_filling rfl (inFlight_ofSettings _ _)).steps rig count

/-- The queue is submitted for the first time by the first step. -/
theorem eq_zero_of_filling {state : σ} {count : Nat}
    (filling : (benchmark.runAfter rig state count).stage = .filling) : count = 0 := by
  cases count with
  | zero => rfl
  | succ count =>
      rw [runAfter, Run.steps_succ] at filling
      exact (Stage.ne_filling_of_leadsTo (Run.leadsTo_step rig _) filling).elim

/-- **The next step of a benchmark.** -/
theorem advances_runAfter (count : Nat) :
    ∃ calls,
      (benchmark.runAfter rig.journaled { state } count).rigState.Performs calls
        (benchmark.runAfter rig.journaled { state } (count + 1)).rigState ∧
      (benchmark.runAfter rig.journaled { state } count).Advance calls
        (benchmark.runAfter rig.journaled { state } (count + 1)) := by
  rw [show benchmark.runAfter rig.journaled { state } (count + 1) =
    (benchmark.runAfter rig.journaled { state } count).step rig.journaled from
      Run.steps_succ rig.journaled count _]
  exact Run.advances_step rig (benchmark.sound_runAfter rig.journaled { state } count)

/-- What was written down stays for the next step. -/
theorem history_runAfter_succ (count : Nat) :
    (benchmark.runAfter rig.journaled { state } count).rigState.history <+:
      (benchmark.runAfter rig.journaled { state } (count + 1)).rigState.history := by
  obtain ⟨_, performs, _⟩ := benchmark.advances_runAfter rig state count
  exact performs.isPrefix

/-- What was written down stays. -/
theorem history_runAfter_le {count later : Nat} (before : count ≤ later) :
    (benchmark.runAfter rig.journaled { state } count).rigState.history <+:
      (benchmark.runAfter rig.journaled { state } later).rigState.history := by
  induction later, before using Nat.le_induction with
  | base => exact List.prefix_refl _
  | succ later _ ih => exact ih.trans (benchmark.history_runAfter_succ rig state later)

variable {benchmark state} in
/-- A run that is over has everything in its history. -/
theorem history_isPrefix {limit : Nat}
    (stopped : (benchmark.runAfter rig.journaled { state } limit).stage.isOver = true)
    (count : Nat) :
    (benchmark.runAfter rig.journaled { state } count).rigState.history <+:
      (benchmark.runAfter rig.journaled { state } limit).rigState.history := by
  rcases Nat.le_total count limit with before | after
  · exact benchmark.history_runAfter_le rig state before
  · rw [benchmark.runAfter_of_isOver rig.journaled stopped after]

/-- A call on the device that is found in the history was made by one of the steps. -/
theorem call_of_split (count : Nat) {before after : List RigEvent} {event : RigEvent}
    (call : event.onDevice = true)
    (split : (benchmark.runAfter rig.journaled { state } count).rigState.history =
      before ++ event :: after) :
    ∃ earlier < count, ∃ calls first rest,
      (benchmark.runAfter rig.journaled { state } earlier).Advance calls
        (benchmark.runAfter rig.journaled { state } (earlier + 1)) ∧
      before = (benchmark.runAfter rig.journaled { state } earlier).rigState.history ++ first ∧
      (benchmark.runAfter rig.journaled { state } (earlier + 1)).rigState.history =
        (benchmark.runAfter rig.journaled { state } earlier).rigState.history ++
          (first ++ event :: rest) ∧
      deviceCalls first ++ event :: deviceCalls rest = calls := by
  have fresh : event ∉ (benchmark.runAfter rig.journaled { state } 0).rigState.history := by
    intro member
    have quiet := benchmark.aside_begin rig state event member
    rw [call] at quiet
    contradiction
  obtain ⟨earlier, less, first, rest, found, grown⟩ := Journal.written_by_step
    (benchmark.history_runAfter_succ rig state) count fresh split
  obtain ⟨calls, ⟨events, grows, same⟩, advance⟩ := benchmark.advances_runAfter rig state earlier
  refine ⟨earlier, less, calls, first, rest, advance, found, grown, ?_⟩
  rw [← same, List.append_cancel_left (grows.symm.trans grown), deviceCalls_append]
  exact congrArg _ (List.filter_cons_of_pos call).symm

end Benchmark

end UsbThroughput
