import UsbThroughput.Proofs.Run.Abreast
import UsbThroughput.Proofs.Run.Branches
import UsbThroughput.Proofs.Run.Tally

/-!
# Runs in step

How far two runs on rigs in tandem have come together (`Run.InStep`), and that they stay together
as the queue is submitted, completions are asked for, and each completion is acted on. The second
run takes more steps where its rig has kept completions back. The runs part when a failed call has
handed over completions: the test is decided then.
-/

namespace UsbThroughput

variable {σ τ : Type}

namespace Run

variable {ties : Rig.Ties σ τ} {rig : Rig σ} {other : Rig τ} {depth armed : Nat} {run : Run σ}
  {twin : Run τ}

/-- What the slots and the channel of a test are, up to the step that abandons the slots. -/
structure Sized (depth : Nat) (run : Run σ) : Prop where
  numbered : run.queue.Numbered
  fits : ∀ slot ∈ run.queue.slots, slot.Fits
  depth_eq : run.queue.depth = depth

/-- Two runs that go the same way, between two steps. -/
structure Paced (ties : Rig.Ties σ τ) (depth armed : Nat) (run : Run σ) (twin : Run τ) : Prop where
  abreast : Abreast ties armed run twin
  calm : run.Calm
  covered : run.stage = .filling ∨ run.meter.terminated = true ∨ depth ≤ armed

/-- Two runs that go the same way, and have abandoned what was in flight. -/
structure Leaving (ties : Rig.Ties σ τ) (run : Run σ) (twin : Run τ) : Prop where
  alike : run.Alike twin
  closing : run.stage = .closing
  linked : ∃ armed out, ties.Linked armed out run.rigState twin.rigState

/-- Two runs that have parted after the same decision. -/
structure Apart (run : Run σ) (twin : Run τ) : Prop where
  meter : run.meter.Alike twin.meter
  direction : twin.direction = run.direction
  final : run.stage.isFinal = true
  finalTwin : twin.stage.isFinal = true

/-- Runs that are alike may part once the test is decided. -/
theorem Alike.apart (alike : run.Alike twin) (final : run.stage.isFinal = true) :
    Apart run twin where
  meter := alike.meter
  direction := alike.direction
  final := final
  finalTwin := by
    rw [← Stage.isFinal_timeless, alike.stage, Stage.isFinal_timeless]
    exact final

/-- A step of a run that has parted changes nothing that was decided. -/
theorem Apart.step (apart : Apart run twin) (rig : Rig σ) : Apart (run.step rig) twin where
  meter := by
    rw [meter_step_of_isFinal rig apart.final]
    exact apart.meter
  direction := apart.direction.trans (settings_step rig run).2.symm
  final := Stage.isFinal_of_leadsTo (leadsTo_step rig run) apart.final
  finalTwin := apart.finalTwin

/-- How far two runs have come together: they part only if there was a cause. -/
inductive InStep (ties : Rig.Ties σ τ) (depth : Nat) (cause : Prop) (run : Run σ) (twin : Run τ) :
    Prop where
  | paced (armed : Nat) (paced : Paced ties depth armed run twin)
  | leaving (leaving : Leaving ties run twin)
  | done (both : Over ties run twin)
  | apart (apart : Apart run twin) (cause : cause)

/-- What a run brings to its next step if the other is to follow. -/
structure Regular (ties : Rig.Ties σ τ) (depth : Nat) (rig : Rig σ) (run : Run σ) : Prop where
  sound : run.Sound
  staged : run.Staged
  sized : run.stage.holdsSlots = true → run.Sized depth
  outward : run.stage.isOver = false → Direction.ofAddress run.channel.endpoint = .outbound
  fair : ties.Fair (run.step rig).rigState

/-- Why two runs may part in the next step of the first. -/
def Cause (ties : Rig.Ties σ τ) (rig : Rig σ) (other : Rig τ) (run : Run σ) (twin : Run τ) : Prop :=
  ties.Spilled (run.step rig).rigState ∨ run.isOverdue rig = true ∨
    ∃ count, (twin.steps other count).isOverdue other = true

/-- What parts runs for one reason parts them for a weaker one. -/
theorem InStep.imp {cause reason : Prop}
    (inStep : InStep ties depth cause run twin) (follows : cause → reason) :
    InStep ties depth reason run twin := by
  cases inStep with
  | paced armed paced => exact .paced armed paced
  | leaving leaving => exact .leaving leaving
  | done both => exact .done both
  | apart apart cause => exact .apart apart (follows cause)

/-- Completions are handed over by both. -/
theorem Abreast.handOver (abreast : Abreast ties armed run twin) {delivered : List Completion}
    (apart : (delivered.map Completion.slot).Nodup)
    (out : ∀ completion ∈ delivered, run.isOut completion.slot = true) {state : σ} {later : τ}
    (linked : ties.Linked armed (Completion.stillOut delivered run.isOut) state later) :
    Abreast ties armed { run with rigState := state, arrivals := run.arrivals ++ delivered }
      { twin with rigState := later, arrivals := twin.arrivals ++ delivered } where
  alike := ⟨congrArg (fun outline => { outline with arrivals := outline.arrivals ++ delivered })
    abreast.alike.outline, abreast.alike.meter, abreast.alike.stage⟩
  linked := by
    have same : Run.isOut { run with rigState := state, arrivals := run.arrivals ++ delivered } =
        Completion.stillOut delivered run.isOut := by
      funext id
      simp only [isOut, Completion.stillOut, List.any_append, Bool.not_or, Bool.and_assoc]
    rw [same]
    exact linked
  apart := by
    rw [List.map_append]
    refine List.nodup_append.mpr ⟨abreast.apart, apart, ?_⟩
    rintro _ before _ after rfl
    obtain ⟨first, waiting, same⟩ := List.mem_map.mp before
    obtain ⟨second, member, named⟩ := List.mem_map.mp after
    have gone := out second member
    rw [isOut, Completion.stillOut, Bool.and_eq_true, Bool.not_eq_true', List.any_eq_false] at gone
    exact gone.2 first waiting (beq_iff_eq.mpr (same.trans named.symm))
  flying := by
    refine List.forall_mem_append.mpr ⟨abreast.flying, fun completion member => ?_⟩
    have flies : (run.queue.slot? completion.slot).any Slot.isSubmitted = true :=
      (Bool.and_eq_true_iff.mp (out completion member)).1
    cases held : run.queue.slot? completion.slot with
    | none =>
        rw [held] at flies
        contradiction
    | some slot =>
        rw [held] at flies
        exact ⟨slot, rfl, flies⟩

variable (tandem : ties.Tandem rig other)

include tandem

/-! ## Submissions and cancellations -/

namespace Abreast

/-- After an attempt at submission the runs go on, or both are broken off. -/
theorem afterSubmission (abreast : Abreast ties armed run twin)
    {result also : Except Refusal Unit} (same : also = result) (next : Stage) :
    Level ties armed (run.afterSubmission rig result next)
      (twin.afterSubmission other also next) := by
  subst same
  match also with
  | .ok () => exact (abreast.goTo rfl).level
  | .error (.rejected error) =>
      exact Abreast.level (((abreast.note tandem _ _).fail tandem _).goTo rfl)
  | .error (.inFlight slot) =>
      exact Or.inr ⟨⟨abreast.alike.outline, abreast.alike.meter, rfl⟩, rfl,
        tandem.disconnect abreast.linked⟩

/-- The queue is submitted by both when nothing is in flight. -/
theorem fillQueue (abreast : Abreast ties armed run twin) (numbered : run.queue.Numbered)
    (fits : ∀ slot ∈ run.queue.slots, slot.Fits) (empty : run.queue.inFlight = 0) (next : Stage) :
    ∃ more ≥ armed,
      ((run.fillQueue rig next).meter.terminated = true ∨ run.queue.depth ≤ more) ∧
      Abreast ties more (run.fillQueue rig next) (twin.fillQueue other next) := by
  have free : ∀ slot ∈ run.queue.slots, slot.isSubmitted = false := fun slot member =>
    Bool.eq_false_iff.mpr (List.countP_eq_zero.mp empty slot member)
  have named : run.queue.slots.map Slot.id = List.range' 0 run.queue.slots.length :=
    numbered.ids_eq.trans List.range_eq_range'
  obtain ⟨same, more, above, all, filled⟩ := abreast.submitEach tandem run.queue.slots [] []
    (List.append_nil _).symm named fits free (Nat.zero_le armed)
  have once := refusal_submitEach rig free run.rigState
  rcases answer : Queue.submitEach rig run.queue.slots run.rigState with ⟨⟨result, slots⟩, state⟩
  rcases answerTwin : Queue.submitEach other run.queue.slots twin.rigState with ⟨pair, later⟩
  rw [answer, answerTwin] at same
  rw [answer] at all once
  rw [answer, answerTwin, List.append_nil] at filled
  obtain rfl : pair = (result, slots) := same
  rw [← abreast.alike.queue] at answerTwin
  unfold Run.fillQueue Queue.submit
  rw [answer, answerTwin]
  refine ⟨more, above, ?_⟩
  match result with
  | .ok () =>
      refine ⟨Or.inr ?_, filled.goTo rfl⟩
      have reached := all rfl
      rwa [List.length_nil, Nat.zero_add] at reached
  | .error (.rejected error) =>
      refine ⟨Or.inl (terminated_fail_eq _ _ _), ?_⟩
      exact ((filled.note tandem (.refused error) (.refused error)).fail tandem
        error.failure).goTo rfl
  | .error (.inFlight id) => exact absurd rfl (once id)

/-- The queue is cancelled by both. -/
theorem cancelAll (abreast : Abreast ties armed run twin) (numbered : run.queue.Numbered)
    (fair : run.arrivals = [] ∨ ties.Fair (run.cancelAll rig).rigState) :
    Abreast ties armed (run.cancelAll rig) (twin.cancelAll other) := by
  have named : run.queue.slots.map Slot.id = List.range' 0 run.queue.slots.length :=
    numbered.ids_eq.trans List.range_eq_range'
  obtain ⟨same, cancelled⟩ := abreast.cancelEach tandem run.queue.slots [] rfl named fair
  rw [← same, ← abreast.alike.queue] at cancelled
  have own : twin.cancelAll other =
      twin.withSlots ([] ++ (Queue.cancelEach other twin.queue.slots twin.rigState).1)
        (Queue.cancelEach other twin.queue.slots twin.rigState).2 := rfl
  rw [own]
  have left : run.cancelAll rig =
      run.withSlots ([] ++ (Queue.cancelEach other twin.queue.slots twin.rigState).1)
        (Queue.cancelEach rig twin.queue.slots run.rigState).2 := by
    rw [abreast.alike.queue, same]
    rfl
  rw [left]
  exact cancelled

end Abreast

/-! ## Calls for completions -/

section Stages

variable (abreast : Abreast ties armed run twin) (sized : run.Sized depth)

include abreast sized

/-- The queues are filled at the same pace. -/
theorem paced_fill (empty : run.arrivals = []) (grounded : run.queue.inFlight = 0) :
    ∃ armed, Paced ties depth armed (run.fill rig) (twin.fill other) := by
  have begun := (abreast.now tandem).withMeter
    (abreast.alike.meter.start (rig.now run.rigState).1 (other.now twin.rigState).1)
  obtain ⟨more, _, covered, filled⟩ :=
    begun.fillQueue tandem sized.numbered sized.fits grounded .starting
  refine ⟨more, filled, ?_, Or.inr ?_⟩
  · exact .of_empty ((arrivals_afterSubmission rig _ _ _).trans empty)
  · exact sized.depth_eq ▸ covered

/-- The queues are filled again at the same pace after a halt. -/
theorem paced_recover (empty : run.arrivals = [])
    (grounded : run.queue.inFlight = 0) (covered : depth ≤ armed) :
    ∃ armed, Paced ties depth armed (run.recover rig) (twin.recover other) := by
  have noted := abreast.note tandem (.clearingHalt (run.settings.endpoint run.direction))
    (.clearingHalt (run.settings.endpoint run.direction))
  obtain ⟨same, linked⟩ := tandem.clearHalt noted.linked (run.settings.endpoint run.direction)
  unfold recover
  rw [abreast.alike.settings, abreast.alike.direction]
  dsimp only
  rcases answer : rig.clearHalt (run.settings.endpoint run.direction)
    (run.note rig (.clearingHalt (run.settings.endpoint run.direction))).rigState with
      ⟨result, state⟩
  rcases answerTwin : other.clearHalt (run.settings.endpoint run.direction)
    (twin.note other (.clearingHalt (run.settings.endpoint run.direction))).rigState with
      ⟨resultTwin, later⟩
  rw [answer, answerTwin] at same linked
  obtain rfl : resultTwin = result := same
  have cleared := noted.withRigs linked
  cases resultTwin with
  | ok _ =>
      have free := cleared.withHalt abreast.alike.recoveries false
      obtain ⟨more, _, filled, paced⟩ :=
        free.fillQueue tandem sized.numbered sized.fits grounded .waiting
      refine ⟨more, paced, ?_, Or.inr (sized.depth_eq ▸ filled)⟩
      exact .of_empty ((arrivals_afterSubmission rig _ _ _).trans empty)
  | error error =>
      refine ⟨armed, (cleared.note tandem _ _).fail tandem .stalled, .of_empty empty, Or.inr ?_⟩
      exact Or.inr covered

end Stages

/-- Runs stay abreast when both send the start command. -/
theorem abreast_sendStart (abreast : Abreast ties armed run twin)
    (outward : Direction.ofAddress run.channel.endpoint = .outbound) :
    Abreast ties armed (run.sendStart rig) (twin.sendStart other) := by
  have noted := abreast.note tandem (.moved .deviceOpened .queueArmed)
    (.moved .deviceOpened .queueArmed)
  have terminated : (twin.note other (.moved .deviceOpened .queueArmed)).meter.terminated =
    (run.note rig (.moved .deviceOpened .queueArmed)).meter.terminated :=
      abreast.alike.meter.terminated
  unfold sendStart
  dsimp only
  rw [terminated]
  split
  · exact (noted.note tandem _ _).goTo rfl
  · have sent := noted.send tandem abreast.alike.channel
      (congrArg Command.start abreast.alike.direction) outward
    exact (sent.note tandem _ _).goTo rfl

/-- What is fair after a call for completions was acted on was so right after the call. -/
theorem fairBeforePoll (fair : ties.Fair (run.poll rig).rigState) :
    ties.Fair (rig.poll run.settings.eventTimeout run.rigState).2 := by
  rcases polled : rig.poll run.settings.eventTimeout run.rigState with ⟨answer, state⟩
  rcases answer.goesOn_or_failed with goesOn | ⟨error, failed, serious⟩
  · rwa [poll_of_goesOn rig polled goesOn] at fair
  · rw [poll_of_failed rig polled failed serious] at fair
    exact tandem.fairBeforeNote (tandem.fairBeforeNow fair)

/-- What is fair after waiting was fair before. -/
theorem fairBeforeAwait {deadline timeout : Duration}
    (fair : ties.Fair (run.awaitCancelled rig deadline timeout).rigState) :
    ties.Fair (rig.poll timeout run.rigState).2 := by
  rcases polled : rig.poll timeout run.rigState with ⟨answer, state⟩
  rcases answer.goesOn_or_failed with goesOn | ⟨error, failed, serious⟩
  · rwa [awaitCancelled_of_goesOn rig polled goesOn] at fair
  · rw [awaitCancelled_of_failed rig polled failed serious] at fair
    exact tandem.fairBeforeNote fair

/-- Both runs call for completions while the test goes on. The second calls again for those that
were kept back. -/
theorem inStep_poll (abreast : Abreast ties armed run twin) (waiting : run.stage = .waiting)
    (going : run.meter.terminated = false) (flying : run.queue.inFlight ≠ 0)
    (empty : run.arrivals = []) (covered : depth ≤ armed)
    (fair : ties.Fair (run.poll rig).rigState) :
    ∃ count, InStep ties depth (ties.Spilled (run.poll rig).rigState) (run.poll rig)
      (twin.steps other count) := by
  have waitingTwin : twin.stage = .waiting :=
    Stage.eq_of_timeless (waiting ▸ abreast.alike.stage) rfl
  have goingTwin := abreast.alike.meter.terminated.trans going
  have flyingTwin : twin.queue.inFlight ≠ 0 := abreast.alike.queue ▸ flying
  have emptyTwin := abreast.alike.arrivals.trans empty
  obtain ⟨apart, out, answers⟩ :=
    tandem.poll abreast.linked run.settings.eventTimeout twin.settings.eventTimeout
      (fairBeforePoll tandem fair)
  rcases polled : rig.poll run.settings.eventTimeout run.rigState with ⟨answer, state⟩
  rcases polledTwin : other.poll twin.settings.eventTimeout twin.rigState with ⟨answerTwin, later⟩
  rw [polled, polledTwin] at answers
  rw [polled] at apart out
  have asks := step_of_asking other waitingTwin goingTwin flyingTwin
  cases answers with
  | together answer state later none linked =>
      have handed := abreast.handOver apart out linked
      refine ⟨1, ?_⟩
      rw [steps_one, asks]
      rcases answer.goesOn_or_failed with goesOn | ⟨error, failed, serious⟩
      · rw [poll_of_goesOn rig polled goesOn, poll_of_goesOn other polledTwin goesOn]
        exact .paced armed ⟨handed.goTo rfl, .of_batch rfl, Or.inr (Or.inr covered)⟩
      · rw [poll_of_failed rig polled failed serious,
          poll_of_failed other polledTwin failed serious]
        refine .paced armed ⟨?_, .of_empty ?_, Or.inr (Or.inr covered)⟩
        · exact ((handed.note tandem _ _).fail tandem _).goTo rfl
        · change run.arrivals ++ answer.delivered = []
          rw [empty, none error failed serious]
          rfl
  | held delivered error state later spilled holding =>
      by_cases interrupted : error = .interrupted
      · subst interrupted
        obtain ⟨answer, linked⟩ := tandem.pollOfHolding holding twin.settings.eventTimeout
        rcases polledLater : other.poll twin.settings.eventTimeout later with ⟨answerLater, last⟩
        rw [polledLater] at answer linked
        subst answer
        have handed := abreast.handOver apart out linked
        -- The second run finds nothing to act on, and its next call brings what was kept back.
        refine ⟨3, ?_⟩
        rw [poll_of_goesOn rig polled (Or.inr rfl), steps_three, asks,
          poll_of_goesOn other polledTwin (Or.inr rfl)]
        have handling : ({ twin with rigState := later }.goTo .handling).stage = .handling := rfl
        have again := steps_of_held other handling emptyTwin goingTwin flyingTwin polledLater
        dsimp only
        rw [List.append_nil, again]
        exact .paced armed ⟨handed.goTo rfl, .of_batch rfl, Or.inr (Or.inr covered)⟩
      · -- Only the first run has the completions now, but the failure decides both.
        refine ⟨1, ?_⟩
        rw [steps_one, asks, poll_of_failed rig polled rfl interrupted,
          poll_of_failed other polledTwin rfl interrupted]
        refine .apart ⟨?_, abreast.alike.direction, rfl, rfl⟩ ?_
        · exact abreast.alike.meter.fail _ _ _
        · exact tandem.spilledNow (tandem.spilledNote (spilled interrupted) _)

/-! ## Acting on completions -/

/-- Runs stay level when both count a completed transfer. -/
private theorem level_onCompleted (abreast : Abreast ties armed run twin) {id : Nat} {slot : Slot}
    (held : run.queue.slot? id = some slot) (free : slot.isSubmitted = false)
    (named : slot.id = id) (fits : slot.Fits) (reached : id ≤ armed) :
    Level ties armed (run.onCompleted rig id slot) (twin.onCompleted other id slot) := by
  have read := abreast.now tandem
  unfold onCompleted
  dsimp only
  rcases abreast.alike.meter.record (rig.now run.rigState).1 (other.now twin.rigState).1
      slot.moved with ⟨none, also⟩ | ⟨counted, countedTwin, records, also, same⟩
  · rw [none, also]
    exact Or.inr ⟨⟨abreast.alike.outline, abreast.alike.meter, rfl⟩, rfl,
      tandem.disconnect read.linked⟩
  · rw [records, also]
    dsimp only
    rw [same.terminated]
    have noted := (read.withMeter same).note tandem
      (.completed id slot.moved counted.bytesTotal)
      (.completed id slot.moved countedTwin.bytesTotal)
    have still : (Run.note rig (.completed id slot.moved counted.bytesTotal)
        { run with rigState := (rig.now run.rigState).2, meter := counted }).queue.slot? id =
          some slot := held
    generalize Run.note rig _ _ = begun at noted still ⊢
    generalize Run.note other _ _ = begunTwin at noted ⊢
    split
    · exact (noted.note tandem _ _).level
    · have alike := noted.alike.halted
      by_cases halted : begun.halted = true
      · rw [if_pos halted, if_pos (alike.trans halted)]
        exact noted.level
      · rw [if_neg halted, if_neg (alike ▸ halted)]
        obtain ⟨same, submitted⟩ := noted.submit tandem still free named fits reached
        exact (submitted.afterSubmission tandem (congrArg Prod.fst same) .handling).mono
          (Nat.le_max_left _ _)

/-- The recovery from a halt is begun by both. -/
theorem abreast_onHalt (abreast : Abreast ties armed run twin) (numbered : run.queue.Numbered)
    (maxAttempts id : Nat)
    (fair : ties.Fair (run.onHalt rig maxAttempts id).rigState) :
    Abreast ties armed (run.onHalt rig maxAttempts id) (twin.onHalt other maxAttempts id) := by
  have haltedTwin := abreast.alike.halted
  have recoveriesTwin := abreast.alike.recoveries
  cases halted : run.halted with
  | true =>
      rw [onHalt_of_halted rig halted, onHalt_of_halted other (haltedTwin.trans halted)]
      exact abreast.note tandem _ _
  | false =>
      by_cases left : run.recoveries < maxAttempts
      · have leftTwin : twin.recoveries < maxAttempts := recoveriesTwin ▸ left
        rw [onHalt_of_left rig halted left] at fair ⊢
        rw [onHalt_of_left other (haltedTwin.trans halted) leftTwin]
        have begun := (abreast.withHalt (congrArg (· + 1) recoveriesTwin) true).note tandem
          (.recovering (run.recoveries + 1) maxAttempts)
          (.recovering (twin.recoveries + 1) maxAttempts)
        exact begun.cancelAll tandem numbered (Or.inr fair)
      · have spentTwin : ¬twin.recoveries < maxAttempts := recoveriesTwin ▸ left
        rw [onHalt_of_spent rig halted left,
          onHalt_of_spent other (haltedTwin.trans halted) spentTwin]
        exact (abreast.note tandem _ _).fail tandem .stalled

/-- Runs stay abreast when both act on a stall. -/
private theorem abreast_onStall (abreast : Abreast ties armed run twin)
    (numbered : run.queue.Numbered)
    {id : Nat} {slot : Slot} (held : run.queue.slot? id = some slot)
    (free : slot.isSubmitted = false)
    (fair : ties.Fair (run.onStall rig id slot).rigState) :
    Abreast ties armed (run.onStall rig id slot) (twin.onStall other id slot) := by
  unfold onStall at fair ⊢
  rw [abreast.alike.settings]
  cases policy : run.settings.stallRecovery with
  | leaveIdle =>
      have idle : slot.setAside.isSubmitted = slot.isSubmitted := free.symm
      exact (abreast.note tandem .backingOff .backingOff).putSlot held idle
  | clearHalt maxAttempts =>
      rw [policy] at fair
      have idle : slot.setAside.isSubmitted = slot.isSubmitted := free.symm
      have kept : (run.putSlot id slot.setAside).queue.Numbered :=
        numbered.of_makes (makes_putSlot held (Slot.make_setAside slot))
      exact abreast_onHalt tandem (abreast.putSlot held idle) kept maxAttempts id fair

/-- Runs stay abreast when both act on a failed transfer. -/
private theorem abreast_onFailed (abreast : Abreast ties armed run twin) (id : Nat)
    (status : TransferStatus) :
    Abreast ties armed (run.onFailed rig id status) (twin.onFailed other id status) := by
  unfold onFailed
  rw [abreast.alike.halted]
  split
  · exact abreast.note tandem _ _
  · have noted := abreast.note tandem (.transferFailed id status) (.transferFailed id status)
    dsimp only
    split
    · exact noted.fail tandem _
    · exact noted

/-- A completion is acted on by both. -/
theorem level_handle (abreast : Abreast ties armed run twin) (sized : run.Sized depth)
    {completion : Completion} {rest : List Completion}
    (waiting : run.arrivals = completion :: rest)
    (covered : run.meter.terminated = false → depth ≤ armed)
    (fair : ties.Fair ({ run with arrivals := rest }.handle rig completion).rigState) :
    Level ties armed ({ run with arrivals := rest }.handle rig completion)
      ({ twin with arrivals := rest }.handle other completion) := by
  have taken := abreast.take waiting
  have queueTwin : ({ twin with arrivals := rest } : Run τ).queue.slot? completion.slot =
      ({ run with arrivals := rest } : Run σ).queue.slot? completion.slot :=
    congrArg (fun queue => queue.slot? completion.slot) abreast.alike.queue
  cases held : ({ run with arrivals := rest } : Run σ).queue.slot? completion.slot with
  | none =>
      rw [held] at queueTwin
      rw [receive, receive, held, queueTwin] at taken
      rw [handle_of_unknown rig held, handle_of_unknown other queueTwin]
      exact (taken.note tandem _ _).level
  | some slot =>
      rw [held] at queueTwin
      cases terminated : run.meter.terminated with
      | true =>
          rw [handle_of_terminated rig held terminated,
            handle_of_terminated other queueTwin (abreast.alike.meter.terminated.trans terminated)]
          exact (taken.note tandem _ _).level
      | false =>
          have member : slot ∈ run.queue.slots := List.mem_of_getElem? held
          have named : slot.id = completion.slot := sized.numbered completion.slot slot held
          have inside : completion.slot < depth :=
            sized.depth_eq ▸ (List.getElem?_eq_some_iff.mp held).1
          have numbered : ({ run with arrivals := rest }.receive completion).queue.Numbered :=
            sized.numbered.of_makes (makes_receive _ completion)
          have put : ({ run with arrivals := rest }.receive completion).queue.slot?
              completion.slot = some (slot.complete completion.status completion.length) := by
            rw [receive_of_held held]
            exact slot?_putSlot held _
          have free := slot.isSubmitted_complete completion.status completion.length
          have place : (slot.complete completion.status completion.length).id = completion.slot :=
            named
          have fits : (slot.complete completion.status completion.length).Fits :=
            ⟨(sized.fits slot member).placed, (sized.fits slot member).short⟩
          rw [handle_of_going rig held terminated] at fair ⊢
          rw [handle_of_going other queueTwin (abreast.alike.meter.terminated.trans terminated)]
          generalize slot.complete completion.status completion.length = applied
            at put free place fits fair ⊢
          cases status : completion.status with
          | completed =>
              exact level_onCompleted tandem taken put free place fits
                (Nat.le_of_lt (Nat.lt_of_lt_of_le inside (covered terminated)))
          | stall =>
              rw [status] at fair
              exact (abreast_onStall tandem taken numbered put free fair).level
          | _ => exact (abreast_onFailed tandem taken completion.slot _).level

end Run

end UsbThroughput
