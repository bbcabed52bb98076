import UsbThroughput.Proofs.Rig.Answers
import UsbThroughput.Proofs.Run.Advance
import UsbThroughput.Proofs.Run.Timeless

/-!
# Runs that are even

Two runs are even if they differ in nothing but their rigs, their times, their stages and the
finished transfers that wait to be acted on (`Run.Even`). What a run does next follows from the
rest and from the answers: even runs that are in the same stage with nothing in flight, or that act
on the same finished transfer, make the same requests and are even afterwards, if these are answered
alike (`Run.Advance.even_of_grounded`, `Run.Reaction.stays_even`).
-/

namespace UsbThroughput

open RigEvent

/-- Meters that are alike stay so when both keep the same failure. -/
theorem Meter.Alike.failOn {meter other : Meter} (alike : meter.Alike other) (now later : Duration)
    (failure? : Option Failure) :
    (meter.failOn now failure?).Alike (other.failOn later failure?) := by
  cases failure? with
  | none => exact alike
  | some failure => exact alike.fail now later failure

namespace Run

variable {σ τ : Type}

/-- Two runs differ in nothing but their rigs, their times, their stages, and what waits to be acted
on. -/
structure Even (run : Run σ) (twin : Run τ) : Prop where
  settings : twin.settings = run.settings
  direction : twin.direction = run.direction
  queue : twin.queue = run.queue
  channel : twin.channel = run.channel
  recoveries : twin.recoveries = run.recoveries
  halted : twin.halted = run.halted
  meter : run.meter.Alike twin.meter

namespace Even

variable {ρ : Type} {run : Run σ} {twin : Run τ} {third : Run ρ}

theorem symm (even : run.Even twin) : twin.Even run where
  settings := even.settings.symm
  direction := even.direction.symm
  queue := even.queue.symm
  channel := even.channel.symm
  recoveries := even.recoveries.symm
  halted := even.halted.symm
  meter := even.meter.symm

theorem trans (even : run.Even twin) (also : twin.Even third) : run.Even third where
  settings := also.settings.trans even.settings
  direction := also.direction.trans even.direction
  queue := also.queue.trans even.queue
  channel := also.channel.trans even.channel
  recoveries := also.recoveries.trans even.recoveries
  halted := also.halted.trans even.halted
  meter := even.meter.trans also.meter

/-- What waits to be acted on makes no difference. -/
theorem withArrivals (even : run.Even twin) (rest restTwin : List Completion) :
    { run with arrivals := rest }.Even { twin with arrivals := restTwin } :=
  ⟨even.settings, even.direction, even.queue, even.channel, even.recoveries, even.halted,
    even.meter⟩

/-- The slots of both are replaced by the same. -/
theorem withSlots (even : run.Even twin) (slots : List Slot) (state : σ) (stateTwin : τ) :
    (run.withSlots slots state).Even (twin.withSlots slots stateTwin) :=
  ⟨even.settings, even.direction,
    congrArg (fun queue : Queue => { queue with slots }) even.queue, even.channel, even.recoveries,
    even.halted, even.meter⟩

/-- The same completion is applied to both. -/
theorem receive (even : run.Even twin) (completion : Completion) :
    (run.receive completion).Even (twin.receive completion) := by
  have queue : (twin.receive completion).queue = (run.receive completion).queue := by
    unfold Run.receive
    rw [even.queue]
    cases run.queue.slot? completion.slot with
    | none => exact even.queue
    | some slot => exact congrArg (Queue.replace · completion.slot _) even.queue
  rw [receive_eq run, receive_eq twin]
  exact ⟨even.settings, even.direction, queue, even.channel, even.recoveries, even.halted,
    even.meter⟩

/-- Even runs object to the same completions. -/
theorem objection? (even : run.Even twin) (completion : Completion) :
    twin.objection? completion = run.objection? completion := by
  unfold Run.objection? objectionTo?
  rw [even.queue, even.settings, even.halted, even.recoveries]

end Even

/-! ## What even runs do about a finished transfer -/

variable {run last : Run σ} {twin lastTwin : Run τ} {calls others : List RigEvent}
  {completion : Completion} {slot : Slot}

/-- The same stalls begin a recovery of even runs. -/
theorem Even.begins (even : run.Even twin) :
    twin.Begins completion ↔ run.Begins completion := by
  unfold Begins
  rw [even.settings, even.halted, even.recoveries]

namespace Reaction

variable (reaction : run.Reaction completion calls last)
  (reactionTwin : twin.Reaction completion others lastTwin) (even : run.Even twin)
  (held : run.queue.slot? completion.slot = some slot) (going : run.meter.terminated = false)
  (alike : AnswerAlike (requests calls) (requests others))

include reaction reactionTwin even held going alike

/-- Even runs act alike on a completed transfer. -/
private theorem even_of_completed (completed : completion.status = .completed)
    (whole : ∀ fault, last.stage ≠ .broken fault)
    (wholeTwin : ∀ fault, lastTwin.stage ≠ .broken fault) :
    requests others = requests calls ∧ last.Even lastTwin := by
  obtain ⟨now, meter, recorded, course⟩ := reaction.of_completed held going completed whole
  obtain ⟨later, meterTwin, recordedTwin, courseTwin⟩ := reactionTwin.of_completed
    (even.queue ▸ held) (even.meter.terminated.trans going) completed wholeTwin
  obtain ⟨_, _, counted, countedTwin, same⟩ :=
    (even.meter.record now later slot.moved).resolve_left fun overflows =>
      (Option.some_ne_none _ (recorded.symm.trans overflows.1)).elim
  cases recorded.symm.trans counted
  cases recordedTwin.symm.trans countedTwin
  have settled : (meterTwin.terminated || twin.halted) = (meter.terminated || run.halted) := by
    rw [even.halted, same.terminated]
  rcases course with ⟨stays, rfl, state, rfl⟩ | ⟨goes, state, clock, next, refusal, fills, rfl⟩
  · rcases courseTwin with ⟨_, rfl, stateTwin, rfl⟩ | ⟨goes, _⟩
    · exact ⟨rfl, even.settings, even.direction, even.queue, even.channel, even.recoveries,
        even.halted, same⟩
    · exact Bool.noConfusion (stays.symm.trans (settled.symm.trans goes))
  · rcases courseTwin with ⟨stays, _⟩ | ⟨_, stateTwin, also, nextTwin, refusalTwin, fillsTwin, rfl⟩
    · exact Bool.noConfusion (stays.symm.trans (settled.trans goes))
    · rw [requests_of_isSubmission fills.isSubmission,
        requests_of_isSubmission fillsTwin.isSubmission] at alike
      obtain ⟨rfl, put, rfl⟩ := fills.eq_of_answerAlike fillsTwin alike
      cases put
      exact ⟨rfl, even.settings, even.direction,
        congrArg (Queue.replace · completion.slot _) even.queue, even.channel, even.recoveries,
        even.halted, same.failOn _ _ _⟩

/-- Even runs act alike on a transfer that did not complete. -/
private theorem even_of_not_completed (short : completion.status ≠ .completed) :
    requests others = requests calls ∧ last.Even lastTwin := by
  have course := reaction.of_not_completed held going short
  have courseTwin := reactionTwin.of_not_completed (even.queue ▸ held)
    (even.meter.terminated.trans going) short
  rcases course with ⟨begins, cancels, state, rfl⟩ | ⟨unbegun, rfl, state, now, rfl⟩
  · rcases courseTwin with ⟨_, cancelsTwin, stateTwin, rfl⟩ | ⟨unbegun, _⟩
    · rw [requests_of_isCancellation cancels.isCancellation,
        requests_of_isCancellation cancelsTwin.isCancellation] at alike
      rw [even.queue] at cancelsTwin ⊢
      obtain rfl := cancels.eq_of_answerAlike cancelsTwin alike
      have put := even.withSlots (run.queue.slots.map Slot.recalled) state stateTwin
      exact ⟨rfl, put.settings, put.direction, put.queue, put.channel,
        congrArg (· + 1) even.recoveries, rfl, even.meter⟩
    · exact (unbegun (even.begins.mpr begins)).elim
  · rcases courseTwin with ⟨begins, _⟩ | ⟨_, rfl, stateTwin, later, rfl⟩
    · exact (unbegun (even.begins.mp begins)).elim
    · rw [even.objection?]
      exact ⟨rfl, even.settings, even.direction, even.queue, even.channel, even.recoveries,
        even.halted, even.meter.failOn _ _ _⟩

/-- **Even runs act alike on the same finished transfer**, as long as they are answered alike. -/
theorem stays_even (whole : ∀ fault, last.stage ≠ .broken fault)
    (wholeTwin : ∀ fault, lastTwin.stage ≠ .broken fault) :
    requests others = requests calls ∧ last.Even lastTwin := by
  by_cases completed : completion.status = .completed
  · exact reaction.even_of_completed reactionTwin even held going alike completed whole wholeTwin
  · exact reaction.even_of_not_completed reactionTwin even held going alike completed

end Reaction

/-! ## Steps of even runs -/

namespace Advance

variable (advance : run.Advance calls last) (advanceTwin : twin.Advance others lastTwin)
  (even : run.Even twin) (same : twin.stage = run.stage) (going : run.meter.terminated = false)
  (alike : AnswerAlike (requests calls) (requests others))

include advance advanceTwin even same alike

/-- Even runs fill their queues alike. -/
theorem even_of_filling (filling : run.stage = .filling) :
    requests others = requests calls ∧ last.Even lastTwin ∧ lastTwin.stage = last.stage := by
  obtain ⟨state, now, later, slots, refusal, fills, rfl⟩ := advance.of_filling filling
  obtain ⟨stateTwin, nowTwin, laterTwin, slotsTwin, refusalTwin, fillsTwin, rfl⟩ :=
    advanceTwin.of_filling (same.trans filling)
  rw [requests_of_isSubmission fills.isSubmission,
    requests_of_isSubmission fillsTwin.isSubmission] at alike
  rw [even.queue] at fillsTwin
  obtain ⟨rfl, rfl, rfl⟩ := fills.eq_of_answerAlike fillsTwin alike
  have put := even.withSlots slotsTwin state stateTwin
  exact ⟨rfl, ⟨put.settings, put.direction, put.queue, put.channel, put.recoveries, put.halted,
    (even.meter.start now nowTwin).failOn _ _ _⟩, rfl⟩

include going

/-- Even runs start the device alike. -/
theorem even_of_starting (starting : run.stage = .starting) :
    requests others = requests calls ∧ last.Even lastTwin ∧ lastTwin.stage = last.stage := by
  obtain ⟨state, result, rfl, rfl⟩ := advance.of_starting starting going
  obtain ⟨stateTwin, resultTwin, rfl, rfl⟩ :=
    advanceTwin.of_starting (same.trans starting) (even.meter.terminated.trans going)
  refine ⟨?_, ⟨even.settings, even.direction, even.queue, even.channel, even.recoveries,
    even.halted, even.meter⟩, rfl⟩
  rw [even.channel, even.direction] at alike ⊢
  exact congrArg (List.cons · []) (alike.head rfl)

/-- Even runs clear the halt alike, and submit their queues again alike. -/
private theorem even_of_halted (waiting : run.stage = .waiting) (empty : run.queue.inFlight = 0)
    (halted : run.halted = true) :
    requests others = requests calls ∧ last.Even lastTwin ∧ lastTwin.stage = last.stage := by
  have emptyTwin : twin.queue.inFlight = 0 := even.queue ▸ empty
  have endpoint : twin.settings.endpoint twin.direction = run.settings.endpoint run.direction := by
    rw [even.settings, even.direction]
  have attempt := advanceTwin.of_halted (same.trans waiting) (even.meter.terminated.trans going)
    emptyTwin (even.halted.trans halted)
  rw [endpoint] at attempt
  rcases advance.of_halted waiting going empty halted with
    ⟨error, state, now, rfl, rfl⟩ | ⟨submissions, state, later, slots, refusal, rfl, fills, rfl⟩
  · rcases attempt with ⟨errorTwin, stateTwin, nowTwin, rfl, rfl⟩ | ⟨_, _, _, _, _, rfl, _, _⟩
    · cases alike.head rfl
      exact ⟨rfl, ⟨even.settings, even.direction, even.queue, even.channel, even.recoveries,
        even.halted, even.meter.fail _ _ _⟩, same⟩
    · cases alike.head rfl
  · rcases attempt with ⟨_, _, _, rfl, _⟩ |
      ⟨submissionsTwin, stateTwin, laterTwin, slotsTwin, refusalTwin, rfl, fillsTwin, rfl⟩
    · cases alike.head rfl
    · have rest : AnswerAlike (requests submissions) (requests submissionsTwin) := alike.tail
      rw [requests_of_isSubmission fills.isSubmission,
        requests_of_isSubmission fillsTwin.isSubmission] at rest
      rw [even.queue] at fillsTwin
      obtain ⟨rfl, rfl, rfl⟩ := fills.eq_of_answerAlike fillsTwin rest
      have put := even.withSlots slotsTwin state stateTwin
      exact ⟨rfl, ⟨put.settings, put.direction, put.queue, put.channel, put.recoveries, rfl,
        even.meter.failOn _ _ _⟩, rfl⟩

/-- Even runs with nothing in flight fail both, or attempt both to clear the halt. -/
theorem even_of_grounded (waiting : run.stage = .waiting) (empty : run.queue.inFlight = 0) :
    requests others = requests calls ∧ last.Even lastTwin ∧ lastTwin.stage = last.stage := by
  cases halted : run.halted with
  | true => exact even_of_halted advance advanceTwin even same going alike waiting empty halted
  | false =>
      have emptyTwin : twin.queue.inFlight = 0 := even.queue ▸ empty
      obtain ⟨rfl, state, now, rfl⟩ := advance.of_starved waiting going empty halted
      obtain ⟨rfl, stateTwin, nowTwin, rfl⟩ := advanceTwin.of_starved (same.trans waiting)
        (even.meter.terminated.trans going) emptyTwin (even.halted.trans halted)
      exact ⟨rfl, ⟨even.settings, even.direction, even.queue, even.channel, even.recoveries,
        even.halted, even.meter.fail _ _ _⟩, rfl⟩

/-- Even runs act alike on the completion that comes next for both. -/
theorem even_of_handled (handling : run.stage = .handling) {rest restTwin : List Completion}
    (waiting : run.arrivals = completion :: rest)
    (waitingTwin : twin.arrivals = completion :: restTwin)
    (held : run.queue.slot? completion.slot = some slot)
    (whole : ∀ fault, last.stage ≠ .broken fault)
    (wholeTwin : ∀ fault, lastTwin.stage ≠ .broken fault) :
    requests others = requests calls ∧ last.Even lastTwin := by
  have there : ({ run with arrivals := rest } : Run σ).queue.slot? completion.slot = some slot :=
    held
  have put : ({ run with arrivals := rest }.receive completion).queue.slot? completion.slot =
      some (slot.complete completion.status completion.length) := by
    rw [receive_of_held there]
    exact slot?_putSlot there _
  have received := meter_receive { run with arrivals := rest } completion
  exact (advance.of_handled handling waiting).stays_even
    (advanceTwin.of_handled (same.trans handling) waitingTwin)
    ((even.withArrivals rest restTwin).receive completion) put
    ((congrArg Meter.terminated received).trans going) alike whole wholeTwin

end Advance

end Run

end UsbThroughput
