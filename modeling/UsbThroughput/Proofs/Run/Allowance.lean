import UsbThroughput.Proofs.Run.Leftovers
import UsbThroughput.Proofs.Run.Tally

/-!
# What a run may still take

Every completion that a run acts on takes something from it that is limited: bytes that are missing
to the target, transfers in flight, or submissions of the whole queue. What is left of all three
(`Run.allowance`) never grows, and each completion takes at least one of it. So a run cannot ask
for completions for ever, if every answer hands some over.
-/

namespace UsbThroughput

open RigEvent

/-- How many recoveries from a halt the settings allow. -/
def Settings.recoveriesAllowed (settings : Settings) : Nat :=
  match settings.stallRecovery with
  | .leaveIdle => 0
  | .clearHalt maxAttempts => maxAttempts

/-- Whether an event is no standstill: a call for completions that does not fail hands over at
least one, and no completed transfer that moved nothing. -/
def RigEvent.Progresses (event : RigEvent) : Prop :=
  event.goesOn = true →
    event.handedOver ≠ [] ∧
      ∀ completion ∈ event.handedOver, completion.status = .completed → 1 ≤ completion.length

instance (event : RigEvent) : Decidable event.Progresses :=
  inferInstanceAs (Decidable (_ → _ ∧ _))

/-- Filling a queue keeps the number of its slots. -/
theorem Fills.length_eq {slots next : List Slot} {calls : List RigEvent}
    {refusal : Option SubmissionError} (fills : Fills slots calls next refusal) :
    next.length = slots.length := by
  induction fills with
  | done => rfl
  | refused => rfl
  | taken slot fills ih => exact congrArg (· + 1) ih

/-- Whether the queue has not been submitted yet. -/
def Stage.isFirst : Stage → Bool
  | filling => true
  | _ => false

namespace Meter

/-- How many bytes are missing to the target. -/
def missing (meter : Meter) : Nat := meter.target - meter.bytesTotal

@[simp] theorem missing_failOn (now : Duration) (failure? : Option Failure) (meter : Meter) :
    (meter.failOn now failure?).missing = meter.missing := by
  rw [missing, missing, target_failOn, bytesTotal_failOn]

@[simp] theorem missing_fail (now : Duration) (failure : Failure) (meter : Meter) :
    (meter.fail now failure).missing = meter.missing :=
  missing_failOn now (some failure) meter

variable {meter counted : Meter} {now : Duration} {bytes : Nat}

private theorem missing_record (going : meter.terminated = false)
    (recorded : meter.record? now bytes = some counted) :
    counted.missing = meter.missing - bytes := by
  obtain ⟨target, rest⟩ := Prod.mk.inj (counts_record going recorded)
  obtain ⟨total, _⟩ := Prod.mk.inj rest
  rw [missing, missing, target, total, Nat.sub_add_eq]

/-- A transfer that does not end the test brings it nearer to the target. -/
theorem missing_lt_of_going (going : meter.terminated = false)
    (recorded : meter.record? now bytes = some counted) (unfinished : counted.terminated = false)
    (some : 1 ≤ bytes) : counted.missing < meter.missing := by
  obtain ⟨target, rest⟩ := Prod.mk.inj (counts_record going recorded)
  obtain ⟨total, _⟩ := Prod.mk.inj rest
  have few := (le_of_going unfinished).1
  rw [target, total] at few
  rw [missing_record going recorded, missing]
  omega

end Meter

namespace Run

variable {σ : Type} {run last : Run σ} {completion : Completion} {calls : List RigEvent}

/-- How often the whole queue may still be submitted. -/
def fillings (run : Run σ) : Nat :=
  run.settings.recoveriesAllowed - run.recoveries +
    if run.halted || run.stage.isFirst then 1 else 0

/-- What a run may still take: bytes up to the target, transfers in flight, and those of the
submissions of the whole queue to come. -/
def allowance (run : Run σ) : Nat :=
  run.meter.missing + run.queue.inFlight + run.queue.depth * run.fillings

/-- How much of the allowance the completions at hand take for certain. -/
def pending (run : Run σ) : Nat := if run.arrivals = [] then 0 else 1

/-- No more than one of the allowance is sure to be taken. -/
theorem pending_le_one (run : Run σ) : run.pending ≤ 1 := by
  unfold pending
  split
  · exact Nat.zero_le 1
  · exact Nat.le_refl 1

private theorem fillings_of_begun (begun : run.stage.isFirst = false) :
    run.fillings =
      run.settings.recoveriesAllowed - run.recoveries + if run.halted then 1 else 0 := by
  rw [fillings, begun, Bool.or_false]

private theorem fillings_of_same (begun : run.stage.isFirst = false)
    (later : last.stage.isFirst = false)
    (settings : last.settings = run.settings) (recoveries : last.recoveries = run.recoveries)
    (halted : last.halted = run.halted) : last.fillings = run.fillings := by
  rw [fillings_of_begun begun, fillings_of_begun later, settings, recoveries, halted]

/-- What is missing and what is in flight make up for each other. -/
theorem allowance_le_of_parts
    (parts : last.meter.missing + last.queue.inFlight ≤ run.meter.missing + run.queue.inFlight)
    (depth : last.queue.depth = run.queue.depth) (fillings : last.fillings ≤ run.fillings) :
    last.allowance ≤ run.allowance := by
  rw [allowance, allowance, depth]
  exact Nat.add_le_add parts (Nat.mul_le_mul_left _ fillings)

/-- A completion takes something from the allowance of a run: its transfer is in flight, and if it
completed at least one byte was moved. -/
def Feeds (completion : Completion) (run : Run σ) : Prop :=
  ∃ slot, run.queue.slot? completion.slot = some slot ∧ slot.isSubmitted = true ∧
    (completion.status = .completed → 1 ≤ min completion.length slot.buffer.size)

/-! ## Acting on a completion -/

/-- The slot of a completion as it is when the completion was applied. -/
def Fed (completion : Completion) (run : Run σ) : Prop :=
  ∃ slot, run.queue.slot? completion.slot = some slot ∧ slot.isSubmitted = false ∧
    (completion.status = .completed → 1 ≤ slot.moved)

private theorem depth_putSlot (run : Run σ) (id : Nat) (slot : Slot) :
    (run.putSlot id slot).queue.depth = run.queue.depth := List.length_set

/-- Applying a completion takes its transfer out of flight. -/
theorem Feeds.receive (feeds : run.Feeds completion) :
    (run.receive completion).Fed completion ∧
      (run.receive completion).allowance < run.allowance := by
  obtain ⟨slot, held, flying, worth⟩ := feeds
  rw [receive_of_held held]
  refine ⟨⟨_, slot?_putSlot held _, Slot.isSubmitted_complete .., fun completed => ?_⟩, ?_⟩
  · rw [Slot.moved_complete]
    exact worth completed
  · have fewer := Queue.inFlight_replace held (slot.complete completion.status completion.length)
    rw [flying, Slot.isSubmitted_complete, if_pos rfl, if_neg Bool.false_ne_true] at fewer
    rw [allowance, allowance, depth_putSlot]
    exact Nat.add_lt_add_right (Nat.add_lt_add_left (Nat.lt_of_succ_le fewer.le) _) _

/-- Slots that were asked to give up their transfers are still in flight. -/
theorem inFlight_recalled (queue : Queue) :
    (queue.slots.map Slot.recalled).countP Slot.isSubmitted = queue.inFlight := by
  rw [List.countP_map]
  exact List.countP_congr fun slot _ => by rw [Function.comp, Slot.isSubmitted_recalled]

/-- Whatever comes of a completion takes nothing back. -/
theorem Reaction.allowance_le (reaction : run.Reaction completion calls last)
    (handling : run.stage = .handling) (fed : run.Fed completion) :
    last.allowance ≤ run.allowance := by
  have begun : run.stage.isFirst = false := congrArg Stage.isFirst handling
  obtain ⟨slot, held, free, worth⟩ := fed
  cases reaction with
  | passed state passes => exact Nat.le_refl _
  | failed state now failure going objection =>
      have same := Meter.missing_fail now failure run.meter
      exact allowance_le_of_parts (Nat.add_le_add_right same.le _) rfl (Nat.le_refl _)
  | counted state now other meter going held' completed recorded kept =>
      have fewer := Meter.missing_record going recorded
      exact allowance_le_of_parts
        (Nat.add_le_add_right (fewer.trans_le (Nat.sub_le _ _)) _) rfl (Nat.le_refl _)
  | resubmitted state now later other next meter calls refusal going held' completed recorded
      unfinished free' fills =>
      cases held.symm.trans held'
      -- The bytes that were moved make up for the transfer that is in flight again.
      have nearer := Meter.missing_lt_of_going going recorded unfinished (worth completed)
      have again := Queue.inFlight_replace held next
      rw [free, if_neg Bool.false_ne_true] at again
      refine allowance_le_of_parts ?_ (depth_putSlot ..) ?_
      · change (meter.failOn later (refusal.map SubmissionError.failure)).missing +
          (run.queue.replace completion.slot next).inFlight ≤ _
        have one : (if next.isSubmitted then 1 else 0) ≤ 1 := by split <;> decide
        rw [Meter.missing_failOn]
        omega
      · exact Nat.le_of_eq (fillings_of_same begun rfl rfl rfl rfl)
  | overflowed state going completed =>
      exact allowance_le_of_parts (Nat.le_refl _) rfl
        (Nat.le_of_eq (fillings_of_same begun rfl rfl rfl rfl))
  | begun state maxAttempts other calls going held' stalled policy free' left cancels =>
      -- The recovery that is begun allows for one more submission of the queue.
      refine allowance_le_of_parts ?_ (List.length_map _) ?_
      · exact Nat.add_le_add_left (inFlight_recalled run.queue).le _
      · have allowed : run.settings.recoveriesAllowed = maxAttempts := by
          rw [Settings.recoveriesAllowed, policy]
        have before := fillings_of_begun begun
        rw [allowed, free'] at before
        refine (fillings_of_begun ?_).trans_le ?_
        · exact begun
        rw [before]
        change run.settings.recoveriesAllowed - (run.recoveries + 1) + 1 ≤
          maxAttempts - run.recoveries
        omega

/-! ## One step -/

/-- Submitting the whole queue takes one of the submissions that are allowed. -/
theorem allowance_le_of_fills {slots : List Slot} {refusal : Option SubmissionError}
    (fills : Fills run.queue.slots calls slots refusal) (queue : last.queue.slots = slots)
    (missing : last.meter.missing = run.meter.missing) (settings : last.settings = run.settings)
    (recoveries : last.recoveries = run.recoveries) (free : last.halted = false)
    (begun : last.stage.isFirst = false) (due : (run.halted || run.stage.isFirst) = true) :
    last.allowance ≤ run.allowance := by
  have depth : last.queue.depth = run.queue.depth := by
    rw [Queue.depth, queue]
    exact fills.length_eq
  have most : last.queue.inFlight ≤ run.queue.depth := by
    rw [← depth]
    exact List.countP_le_length
  have one : run.fillings = last.fillings + 1 := by
    rw [fillings, fillings, due, free, begun, settings, recoveries]
    rfl
  rw [allowance, allowance, missing, depth, one, Nat.mul_succ]
  omega

/-- A step with some calls takes at most as much from the allowance as its calls for completions
and the completions at hand are to take. -/
def Spends (run : Run σ) (calls : List RigEvent) (last : Run σ) : Prop :=
  calls.countP goesOn + last.allowance + run.pending ≤ run.allowance + last.pending

/-- A step that hands over no completions and takes up none. -/
theorem spends_of_silent (silent : ∀ call ∈ calls, call.goesOn = false)
    (less : last.allowance ≤ run.allowance) (same : last.arrivals = run.arrivals) :
    run.Spends calls last := by
  have none : calls.countP goesOn = 0 :=
    List.countP_eq_zero.mpr fun call member => Bool.eq_false_iff.mp (silent call member)
  rw [Spends, none, Nat.zero_add, pending, pending, same]
  exact Nat.add_le_add_right less _

/-- A step that touches neither the queue nor the halt. -/
theorem allowance_le_of_same (begun : run.stage.isFirst = false)
    (later : last.stage.isFirst = false) (queue : last.queue = run.queue)
    (settings : last.settings = run.settings) (recoveries : last.recoveries = run.recoveries)
    (halted : last.halted = run.halted) (missing : last.meter.missing = run.meter.missing) :
    last.allowance ≤ run.allowance :=
  allowance_le_of_parts (by rw [missing, queue]) (by rw [queue])
    (Nat.le_of_eq (fillings_of_same begun later settings recoveries halted))

private theorem silent_of_submissions (each : ∀ call ∈ calls, call.isSubmission = true) :
    ∀ call ∈ calls, call.goesOn = false := fun call member =>
  goesOn_of_isPoll_eq_false (isPoll_of_isSubmission (each call member))

private theorem silent_singleton {call : RigEvent} (fails : call.goesOn = false) :
    ∀ other ∈ [call], other.goesOn = false := List.forall_mem_singleton.mpr fails

/-- Up to the decision to end the test, only a run that waits calls for completions, in a step that
does nothing else, and after a call that fails it goes no further. -/
theorem Advance.asks (advance : run.Advance calls last) (going : run.stage.isFinal = false) :
    (∀ call ∈ calls, call.isPoll = false) ∨
      run.stage = .waiting ∧ ∃ call, calls = [call] ∧
        (last.stage.isFinal = false → call.goesOn = true) := by
  have submissions {calls : List RigEvent} (each : ∀ call ∈ calls, call.isSubmission = true)
      (call : RigEvent) (member : call ∈ calls) : call.isPoll = false :=
    isPoll_of_isSubmission (each call member)
  cases advance with
  | polled state now answer waiting _ flying =>
      refine Or.inr ⟨waiting, _, rfl, fun further => ?_⟩
      change Stage.isFinal (if _ then _ else _) = false at further
      cases fails : (fatal? (.polled run.settings.eventTimeout answer)).isSome with
      | false => exact Option.isSome_eq_false_iff.mp fails
      | true =>
          rw [fails] at further
          contradiction
  | awaited state deadline timeout answer draining =>
      rw [draining] at going
      contradiction
  | filled state now later slots calls refusal filling empty fills =>
      exact Or.inl (submissions fills.isSubmission)
  | recovered state later slots calls refusal waiting _ empty halted fills =>
      exact Or.inl (List.forall_mem_cons.mpr ⟨rfl, submissions fills.isSubmission⟩)
  | handled completion rest calls handling waiting reaction => exact Or.inl reaction.isPoll_eq_false
  | recalled state deadline calls cancelling =>
      rw [cancelling] at going
      contradiction
  | closed state now result closing =>
      rw [closing] at going
      contradiction
  | started => exact Or.inl (List.forall_mem_singleton.mpr rfl)
  | stuck => exact Or.inl (List.forall_mem_singleton.mpr rfl)
  | _ => exact Or.inl (List.forall_mem_nil _)

/-- Asking for completions takes nothing by itself. What is handed over is still to take its
part. -/
theorem spends_of_polled {timeout : Duration} {answer : Polled} (empty : run.arrivals = [])
    (arrivals : last.arrivals = run.arrivals ++ answer.delivered)
    (less : last.allowance ≤ run.allowance)
    (progress : RigEvent.Progresses (.polled timeout answer)) :
    run.Spends [.polled timeout answer] last := by
  cases goes : goesOn (.polled timeout answer) with
  | false =>
      rw [Spends, List.countP_singleton, goes, pending, if_pos empty, if_neg Bool.false_ne_true,
        Nat.zero_add]
      exact Nat.le_add_right_of_le less
  | true =>
      have some : last.arrivals ≠ [] :=
        arrivals ▸ List.append_ne_nil_of_right_ne_nil _ (progress goes).1
      rw [Spends, List.countP_singleton, goes, if_pos rfl, pending, if_pos empty, pending,
        if_neg some, Nat.add_zero, Nat.add_comm]
      exact Nat.add_le_add_right less 1

/-- Acting on a completion takes its part. -/
theorem spends_of_handled {completion : Completion} {rest : List Completion}
    (handling : run.stage = .handling) (waiting : run.arrivals = completion :: rest)
    (fit : { run with arrivals := rest }.Feeds completion)
    (reaction : ({ run with arrivals := rest }.receive completion).Reaction completion calls last) :
    run.Spends calls last := by
  have received : ({ run with arrivals := rest }.receive completion).stage = .handling :=
    (stage_receive _ completion).trans handling
  obtain ⟨fed, less⟩ := fit.receive
  have none : calls.countP goesOn = 0 := List.countP_eq_zero.mpr fun call member =>
    Bool.eq_false_iff.mp (goesOn_of_isPoll_eq_false (reaction.isPoll_eq_false call member))
  have taken : run.pending = 1 := if_neg (waiting ▸ List.cons_ne_nil _ _)
  rw [Spends, none, taken, Nat.zero_add]
  exact Nat.le_add_right_of_le (Nat.lt_of_le_of_lt (reaction.allowance_le received fed) less)

/-- **What a step takes.** Up to the decision to end the test, a step that calls for completions
takes at most as much from the allowance as the completions that were handed over are to take. -/
theorem Advance.spends (advance : run.Advance calls last) (going : run.stage.isFinal = false)
    (fresh : run.stage = .filling → run.halted = false)
    (cleared : run.stage.isClear = true → run.arrivals = [])
    (feeds : ∀ completion rest, run.arrivals = completion :: rest → run.Feeds completion)
    (progress : ∀ call ∈ calls, call.Progresses) : run.Spends calls last := by
  cases advance with
  | stayed done => exact spends_of_silent (List.forall_mem_nil _) (Nat.le_refl _) rfl
  | filled state now later slots calls refusal filling empty fills =>
      refine spends_of_silent (silent_of_submissions fills.isSubmission) ?_ rfl
      refine allowance_le_of_fills fills rfl (Meter.missing_failOn ..) rfl rfl (fresh filling)
        rfl ?_
      rw [filling]
      exact Bool.or_true _
  | started state result starting =>
      have begun := congrArg Stage.isFirst starting
      exact spends_of_silent (silent_singleton rfl)
        (allowance_le_of_same begun rfl rfl rfl rfl rfl rfl) rfl
  | notStarted state starting =>
      have begun := congrArg Stage.isFirst starting
      exact spends_of_silent (List.forall_mem_nil _)
        (allowance_le_of_same begun rfl rfl rfl rfl rfl rfl) rfl
  | decided waiting =>
      have begun := congrArg Stage.isFirst waiting
      exact spends_of_silent (List.forall_mem_nil _)
        (allowance_le_of_same begun rfl rfl rfl rfl rfl rfl) rfl
  | starved state now waiting =>
      have begun := congrArg Stage.isFirst waiting
      exact spends_of_silent (List.forall_mem_nil _)
        (allowance_le_of_same begun rfl rfl rfl rfl rfl (Meter.missing_fail ..)) rfl
  | recovered state later slots calls refusal waiting _ empty halted fills =>
      refine spends_of_silent ?_ ?_ rfl
      · exact List.forall_mem_cons.mpr ⟨rfl, silent_of_submissions fills.isSubmission⟩
      · refine allowance_le_of_fills fills rfl (Meter.missing_failOn ..) rfl rfl rfl rfl ?_
        exact Bool.or_eq_true_iff.mpr (Or.inl halted)
  | stuck state now error waiting _ empty halted =>
      have begun := congrArg Stage.isFirst waiting
      exact spends_of_silent (silent_singleton rfl)
        (allowance_le_of_same begun begun rfl rfl rfl rfl (Meter.missing_fail ..)) rfl
  | polled state now answer waiting _ flying =>
      refine spends_of_polled (cleared (waiting ▸ rfl)) rfl ?_
        (progress _ (List.mem_singleton_self _))
      refine allowance_le_of_same (congrArg Stage.isFirst waiting) ?_ rfl rfl rfl rfl
        (Meter.missing_failOn ..)
      exact (apply_ite Stage.isFirst ..).trans (ite_self _)
  | finished handling empty =>
      have begun := congrArg Stage.isFirst handling
      exact spends_of_silent (List.forall_mem_nil _)
        (allowance_le_of_same begun rfl rfl rfl rfl rfl rfl) rfl
  | handled completion rest calls handling waiting reaction =>
      exact spends_of_handled handling waiting (feeds completion rest waiting) reaction
  | abandoned state abandoning =>
      rw [abandoning] at going
      contradiction
  | closed state now result closing =>
      rw [closing] at going
      contradiction
  | recalled state deadline calls cancelling =>
      rw [cancelling] at going
      contradiction
  | drained state deadline draining =>
      rw [draining] at going
      contradiction
  | awaited state deadline timeout answer draining =>
      rw [draining] at going
      contradiction
  | resumed deadline settling =>
      rw [settling] at going
      contradiction
  | settled state deadline completion rest settling =>
      rw [settling] at going
      contradiction

end Run

end UsbThroughput
