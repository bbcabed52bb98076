import UsbThroughput.Proofs.Run.Frame
import UsbThroughput.Proofs.Run.Stages

/-!
# Calls and failures of a step

Which calls on the rig a step makes, quiet ones apart, and which failures they bring about
(`Run.Ensues`). The first failure is the one that the meter keeps.
-/

namespace UsbThroughput

open RigEvent

/-- The failure that a call brings about by its answer. A call for completions that was
interrupted is no failure, whatever else it is. -/
def RigEvent.fatal? : RigEvent → Option Failure
  | submitted _ (.error cause) => some (.ofUsbError cause)
  | polled _ ⟨_, .error .interrupted⟩ => none
  | polled _ ⟨_, .error error⟩ => some (.ofUsbError error)
  | haltCleared _ (.error _) => some .stalled
  | _ => none

/-- The failures that calls bring about, in order. -/
def RigEvent.fatalities (history : List RigEvent) : List Failure := history.filterMap fatal?

@[simp] theorem RigEvent.fatalities_nil : fatalities [] = [] := rfl

@[simp] theorem RigEvent.fatalities_append (first second : List RigEvent) :
    fatalities (first ++ second) = fatalities first ++ fatalities second :=
  List.filterMap_append ..

@[simp] theorem RigEvent.fatalities_calls (history : List RigEvent) :
    fatalities (calls history) = fatalities history := by
  induction history with
  | nil => rfl
  | cons event rest ih =>
      rw [← List.singleton_append, calls_append, fatalities_append, fatalities_append, ih]
      cases event <;> rfl

/-- The first failure is the one that is kept. -/
theorem Meter.failure_fail (now : Duration) (failure : Failure) (meter : Meter) :
    (meter.fail now failure).failure = meter.failure.or (some failure) := by
  unfold fail
  cases kept : meter.failure with
  | none => rfl
  | some earlier => exact kept

/-- The failure that an attempt at submission comes to. -/
def Refusal.failures : Except Refusal Unit → List Failure
  | .error (.rejected error) => [error.failure]
  | _ => []

namespace Run

variable {σ : Type} {rig : Rig σ} {run middle last : Run (Journal RigEvent σ)}
  {calls later : List RigEvent} {failures others : List Failure}

/-- A run comes to another with some calls, quiet ones apart. -/
def Adds (run : Run (Journal RigEvent σ)) (calls : List RigEvent)
    (last : Run (Journal RigEvent σ)) : Prop :=
  ∃ events, last.rigState.history = run.rigState.history ++ events ∧
    RigEvent.calls events = calls

/-- Calls that follow one another. -/
theorem Adds.trans (first : run.Adds calls middle) (second : middle.Adds later last) :
    run.Adds (calls ++ later) last := by
  obtain ⟨earlier, grown, same⟩ := first
  obtain ⟨events, grows, still⟩ := second
  refine ⟨earlier ++ events, ?_, ?_⟩
  · rw [grows, grown, List.append_assoc]
  · rw [calls_append, same, still]

/-- Where nothing is written down no call is made. -/
theorem Adds.of_same (same : last.rigState.history = run.rigState.history) : run.Adds [] last :=
  ⟨[], same.trans (List.append_nil _).symm, rfl⟩

theorem Adds.of_event {event : RigEvent} (loud : event.isQuiet = false)
    (history : last.rigState.history = run.rigState.history ++ [event]) :
    run.Adds [event] last := by
  refine ⟨[event], history, ?_⟩
  rw [RigEvent.calls, List.filter_singleton, loud]
  rfl

/-- Quiet changes make no calls. -/
theorem Path.adds {taken : List Completion} (path : Path rig.journaled .quiet run taken last) :
    run.Adds [] last := by
  obtain ⟨events, grown, quiet⟩ := path.grows
  exact ⟨events, grown, calls_of_isQuiet (quiet rfl)⟩

/-- A run comes to another with some calls, and keeps the first of some failures. -/
structure Ensues (run : Run (Journal RigEvent σ)) (calls : List RigEvent)
    (failures : List Failure) (last : Run (Journal RigEvent σ)) : Prop where
  adds : run.Adds calls last
  kept : last.meter.failure = run.meter.failure.or failures.head?

namespace Ensues

/-- Calls and failures that follow one another. -/
theorem trans (first : run.Ensues calls failures middle)
    (second : middle.Ensues later others last) :
    run.Ensues (calls ++ later) (failures ++ others) last where
  adds := first.adds.trans second.adds
  kept := by rw [second.kept, first.kept, Option.or_assoc, List.head?_append]

/-- Nothing ensues from a quiet change that leaves the failure as it is. -/
theorem of_quiet {taken : List Completion} (path : Path rig.journaled .quiet run taken last)
    (same : last.meter.failure = run.meter.failure) : run.Ensues [] [] last where
  adds := path.adds
  kept := by rw [same, List.head?_nil, Option.or_none]

/-- Where nothing is written down and no failure kept, nothing ensues. -/
theorem of_same (history : last.rigState.history = run.rigState.history)
    (same : last.meter.failure = run.meter.failure) : run.Ensues [] [] last where
  adds := .of_same history
  kept := by rw [same, List.head?_nil, Option.or_none]

/-- A call of which no failure comes. -/
theorem of_call {event : RigEvent} (loud : event.isQuiet = false)
    (history : last.rigState.history = run.rigState.history ++ [event])
    (same : last.meter.failure = run.meter.failure) : run.Ensues [event] [] last where
  adds := .of_event loud history
  kept := by rw [same, List.head?_nil, Option.or_none]

private theorem then_calls (first : run.Ensues [] [] middle)
    (second : middle.Ensues calls failures last) :
    run.Ensues calls failures last :=
  first.trans second

private theorem without_calls (ensues : run.Ensues [] failures last) :
    ∃ calls, (∀ call ∈ calls, call.isSubmission = true) ∧
      run.Ensues calls (failures ++ fatalities calls) last := by
  refine ⟨[], List.forall_mem_nil _, ?_⟩
  rw [fatalities_nil, List.append_nil]
  exact ensues

/-- More of the same, without calls or failures. -/
theorem then_quiet (first : run.Ensues calls failures middle) (second : middle.Ensues [] [] last) :
    run.Ensues calls failures last := by
  have both := first.trans second
  rw [List.append_nil, List.append_nil] at both
  exact both

end Ensues

variable (rig)

private theorem ensues_fail (run : Run (Journal RigEvent σ)) (failure : Failure) :
    run.Ensues [] [failure] (run.fail rig.journaled failure) where
  adds := .of_same rfl
  kept := Meter.failure_fail _ failure run.meter

theorem ensues_note (run : Run (Journal RigEvent σ)) (notice : Notice) :
    run.Ensues [] [] (run.note rig.journaled notice) :=
  .of_quiet (path_note run notice) rfl

private theorem ensues_goTo (run : Run (Journal RigEvent σ)) (stage : Stage) :
    run.Ensues [] [] (run.goTo stage) :=
  .of_same rfl rfl

/-! ## Submissions -/

/-- A submission is one call at most, and its failure is the one that it tells of. -/
private theorem submit_calls (slot : Slot) (journal : Journal RigEvent σ) :
    ∃ events, (slot.submit rig.journaled journal).2.history = journal.history ++ events ∧
      (∀ event ∈ events, event.isSubmission = true) ∧
      fatalities events = Refusal.failures (slot.submit rig.journaled journal).1.1 := by
  have written := rig.history_submit journal slot.reset
  rcases slot.submit_cases rig.journaled journal with
    ⟨_, same⟩ | ⟨_, taken, same⟩ | ⟨_, cause, refused, same⟩
  · rw [same]
    exact ⟨[], (List.append_nil _).symm, List.forall_mem_nil _, rfl⟩
  · rw [taken] at written
    rw [same]
    exact ⟨[_], written, List.forall_mem_singleton.mpr rfl, rfl⟩
  · rw [refused] at written
    rw [same]
    exact ⟨[_], written, List.forall_mem_singleton.mpr rfl, rfl⟩

/-- Submissions of slots in turn are the only calls; the last of them may bring about a failure. -/
theorem submitEach_calls (slots : List Slot) (journal : Journal RigEvent σ) :
    ∃ events, (Queue.submitEach rig.journaled slots journal).2.history =
        journal.history ++ events ∧
      (∀ event ∈ events, event.isSubmission = true) ∧
      fatalities events =
        Refusal.failures (Queue.submitEach rig.journaled slots journal).1.1 := by
  induction slots generalizing journal with
  | nil => exact ⟨[], (List.append_nil _).symm, List.forall_mem_nil _, rfl⟩
  | cons slot rest ih =>
      obtain ⟨first, written, submission, failure⟩ := submit_calls rig slot journal
      rcases answer : slot.submit rig.journaled journal with ⟨⟨result, next⟩, state⟩
      rw [answer] at written failure
      cases result with
      | error refusal =>
          simp only [Queue.submitEach, answer]
          exact ⟨first, written, submission, failure⟩
      | ok _ =>
          obtain ⟨events, grown, submissions, failures⟩ := ih state
          simp only [Queue.submitEach, answer]
          refine ⟨first ++ events, ?_, List.forall_mem_append.mpr ⟨submission, submissions⟩, ?_⟩
          · rw [grown, written, List.append_assoc]
          · rw [fatalities_append, failure, failures]
            rfl

private theorem ensues_afterSubmission (result : Except Refusal Unit) (next : Stage)
    (run : Run (Journal RigEvent σ)) :
    run.Ensues [] (Refusal.failures result) (run.afterSubmission rig.journaled result next) := by
  match result with
  | .ok () => exact ensues_goTo run next
  | .error (.rejected error) =>
      exact ((ensues_note rig run (.refused error)).trans
        (ensues_fail rig _ error.failure)).then_quiet (ensues_goTo _ next)
  | .error (.inFlight slot) =>
      refine ⟨⟨[.disconnected], rig.history_disconnect run.rigState, rfl⟩, ?_⟩
      exact (Option.or_none).symm

private theorem ensues_submissions (run last : Run (Journal RigEvent σ)) {events : List RigEvent}
    {result : Except Refusal Unit} (grown : last.rigState.history = run.rigState.history ++ events)
    (submissions : ∀ event ∈ events, event.isSubmission = true)
    (failure : fatalities events = Refusal.failures result)
    (same : last.meter.failure = run.meter.failure) (next : Stage) :
    run.Ensues events (fatalities events) (last.afterSubmission rig.journaled result next) := by
  have submitted : run.Ensues events [] last :=
    ⟨⟨events, grown, calls_of_isSubmission submissions⟩, by
      rw [same, List.head?_nil, Option.or_none]⟩
  have both := submitted.trans (ensues_afterSubmission rig result next last)
  rw [List.append_nil, List.nil_append, ← failure] at both
  exact both

/-- Filling the queue makes submissions, and fails as they do. -/
theorem ensues_fillQueue (next : Stage) (run : Run (Journal RigEvent σ)) :
    ∃ calls, (∀ call ∈ calls, call.isSubmission = true) ∧
      run.Ensues calls (fatalities calls) (run.fillQueue rig.journaled next) := by
  obtain ⟨events, grown, submissions, failure⟩ :=
    submitEach_calls rig run.queue.slots run.rigState
  exact ⟨events, submissions,
    ensues_submissions rig run
      (run.withSlots (Queue.submitEach rig.journaled run.queue.slots run.rigState).1.2
        (Queue.submitEach rig.journaled run.queue.slots run.rigState).2)
      grown submissions failure rfl next⟩

/-! ## Waiting -/

/-- Clearing a halt comes before the submissions, and fails as these calls do. -/
theorem ensues_recover (run : Run (Journal RigEvent σ)) :
    ∃ endpoint result calls, (∀ call ∈ calls, call.isSubmission = true) ∧
      run.Ensues (.haltCleared endpoint result :: calls)
        (fatalities (.haltCleared endpoint result :: calls)) (run.recover rig.journaled) := by
  have noted := ensues_note rig run (.clearingHalt (run.settings.endpoint run.direction))
  have written := rig.history_clearHalt
    (run.note rig.journaled (.clearingHalt (run.settings.endpoint run.direction))).rigState
    (run.settings.endpoint run.direction)
  unfold recover
  dsimp only
  split
  next rigState cleared =>
    rw [cleared] at written
    have called : run.Ensues [_] [] { run with rigState, halted := false } :=
      noted.trans (.of_call rfl written rfl)
    obtain ⟨calls, submissions, filled⟩ :=
      ensues_fillQueue rig .waiting { run with rigState, halted := false }
    exact ⟨_, _, calls, submissions, called.trans filled⟩
  next error rigState remains =>
    rw [remains] at written
    have called : run.Ensues [_] [] { run with rigState } :=
      noted.trans (.of_call rfl written rfl)
    exact ⟨_, _, [], List.forall_mem_nil _,
      (called.then_quiet (ensues_note rig _ _)).trans (ensues_fail rig _ .stalled)⟩

/-- Asking for completions is one call, and fails as it does. -/
theorem ensues_poll (run : Run (Journal RigEvent σ)) :
    ∃ timeout answer, run.Ensues [.polled timeout answer] (fatalities [.polled timeout answer])
      (run.poll rig.journaled) := by
  have written := rig.history_poll run.rigState run.settings.eventTimeout
  unfold poll
  rcases answer : rig.journaled.poll run.settings.eventTimeout run.rigState with
    ⟨⟨delivered, result⟩, rigState⟩
  rw [answer] at written
  refine ⟨run.settings.eventTimeout, ⟨delivered, result⟩, ?_⟩
  have polled : run.Ensues [_] [] { run with rigState, arrivals := run.arrivals ++ delivered } :=
    .of_call rfl written rfl
  dsimp only
  split
  · exact polled.then_quiet (ensues_goTo _ _)
  · exact polled.then_quiet (ensues_goTo _ _)
  next error serious =>
    have same : fatalities [.polled run.settings.eventTimeout ⟨delivered, .error error⟩] =
        [.ofUsbError error] := by
      cases error <;> first | rfl | exact (serious rfl).elim
    rw [same]
    exact ((polled.then_quiet (ensues_note rig _ _)).trans
      (ensues_fail rig _ (.ofUsbError error))).then_quiet (ensues_goTo _ _)

/-- The failure of a run with nothing in flight that does not recover from a halt. -/
def starvation (run : Run σ) : List Failure :=
  if run.queue.inFlight = 0 ∧ run.halted = false then [.stalled] else []

/-- Looking after a test that is not over: the calls, and the failures. -/
theorem ensues_wait {run : Run (Journal RigEvent σ)} (going : run.meter.terminated = false) :
    ∃ calls, run.Ensues calls (run.starvation ++ fatalities calls) (run.wait rig.journaled) := by
  unfold wait
  rw [going, if_neg Bool.false_ne_true]
  by_cases empty : run.queue.inFlight = 0
  · rw [if_pos empty]
    cases halted : run.halted with
    | true =>
        have fed : run.starvation = [] := if_neg fun starved =>
          Bool.noConfusion (halted.symm.trans starved.2)
        obtain ⟨_, _, calls, _, ensues⟩ := ensues_recover rig run
        rw [fed]
        exact ⟨_, ensues⟩
    | false =>
        have starved : run.starvation = [.stalled] := if_pos ⟨empty, halted⟩
        rw [starved]
        exact ⟨[], ((ensues_note rig run .nothingInFlight).trans
          (ensues_fail rig _ .stalled)).then_quiet (ensues_goTo _ _)⟩
  · have fed : run.starvation = [] := if_neg fun starved => empty starved.1
    obtain ⟨_, _, ensues⟩ := ensues_poll rig run
    rw [if_neg empty, fed]
    exact ⟨_, ensues⟩

/-! ## Finished transfers -/

/-- The failure that a transfer with a given end is, whatever the calls made about it answer. A
stall is one if no recovery is under way and none is left, a cancelled transfer if none is under
way. -/
def objectionTo? (run : Run σ) : TransferStatus → Option Failure
  | .completed => none
  | .stall =>
      match run.settings.stallRecovery with
      | .leaveIdle => none
      | .clearHalt maxAttempts =>
          if run.halted = false ∧ maxAttempts ≤ run.recoveries then some .stalled else none
  | .cancelled => if run.halted then none else some .cancelled
  | status => Failure.ofStatus status

/-- The failure that a finished transfer is, if the queue has its slot. -/
def objection? (run : Run σ) (completion : Completion) : Option Failure :=
  if completion.slot < run.queue.depth then run.objectionTo? completion.status else none

private theorem failure_record {meter counted : Meter} {now : Duration} {bytes : Nat}
    (recorded : meter.record? now bytes = some counted) : counted.failure = meter.failure := by
  unfold Meter.record? at recorded
  split at recorded
  · cases recorded
    rfl
  · split at recorded
    · contradiction
    · dsimp only at recorded
      split at recorded <;> cases recorded <;> rfl

/-- Counting a completed transfer and submitting its slot again. -/
theorem ensues_onCompleted (run : Run (Journal RigEvent σ)) (id : Nat) (slot : Slot) :
    ∃ calls, (∀ call ∈ calls, call.isSubmission = true) ∧
      run.Ensues calls (fatalities calls) (run.onCompleted rig.journaled id slot) := by
  unfold onCompleted
  dsimp only
  split
  next =>
    refine ⟨[], List.forall_mem_nil _, ⟨[.disconnected], rig.history_disconnect _, rfl⟩, ?_⟩
    exact (Option.or_none).symm
  next meter recorded =>
    have counted : run.Ensues [] []
        { run with rigState := (rig.journaled.now run.rigState).2, meter } :=
      .of_same rfl (failure_record recorded)
    have noted := counted.then_quiet (ensues_note rig _ (.completed id slot.moved meter.bytesTotal))
    split
    · exact ⟨[], List.forall_mem_nil _, noted.then_quiet (ensues_note rig _ .targetReached)⟩
    · split
      · exact ⟨[], List.forall_mem_nil _, noted⟩
      · generalize Run.note rig.journaled _ _ = counted at noted ⊢
        obtain ⟨events, grown, submissions, failure⟩ := submit_calls rig slot counted.rigState
        exact ⟨events, submissions, noted.then_calls (ensues_submissions rig counted
          ({ counted with rigState := (slot.submit rig.journaled counted.rigState).2 }.putSlot id
            (slot.submit rig.journaled counted.rigState).1.2)
          grown submissions failure rfl _)⟩

private theorem ensues_onHalt (run : Run (Journal RigEvent σ)) (maxAttempts id : Nat) :
    run.Ensues []
      (if run.halted = false ∧ maxAttempts ≤ run.recoveries then some .stalled else none).toList
      (run.onHalt rig.journaled maxAttempts id) := by
  unfold onHalt
  by_cases halted : run.halted = true
  · rw [if_pos halted, if_neg fun stuck => Bool.noConfusion (halted.symm.trans stuck.1)]
    exact ensues_note rig run (.stalledWhileHalted id)
  · rw [if_neg halted]
    by_cases spent : maxAttempts ≤ run.recoveries
    · rw [if_pos spent, if_pos ⟨Bool.eq_false_iff.mpr halted, spent⟩]
      exact (ensues_note rig run (.stalledAgain id)).then_calls (ensues_fail rig _ .stalled)
    · rw [if_neg spent, if_neg fun stuck => spent stuck.2]
      have begun : run.Ensues [] []
          { run with recoveries := run.recoveries + 1, halted := true } := .of_same rfl rfl
      exact (begun.then_quiet (ensues_note rig _ _)).then_quiet (.of_quiet (path_cancel _) rfl)

private theorem ensues_onStall (run : Run (Journal RigEvent σ)) (id : Nat) (slot : Slot) :
    run.Ensues [] (run.objectionTo? .stall).toList (run.onStall rig.journaled id slot) := by
  unfold onStall objectionTo?
  cases policy : run.settings.stallRecovery with
  | leaveIdle =>
      exact (ensues_note rig run .backingOff).then_quiet (.of_same rfl rfl)
  | clearHalt maxAttempts =>
      have aside : run.Ensues [] [] (run.putSlot id slot.setAside) := .of_same rfl rfl
      exact aside.then_calls (ensues_onHalt rig (run.putSlot id slot.setAside) maxAttempts id)

private theorem ensues_onFailed (run : Run (Journal RigEvent σ)) (id : Nat)
    {status : TransferStatus}
    (short : status ≠ .completed) (plain : status ≠ .stall) :
    run.Ensues [] (run.objectionTo? status).toList
      (run.onFailed rig.journaled id status) := by
  have noted := ensues_note rig run (.transferFailed id status)
  cases status with
  | completed => contradiction
  | stall => contradiction
  | cancelled =>
      cases halted : run.halted with
      | true =>
          simp only [onFailed, objectionTo?, halted]
          exact ensues_note rig run (.cancelledForRecovery id)
      | false =>
          simp only [onFailed, objectionTo?, halted]
          exact noted.then_calls (ensues_fail rig _ .cancelled)
  | _ => exact noted.then_calls (ensues_fail rig _ _)

/-- Acting on a completion: the calls, and the failures. -/
theorem ensues_handle (run : Run (Journal RigEvent σ)) (going : run.meter.terminated = false)
    (completion : Completion) :
    ∃ calls, (∀ call ∈ calls, call.isSubmission = true) ∧
      run.Ensues calls ((run.objection? completion).toList ++ fatalities calls)
        (run.handle rig.journaled completion) := by
  cases held : run.queue.slot? completion.slot with
  | none =>
      have fine : run.objection? completion = none :=
        if_neg (Nat.not_lt.mpr (List.getElem?_eq_none_iff.mp held))
      rw [fine, handle_of_unknown _ held]
      exact ⟨[], List.forall_mem_nil _, ensues_note rig run _⟩
  | some slot =>
      have received : run.Ensues [] [] (run.receive completion) := by
        rw [receive_of_held held]
        exact .of_same rfl rfl
      have judged : run.objection? completion =
          (run.receive completion).objectionTo? completion.status := by
        rw [receive_of_held held]
        exact if_pos (List.getElem?_eq_some_iff.mp held).1
      rw [judged, handle_of_going _ held going]
      cases status : completion.status with
      | completed =>
          obtain ⟨calls, submissions, ensues⟩ := ensues_onCompleted rig (run.receive completion)
            completion.slot (slot.complete .completed completion.length)
          exact ⟨calls, submissions, received.then_calls ensues⟩
      | stall => exact (received.then_calls (ensues_onStall rig _ _ _)).without_calls
      | _ =>
          refine (received.then_calls (ensues_onFailed rig _ _ ?_ ?_)).without_calls <;>
            exact TransferStatus.noConfusion

/-! ## Whole steps -/

/-- The failures that a step finds by itself, apart from what calls answer. -/
def findings (run : Run σ) : List Failure :=
  match run.stage with
  | .waiting => run.starvation
  | .handling => (run.arrivals.head?.bind run.objection?).toList
  | _ => []

/-- **The failures of a step** before the decision to end the test: those that the step finds, and
then those that its calls bring about. -/
theorem ensues_step {run : Run (Journal RigEvent σ)} (staged : run.Staged)
    (going : run.meter.terminated = false) :
    ∃ calls, run.Ensues calls (run.findings ++ fatalities calls) (run.step rig.journaled) := by
  have early : run.stage.isFinal = false := by
    apply Bool.eq_false_iff.mpr
    intro final
    rw [staged.decided final] at going
    contradiction
  unfold step findings
  cases stage : run.stage with
  | filling =>
      obtain ⟨calls, _, ensues⟩ := ensues_fillQueue rig .starting
        { run with
          rigState := (rig.journaled.now run.rigState).2
          meter := run.meter.start (rig.journaled.now run.rigState).1 }
      have started : run.Ensues [] []
          { run with
            rigState := (rig.journaled.now run.rigState).2
            meter := run.meter.start (rig.journaled.now run.rigState).1 } := .of_same rfl rfl
      exact ⟨calls, started.then_calls ensues⟩
  | starting =>
      have same : (run.sendStart rig.journaled).meter = run.meter := by rw [sendStart_eq]
      exact ⟨[], .of_quiet (path_sendStart run) (congrArg Meter.failure same)⟩
  | waiting => exact ensues_wait rig going
  | handling =>
      unfold handleNext
      cases waiting : run.arrivals with
      | nil => exact ⟨[], ensues_goTo run .waiting⟩
      | cons completion rest =>
          have taken : run.Ensues [] [] { run with arrivals := rest } := .of_same rfl rfl
          obtain ⟨calls, _, ensues⟩ :=
            ensues_handle rig { run with arrivals := rest } going completion
          exact ⟨calls, taken.then_calls ensues⟩
  | broken fault => exact ⟨[], .of_same rfl rfl⟩
  | _ =>
      rw [stage] at early
      contradiction

/-! ## The steps at the end -/

theorem abandonEach_quiet (slots : List Slot) (journal : Journal RigEvent σ) :
    ∃ events, (Queue.abandonEach rig.journaled slots journal).2.history =
        journal.history ++ events ∧ ∀ event ∈ events, event.isQuiet = true := by
  induction slots generalizing journal with
  | nil => exact ⟨[], (List.append_nil _).symm, List.forall_mem_nil _⟩
  | cons slot rest ih =>
      cases flying : slot.isSubmitted with
      | true =>
          obtain ⟨events, grown, quiet⟩ := ih (rig.journaled.note (.abandoned slot.id) journal)
          simp only [Queue.abandonEach, flying, ↓reduceIte]
          refine ⟨.noted (.abandoned slot.id) :: events, ?_, List.forall_mem_cons.mpr ⟨rfl, quiet⟩⟩
          rw [grown, rig.history_note, List.append_assoc]
          rfl
      | false =>
          simp only [Queue.abandonEach, flying, Bool.false_eq_true, ↓reduceIte]
          exact ih journal

/-- What is given up is given up without a call. -/
theorem adds_abandonQueue (run : Run (Journal RigEvent σ)) :
    run.Adds [] (run.abandonQueue rig.journaled) := by
  obtain ⟨events, grown, quiet⟩ := abandonEach_quiet rig run.queue.slots run.rigState
  exact ⟨events, grown, calls_of_isQuiet quiet⟩

/-- Closing the device makes no call that counts. -/
theorem adds_close (run : Run (Journal RigEvent σ)) : run.Adds [] (run.close rig.journaled) := by
  obtain ⟨last, stage, path, _, same⟩ : ∃ last stage, Path rig.journaled .quiet run [] last ∧ _ :=
    close_eq_shut run
  rw [same]
  exact path.adds.trans ⟨[.disconnected], rig.history_disconnect last.rigState, rfl⟩

/-- Once slots are being abandoned, no more calls are made. -/
theorem adds_step_of_late {run : Run (Journal RigEvent σ)}
    (late : (run.step rig.journaled).stage.holdsSlots = false) :
    run.Adds [] (run.step rig.journaled) := by
  rcases Stage.late_of_leadsTo (leadsTo_step rig.journaled run) late with
    abandoning | closing | ⟨verdict, ended⟩
  · rw [step, abandoning]
    exact adds_abandonQueue rig run
  · rw [step, closing]
    exact adds_close rig run
  · rw [step, ended]
    exact .of_same rfl

/-- All that was handed over was taken up or waits, from the first step to the last. -/
theorem handed_steps {run : Run (Journal RigEvent σ)} (begun : run.Handed []) (count : Nat) :
    (run.steps rig.journaled count).Handed (run.takenUp rig.journaled count) := by
  induction count with
  | zero => exact begun
  | succ count ih =>
      cases holds : (run.steps rig.journaled (count + 1)).stage.holdsSlots with
      | true => exact (reaches_steps rig.journaled run (count + 1) holds).handed begun
      | false =>
          rw [steps_succ] at holds ⊢
          obtain ⟨events, grown, none⟩ := adds_step_of_late rig holds
          obtain ⟨arrivals, nothing⟩ := arrivals_step_of_late rig.journaled holds
          rw [Handed, takenUp, nothing, Option.toList_none, List.append_nil, grown, arrivals,
            delivered_append, delivered_of_isQuiet (isQuiet_of_calls none), List.append_nil]
          exact ih

end Run

/-- What was handed over was taken up, or waits. -/
theorem Benchmark.handed_runAfter {σ : Type} (rig : Rig σ) (benchmark : Benchmark) (state : σ)
    (count : Nat) :
    (benchmark.runAfter rig.journaled { state } count).Handed
      (benchmark.takenUp rig.journaled { state } count) :=
  Run.handed_steps rig (benchmark.handed_begin rig state) count

end UsbThroughput
