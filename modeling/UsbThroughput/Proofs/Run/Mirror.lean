import UsbThroughput.Proofs.Run.Course
import UsbThroughput.Rig.Event

/-!
# Rigs that answer alike

Two rigs that answer alike, as far as a view of the states of one as states of the other goes
(`Rig.Mirrors`). A run on one rig is then a run on the other, step by step
(`Run.mapRig_steps`). Since nothing depends on what comes of a command, only the states have to
agree after one. Journals are such a case: they watch a run and change nothing
(`Benchmark.runAfter_journaled`).
-/

namespace UsbThroughput

variable {σ τ : Type}

/-- An answer in view of another rig. -/
def viewed {α : Type} (view : σ → τ) (answer : α × σ) : α × τ := (answer.1, view answer.2)

/-- The second rig answers as the first, but maybe to commands, and does what the first does in
view of its states. -/
structure Rig.Mirrors (rig : Rig σ) (other : Rig τ) (view : σ → τ) : Prop where
  connect : ∀ target state,
    other.connect target (view state) = viewed view (rig.connect target state)
  submit : ∀ slot state, other.submit slot (view state) = viewed view (rig.submit slot state)
  cancel : ∀ slot state, other.cancel slot (view state) = viewed view (rig.cancel slot state)
  poll : ∀ timeout state, other.poll timeout (view state) = viewed view (rig.poll timeout state)
  send : ∀ (channel : Channel) (command : Command) (state : σ),
    (channel.send other command (view state)).2 = view (channel.send rig command state).2
  clearHalt : ∀ endpoint state,
    other.clearHalt endpoint (view state) = viewed view (rig.clearHalt endpoint state)
  disconnect : ∀ state, other.disconnect (view state) = view (rig.disconnect state)
  now : ∀ state, other.now (view state) = viewed view (rig.now state)
  note : ∀ notice state, other.note notice (view state) = view (rig.note notice state)

variable {rig : Rig σ} {other : Rig τ} {view : σ → τ}

/-! ## Slots, the queue and the channel -/

section

variable (mirrors : rig.Mirrors other view)

include mirrors

private theorem Slot.viewed_submit (slot : Slot) (state : σ) :
    slot.submit other (view state) = viewed view (slot.submit rig state) := by
  unfold submit
  split
  · rfl
  · rw [mirrors.submit]
    rcases rig.submit slot.reset state with ⟨result, after⟩
    cases result <;> rfl

private theorem Slot.viewed_cancel (slot : Slot) (state : σ) :
    slot.cancel other (view state) = viewed view (slot.cancel rig state) := by
  unfold cancel
  split
  · dsimp only
    rw [mirrors.cancel]
    rcases rig.cancel _ state with ⟨result, after⟩
    cases result with
    | ok _ => rfl
    | error error => exact congrArg (Prod.mk _) (mirrors.note (.cancelFailed slot.id error) after)
  · rfl

private theorem Queue.viewed_submitEach (slots : List Slot) (state : σ) :
    submitEach other slots (view state) = viewed view (submitEach rig slots state) := by
  induction slots generalizing state with
  | nil => rfl
  | cons slot rest ih =>
      unfold submitEach
      rw [slot.viewed_submit mirrors]
      rcases slot.submit rig state with ⟨⟨result, next⟩, after⟩
      cases result with
      | error refusal => rfl
      | ok _ =>
          change ((_, next :: (submitEach other rest (view after)).1.2), _) = _
          rw [ih]
          rfl

private theorem Queue.viewed_cancelEach (slots : List Slot) (state : σ) :
    cancelEach other slots (view state) = viewed view (cancelEach rig slots state) := by
  induction slots with
  | nil => rfl
  | cons slot rest ih =>
      have first := slot.viewed_cancel mirrors (cancelEach rig rest state).2
      unfold cancelEach
      rw [ih]
      change ((slot.cancel other (view (cancelEach rig rest state).2)).1 :: _,
        (slot.cancel other (view (cancelEach rig rest state).2)).2) = _
      rw [first]
      rfl

private theorem Queue.viewed_abandonEach (slots : List Slot) (state : σ) :
    abandonEach other slots (view state) = viewed view (abandonEach rig slots state) := by
  induction slots generalizing state with
  | nil => rfl
  | cons slot rest ih =>
      unfold abandonEach
      cases slot.isSubmitted with
      | true =>
          have others := ih (rig.note (.abandoned slot.id) state)
          rw [← mirrors.note] at others
          change (_ :: (abandonEach other rest _).1, (abandonEach other rest _).2) = _
          rw [others]
          rfl
      | false =>
          change (_ :: (abandonEach other rest _).1, (abandonEach other rest _).2) = _
          rw [ih]
          rfl

private theorem Channel.viewed_stop (channel : Channel) (state : σ) :
    (channel.stop other (view state)).1.2 = (channel.stop rig state).1.2 ∧
      (channel.stop other (view state)).2 = view (channel.stop rig state).2 := by
  unfold stop
  split
  · exact ⟨rfl, rfl⟩
  · exact ⟨rfl, mirrors.send { channel with stopSent := true } .stop state⟩

end

namespace Run

/-- A run in view of another rig. -/
def mapRig (view : σ → τ) (run : Run σ) : Run τ where
  settings := run.settings
  direction := run.direction
  rigState := view run.rigState
  queue := run.queue
  meter := run.meter
  channel := run.channel
  arrivals := run.arrivals
  recoveries := run.recoveries
  halted := run.halted
  stage := run.stage

/-- Cancels what is in flight, in the middle of a step. -/
def cancelAll (rig : Rig σ) (run : Run σ) : Run σ :=
  { run with
    queue := (run.queue.cancel rig run.rigState).1
    rigState := (run.queue.cancel rig run.rigState).2 }

/-- Reads the clock to set the deadline. -/
def setDeadline (rig : Rig σ) (run : Run σ) : Run σ :=
  { run with rigState := (rig.now run.rigState).2 }.goTo
    (.draining ((rig.now run.rigState).1.add run.settings.drainTimeout))

/-- Waits once for cancelled transfers. -/
def awaitCancelled (rig : Rig σ) (deadline timeout : Duration) (run : Run σ) : Run σ :=
  let (answer, rigState) := rig.poll timeout run.rigState
  let run := { run with rigState, arrivals := run.arrivals ++ answer.delivered }
  match answer.result with
  | .ok () | .error .interrupted => run.goTo (.settling deadline)
  | .error error => (run.note rig (.drainPollFailed error)).goTo .abandoning

/-- Cancelling what is in flight, with each state of the rig by its own name. -/
theorem cancelQueue_eq (rig : Rig σ) (run : Run σ) :
    run.cancelQueue rig =
      let cancelled := (run.note rig (.moved .running .draining)).cancelAll rig
      (cancelled.note rig (.cancelling cancelled.queue.inFlight)).setDeadline rig := rfl

/-- Waiting for what was cancelled, with each state of the rig by its own name. -/
theorem drain_eq (rig : Rig σ) (deadline : Duration) (run : Run σ) :
    run.drain rig deadline =
      if run.queue.inFlight = 0 then run.goTo .abandoning
      else
        let remaining := deadline.since (rig.now run.rigState).1
        let later := { run with rigState := (rig.now run.rigState).2 }
        if remaining.isZero then later.goTo .abandoning
        else later.awaitCancelled rig deadline (remaining.min run.settings.eventTimeout) := rfl

variable (mirrors : rig.Mirrors other view)

include mirrors

/-! ## The steps of a run -/

private theorem mapRig_note (run : Run σ) (notice : Notice) :
    (run.mapRig view).note other notice = (run.note rig notice).mapRig view := by
  have noted := mirrors.note notice run.rigState
  unfold note mapRig
  dsimp only
  rw [noted]

private theorem mapRig_fail (run : Run σ) (failure : Failure) :
    (run.mapRig view).fail other failure = (run.fail rig failure).mapRig view := by
  have read : other.now (run.mapRig view).rigState = _ := mirrors.now run.rigState
  unfold fail
  rw [read]
  rfl

private theorem mapRig_breakOff (run : Run σ) (fault : Fault) :
    (run.mapRig view).breakOff other fault = (run.breakOff rig fault).mapRig view := by
  have closed : other.disconnect (run.mapRig view).rigState = _ := mirrors.disconnect run.rigState
  unfold breakOff
  rw [closed]
  rfl

private theorem mapRig_afterSubmission (result : Except Refusal Unit) (next : Stage) (run : Run σ) :
    (run.mapRig view).afterSubmission other result next =
      (run.afterSubmission rig result next).mapRig view := by
  match result with
  | .ok () => rfl
  | .error (.rejected error) =>
      unfold afterSubmission
      dsimp only
      rw [mapRig_note mirrors, mapRig_fail mirrors]
      rfl
  | .error (.inFlight slot) => exact mapRig_breakOff mirrors run (.slotInFlight slot)

private theorem mapRig_fillQueue (next : Stage) (run : Run σ) :
    (run.mapRig view).fillQueue other next = (run.fillQueue rig next).mapRig view := by
  have filled : Queue.submitEach other (run.mapRig view).queue.slots (run.mapRig view).rigState =
      _ := Queue.viewed_submitEach mirrors run.queue.slots run.rigState
  unfold fillQueue Queue.submit
  rw [filled]
  rcases Queue.submitEach rig run.queue.slots run.rigState with ⟨⟨result, slots⟩, after⟩
  exact mapRig_afterSubmission mirrors result next
    { run with queue := { run.queue with slots }, rigState := after }

private theorem mapRig_fill (run : Run σ) :
    (run.mapRig view).fill other = (run.fill rig).mapRig view := by
  have read : other.now (run.mapRig view).rigState = _ := mirrors.now run.rigState
  unfold fill
  rw [read]
  rcases rig.now run.rigState with ⟨now, after⟩
  exact mapRig_fillQueue mirrors .starting
    { run with rigState := after, meter := run.meter.start now }

private theorem mapRig_send (channel : Channel) (command : Command) (run : Run σ) :
    { run.mapRig view with
      rigState := (channel.send other command (run.mapRig view).rigState).2 } =
      { run with rigState := (channel.send rig command run.rigState).2 }.mapRig view :=
  congrArg (fun rigState => { run.mapRig view with rigState })
    (mirrors.send channel command run.rigState)

private theorem mapRig_sendStart (run : Run σ) :
    (run.mapRig view).sendStart other = (run.sendStart rig).mapRig view := by
  unfold sendStart
  rw [mapRig_note mirrors]
  generalize run.note rig (.moved .deviceOpened .queueArmed) = noted
  have sent := mapRig_send mirrors noted.channel (.start noted.direction) noted
  cases done : noted.meter.terminated with
  | true =>
      have still : (noted.mapRig view).meter.terminated = true := done
      simp only [done, still, ↓reduceIte]
      rw [mapRig_note mirrors]
      rfl
  | false =>
      have going : (noted.mapRig view).meter.terminated = false := done
      have after := mapRig_note mirrors
        { noted with
          rigState := (noted.channel.send rig (.start noted.direction) noted.rigState).2 }
        (.moved .queueArmed .running)
      rw [← sent] at after
      simp only [done, going, Bool.false_eq_true, ↓reduceIte]
      exact congrArg (goTo .waiting) after

private theorem mapRig_note_fail (run : Run σ) (notice : Notice) (failure : Failure)
    (next : Stage) :
    (((run.mapRig view).note other notice).fail other failure).goTo next =
      (((run.note rig notice).fail rig failure).goTo next).mapRig view := by
  rw [mapRig_note mirrors, mapRig_fail mirrors]
  rfl

private theorem mapRig_recover (run : Run σ) :
    (run.mapRig view).recover other = (run.recover rig).mapRig view := by
  have noted : (run.mapRig view).note other
      (.clearingHalt ((run.mapRig view).settings.endpoint (run.mapRig view).direction)) = _ :=
    mapRig_note mirrors run (.clearingHalt (run.settings.endpoint run.direction))
  unfold recover
  dsimp only
  rw [noted]
  generalize run.note rig (.clearingHalt (run.settings.endpoint run.direction)) = begun
  have cleared : other.clearHalt
      ((run.mapRig view).settings.endpoint (run.mapRig view).direction)
      (begun.mapRig view).rigState = _ :=
    mirrors.clearHalt (run.settings.endpoint run.direction) begun.rigState
  rw [cleared]
  rcases rig.clearHalt (run.settings.endpoint run.direction) begun.rigState with ⟨result, after⟩
  cases result with
  | ok _ =>
      exact mapRig_fillQueue mirrors .waiting { begun with rigState := after, halted := false }
  | error error =>
      change (note other _ ({ begun with rigState := after }.mapRig view)).fail other .stalled = _
      rw [mapRig_note mirrors, mapRig_fail mirrors]
      rfl

private theorem mapRig_poll (run : Run σ) :
    (run.mapRig view).poll other = (run.poll rig).mapRig view := by
  have polled : other.poll (run.mapRig view).settings.eventTimeout (run.mapRig view).rigState = _ :=
    mirrors.poll run.settings.eventTimeout run.rigState
  unfold poll
  rw [polled]
  rcases rig.poll run.settings.eventTimeout run.rigState with ⟨⟨delivered, result⟩, after⟩
  cases result with
  | ok _ => rfl
  | error error =>
      have failed := mapRig_note_fail mirrors
        { run with rigState := after, arrivals := run.arrivals ++ delivered }
        (.pollFailed error) (.ofUsbError error) .cancelling
      cases error with
      | interrupted => rfl
      | _ => exact failed

private theorem mapRig_wait (run : Run σ) :
    (run.mapRig view).wait other = (run.wait rig).mapRig view := by
  unfold wait
  change (if run.meter.terminated then _ else if run.queue.inFlight = 0 then
    if run.halted then _ else _ else _) = _
  split
  · rfl
  · split
    · split
      · exact mapRig_recover mirrors run
      · exact mapRig_note_fail mirrors run .nothingInFlight .stalled .cancelling
    · exact mapRig_poll mirrors run

private theorem mapRig_submit (id : Nat) (slot : Slot) (next : Stage) (run : Run σ) :
    afterSubmission other (slot.submit other (run.mapRig view).rigState).1.1 next
        ({ run.mapRig view with
          rigState := (slot.submit other (run.mapRig view).rigState).2 }.putSlot id
            (slot.submit other (run.mapRig view).rigState).1.2) =
      (afterSubmission rig (slot.submit rig run.rigState).1.1 next
        ({ run with rigState := (slot.submit rig run.rigState).2 }.putSlot id
          (slot.submit rig run.rigState).1.2)).mapRig view := by
  have submitted : slot.submit other (run.mapRig view).rigState = _ :=
    slot.viewed_submit mirrors run.rigState
  rw [submitted]
  rcases slot.submit rig run.rigState with ⟨⟨result, after⟩, rigState⟩
  exact mapRig_afterSubmission mirrors result next ({ run with rigState }.putSlot id after)

private theorem mapRig_onCompleted (id : Nat) (slot : Slot) (run : Run σ) :
    (run.mapRig view).onCompleted other id slot = (run.onCompleted rig id slot).mapRig view := by
  have read : other.now (run.mapRig view).rigState = _ := mirrors.now run.rigState
  unfold onCompleted
  rw [read]
  rcases rig.now run.rigState with ⟨now, after⟩
  have same : { run.mapRig view with rigState := view after }.meter = run.meter := rfl
  dsimp only [viewed]
  rw [same]
  cases run.meter.record? now slot.moved with
  | none => exact mapRig_breakOff mirrors { run with rigState := after } .countOverflow
  | some meter =>
      have noted := mapRig_note mirrors { run with rigState := after, meter }
        (.completed id slot.moved meter.bytesTotal)
      have rest (begun : Run σ) :
          (if meter.terminated then (begun.mapRig view).note other .targetReached
            else if begun.halted then begun.mapRig view
            else afterSubmission other (slot.submit other (begun.mapRig view).rigState).1.1
              .handling ({ begun.mapRig view with
                rigState := (slot.submit other (begun.mapRig view).rigState).2 }.putSlot id
                  (slot.submit other (begun.mapRig view).rigState).1.2)) =
          (if meter.terminated then begun.note rig .targetReached
            else if begun.halted then begun
            else afterSubmission rig (slot.submit rig begun.rigState).1.1 .handling
              ({ begun with rigState := (slot.submit rig begun.rigState).2 }.putSlot id
                (slot.submit rig begun.rigState).1.2)).mapRig view := by
        split
        · exact mapRig_note mirrors begun .targetReached
        · split
          · rfl
          · exact mapRig_submit mirrors id slot .handling begun
      refine Eq.trans ?_ (rest _)
      rw [← noted]
      rfl

private theorem mapRig_cancelAll (run : Run σ) :
    (run.mapRig view).cancelAll other = (run.cancelAll rig).mapRig view := by
  have cancelled : Queue.cancelEach other (run.mapRig view).queue.slots
      (run.mapRig view).rigState = _ :=
    Queue.viewed_cancelEach mirrors run.queue.slots run.rigState
  unfold cancelAll Queue.cancel
  rw [cancelled]
  rfl

private theorem mapRig_onHalt (maxAttempts id : Nat) (run : Run σ) :
    (run.mapRig view).onHalt other maxAttempts id =
      (run.onHalt rig maxAttempts id).mapRig view := by
  unfold onHalt
  change (if run.halted then _ else if maxAttempts ≤ run.recoveries then _ else _) = _
  split
  · exact mapRig_note mirrors run _
  · split
    · rw [mapRig_note mirrors, mapRig_fail mirrors]
    · have noted := mapRig_note mirrors
        { run with recoveries := run.recoveries + 1, halted := true }
        (.recovering (run.recoveries + 1) maxAttempts)
      exact (congrArg (cancelAll other) noted).trans (mapRig_cancelAll mirrors _)

private theorem mapRig_onStall (id : Nat) (slot : Slot) (run : Run σ) :
    (run.mapRig view).onStall other id slot = (run.onStall rig id slot).mapRig view := by
  have same : (run.mapRig view).settings.stallRecovery = run.settings.stallRecovery := rfl
  unfold onStall
  rw [same]
  cases run.settings.stallRecovery with
  | leaveIdle => exact congrArg (putSlot id slot.setAside) (mapRig_note mirrors run .backingOff)
  | clearHalt maxAttempts =>
      exact mapRig_onHalt mirrors maxAttempts id (run.putSlot id slot.setAside)

private theorem mapRig_onFailed (id : Nat) (status : TransferStatus) (run : Run σ) :
    (run.mapRig view).onFailed other id status = (run.onFailed rig id status).mapRig view := by
  have same : (run.mapRig view).halted = run.halted := rfl
  unfold onFailed
  rw [same]
  split
  · exact mapRig_note mirrors run (.cancelledForRecovery id)
  · rw [mapRig_note mirrors]
    cases Failure.ofStatus status with
    | none => rfl
    | some failure => exact mapRig_fail mirrors _ failure

private theorem mapRig_handle (completion : Completion) (run : Run σ) :
    (run.mapRig view).handle other completion = (run.handle rig completion).mapRig view := by
  have same : (run.mapRig view).queue.slot? completion.slot = run.queue.slot? completion.slot := rfl
  unfold handle
  dsimp only
  rw [same]
  cases run.queue.slot? completion.slot with
  | none => exact mapRig_note mirrors run (.unknownSlot completion.slot)
  | some slot =>
      dsimp only
      generalize slot.complete completion.status completion.length = applied
      have put : (run.mapRig view).putSlot completion.slot applied =
          (run.putSlot completion.slot applied).mapRig view := rfl
      have still : ((run.putSlot completion.slot applied).mapRig view).meter.terminated =
          (run.putSlot completion.slot applied).meter.terminated := rfl
      rw [put, still]
      generalize run.putSlot completion.slot applied = received
      split
      · exact mapRig_note mirrors received (.finishedLate completion.slot completion.status)
      · cases completion.status with
        | completed => exact mapRig_onCompleted mirrors completion.slot applied received
        | stall => exact mapRig_onStall mirrors completion.slot applied received
        | _ => exact mapRig_onFailed mirrors completion.slot _ received

private theorem mapRig_handleNext (run : Run σ) :
    (run.mapRig view).handleNext other = (run.handleNext rig).mapRig view := by
  have same : (run.mapRig view).arrivals = run.arrivals := rfl
  unfold handleNext
  rw [same]
  cases run.arrivals with
  | nil => rfl
  | cons completion rest => exact mapRig_handle mirrors completion { run with arrivals := rest }

private theorem mapRig_setDeadline (run : Run σ) :
    (run.mapRig view).setDeadline other = (run.setDeadline rig).mapRig view := by
  have read : other.now (run.mapRig view).rigState = _ := mirrors.now run.rigState
  unfold setDeadline
  rw [read]
  rfl

private theorem mapRig_cancelQueue (run : Run σ) :
    (run.mapRig view).cancelQueue other = (run.cancelQueue rig).mapRig view := by
  rw [cancelQueue_eq, cancelQueue_eq, mapRig_note mirrors, mapRig_cancelAll mirrors]
  generalize (run.note rig (.moved .running .draining)).cancelAll rig = cancelled
  have counted := mapRig_note mirrors cancelled (.cancelling cancelled.queue.inFlight)
  exact (congrArg (setDeadline other) counted).trans (mapRig_setDeadline mirrors _)

private theorem mapRig_awaitCancelled (deadline timeout : Duration) (run : Run σ) :
    (run.mapRig view).awaitCancelled other deadline timeout =
      (run.awaitCancelled rig deadline timeout).mapRig view := by
  have polled : other.poll timeout (run.mapRig view).rigState = _ :=
    mirrors.poll timeout run.rigState
  unfold awaitCancelled
  rw [polled]
  rcases rig.poll timeout run.rigState with ⟨⟨delivered, result⟩, after⟩
  match result with
  | .ok () => rfl
  | .error error =>
      have failed := mapRig_note mirrors
        { run with rigState := after, arrivals := run.arrivals ++ delivered }
        (.drainPollFailed error)
      cases error with
      | interrupted => rfl
      | _ => exact congrArg (goTo .abandoning) failed

private theorem mapRig_drain (deadline : Duration) (run : Run σ) :
    (run.mapRig view).drain other deadline = (run.drain rig deadline).mapRig view := by
  have read : other.now (run.mapRig view).rigState = _ := mirrors.now run.rigState
  have same : (run.mapRig view).queue.inFlight = run.queue.inFlight := rfl
  rw [drain_eq, drain_eq, same, read]
  rcases rig.now run.rigState with ⟨now, after⟩
  split
  · rfl
  · dsimp only [viewed]
    split
    · rfl
    · exact mapRig_awaitCancelled mirrors deadline _ { run with rigState := after }

private theorem mapRig_settle (deadline : Duration) (run : Run σ) :
    (run.mapRig view).settle other deadline = (run.settle rig deadline).mapRig view := by
  have same : (run.mapRig view).arrivals = run.arrivals := rfl
  unfold settle
  rw [same]
  cases run.arrivals with
  | nil => rfl
  | cons completion rest =>
      have held : { run.mapRig view with arrivals := rest }.queue.slot? completion.slot =
          run.queue.slot? completion.slot := rfl
      dsimp only
      rw [held]
      cases run.queue.slot? completion.slot with
      | none => exact mapRig_note mirrors { run with arrivals := rest } _
      | some slot =>
          exact mapRig_note mirrors ({ run with arrivals := rest }.putSlot completion.slot _) _

private theorem mapRig_abandonQueue (run : Run σ) :
    (run.mapRig view).abandonQueue other = (run.abandonQueue rig).mapRig view := by
  have abandoned : Queue.abandonEach other (run.mapRig view).queue.slots
      (run.mapRig view).rigState = _ :=
    Queue.viewed_abandonEach mirrors run.queue.slots run.rigState
  unfold abandonQueue Queue.abandon
  rw [abandoned]
  rfl

private theorem mapRig_sendStop (run : Run σ) :
    (run.mapRig view).sendStop other = (run.sendStop rig).mapRig view := by
  obtain ⟨channel, state⟩ := Channel.viewed_stop mirrors run.channel run.rigState
  change { run.mapRig view with
    channel := (run.channel.stop other (view run.rigState)).1.2
    rigState := (run.channel.stop other (view run.rigState)).2 } = _
  rw [channel, state]
  rfl

private theorem mapRig_disconnect (run : Run σ) :
    (run.mapRig view).disconnect other = (run.disconnect rig).mapRig view := by
  have closed : other.disconnect (run.mapRig view).rigState = _ := mirrors.disconnect run.rigState
  unfold disconnect
  rw [closed]
  rfl

private theorem mapRig_close (run : Run σ) :
    (run.mapRig view).close other = (run.close rig).mapRig view := by
  have read : other.now (run.mapRig view).rigState = _ := mirrors.now run.rigState
  unfold close
  rw [read]
  rcases rig.now run.rigState with ⟨now, after⟩
  have same : { run.mapRig view with rigState := view after }.meter = run.meter := rfl
  have still : { run.mapRig view with rigState := view after }.direction = run.direction := rfl
  dsimp only [viewed]
  rw [same, still]
  cases run.meter.finish now run.direction with
  | ok report =>
      change goTo _ (disconnect other (note other _ (sendStop other (note other (.report report)
        ({ run with rigState := after }.mapRig view))))) = _
      rw [mapRig_note mirrors, mapRig_sendStop mirrors, mapRig_note mirrors,
        mapRig_disconnect mirrors]
      rfl
  | error failure =>
      change goTo _ (disconnect other (note other _ (sendStop other
        ({ run with rigState := after }.mapRig view)))) = _
      rw [mapRig_sendStop mirrors, mapRig_note mirrors, mapRig_disconnect mirrors]
      rfl

/-- **A run on one rig is a run on the other.** -/
theorem mapRig_step (run : Run σ) :
    (run.mapRig view).step other = (run.step rig).mapRig view := by
  have same : (run.mapRig view).stage = run.stage := rfl
  unfold step
  rw [same]
  cases run.stage with
  | filling => exact mapRig_fill mirrors run
  | starting => exact mapRig_sendStart mirrors run
  | waiting => exact mapRig_wait mirrors run
  | handling => exact mapRig_handleNext mirrors run
  | cancelling => exact mapRig_cancelQueue mirrors run
  | draining deadline => exact mapRig_drain mirrors deadline run
  | settling deadline => exact mapRig_settle mirrors deadline run
  | abandoning => exact mapRig_abandonQueue mirrors run
  | closing => exact mapRig_close mirrors run
  | ended _ => rfl
  | broken _ => rfl

/-- Any number of steps look the same through a mirror. -/
theorem mapRig_steps (count : Nat) (run : Run σ) :
    (run.mapRig view).steps other count = (run.steps rig count).mapRig view := by
  induction count with
  | zero => rfl
  | succ count ih => rw [steps_succ, steps_succ, ih, mapRig_step mirrors]

/-! ## The moments of a step -/

private theorem mapRig_fillFirst (count : Nat) (run : Run σ) :
    (run.mapRig view).fillFirst other count = (run.fillFirst rig count).mapRig view := by
  have filled : Queue.submitEach other ((run.mapRig view).queue.slots.take count)
      (run.mapRig view).rigState = _ :=
    Queue.viewed_submitEach mirrors (run.queue.slots.take count) run.rigState
  unfold fillFirst
  rw [filled]
  rfl

/-- The moments within the filling of a queue look the same through a mirror. -/
private theorem mapRig_atFilling (run : Run σ) :
    (run.mapRig view).atFilling? other = (run.atFilling? rig).map (mapRig view) := by
  have same : (run.mapRig view).stage = run.stage := rfl
  unfold atFilling?
  rw [same]
  cases run.stage with
  | filling =>
      have read : other.now (run.mapRig view).rigState = _ := mirrors.now run.rigState
      rw [read]
      rfl
  | waiting =>
      change (if run.meter.terminated || run.queue.inFlight ≠ 0 || !run.halted then _ else _) = _
      dsimp only
      split
      · rfl
      · have noted : (run.mapRig view).note other
            (.clearingHalt ((run.mapRig view).settings.endpoint (run.mapRig view).direction)) = _ :=
          mapRig_note mirrors run (.clearingHalt (run.settings.endpoint run.direction))
        have cleared : other.clearHalt
            ((run.mapRig view).settings.endpoint (run.mapRig view).direction)
            ((run.note rig
              (.clearingHalt (run.settings.endpoint run.direction))).mapRig view).rigState = _ :=
          mirrors.clearHalt (run.settings.endpoint run.direction) _
        rw [noted, cleared]
        rcases rig.clearHalt _ _ with ⟨_ | _, after⟩ <;> rfl
  | _ => rfl

omit mirrors in
private theorem mapRig_receive (completion : Completion) (run : Run σ) :
    (run.mapRig view).receive completion = (run.receive completion).mapRig view := by
  have same : (run.mapRig view).queue.slot? completion.slot = run.queue.slot? completion.slot := rfl
  unfold receive
  rw [same]
  cases run.queue.slot? completion.slot <;> rfl

/-- The moments of a step are the same, too. -/
theorem mapRig_moments (run : Run σ) :
    (run.mapRig view).moments other = (run.moments rig).map (Prod.map id (mapRig view)) := by
  have next : (run.mapRig view).next? = run.next? := rfl
  unfold moments
  rw [mapRig_atFilling mirrors, next, List.map_append, List.map_cons, List.map_flatMap,
    List.map_map]
  congr 2
  · cases run.atFilling? rig with
    | none => rfl
    | some begun =>
        simp only [Option.map_some, Option.toList_some, List.flatMap_singleton, List.map_map]
        refine List.map_congr_left fun count _ => ?_
        exact congrArg (Prod.mk []) (mapRig_fillFirst mirrors count begun)
  · funext completion
    exact congrArg (Prod.mk [completion])
      (mapRig_receive completion { run with arrivals := run.arrivals.tail })

end Run

namespace Benchmark

/-- Opening the device looks the same through a mirror. -/
theorem viewed_connect (mirrors : rig.Mirrors other view) (benchmark : Benchmark) (state : σ) :
    benchmark.connect other (view state) = viewed view (benchmark.connect rig state) := by
  unfold connect
  cases benchmark.settings.validate with
  | error error => rfl
  | ok _ => exact mirrors.connect benchmark.settings.target state

/-- A benchmark looks the same through a mirror at every step. -/
theorem mapRig_runAfter (mirrors : rig.Mirrors other view) (benchmark : Benchmark) (state : σ)
    (count : Nat) :
    benchmark.runAfter other (view state) count =
      (benchmark.runAfter rig state count).mapRig view := by
  have begun : benchmark.begin other (view (benchmark.connect rig state).2) = _ :=
    Run.mapRig_note mirrors
      (Run.begin benchmark.settings benchmark.direction (benchmark.connect rig state).2)
      (.moved .idle .deviceOpened)
  unfold runAfter
  rw [viewed_connect mirrors, viewed, begun, Run.mapRig_steps mirrors]
  rfl

/-- **A whole benchmark looks the same through a mirror**, in its outcome and in what it leaves. -/
theorem viewed_run (mirrors : rig.Mirrors other view) (benchmark : Benchmark) (limit : Nat)
    (state : σ) :
    benchmark.run other limit (view state) = viewed view (benchmark.run rig limit state) := by
  have ran := benchmark.mapRig_runAfter mirrors state limit
  unfold runAfter at ran
  unfold run
  rw [viewed_connect mirrors] at ran ⊢
  split
  · rfl
  · rcases connected : benchmark.connect rig state with ⟨_ | _, after⟩
    · rfl
    · rw [connected] at ran
      dsimp only [viewed] at ran ⊢
      rw [ran]
      rfl

end Benchmark

/-- A command does the same on rigs that answer alike to writes, too. -/
theorem Channel.viewed_send
    (note : ∀ notice state, other.note notice (view state) = view (rig.note notice state))
    (write : ∀ endpoint data timeout state, other.write endpoint data timeout (view state) =
      viewed view (rig.write endpoint data timeout state))
    (channel : Channel) (command : Command) (state : σ) :
    (channel.send other command (view state)).2 = view (channel.send rig command state).2 := by
  unfold send
  dsimp only
  rw [note, write]
  rcases rig.write _ _ _ _ with ⟨result, after⟩
  match result with
  | .ok 1 => rfl
  | .ok 0 => exact note _ after
  | .ok (_ + 2) => exact note _ after
  | .error error => exact note _ after

/-- A rig that keeps a journal answers as the rig below it. -/
theorem Rig.mirrors_journaled (rig : Rig σ) : rig.journaled.Mirrors rig Journal.state where
  connect _ _ := rfl
  submit _ _ := rfl
  cancel _ _ := rfl
  poll _ _ := rfl
  send := Channel.viewed_send (fun _ _ => rfl) fun _ _ _ _ => rfl
  clearHalt _ _ := rfl
  disconnect _ := rfl
  now _ := rfl
  note _ _ := rfl

/-- **Journals only watch.** A benchmark whose rig keeps a journal goes the way it goes without. -/
theorem Benchmark.runAfter_journaled (rig : Rig σ) (benchmark : Benchmark) (state : σ)
    (count : Nat) :
    benchmark.runAfter rig state count =
      (benchmark.runAfter rig.journaled { state } count).mapRig Journal.state :=
  benchmark.mapRig_runAfter rig.mirrors_journaled { state } count

/-! ## What every call keeps -/

/-- Every call on a rig keeps a property of its states. -/
structure Rig.Keeps (rig : Rig σ) (holds : σ → Prop) : Prop where
  connect : ∀ target state, holds state → holds (rig.connect target state).2
  submit : ∀ slot state, holds state → holds (rig.submit slot state).2
  cancel : ∀ slot state, holds state → holds (rig.cancel slot state).2
  poll : ∀ timeout state, holds state → holds (rig.poll timeout state).2
  write : ∀ endpoint data timeout state,
    holds state → holds (rig.write endpoint data timeout state).2
  clearHalt : ∀ endpoint state, holds state → holds (rig.clearHalt endpoint state).2
  disconnect : ∀ state, holds state → holds (rig.disconnect state)
  now : ∀ state, holds state → holds (rig.now state).2
  note : ∀ notice state, holds state → holds (rig.note notice state)

/-- A rig on those of its states that have a property which every call keeps. -/
def Rig.restrict {holds : σ → Prop} (rig : Rig σ) (keeps : rig.Keeps holds) :
    Rig { state // holds state } where
  connect target state :=
    ((rig.connect target state.1).1, ⟨_, keeps.connect target state.1 state.2⟩)
  submit slot state := ((rig.submit slot state.1).1, ⟨_, keeps.submit slot state.1 state.2⟩)
  cancel slot state := ((rig.cancel slot state.1).1, ⟨_, keeps.cancel slot state.1 state.2⟩)
  poll timeout state := ((rig.poll timeout state.1).1, ⟨_, keeps.poll timeout state.1 state.2⟩)
  write endpoint data timeout state :=
    ((rig.write endpoint data timeout state.1).1,
      ⟨_, keeps.write endpoint data timeout state.1 state.2⟩)
  clearHalt endpoint state :=
    ((rig.clearHalt endpoint state.1).1, ⟨_, keeps.clearHalt endpoint state.1 state.2⟩)
  disconnect state := ⟨_, keeps.disconnect state.1 state.2⟩
  now state := ((rig.now state.1).1, ⟨_, keeps.now state.1 state.2⟩)
  note notice state := ⟨_, keeps.note notice state.1 state.2⟩

/-- A rig that keeps a property is mirrored by its restriction to the states that have it. -/
theorem Rig.mirrors_restrict {holds : σ → Prop} (rig : Rig σ) (keeps : rig.Keeps holds) :
    (rig.restrict keeps).Mirrors rig Subtype.val where
  connect _ _ := rfl
  submit _ _ := rfl
  cancel _ _ := rfl
  poll _ _ := rfl
  send := Channel.viewed_send (fun _ _ => rfl) fun _ _ _ _ => rfl
  clearHalt _ _ := rfl
  disconnect _ := rfl
  now _ := rfl
  note _ _ := rfl

/-- What every call on a rig keeps, a benchmark keeps. -/
theorem Benchmark.keeps_runAfter {holds : σ → Prop} (keeps : rig.Keeps holds)
    (benchmark : Benchmark) (state : σ) (start : holds state) (count : Nat) :
    holds (benchmark.runAfter rig state count).rigState := by
  have restricted : benchmark.runAfter rig state count = _ :=
    benchmark.mapRig_runAfter (rig.mirrors_restrict keeps) ⟨state, start⟩ count
  rw [restricted]
  exact Subtype.property _

/-- What every call on a rig keeps also holds after a run, even one that never opens its device. -/
theorem Benchmark.keeps_run {holds : σ → Prop} (keeps : rig.Keeps holds) (benchmark : Benchmark)
    (limit : Nat) (state : σ) (start : holds state) :
    holds (benchmark.run rig limit state).2 := by
  unfold run
  split
  · exact start
  · have ran := benchmark.keeps_runAfter keeps state start limit
    unfold runAfter at ran
    have opened : holds (benchmark.connect rig state).2 := by
      unfold connect
      split
      · exact start
      · exact keeps.connect _ state start
    rcases reply : benchmark.connect rig state with ⟨_ | _, after⟩ <;> rw [reply] at opened ran
    · exact opened
    · exact ran

end UsbThroughput
