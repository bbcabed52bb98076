import UsbThroughput.Proofs.Slot.Make
import UsbThroughput.Run.Step

/-!
# What a step can do

A step of a run is a sequence of elementary changes: a call on the rig, a change to one slot, the
arrival of a completion, or bookkeeping that touches neither slots nor arrivals (`Run.Move`). That
every step decomposes in this way is said once, in `Run.reaches_step`. Whatever each elementary
change keeps, every step keeps; and it holds in the middle of a step as well.

Two things are not elementary changes. The step that abandons slots is `Run.abandonQueue`, and the
device is closed at the end of a run (`Run.shut`).
-/

namespace UsbThroughput.Run

variable {σ : Type}

/-- Applies a completion to its slot, if the queue has that slot. -/
def receive (completion : Completion) (run : Run σ) : Run σ :=
  match run.queue.slot? completion.slot with
  | none => run
  | some slot => run.putSlot completion.slot (slot.complete completion.status completion.length)

/-- A completion of a slot of the queue completes that slot. -/
theorem receive_of_held {run : Run σ} {completion : Completion} {slot : Slot}
    (held : run.queue.slot? completion.slot = some slot) :
    run.receive completion =
      run.putSlot completion.slot (slot.complete completion.status completion.length) := by
  simp only [receive, held]

/-- A run after a completion was applied: the slot is out of flight, if there is one. -/
theorem receive_cases (run : Run σ) (completion : Completion) :
    (run.queue.slot? completion.slot = none ∧ run.receive completion = run) ∨
      ∃ slot, run.queue.slot? completion.slot = some slot ∧
        run.receive completion =
          run.putSlot completion.slot (slot.complete completion.status completion.length) := by
  unfold receive
  cases held : run.queue.slot? completion.slot with
  | none => exact Or.inl ⟨rfl, rfl⟩
  | some slot => exact Or.inr ⟨slot, rfl, rfl⟩

/-- Applying a completion changes nothing but the queue. -/
theorem receive_eq (run : Run σ) (completion : Completion) :
    run.receive completion = { run with queue := (run.receive completion).queue } := by
  rcases receive_cases run completion with ⟨_, same⟩ | ⟨_, _, same⟩
  · rw [same]
  · rw [same]
    rfl

@[simp] theorem rigState_receive (run : Run σ) (completion : Completion) :
    (run.receive completion).rigState = run.rigState := by
  rw [receive_eq]

@[simp] theorem meter_receive (run : Run σ) (completion : Completion) :
    (run.receive completion).meter = run.meter := by
  rw [receive_eq]

@[simp] theorem arrivals_receive (run : Run σ) (completion : Completion) :
    (run.receive completion).arrivals = run.arrivals := by
  rw [receive_eq]

@[simp] theorem halted_receive (run : Run σ) (completion : Completion) :
    (run.receive completion).halted = run.halted := by
  rw [receive_eq]

@[simp] theorem settings_receive (run : Run σ) (completion : Completion) :
    (run.receive completion).settings = run.settings := by
  rw [receive_eq]

@[simp] theorem recoveries_receive (run : Run σ) (completion : Completion) :
    (run.receive completion).recoveries = run.recoveries := by
  rw [receive_eq]

theorem channel_receive (run : Run σ) (completion : Completion) :
    (run.receive completion).channel = run.channel := by
  rw [receive_eq]

theorem stage_receive (run : Run σ) (completion : Completion) :
    (run.receive completion).stage = run.stage := by
  rw [receive_eq]

/-- The completion that the next step of a run takes up. -/
def next? (run : Run σ) : Option Completion :=
  match run.stage with
  | .handling | .settling _ => run.arrivals.head?
  | _ => none

variable (rig : Rig σ)

/-- Closes the device, at the end of a run. -/
def shut (stage : Stage) (run : Run σ) : Run σ :=
  { run with rigState := rig.disconnect run.rigState, stage }

/-- Which elementary changes there may be. -/
inductive Scope where
  /-- Only those that neither submit a slot, nor wait for completions, nor clear a halt. -/
  | quiet
  | any

variable (scope : Scope)

/-- An elementary change of a run, with the completions that it takes up. -/
inductive Move : Run σ → List Completion → Run σ → Prop where
  | note (run : Run σ) (notice : Notice) : Move run [] (run.note rig notice)
  | now (run : Run σ) : Move run [] { run with rigState := (rig.now run.rigState).2 }
  | write (run : Run σ) (endpoint : UInt8) (data : List UInt8) (timeout : Duration) :
      Move run [] { run with rigState := (rig.write endpoint data timeout run.rigState).2 }
  /-- The halt of an endpoint is cleared only when nothing is in flight. -/
  | clearHalt (run : Run σ) (endpoint : UInt8) (empty : run.queue.inFlight = 0)
      (loud : scope = .any) :
      Move run [] { run with rigState := (rig.clearHalt endpoint run.rigState).2 }
  | poll (run : Run σ) (timeout : Duration) (loud : scope = .any) :
      Move run []
        { run with
          rigState := (rig.poll timeout run.rigState).2
          arrivals := run.arrivals ++ (rig.poll timeout run.rigState).1.delivered }
  | take (run : Run σ) (completion : Completion) (rest : List Completion)
      (waiting : run.arrivals = completion :: rest) :
      Move run [completion] ({ run with arrivals := rest }.receive completion)
  | submit (run : Run σ) (id : Nat) (slot : Slot) (held : run.queue.slot? id = some slot)
      (free : slot.isSubmitted = false) (loud : scope = .any) :
      Move run []
        ({ run with rigState := (slot.submit rig run.rigState).2 }.putSlot id
          (slot.submit rig run.rigState).1.2)
  | cancel (run : Run σ) (id : Nat) (slot : Slot) (held : run.queue.slot? id = some slot)
      (flying : slot.isSubmitted = true) (unasked : slot.cancelRequested = false) :
      Move run []
        ({ run with rigState := (rig.cancel slot.requestCancel run.rigState).2 }.putSlot id
          slot.requestCancel)
  | setAside (run : Run σ) (id : Nat) (slot : Slot) (held : run.queue.slot? id = some slot)
      (free : slot.isSubmitted = false) :
      Move run [] (run.putSlot id slot.setAside)
  /-- Bookkeeping. -/
  | tend (run : Run σ) (meter : Meter) (channel : Channel) (recoveries : Nat) (halted : Bool)
      (stage : Stage) :
      Move run [] { run with meter, channel, recoveries, halted, stage }

/-- A sequence of elementary changes, with the completions that they take up, in order. -/
inductive Path (start : Run σ) : List Completion → Run σ → Prop where
  | refl : Path start [] start
  | step {taken next : List Completion} {run last : Run σ} (path : Path start taken run)
      (move : Move rig scope run next last) : Path start (taken ++ next) last

/-- What a run comes to: another run, or one that has been shut. -/
inductive Reaches (start : Run σ) (taken : List Completion) : Run σ → Prop where
  | on {last : Run σ} (path : Path rig .any start taken last) : Reaches start taken last
  | stopped {last : Run σ} (path : Path rig .any start taken last) (stage : Stage)
      (done : stage.isOver = true) : Reaches start taken (last.shut rig stage)

variable {rig scope}

namespace Path

variable {start middle last : Run σ} {first second : List Completion}

theorem of_move (move : Move rig scope start first last) : Path rig scope start first last :=
  .step .refl move

/-- A path that goes on along another. -/
theorem trans (before : Path rig scope start first middle)
    (after : Path rig scope middle second last) :
    Path rig scope start (first ++ second) last := by
  induction after with
  | refl =>
      rw [List.append_nil]
      exact before
  | step _ move ih =>
      rw [← List.append_assoc]
      exact ih.step move

/-- A path and one more move without a completion. -/
theorem then_move (path : Path rig scope start first middle)
    (move : Move rig scope middle [] last) :
    Path rig scope start first last := by
  rw [← List.append_nil first]
  exact path.step move

/-- A path and one more without a completion. -/
theorem then_path (path : Path rig scope start first middle)
    (after : Path rig scope middle [] last) :
    Path rig scope start first last := by
  rw [← List.append_nil first]
  exact path.trans after

/-- A path to a run that reaches its end. -/
theorem reaches (before : Path rig .any start first middle)
    (after : Reaches rig middle second last) : Reaches rig start (first ++ second) last := by
  cases after with
  | on path => exact .on (before.trans path)
  | stopped path stage done => exact .stopped (before.trans path) stage done

end Path

/-- A run that is not over was not shut. -/
theorem Reaches.path {start last : Run σ} {taken : List Completion}
    (reached : Reaches rig start taken last) (going : last.stage.isOver = false) :
    Path rig .any start taken last := by
  cases reached with
  | on path => exact path
  | stopped _ stage done =>
      rw [shut, done] at going
      contradiction

/-! ## Bookkeeping and calls -/

theorem path_note (run : Run σ) (notice : Notice) : Path rig scope run [] (run.note rig notice) :=
  .of_move (.note run notice)

theorem path_goTo (run : Run σ) (stage : Stage) : Path rig scope run [] (run.goTo stage) :=
  .of_move (.tend run run.meter run.channel run.recoveries run.halted stage)

theorem path_fail (run : Run σ) (failure : Failure) :
    Path rig scope run [] (run.fail rig failure) :=
  (Path.of_move (.now run)).then_move
    (.tend _ (run.meter.fail (rig.now run.rigState).1 failure) run.channel run.recoveries
      run.halted run.stage)

/-- Sending a command writes a byte and notes what came of it. -/
theorem path_send (run : Run σ) (channel : Channel) (command : Command) :
    Path rig scope run [] { run with rigState := (channel.send rig command run.rigState).2 } := by
  have noted : Path rig scope run [] _ := path_note run (.sending command channel.endpoint)
  have written := noted.then_move (.write _ channel.endpoint [command.byte] channel.timeout)
  rcases answer : rig.write channel.endpoint [command.byte] channel.timeout
      (rig.note (.sending command channel.endpoint) run.rigState) with ⟨result, state⟩
  rw [note, answer] at written
  unfold Channel.send
  dsimp only
  rw [answer]
  match result with
  | .ok 1 => exact written
  | .ok 0 => exact written.then_move (.note _ (.notAccepted command))
  | .ok (_ + 2) => exact written.then_move (.note _ (.notAccepted command))
  | .error error => exact written.then_move (.note _ (.sendFailed command error))

/-! ## Work on one slot -/

theorem slot?_putSlot {run : Run σ} {id : Nat} {slot : Slot}
    (held : run.queue.slot? id = some slot) (next : Slot) :
    (run.putSlot id next).queue.slot? id = some next :=
  List.getElem?_set_self (List.getElem?_eq_some_iff.mp held).1

theorem putSlot_self {run : Run σ} {id : Nat} {slot : Slot}
    (held : run.queue.slot? id = some slot) : run.putSlot id slot = run := by
  obtain ⟨inside, rfl⟩ := List.getElem?_eq_some_iff.mp held
  rw [putSlot, Queue.replace, List.set_getElem_self]

/-- Submitting a slot is one move at most. -/
private theorem path_submit {run : Run σ} {id : Nat} {slot : Slot}
    (held : run.queue.slot? id = some slot) :
    Path rig .any run []
      ({ run with rigState := (slot.submit rig run.rigState).2 }.putSlot id
        (slot.submit rig run.rigState).1.2) := by
  cases flight : slot.isSubmitted with
  | true =>
      rw [Slot.submit_of_isSubmitted rig flight]
      change Path rig .any run [] (run.putSlot id slot)
      rw [putSlot_self held]
      exact .refl
  | false => exact .of_move (.submit run id slot held flight rfl)

/-- Cancelling a slot is one move at most. -/
private theorem path_cancelSlot {run : Run σ} {id : Nat} {slot : Slot}
    (held : run.queue.slot? id = some slot) :
    Path rig scope run []
      ({ run with rigState := (slot.cancel rig run.rigState).2 }.putSlot id
        (slot.cancel rig run.rigState).1) := by
  rcases Slot.cancel_cases rig slot run.rigState with
    ⟨_, same⟩ | ⟨flying, unasked, _, same⟩ | ⟨flying, unasked, error, _, same⟩
  · rw [same]
    change Path rig scope run [] (run.putSlot id slot)
    rw [putSlot_self held]
    exact .refl
  · rw [same]
    exact .of_move (.cancel run id slot held flying unasked)
  · rw [same]
    exact (Path.of_move (.cancel run id slot held flying unasked)).then_move
      (.note _ (.cancelFailed slot.id error))

/-! ## Work on the whole queue -/

/-- The run with other slots and another state of the rig. -/
def withSlots (slots : List Slot) (rigState : σ) (run : Run σ) : Run σ :=
  { run with queue := { run.queue with slots }, rigState }

theorem withSlots_self {run : Run σ} {slots : List Slot} (same : run.queue.slots = slots) :
    run.withSlots slots run.rigState = run := by
  subst same
  rfl

/-- A slot between others is put back between them. -/
theorem putSlot_between {run : Run σ} {before after : List Slot} {slot : Slot}
    (split : run.queue.slots = before ++ slot :: after) (next : Slot) (rigState : σ) :
    { run with rigState }.putSlot before.length next =
      run.withSlots (before ++ next :: after) rigState := by
  simp only [putSlot, Queue.replace, withSlots, split, List.set_append_right _ _ (Nat.le_refl _),
    Nat.sub_self, List.set_cons_zero]

theorem slot?_between {run : Run σ} {before after : List Slot} {slot : Slot}
    (split : run.queue.slots = before ++ slot :: after) :
    run.queue.slot? before.length = some slot := by
  rw [Queue.slot?, split, List.getElem?_append_right (Nat.le_refl _), Nat.sub_self]
  rfl

/-- Slots between others are submitted one after the other, up to the first that is refused. -/
theorem path_submitEach (slots : List Slot) (before after : List Slot) (run : Run σ)
    (split : run.queue.slots = before ++ (slots ++ after)) :
    Path rig .any run []
      (run.withSlots (before ++ ((Queue.submitEach rig slots run.rigState).1.2 ++ after))
        (Queue.submitEach rig slots run.rigState).2) := by
  induction slots generalizing before run with
  | nil =>
      rw [Queue.submitEach, withSlots_self split]
      exact .refl
  | cons slot slots ih =>
      have moved : Path rig .any _ [] _ := path_submit (slot?_between split)
      rw [putSlot_between split] at moved
      rcases answer : slot.submit rig run.rigState with ⟨⟨result, next⟩, state⟩
      rw [answer] at moved
      cases result with
      | error refusal =>
          simp only [Queue.submitEach, answer]
          exact moved
      | ok _ =>
          have resplit : (run.withSlots (before ++ next :: (slots ++ after)) state).queue.slots =
              (before ++ [next]) ++ (slots ++ after) := by
            rw [List.append_assoc]
            rfl
          have rest := ih (before ++ [next]) _ resplit
          rw [List.append_assoc] at rest
          simp only [Queue.submitEach, answer]
          exact moved.then_path rest

/-- Slots after others are cancelled one after the other, from the last to the first. -/
theorem path_cancelEach (slots before : List Slot) (run : Run σ)
    (split : run.queue.slots = before ++ slots) :
    Path rig scope run []
      (run.withSlots (before ++ (Queue.cancelEach rig slots run.rigState).1)
        (Queue.cancelEach rig slots run.rigState).2) := by
  induction slots generalizing before with
  | nil =>
      rw [Queue.cancelEach, withSlots_self split]
      exact .refl
  | cons slot slots ih =>
      have rest := ih (before ++ [slot]) (by rw [split, List.append_assoc]; rfl)
      rw [List.append_assoc] at rest
      rcases answer : Queue.cancelEach rig slots run.rigState with ⟨others, state⟩
      rw [answer] at rest
      have resplit : (run.withSlots (before ++ slot :: others) state).queue.slots =
          before ++ slot :: others := rfl
      have moved : Path rig scope _ [] _ := path_cancelSlot (slot?_between resplit)
      rw [putSlot_between resplit] at moved
      simp only [Queue.cancelEach, answer]
      exact rest.then_path moved

theorem path_cancel (run : Run σ) :
    Path rig scope run []
      { run with
        queue := (run.queue.cancel rig run.rigState).1
        rigState := (run.queue.cancel rig run.rigState).2 } :=
  path_cancelEach run.queue.slots [] run rfl

/-- The queue after a submission that stopped after some slots. -/
def fillFirst (rig : Rig σ) (count : Nat) (run : Run σ) : Run σ :=
  let filled := Queue.submitEach rig (run.queue.slots.take count) run.rigState
  run.withSlots (filled.1.2 ++ run.queue.slots.drop count) filled.2

theorem path_fillFirst (count : Nat) (run : Run σ) :
    Path rig .any run [] (run.fillFirst rig count) :=
  path_submitEach (run.queue.slots.take count) [] (run.queue.slots.drop count) run
    (List.take_append_drop count run.queue.slots).symm

/-- After an attempt at submission the run goes on, or it is broken off. -/
theorem reaches_afterSubmission (result : Except Refusal Unit) (next : Stage) (run : Run σ) :
    Reaches rig run [] (run.afterSubmission rig result next) := by
  match result with
  | .ok () => exact .on (path_goTo run next)
  | .error (.rejected error) =>
      exact .on (((path_note run _).then_path (path_fail _ _)).then_path (path_goTo _ next))
  | .error (.inFlight slot) => exact .stopped .refl (.broken (.slotInFlight slot)) rfl

private theorem reaches_fillQueue (next : Stage) (run : Run σ) :
    Reaches rig run [] (run.fillQueue rig next) := by
  have filled : Path rig .any run [] _ :=
    path_submitEach run.queue.slots [] [] run (List.append_nil _).symm
  rw [List.append_nil] at filled
  exact filled.reaches (reaches_afterSubmission _ next _)

/-! ## The steps before the decision to end the test -/

private theorem path_meter (run : Run σ) (meter : Meter) : Path rig scope run []
    { run with meter } :=
  .of_move (.tend run meter run.channel run.recoveries run.halted run.stage)

private theorem reaches_fill (run : Run σ) : Reaches rig run [] (run.fill rig) :=
  ((Path.of_move (.now run)).then_path
    (path_meter _ (run.meter.start (rig.now run.rigState).1))).reaches
      (reaches_fillQueue .starting _)

/-- Sending the start command leaves the slots alone. -/
theorem path_sendStart (run : Run σ) : Path rig scope run [] (run.sendStart rig) := by
  have noted : Path rig scope run [] _ := path_note run (.moved .deviceOpened .queueArmed)
  unfold sendStart
  dsimp only
  split
  · exact (noted.then_path (path_note _ _)).then_path (path_goTo _ _)
  · exact ((noted.then_path (path_send _ _ _)).then_path (path_note _ _)).then_path
      (path_goTo _ _)

private theorem reaches_recover (run : Run σ) (empty : run.queue.inFlight = 0) :
    Reaches rig run [] (run.recover rig) := by
  have noted : Path rig .any run [] _ :=
    path_note run (.clearingHalt (run.settings.endpoint run.direction))
  have cleared := noted.then_move
    (.clearHalt _ (run.settings.endpoint run.direction) empty rfl)
  rcases answer : rig.clearHalt (run.settings.endpoint run.direction)
      (rig.note (.clearingHalt (run.settings.endpoint run.direction)) run.rigState) with
    ⟨result, state⟩
  rw [note, answer] at cleared
  unfold recover
  dsimp only [note]
  rw [answer]
  match result with
  | .ok () =>
      exact (cleared.then_move (.tend _ run.meter run.channel run.recoveries false run.stage)).reaches
        (reaches_fillQueue .waiting _)
  | .error error =>
      exact .on ((cleared.then_path (path_note _ _)).then_path (path_fail _ _))

private theorem path_poll (run : Run σ) : Path rig .any run [] (run.poll rig) := by
  have polled : Path rig .any run [] _ := .of_move (.poll run run.settings.eventTimeout rfl)
  unfold poll
  dsimp only
  split
  · exact polled.then_path (path_goTo _ _)
  · exact polled.then_path (path_goTo _ _)
  · exact ((polled.then_path (path_note _ _)).then_path (path_fail _ _)).then_path
      (path_goTo _ _)

private theorem reaches_wait (run : Run σ) : Reaches rig run [] (run.wait rig) := by
  unfold wait
  split
  · exact .on (path_goTo _ _)
  · split
    next empty =>
      split
      · exact reaches_recover run empty
      · exact .on (((path_note _ _).then_path (path_fail _ _)).then_path (path_goTo _ _))
    next => exact .on (path_poll run)

private theorem reaches_onCompleted {run : Run σ} {id : Nat} {slot : Slot}
    (held : run.queue.slot? id = some slot) :
    Reaches rig run [] (run.onCompleted rig id slot) := by
  have read : Path rig .any run [] _ := .of_move (.now run)
  unfold onCompleted
  dsimp only
  split
  next => exact read.reaches (.stopped .refl (.broken .countOverflow) rfl)
  next meter _ =>
    have counted := (read.then_path (path_meter _ meter)).then_path
      (path_note _ (.completed id slot.moved meter.bytesTotal))
    split
    · exact .on (counted.then_path (path_note _ _))
    · split
      · exact .on counted
      · exact (counted.then_path (path_submit held)).reaches
          (reaches_afterSubmission _ .handling _)

private theorem path_onHalt (run : Run σ) (maxAttempts id : Nat) :
    Path rig scope run [] (run.onHalt rig maxAttempts id) := by
  unfold onHalt
  split
  · exact path_note _ _
  · split
    · exact (path_note _ _).then_path (path_fail _ _)
    · have begun : Path rig scope run [] _ :=
        .of_move (.tend run run.meter run.channel (run.recoveries + 1) true run.stage)
      exact (begun.then_path (path_note _ _)).then_path (path_cancel _)

private theorem path_onStall {run : Run σ} {id : Nat} {slot : Slot}
    (held : run.queue.slot? id = some slot) (free : slot.isSubmitted = false) :
    Path rig scope run [] (run.onStall rig id slot) := by
  unfold onStall
  split
  · exact (path_note _ _).then_move (.setAside _ id slot held free)
  · exact (Path.of_move (.setAside run id slot held free)).then_path (path_onHalt _ _ _)

private theorem path_onFailed (run : Run σ) (id : Nat) (status : TransferStatus) :
    Path rig scope run [] (run.onFailed rig id status) := by
  unfold onFailed
  split
  · exact path_note _ _
  · dsimp only
    split
    · exact (path_note _ _).then_path (path_fail _ _)
    · exact path_note _ _

/-- Acting on a completion begins with applying it to its slot. -/
theorem reaches_handle (run : Run σ) (completion : Completion) :
    Reaches rig (run.receive completion) [] (run.handle rig completion) := by
  unfold handle receive
  dsimp only
  cases held : run.queue.slot? completion.slot with
  | none => exact .on (path_note _ _)
  | some slot =>
      have put := slot?_putSlot held (slot.complete completion.status completion.length)
      have free := slot.isSubmitted_complete completion.status completion.length
      dsimp only
      split
      · exact .on (path_note _ _)
      · split
        · exact reaches_onCompleted put
        · exact .on (path_onStall put free)
        · exact .on (path_onFailed _ _ _)

private theorem reaches_handleNext (run : Run σ) :
    Reaches rig run run.arrivals.head?.toList (run.handleNext rig) := by
  unfold handleNext
  split
  next none =>
    rw [none]
    exact .on (path_goTo _ _)
  next completion rest waiting =>
    rw [waiting]
    exact (Path.of_move (.take run completion rest waiting)).reaches (reaches_handle _ completion)

/-! ## The steps after it -/

/-- Cancelling the queue goes from slot to slot. -/
theorem path_cancelQueue (run : Run σ) : Path rig scope run [] (run.cancelQueue rig) := by
  have noted : Path rig scope run [] _ := path_note run (.moved .running .draining)
  exact (((noted.then_path (path_cancel _)).then_path (path_note _ _)).then_move (.now _)).then_path
    (path_goTo _ _)

private theorem path_drain (run : Run σ) (deadline : Duration) :
    Path rig .any run [] (run.drain rig deadline) := by
  unfold drain
  split
  · exact path_goTo _ _
  · have read : Path rig .any run [] _ := .of_move (.now run)
    dsimp only
    split
    · exact read.then_path (path_goTo _ _)
    · have polled := read.then_move (.poll _
        ((deadline.since (rig.now run.rigState).1).min run.settings.eventTimeout) rfl)
      split
      · exact polled.then_path (path_goTo _ _)
      · exact polled.then_path (path_goTo _ _)
      · exact (polled.then_path (path_note _ _)).then_path (path_goTo _ _)

/-- Winding up takes up the next completion, if there is one. -/
theorem path_settle (run : Run σ) (deadline : Duration) :
    Path rig scope run run.arrivals.head?.toList (run.settle rig deadline) := by
  unfold settle
  split
  next none =>
    rw [none]
    exact path_goTo _ _
  next completion rest waiting =>
    rw [waiting]
    exact (Path.of_move (.take run completion rest waiting)).then_path (path_note _ _)

theorem path_sendStop (run : Run σ) : Path rig scope run [] (run.sendStop rig) := by
  unfold sendStop Channel.stop
  cases sent : run.channel.stopSent with
  | true => exact .refl
  | false =>
      exact (path_send run { run.channel with stopSent := true } .stop).then_move
        (.tend _ run.meter { run.channel with stopSent := true } run.recoveries run.halted
          run.stage)

/-- At the end a run makes some more changes, all of them quiet, and is shut. -/
theorem close_eq_shut (run : Run σ) :
    ∃ last stage, Path rig scope run [] last ∧ stage.isOver = true ∧
      run.close rig = last.shut rig stage := by
  have read : Path rig scope run [] _ := .of_move (.now run)
  unfold close
  dsimp only
  split
  next report _ =>
    have stopped := (read.then_path (path_note _ (.report report))).then_path (path_sendStop _)
    have noted := stopped.then_path (path_note _ (.moved .draining .reported))
    exact ⟨_, _, noted, rfl, rfl⟩
  next =>
    have stopped := read.then_path (path_sendStop _)
    have noted := stopped.then_path (path_note _ (.moved .draining .failed))
    exact ⟨_, _, noted, rfl, rfl⟩

private theorem reaches_close (run : Run σ) : Reaches rig run [] (run.close rig) := by
  obtain ⟨last, stage, path, done, same⟩ : ∃ last stage, Path rig .any run [] last ∧ _ :=
    close_eq_shut run
  rw [same]
  exact .stopped path stage done

/-- **What a step can do.** Every step but the one that abandons slots is a sequence of elementary
changes, after which the run may be over. -/
theorem reaches_step (run : Run σ) (kept : run.stage ≠ .abandoning) :
    Reaches rig run run.next?.toList (run.step rig) := by
  unfold step next?
  cases stage : run.stage with
  | filling => exact reaches_fill run
  | starting => exact .on (path_sendStart run)
  | waiting => exact reaches_wait run
  | handling => exact reaches_handleNext run
  | cancelling => exact .on (path_cancelQueue run)
  | draining deadline => exact .on (path_drain run deadline)
  | settling deadline => exact .on (path_settle run deadline)
  | abandoning => exact (kept stage).elim
  | closing => exact reaches_close run
  | ended _ => exact .on .refl
  | broken _ => exact .on .refl

end UsbThroughput.Run
