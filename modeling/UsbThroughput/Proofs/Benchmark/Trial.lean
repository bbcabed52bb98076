import UsbThroughput.Proofs.Benchmark.CallOrder
import UsbThroughput.Proofs.Benchmark.Refinement
import UsbThroughput.Proofs.Session.Visits
import UsbThroughput.Proofs.Session.Writes

/-!
# Trials

A trial is a benchmark that is to be run on a session of a stack. Whether its device can be opened,
its first fatal event and whether its queue was fully armed say all about the outcome: the exit
status that it asks for (`Trial.status?`) and the commands that it writes (`Trial.commands`).
-/

namespace UsbThroughput

/-- The error of a result, if it is one. -/
def errorOf? {ε α : Type} : Except ε α → Option ε
  | .ok _ => none
  | .error error => some error

namespace RigEvent

/-- Whether a call is a submission that the device took. -/
def isTaken : RigEvent → Bool
  | submitted _ (.ok ()) => true
  | _ => false

/-- Whether the first calls on a device are so many submissions that it took. -/
def arms (depth : Nat) (history : List RigEvent) : Bool :=
  let first := (deviceCalls history).take depth
  first.length == depth && first.all isTaken

private theorem isUpkeep_of_isPoll {call : RigEvent} (poll : call.isPoll = true) :
    call.isUpkeep = true := by
  cases call <;> first | rfl | contradiction

/-- What keeps a test going writes nothing. -/
theorem output_of_isUpkeep {calls : List RigEvent}
    (upkeep : ∀ call ∈ calls, call.isUpkeep = true) : output calls = [] := by
  apply output_of_silent
  intro call member
  have kind := upkeep call member
  cases call <;> first | rfl | contradiction

end RigEvent

/-- Slots are all taken, or one of them is refused. -/
theorem Fills.all_isTaken {slots next : List Slot} {calls : List RigEvent}
    {refusal : Option SubmissionError} (fills : Fills slots calls next refusal) :
    calls.all RigEvent.isTaken = refusal.isNone ∧ calls.length ≤ slots.length := by
  induction fills with
  | done => exact ⟨rfl, Nat.le_refl _⟩
  | refused => exact ⟨rfl, Nat.succ_le_succ (Nat.zero_le _)⟩
  | taken slot _ ih => exact ⟨ih.1, Nat.succ_le_succ ih.2⟩

/-- A queue is fully armed just if no slot was refused. -/
theorem Run.Arms.arms_eq {settings : Settings} {direction : Direction}
    {refusal : Option SubmissionError} {armed rest history : List RigEvent}
    (arms : Arms settings direction refusal armed)
    (begins : RigEvent.deviceCalls history = armed ++ rest) :
    RigEvent.arms (settings.queueDepth direction) history = refusal.isNone := by
  obtain ⟨slots, fills⟩ := arms.fills
  obtain ⟨taken, few⟩ := fills.all_isTaken
  have depth := Queue.depth_ofSettings settings direction
  rw [Queue.depth] at depth
  rw [depth] at few
  unfold RigEvent.arms
  rw [begins, List.take_append, List.take_of_length_le few]
  cases refusal with
  | none => simp [arms.whole rfl, taken]
  | some error => simp [taken]

/-- The commands of a test whose device was opened. -/
def Command.ofTest (direction : Direction) (armed : Bool) : List Command :=
  (if armed then [start direction] else []) ++ [stop]

namespace Benchmark

open RigEvent

variable {σ : Type} (rig : Rig σ) (benchmark : Benchmark) (state : σ)

/-- A journal does not change whether a device can be opened. -/
theorem connect_journaled :
    (benchmark.connect rig.journaled { state }).1 = (benchmark.connect rig state).1 :=
  (congrArg Prod.fst (benchmark.viewed_connect rig.mirrors_journaled { state })).symm

/-- The first fatal event is the failure of a benchmark that has ended. -/
theorem head_fatalities_of_ended {count : Nat} {verdict : Except Failure Report}
    (ended : (benchmark.runAfter rig.journaled { state } count).stage = .ended verdict) :
    (benchmark.fatalities rig state count).head? = errorOf? verdict := by
  obtain ⟨now, verdict_eq⟩ := benchmark.verdict_runAfter rig.journaled { state } ended
  rw [← failure_runAfter]
  cases verdict with
  | ok report => exact (Meter.finish_ok verdict_eq.symm).1
  | error failure => exact Meter.failure_of_finish verdict_eq.symm

/-- All that a benchmark passes on is the start command, if its queue was fully armed, and the
stop command. -/
theorem output_of_ended {count : Nat} {verdict : Except Failure Report}
    (ended : (benchmark.runAfter rig.journaled { state } count).stage = .ended verdict) :
    let history := (benchmark.runAfter rig.journaled { state } count).rigState.history
    let depth := benchmark.settings.queueDepth benchmark.direction
    output history =
      (Command.ofTest benchmark.direction (arms depth history)).map Command.byte := by
  intro history depth
  obtain ⟨refusal, armed, started, upkeep, recalled, awaited, answer, calls, fills, starts, keeps,
    recalls, awaits⟩ := (benchmark.callOrder_runAfter rig state count).of_ended ended
  have outward : Direction.ofAddress benchmark.settings.commandEndpoint = .outbound :=
    Direction.ofAddress_address ..
  have filling : output armed = [] := by
    obtain ⟨_, submits⟩ := fills.fills
    exact output_of_isUpkeep fun call member =>
      isUpkeep_of_isSubmission (submits.isSubmission call member)
  have recalling : output recalled = [] :=
    output_of_isUpkeep fun call member => isUpkeep_of_isCancellation (recalls call member)
  have awaiting : output awaited = [] :=
    output_of_isUpkeep fun call member => isUpkeep_of_isPoll (awaits call member)
  have stopped : output (Run.farewell benchmark.settings answer) = [Command.stop.byte] := by
    simp [Run.farewell, written, outward]
  have begins : deviceCalls history =
      armed ++ (started ++ upkeep ++ recalled ++ awaited ++
        Run.farewell benchmark.settings answer) := by
    rw [show deviceCalls history = _ from calls]
    simp only [List.append_assoc]
  rw [fills.arms_eq begins, ← output_deviceCalls, begins]
  simp only [output_append, filling, output_of_isUpkeep keeps, recalling, awaiting, stopped]
  cases refusal with
  | none =>
      obtain ⟨_, rfl⟩ := starts
      simp [written, outward, Command.ofTest]
  | some error =>
      obtain rfl := starts
      rfl

end Benchmark

/-- A benchmark that is to be run on a session of a stack, in so many steps at most. -/
structure Trial (β : Type) where
  stack : Stack β
  limit : Nat
  settings : Settings
  direction : Direction
  session : Session (Journal StackEvent β)

namespace Trial

variable {β : Type} (trial : Trial β)

/-- The benchmark before it is run. -/
def benchmark : Benchmark := { settings := trial.settings, direction := trial.direction }

/-- What comes of the run, with all calls on the session written down. -/
def ran : (Conclusion × Benchmark) × Watched β :=
  trial.benchmark.run trial.stack.watched trial.limit { state := trial.session }

/-- The run where it stopped, if the device was opened. -/
def final : Run (Watched β) :=
  trial.benchmark.runAfter trial.stack.watched { state := trial.session } trial.limit

/-- The session after the run. -/
def last : Session (Journal StackEvent β) := trial.ran.2.state

/-- Whether the test came to its report. -/
def Reported : Prop := trial.ran.1.2.phase = .reported

instance : Decidable trial.Reported := inferInstanceAs (Decidable (_ = _))

/-- What comes of the setup: the settings are checked, and the device is opened and claimed. -/
def setup : Except SetupError Unit :=
  (trial.benchmark.connect (Session.rig trial.stack.journaled) trial.session).1

/-- The class of the first fatal event. -/
def failure? : Option Failure :=
  (trial.benchmark.fatalities (Session.rig trial.stack.journaled) trial.session trial.limit).head?

/-- Whether the device took every slot of the queue when the test began. -/
def armed : Bool :=
  RigEvent.arms (trial.settings.queueDepth trial.direction) trial.ran.2.history

/-- The exit status that the test asks for, unless all goes well: that of a failed setup, or that
of the first fatal event. -/
def status? : Option UInt8 :=
  match trial.setup with
  | .error _ => some Failure.error.exitCode
  | .ok () => trial.failure?.map Failure.exitCode

/-- The commands that the test writes: none if its setup fails, and otherwise the start command if
the queue was fully armed, and the stop command. -/
def commands : List Command :=
  match trial.setup with
  | .error _ => []
  | .ok () => Command.ofTest trial.direction trial.armed

/-- How many completions were handed over. -/
def handed : Nat := (RigEvent.delivered trial.ran.2.history).length

variable {trial} {result : Except TestError Report}

private theorem ran_of_refused {error : SetupError} (refused : trial.setup = .error error) :
    trial.ran = ((.finished (.error (.setup error)), { trial.benchmark with phase := .failed }),
      (trial.benchmark.connect trial.stack.watched { state := trial.session }).2) :=
  trial.benchmark.run_of_refused _ rfl ((trial.benchmark.connect_journaled _ _).trans refused)

/-- A trial that opened its device runs to its end. -/
private theorem ran_of_opened (opened : trial.setup = .ok ()) :
    trial.ran = (trial.benchmark.conclude trial.final.stage, trial.final.rigState) :=
  trial.benchmark.run_of_connected _ rfl ((trial.benchmark.connect_journaled _ _).trans opened)

/-- A trial that finishes on an open device has ended its run. -/
theorem ended_of_finished (opened : trial.setup = .ok ())
    (finished : trial.ran.1.1 = .finished result) :
    ∃ verdict, trial.final.stage = .ended verdict ∧
      trial.ran = (trial.benchmark.conclude (.ended verdict), trial.final.rigState) := by
  have ran := ran_of_opened opened
  have whole : trial.ran = ((.finished result, trial.ran.1.2), trial.ran.2) := by
    rw [← finished]
  obtain ⟨⟨verdict, ended⟩, _⟩ := trial.benchmark.ended_of_finished trial.stack.watched _ rfl
    ((trial.benchmark.connect_journaled _ _).trans opened) whole
  change trial.final.stage = _ at ended
  rw [ended] at ran
  exact ⟨verdict, ended, ran⟩

/-- **The exit status that a test asks for** is that of its result. -/
theorem status_of_finished (finished : trial.ran.1.1 = .finished result) :
    trial.status? = (errorOf? result).map TestError.exitCode ∧
      (trial.Reported ↔ trial.status? = none) := by
  unfold status? Reported
  cases opened : trial.setup with
  | error error =>
      rw [ran_of_refused opened] at finished ⊢
      cases finished
      exact ⟨rfl, nofun, nofun⟩
  | ok _ =>
      obtain ⟨verdict, ended, ran⟩ := ended_of_finished opened finished
      have first : trial.failure? = _ := trial.benchmark.head_fatalities_of_ended _ _ ended
      rw [ran] at finished ⊢
      rw [first]
      cases verdict with
      | ok report =>
          cases finished
          exact ⟨rfl, fun _ => rfl, fun _ => rfl⟩
      | error failure =>
          cases finished
          exact ⟨rfl, nofun, nofun⟩

/-- No failure asks for the exit status of a success. -/
theorem ne_zero_of_status {code : UInt8} (asked : trial.status? = some code) : code ≠ 0 := by
  unfold status? at asked
  split at asked
  · cases asked
    decide
  · obtain ⟨failure, _, rfl⟩ := Option.map_eq_some_iff.mp asked
    cases failure <;> decide

/-- **The bytes that a test writes** are those of its commands. -/
theorem output_of_finished (finished : trial.ran.1.1 = .finished result) :
    StackEvent.output trial.last.stackState.history =
      StackEvent.output trial.session.stackState.history ++ trial.commands.map Command.byte := by
  have start : Session.Relays (StackEvent.output trial.session.stackState.history)
      ({ state := trial.session } : Watched β) := (List.append_nil _).symm
  have relays : StackEvent.output trial.last.stackState.history = _ :=
    trial.benchmark.keeps_run (Session.keeps_relays trial.stack _) trial.limit _ start
  rw [relays]
  unfold commands
  cases opened : trial.setup with
  | error error =>
      have ran := congrArg (fun ran => RigEvent.output ran.2.history) (ran_of_refused opened)
      refine congrArg _ (ran.trans ?_)
      unfold Benchmark.connect
      cases trial.benchmark.settings.validate with
      | error _ => rfl
      | ok _ => rfl
  | ok _ =>
      obtain ⟨verdict, ended, ran⟩ := ended_of_finished opened finished
      have outputs := trial.benchmark.output_of_ended (Session.rig trial.stack.journaled)
        trial.session ended
      unfold armed
      rw [ran]
      refine congrArg _ (Eq.trans ?_ outputs)
      exact congrArg (fun ran => RigEvent.output ran.2.history) ran

/-- A trial that reported something had opened its device. -/
theorem opened_of_reported (reported : trial.Reported) : trial.setup = .ok () := by
  cases setup : trial.setup with
  | error error =>
      unfold Reported at reported
      rw [ran_of_refused setup] at reported
      contradiction
  | ok _ => rfl

/-- On an open device, the closing of the device comes last. -/
theorem closed_of_finished (opened : trial.setup = .ok ())
    (finished : trial.ran.1.1 = .finished result) :
    ∃ before, trial.last.stackState.history = before ++ [.closed] := by
  obtain ⟨verdict, ended, ran⟩ := ended_of_finished opened finished
  have nothing : trial.stack.watched.Sustains fun _ => True := by constructor <;> intros <;> trivial
  obtain ⟨parting, _, closed⟩ :=
    trial.benchmark.parting_sustained nothing trivial (congrArg Stage.isOver ended)
  change trial.final.rigState = _ at closed
  unfold last
  rw [ran, closed]
  exact ⟨_, trial.stack.history_close _⟩

/-- A trial is broken off only if more completions were handed over than can be counted, unless the
total of bytes may overflow. -/
theorem le_handed_of_broken {fault : Fault}
    (fits : trial.settings.dataSize + trial.settings.transferLength trial.direction ≤
      Meter.capacity)
    (broken : trial.ran.1.1 = .broken fault) : UInt64.size ≤ trial.handed := by
  cases setup : trial.setup with
  | error error =>
      rw [ran_of_refused setup] at broken
      contradiction
  | ok _ =>
      rw [ran_of_opened setup] at broken
      have stage : trial.final.stage = .broken fault := by
        generalize trial.final.stage = stage at broken
        cases stage with
        | broken _ =>
            cases broken
            rfl
        | ended verdict => cases verdict <;> contradiction
        | _ => contradiction
      obtain ⟨_, _, bytes, worth, few, sooner, overflow⟩ :=
        trial.benchmark.overflow_of_broken (Session.rig trial.stack.journaled) trial.session stage
      have room := (Nat.add_le_add few (Settings.le_of_worth? worth)).trans fits
      have full := overflow.resolve_left (Nat.not_lt.mpr room)
      unfold handed
      rw [ran_of_opened setup]
      exact (Nat.succ_le_succ (Nat.le_of_lt_succ full)).trans sooner

end Trial

end UsbThroughput
