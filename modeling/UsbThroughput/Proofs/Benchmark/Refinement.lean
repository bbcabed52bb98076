import UsbThroughput.Proofs.Benchmark.CallOrder
import UsbThroughput.Proofs.Benchmark.Recovery
import UsbThroughput.Proofs.Run.Lockstep
import UsbThroughput.Proofs.Script.Faithful
import UsbThroughput.Proofs.Script.Limit
import UsbThroughput.Proofs.Settings

/-!
# Sessions stand for devices

A benchmark on a session of a scripted stack does what it does on a device with the same script
(`Benchmark.session_refines_device`): it comes to the same conclusion, and unless completions came
with a failure or the deadline was reached, it makes the same calls on the host.
-/

namespace UsbThroughput

/-! ## Opening a device -/

namespace ScriptedStack

/-- A stack with a device that can be opened, memory for every transfer, and none in line. -/
structure Opens (stack : ScriptedStack) : Prop where
  opened : (Script.next stack.opened).1.getD true = true
  claimed : (Script.next stack.claim).1.getD 0 = 0
  allocated : some false ∉ stack.allocated
  unused : stack.host.pending = []

/-- The answers to cancellations that the script of a stack lists. -/
def answers (stack : ScriptedStack) : List (Option (UsbResult Unit)) :=
  namedAnswers stack.host.script.cancel

/-- A device with the script of a stack, at its own time and with its own answers to writes. -/
def device (stack : ScriptedStack) (clock : Duration) (writes : List (Option (UsbResult Nat))) :
    ScriptedDevice where
  host := stack.host.named stack.answers clock
  writes

end ScriptedStack

private theorem Session.connect_of_claimed {β : Type} (stack : Stack β) (target : Target)
    {session : Session β} {first second : β}
    (opened : stack.openDevice target.vendor target.product session.stackState = (true, first))
    (claimed : stack.claim target.interface first = (0, second)) :
    session.connect stack target =
      (.ok (), note stack (.opened target.vendor target.product target.interface)
        { stackState := second
          nextNumber := session.nextNumber
          interface := target.interface }) := by
  unfold connect
  rw [opened]
  simp only [claimed]
  rfl

/-- An opened device and an opened session on one script go together. -/
theorem Session.linked_connect {stack : ScriptedStack} (opens : stack.Opens)
    (worded : stack.host.script.Worded) (clock : Duration)
    (writes : List (Option (UsbResult Nat))) (target : Target) :
    let device : WatchedDevice := { state := stack.device clock writes }
    let session : ScriptedSession := { stackState := { state := stack } }
    (session.connect ScriptedStack.calls.journaled target).1 = .ok () ∧
      Linked stack.answers 0 (fun _ => false)
        (ScriptedDevice.rig.journaled.connect target device).2
        (session.connect ScriptedStack.calls.journaled target).2 := by
  intro device session
  have opened : ScriptedStack.calls.journaled.openDevice target.vendor target.product
      session.stackState = (true, _) := Prod.ext opens.opened rfl
  have claimed : ScriptedStack.calls.journaled.claim target.interface
      (ScriptedStack.calls.journaled.openDevice target.vendor target.product
        session.stackState).2 = (0, _) := Prod.ext opens.claimed rfl
  rw [connect_of_claimed _ target opened claimed]
  exact
    ⟨rfl,
      { echo := ⟨⟨clock, rfl⟩, Or.inl rfl⟩
        holds := ⟨worded, opens.unused ▸ nofun, opens.unused ▸ .nil, opens.unused ▸ nofun⟩
        memory := opens.allocated
        bound := ⟨rfl, rfl, nofun⟩
        empty := rfl
        agree := ⟨fun _ => rfl, rfl⟩ }⟩

/-! ## The same conclusion -/

/-- A conclusion without the time of the test. -/
def Conclusion.timeless : Conclusion → Conclusion
  | finished result => finished (result.map Report.timeless)
  | conclusion => conclusion

namespace Benchmark

variable {σ τ : Type}

/-- The conclusion of a benchmark goes with the stage at which its run is over. -/
theorem conclude_timeless (benchmark : Benchmark) (stage : Stage) :
    benchmark.conclude stage.timeless =
      ((benchmark.conclude stage).1.timeless, (benchmark.conclude stage).2) := by
  cases stage with
  | ended verdict => cases verdict <;> rfl
  | _ => rfl

section

variable {rig : Rig σ} {other : Rig τ} {ties : Rig.Ties σ τ} {depth : Nat} {cause : Prop}
  {benchmark : Benchmark} {state : σ} {twin : τ} {count later last : Nat}
  (stopped : (benchmark.runAfter rig state count).stage.isOver = true)
  (stoppedTwin : (benchmark.runAfter other twin last).stage.isOver = true)

include stopped stoppedTwin

/-- A run stays what it was when it ended as another did. -/
private theorem runAfter_of_alike
    (alike : (benchmark.runAfter rig state count).Alike (benchmark.runAfter other twin later)) :
    benchmark.runAfter other twin last = benchmark.runAfter other twin later := by
  have done : (benchmark.runAfter other twin later).stage.isOver = true := by
    rw [← Stage.isOver_timeless, alike.stage, Stage.isOver_timeless]
    exact stopped
  rcases Nat.le_total later last with before | after
  · exact benchmark.runAfter_of_isOver other done before
  · exact (benchmark.runAfter_of_isOver other stoppedTwin after).symm

/-- Runs that have parted come to verdicts that differ only in the time. -/
theorem timeless_of_apart
    (apart : Run.Apart (benchmark.runAfter rig state count) (benchmark.runAfter other twin later)) :
    (benchmark.runAfter other twin last).stage.timeless =
      (benchmark.runAfter rig state count).stage.timeless := by
  -- Both were decided alike when they parted, and nothing changes a decision.
  have decided := (benchmark.staged_runAfter other twin later).decided apart.finalTwin
  obtain ⟨final, still⟩ : (benchmark.runAfter other twin last).stage.isFinal = true ∧
      (benchmark.runAfter other twin last).meter = (benchmark.runAfter other twin later).meter := by
    rcases Nat.le_total later last with before | after
    · exact ⟨isFinal_runAfter other before apart.finalTwin,
        benchmark.meter_runAfter_of_terminated other twin before decided⟩
    · rw [← benchmark.runAfter_of_isOver other stoppedTwin after]
      exact ⟨apart.finalTwin, rfl⟩
  obtain ⟨verdict, ended⟩ := Stage.ended_of_final apart.final stopped
  obtain ⟨verdictTwin, endedTwin⟩ := Stage.ended_of_final final stoppedTwin
  obtain ⟨now, found⟩ := benchmark.verdict_runAfter rig state ended
  obtain ⟨nowTwin, foundTwin⟩ := benchmark.verdict_runAfter other twin endedTwin
  rw [ended, endedTwin, found, foundTwin, still,
    (benchmark.settings_runAfter other twin last).2,
    (benchmark.settings_runAfter rig state count).2]
  exact congrArg Stage.ended (apart.meter.finish now nowTwin benchmark.direction)

/-- **Runs that were in step come to the same end.** -/
theorem timeless_of_inStep
    (inStep : Run.InStep ties depth cause (benchmark.runAfter rig state count)
      (benchmark.runAfter other twin later)) :
    (benchmark.runAfter other twin last).stage.timeless =
      (benchmark.runAfter rig state count).stage.timeless := by
  cases inStep with
  | paced _ paced =>
      rw [runAfter_of_alike stopped stoppedTwin paced.abreast.alike]
      exact paced.abreast.alike.stage
  | leaving leaving =>
      rw [leaving.closing] at stopped
      contradiction
  | done both =>
      rw [runAfter_of_alike stopped stoppedTwin both.alike]
      exact both.alike.stage
  | apart apart _ => exact timeless_of_apart stopped stoppedTwin apart

end

/-! ## The same script -/

/-- What a run brings to each step so that another can follow. -/
theorem regular_runAfter (rig : Rig σ) {ties : Rig.Ties (Journal RigEvent σ) τ}
    {benchmark : Benchmark} (valid : benchmark.settings.validate = .ok ())
    (narrow : benchmark.settings.queueDepth benchmark.direction ≤ Session.maxSlots) {state : σ}
    {count : Nat}
    (fair : ties.Fair (benchmark.runAfter rig.journaled { state } (count + 1)).rigState) :
    Run.Regular ties (benchmark.settings.queueDepth benchmark.direction) rig.journaled
      (benchmark.runAfter rig.journaled { state } count) where
  sound := benchmark.sound_runAfter rig.journaled { state } count
  staged := benchmark.staged_runAfter rig.journaled { state } count
  sized holds := by
    obtain ⟨settings, direction⟩ := benchmark.settings_runAfter rig.journaled { state } count
    have fitted := benchmark.fitted_runAfter rig.journaled _ holds
    have depth := fitted.depth_eq
    rw [settings, direction] at depth
    refine ⟨benchmark.numbered_runAfter rig state holds, fun slot member => ?_, depth⟩
    obtain ⟨place, inside, rfl⟩ := List.getElem_of_mem member
    have held := List.getElem?_eq_getElem inside
    have size := fitted.size_eq held
    rw [settings, direction] at size
    have named := benchmark.numbered_runAfter rig state holds place _ held
    refine ⟨?_, ?_⟩
    · rw [named]
      exact Nat.lt_of_lt_of_le (depth ▸ inside) narrow
    · exact (Nat.le_of_eq size).trans (Settings.transferLength_bounds valid benchmark.direction).2
  outward unfinished := by
    rw [(benchmark.equipped_runAfter rig state count).channel_eq unfinished]
    exact Direction.ofAddress_address ..
  fair := by
    rw [← benchmark.runAfter_succ]
    exact fair

section

variable {benchmark : Benchmark} {stack : ScriptedStack}
  (valid : benchmark.settings.validate = .ok ()) (opens : stack.Opens)
  (worded : stack.host.script.Worded) (clock : Duration) (writes : List (Option (UsbResult Nat)))

include valid opens worded

/-- The runs begin together. -/
theorem paced_begin :
    Run.Paced (Session.ties stack.answers) (benchmark.settings.queueDepth benchmark.direction) 0
      (benchmark.runAfter ScriptedDevice.rig.journaled { state := stack.device clock writes } 0)
      (benchmark.runAfter (Session.rig ScriptedStack.calls.journaled)
        { stackState := { state := stack } } 0) := by
  have tandem := Session.tandem stack.answers
  obtain ⟨_, linked⟩ :=
    Session.linked_connect opens worded clock writes benchmark.settings.target
  have noted := (linked.note (.moved .idle .deviceOpened)).noteTwin (.moved .idle .deviceOpened)
  have out : Run.isOut (benchmark.runAfter ScriptedDevice.rig.journaled
      { state := stack.device clock writes } 0) = fun _ => false :=
    Run.isOut_of_grounded (inFlight_ofSettings benchmark.settings benchmark.direction)
  refine ⟨⟨⟨rfl, ⟨rfl, rfl, rfl, rfl⟩, rfl⟩, ?_, .nil, nofun⟩, .of_empty rfl, Or.inl rfl⟩
  rw [out]
  change Session.Linked _ _ _ (ScriptedDevice.rig.journaled.note _
    (benchmark.connect ScriptedDevice.rig.journaled _).2)
    (Session.note ScriptedStack.calls.journaled _
      (benchmark.connect (Session.rig ScriptedStack.calls.journaled) _).2)
  rw [connect_of_valid valid, connect_of_valid valid]
  exact noted

end

/-- A script brings a benchmark to its end, on a device and on a session. -/
theorem ends_of_script (benchmark : Benchmark) (device : ScriptedDevice)
    (session : ScriptedSession) :
    ∃ enough, ∀ limit ≥ enough,
      (benchmark.runAfter ScriptedDevice.rig.journaled { state := device } limit).stage.isOver =
          true ∧
        (benchmark.runAfter (Session.rig ScriptedStack.calls.journaled) session
          limit).stage.isOver = true := by
  obtain ⟨enough, ends⟩ := benchmark.ends_of_spends ScriptedDevice.spends device
  obtain ⟨more, endsTwin⟩ := benchmark.ends_of_spends Session.spends session
  refine ⟨max enough more, fun limit above => ⟨?_, ?_⟩⟩
  · have stopped := ends limit (Nat.le_trans (Nat.le_max_left _ _) above)
    rw [benchmark.runAfter_journaled] at stopped
    exact stopped
  · exact endsTwin limit (Nat.le_trans (Nat.le_max_right _ _) above)

/-- **A session stands for a device.** Let a stack and a device answer from the same script, in
codes and in results, let the device be opened, and let there be memory for every transfer. Then a
benchmark comes to an end on both. Suppose that completions were handed over only of transfers that
were out, and that an answer to a cancellation was not used up by one that was made in vain. Then
the benchmark comes to the same conclusion in the same phase, but for the time. If moreover no
completions came with a failure and the deadline was never reached, it made the same calls on the
host, but for the cancellations that were made in vain. -/
theorem session_refines_device (benchmark : Benchmark) (stack : ScriptedStack) (clock : Duration)
    (writes : List (Option (UsbResult Nat))) (idle : benchmark.phase = .idle)
    (valid : benchmark.settings.validate = .ok ())
    (narrow : benchmark.settings.queueDepth benchmark.direction < UInt64.size)
    (opens : stack.Opens) (worded : stack.host.script.Worded) :
    let rig := ScriptedDevice.rig.journaled
    let other := Session.rig ScriptedStack.calls.journaled
    let device : WatchedDevice := { state := stack.device clock writes }
    let session : ScriptedSession := { stackState := { state := stack } }
    (∃ enough, ∀ limit ≥ enough,
      (benchmark.run rig limit device).1.1 ≠ .unfinished ∧
        (benchmark.run other limit session).1.1 ≠ .unfinished) ∧
    ∀ limit, (benchmark.run rig limit device).1.1 ≠ .unfinished →
      (benchmark.run other limit session).1.1 ≠ .unfinished →
      RigEvent.Faithful (benchmark.run rig limit device).2.history →
      Journal.Throughout (RigEvent.Heeds stack.answers)
        (benchmark.run rig limit device).2.history →
      (benchmark.run other limit session).1.1.timeless =
          (benchmark.run rig limit device).1.1.timeless ∧
        (benchmark.run other limit session).1.2 = (benchmark.run rig limit device).1.2 ∧
        ((∀ event ∈ (benchmark.run rig limit device).2.history, event.spills = false) →
          (∀ count, (benchmark.runAfter rig device count).isOverdue rig = false) →
          (∀ count, (benchmark.runAfter other session count).isOverdue other = false) →
          StackEvent.hostCalls (benchmark.run other limit session).2.stackState.history =
            RigEvent.hostCalls (benchmark.run rig limit device).2.history) := by
  intro rig other device session
  obtain ⟨connected, _⟩ :=
    Session.linked_connect opens worded clock writes benchmark.settings.target
  have runs (limit : Nat) : benchmark.run rig limit device = _ :=
    benchmark.run_of_connected rig idle ((connect_of_valid valid rig device).symm ▸ rfl)
  have runsTwin (limit : Nat) : benchmark.run other limit session = _ :=
    benchmark.run_of_connected other idle
      ((connect_of_valid valid other session).symm ▸ connected)
  simp only [runs, runsTwin]
  constructor
  · obtain ⟨enough, ends⟩ := benchmark.ends_of_script device.state session
    exact ⟨enough, fun limit above => ⟨finished_of_isOver benchmark (ends limit above).1,
      finished_of_isOver benchmark (ends limit above).2⟩⟩
  · intro limit done doneTwin faithful heeds
    have stopped := isOver_of_finished done
    have stoppedTwin := isOver_of_finished doneTwin
    have whole := history_isPrefix ScriptedDevice.rig stopped
    have fair (count : Nat) :
        (Session.ties stack.answers).Fair (benchmark.runAfter rig device count).rigState :=
      ⟨faithful.of_isPrefix (whole count), heeds.of_isPrefix (whole count)⟩
    obtain ⟨later, inStep⟩ : ∃ later, Run.InStep (Session.ties stack.answers) _
        (Run.Parting (Session.ties stack.answers) rig other (benchmark.runAfter rig device 0)
          (benchmark.runAfter other session 0))
        (benchmark.runAfter rig device limit) (benchmark.runAfter other session later) :=
      Run.InStep.steps (Session.tandem stack.answers)
        (paced_begin valid opens worded clock writes)
        (fun count => regular_runAfter ScriptedDevice.rig valid (Nat.le_sub_one_of_lt narrow)
          (fair (count + 1))) limit
    have verdict := timeless_of_inStep stopped stoppedTwin inStep
    obtain ⟨conclusion, phase⟩ := Prod.mk.inj ((conclude_timeless benchmark _).symm.trans
      ((congrArg benchmark.conclude verdict).trans (conclude_timeless benchmark _)))
    refine ⟨conclusion, phase, fun tight inTime inTimeTwin => ?_⟩
    cases inStep with
    | paced _ paced =>
        rw [runAfter_of_alike stopped stoppedTwin paced.abreast.alike]
        exact paced.abreast.linked.agree.same
    | leaving leaving =>
        rw [leaving.closing] at stopped
        contradiction
    | done both =>
        rw [runAfter_of_alike stopped stoppedTwin both.alike]
        exact both.parted
    | apart _ parting =>
        rcases parting with ⟨count, event, member, spills⟩ | ⟨count, late⟩ | ⟨count, late⟩
        · exact absurd spills (Bool.eq_false_iff.mp (tight event ((whole count).subset member)))
        · exact absurd late (Bool.eq_false_iff.mp (inTime count))
        · exact absurd late (Bool.eq_false_iff.mp (inTimeTwin count))

/-- A run is never overdue if it was not so before it was over. -/
theorem isOverdue_of_early {rig : Rig σ} {benchmark : Benchmark} {state : σ} (last : Nat)
    (stopped : (benchmark.runAfter rig state last).stage.isOver = true)
    (early : ∀ count < last, (benchmark.runAfter rig state count).isOverdue rig = false)
    (count : Nat) : (benchmark.runAfter rig state count).isOverdue rig = false := by
  rcases Nat.lt_or_ge count last with before | after
  · exact early count before
  · rw [benchmark.runAfter_of_isOver rig stopped after, Run.isOverdue]
    split
    next draining =>
      rw [draining] at stopped
      contradiction
    · rfl

/-- A stack on which the first event call is interrupted and finishes transfer 1 all the same, and
the second finishes it once more after a stall of transfer 0. -/
def interrupted : ScriptedStack where
  host := { script :=
    { events := [{ deliveries := some [⟨1, 0, 8⟩], result := some (-10) },
        { deliveries := some [⟨0, 4, 0⟩, ⟨1, 0, 8⟩] }] } }

/-- The session keeps a completion back, and the device cancels a slot in vain. -/
theorem session_refines_device_interrupted :
    let rig := ScriptedDevice.rig.journaled
    let other := Session.rig ScriptedStack.calls.journaled
    let device : WatchedDevice := { state := interrupted.device .zero [] }
    let session : ScriptedSession := { stackState := { state := interrupted } }
    let history := (small.run rig 30 device).2.history
    history.filterMap RigEvent.hostCall? ≠ RigEvent.hostCalls history ∧
      (small.run other 30 session).1.1.timeless = (small.run rig 30 device).1.1.timeless ∧
      (small.run other 30 session).1.2 = (small.run rig 30 device).1.2 ∧
      StackEvent.hostCalls (small.run other 30 session).2.stackState.history =
        RigEvent.hostCalls history := by
  obtain ⟨_, follows⟩ := small.session_refines_device interrupted .zero [] rfl (by decide +kernel)
    (by decide +kernel) ⟨rfl, rfl, by decide +kernel, rfl⟩ ⟨by decide +kernel, by decide +kernel⟩
  have faithful := small.faithful_of_listsInLine 30 (interrupted.device .zero []) rfl rfl
    (by decide +kernel)
  obtain ⟨conclusion, phase, calls⟩ := follows 30 (by decide +kernel) (by decide +kernel)
    faithful (by decide +kernel)
  have same := calls (by decide +kernel)
    (isOverdue_of_early 30 (by decide +kernel) (by decide +kernel))
    (isOverdue_of_early 30 (by decide +kernel) (by decide +kernel))
  exact ⟨by decide +kernel, conclusion, phase, same⟩

/-- A stack that refuses the first cancellation. The first event call finishes transfers 0 and 2,
of which the first stalled, and the next transfer in line is given up unasked. -/
def refusing : ScriptedStack where
  host := { script :=
    { cancel := [some (-1)]
      events := [{ deliveries := some [⟨0, 4, 0⟩, ⟨2, 0, 8⟩] }]
      outcomes := [some { status := 3, length := some 0 }] } }

/-- A test of three inbound slots of eight bytes. -/
def threefold : Benchmark where
  settings := { dataSize := 20, inboundLength := 8, inboundDepth := 3 }
  direction := .inbound

/-- The device cancels transfer 2 in vain and uses the refusal up. The session does not, so that it
is refused to cancel transfer 1, and the test ends otherwise. -/
theorem session_departs_from_device :
    let rig := ScriptedDevice.rig.journaled
    let other := Session.rig ScriptedStack.calls.journaled
    let device : WatchedDevice := { state := refusing.device .zero [] }
    let session : ScriptedSession := { stackState := { state := refusing } }
    (threefold.settings.validate = .ok () ∧ refusing.Opens ∧ refusing.host.script.Worded ∧
      (∀ entry ∈ refusing.host.script.cancel, ∀ code ∈ entry, code ≠ 0) ∧
      RigEvent.Faithful (threefold.run rig 30 device).2.history ∧
      (∀ event ∈ (threefold.run rig 30 device).2.history, event.spills = false) ∧
      (∀ count, (threefold.runAfter rig device count).isOverdue rig = false) ∧
      ∀ count, (threefold.runAfter other session count).isOverdue other = false) ∧
    (threefold.run rig 30 device).1 =
      (.finished (.error (.failed .cancelled)), { threefold with phase := .failed }) ∧
    (threefold.run other 30 session).1.1.timeless =
      .finished (.ok
        { direction := .inbound, bytesTotal := 24, completions := 3, elapsed := .zero }) ∧
    (threefold.run other 30 session).1.2 = { threefold with phase := .reported } := by
  have opens : refusing.Opens := ⟨rfl, rfl, by decide +kernel, rfl⟩
  have worded : refusing.host.script.Worded := ⟨by decide +kernel, by decide +kernel⟩
  refine ⟨⟨by decide +kernel, opens, worded, by decide +kernel, by decide +kernel,
    by decide +kernel, ?_, ?_⟩, by decide +kernel, by decide +kernel, by decide +kernel⟩
  · exact isOverdue_of_early 30 (by decide +kernel) (by decide +kernel)
  · exact isOverdue_of_early 30 (by decide +kernel) (by decide +kernel)

end Benchmark

end UsbThroughput
