import UsbThroughput.Proofs.Benchmark.Outcome
import UsbThroughput.Proofs.Run.CallOrder

/-!
# The calls of a benchmark

A benchmark opens its device only if its settings allow a test, and nothing is done on a device
that could not be opened. On an open device the calls come in one order, whatever the device does:
a slot is never submitted after the decision, and the stop command is neither left out nor sent
twice. A benchmark that was run once makes no calls any more.
-/

namespace UsbThroughput.Benchmark

open RigEvent

variable {σ : Type} (rig : Rig σ) (benchmark : Benchmark) (state : σ)

/-- A benchmark is equipped by its settings at every step. -/
theorem equipped_runAfter (count : Nat) :
    (benchmark.runAfter rig.journaled { state } count).Equipped benchmark.settings
      benchmark.direction where
  settings_eq := (benchmark.settings_runAfter rig.journaled { state } count).1
  direction_eq := (benchmark.settings_runAfter rig.journaled { state } count).2
  queue_eq filling := by
    obtain rfl := benchmark.eq_zero_of_filling rig.journaled filling
    rfl
  channel_eq := by
    induction count with
    | zero => exact fun _ => rfl
    | succ count ih =>
        intro unfinished
        obtain ⟨_, _, advance⟩ := benchmark.advances_runAfter rig state count
        rw [advance.channel unfinished]
        apply ih
        apply Bool.eq_false_iff.mpr
        intro done
        rw [runAfter_succ, Run.step_of_isOver rig.journaled done, done] at unfinished
        contradiction

/-- The calls of a benchmark are in order at every moment. -/
theorem callOrder_runAfter (count : Nat) :
    (benchmark.runAfter rig.journaled { state } count).CallOrder benchmark.settings
      benchmark.direction
      (deviceCalls (benchmark.runAfter rig.journaled { state } count).rigState.history) := by
  induction count with
  | zero =>
      rw [deviceCalls, List.filter_eq_nil_iff.mpr fun event member =>
        benchmark.aside_begin rig state event member ▸ Bool.false_ne_true]
      exact .opened rfl
  | succ count ih =>
      obtain ⟨calls, performs, advance⟩ := benchmark.advances_runAfter rig state count
      rw [performs.deviceCalls_eq]
      exact advance.callOrder (benchmark.equipped_runAfter rig state count)
        (benchmark.staged_runAfter rig.journaled { state } count) ih

/-- Once a test is decided, no call takes it further. -/
theorem unfurthered_runAfter {count later : Nat} (before : count ≤ later)
    (terminated :
      (benchmark.runAfter rig.journaled { state } count).meter.terminated = true) :
    ∃ calls,
      (benchmark.runAfter rig.journaled { state } count).rigState.Performs calls
        (benchmark.runAfter rig.journaled { state } later).rigState ∧
      ∀ call ∈ calls, call.furthers benchmark.direction = false := by
  induction later, before using Nat.le_induction with
  | base => exact ⟨[], .refl _, List.forall_mem_nil _⟩
  | succ later before ih =>
      obtain ⟨earlier, performed, unfurthered⟩ := ih
      obtain ⟨calls, performs, advance⟩ := benchmark.advances_runAfter rig state later
      have still : (benchmark.runAfter rig.journaled { state } later).meter.terminated = true := by
        rwa [benchmark.meter_runAfter_of_terminated rig.journaled { state } before terminated]
      have none := advance.unfurthered (benchmark.staged_runAfter rig.journaled { state } later) still
      rw [(benchmark.settings_runAfter rig.journaled { state } later).2] at none
      exact ⟨earlier ++ calls, performed.trans performs,
        List.forall_mem_append.mpr ⟨unfurthered, none⟩⟩

/-- The step that decides a test makes its calls before the decision. -/
theorem decidedBy_runAfter {count : Nat}
    (going : (benchmark.runAfter rig.journaled { state } count).meter.terminated = false)
    (terminated :
      (benchmark.runAfter rig.journaled { state } (count + 1)).meter.terminated = true) :
    ∃ calls,
      (benchmark.runAfter rig.journaled { state } count).rigState.Performs calls
        (benchmark.runAfter rig.journaled { state } (count + 1)).rigState ∧
      Run.DecidedBy calls (benchmark.runAfter rig.journaled { state } (count + 1)) := by
  obtain ⟨calls, performs, advance⟩ := benchmark.advances_runAfter rig state count
  exact ⟨calls, performs, advance.decidedBy going terminated⟩

/-- A benchmark that has come to a result on an open device was taken to its end. -/
theorem ended_of_finished {limit : Nat} {result : Except TestError Report} {after : Benchmark}
    {last : σ} (idle : benchmark.phase = .idle)
    (connected : (benchmark.connect rig state).1 = .ok ())
    (finished : benchmark.run rig limit state = ((.finished result, after), last)) :
    (∃ verdict, (benchmark.runAfter rig state limit).stage = .ended verdict) ∧
      last = (benchmark.runAfter rig state limit).rigState := by
  rw [benchmark.run_of_connected rig idle connected] at finished
  obtain ⟨concluded, reached⟩ := Prod.mk.inj finished
  refine ⟨?_, reached.symm⟩
  cases stage : (benchmark.runAfter rig state limit).stage with
  | ended verdict => exact ⟨verdict, rfl⟩
  | _ =>
      rw [stage] at concluded
      cases concluded

/-- A benchmark that was run is not idle any more. -/
theorem phase_of_finished {limit : Nat} {result : Except TestError Report} {after : Benchmark}
    {last : σ} (finished : benchmark.run rig limit state = ((.finished result, after), last)) :
    after.phase ≠ .idle := by
  unfold run at finished
  split at finished
  next used =>
    cases finished
    exact used
  next =>
    split at finished
    · cases finished
      exact Phase.noConfusion
    · obtain ⟨concluded, _⟩ := Prod.mk.inj finished
      unfold conclude at concluded
      split at concluded <;> cases concluded <;> exact Phase.noConfusion

/-- **The order of calls.** A benchmark whose settings allow no test calls nothing, and one that
cannot open its device makes no other call; both fail with the error of the setup. Otherwise the
calls are in order at every moment. When the test is decided, the calls of that step are over, and
none that follows takes the test further. A test that comes to a result has submitted its slots
from slot zero on, all or up to the first that was refused; has sent the start command just if none
was; has kept itself going; has cancelled and awaited what was in flight; has sent the stop command
once; and has closed the device. Running the benchmark again calls nothing and changes nothing. -/
theorem calls_in_order (idle : benchmark.phase = .idle) (limit : Nat) :
    (∀ error, benchmark.settings.validate = .error error →
      benchmark.run rig.journaled limit { state } =
        ((.finished (.error (.setup error)), { benchmark with phase := .failed }), { state })) ∧
    (∀ error, benchmark.settings.validate = .ok () →
      (rig.connect benchmark.settings.target state).1 = .error error →
      ∃ journal,
        benchmark.run rig.journaled limit { state } =
          ((.finished (.error (.setup error)), { benchmark with phase := .failed }), journal) ∧
        journal.history = [.connected benchmark.settings.target (.error error)]) ∧
    (benchmark.settings.validate = .ok () →
      (rig.connect benchmark.settings.target state).1 = .ok () →
      let run := benchmark.runAfter rig.journaled { state }
      (∀ count, (run count).CallOrder benchmark.settings benchmark.direction
        (deviceCalls (run count).rigState.history)) ∧
      (∀ count, (run count).meter.terminated = false → (run (count + 1)).meter.terminated = true →
        ∃ calls, (run count).rigState.Performs calls (run (count + 1)).rigState ∧
          Run.DecidedBy calls (run (count + 1))) ∧
      (∀ count later, count ≤ later → (run count).meter.terminated = true →
        ∃ calls, (run count).rigState.Performs calls (run later).rigState ∧
          ∀ call ∈ calls, call.furthers benchmark.direction = false) ∧
      ∀ result after journal,
        benchmark.run rig.journaled limit { state } = ((.finished result, after), journal) →
        journal = (run limit).rigState ∧
        ∃ refusal armed started upkeep recalled awaited answer,
          deviceCalls journal.history =
            armed ++ started ++ upkeep ++ recalled ++ awaited ++
              [.wrote benchmark.settings.commandEndpoint [Command.stop.byte]
                benchmark.settings.commandTimeout answer, .disconnected] ∧
          Run.Arms benchmark.settings benchmark.direction refusal armed ∧
          Run.Starts benchmark.settings benchmark.direction started refusal ∧
          (∀ call ∈ upkeep, call.isUpkeep = true) ∧
          (∀ call ∈ recalled, call.isCancellation = true) ∧
          ∀ call ∈ awaited, call.isPoll = true) ∧
    ∀ result after last,
      benchmark.run rig.journaled limit { state } = ((.finished result, after), last) →
      ∀ again other, after.run rig.journaled again other =
        ((.finished (.error (.setup (.misconfigured .alreadyRun))), after), other) := by
  refine ⟨fun error invalid => ?_, fun error valid refused => ?_, fun valid opened => ?_,
    fun result after last finished again other => ?_⟩
  · rw [run, if_neg (not_not_intro idle), connect, invalid]
  · have connecting : rig.journaled.connect benchmark.settings.target { state } =
        (.error error, (rig.journaled.connect benchmark.settings.target { state }).2) :=
      Prod.ext refused rfl
    refine ⟨(rig.journaled.connect benchmark.settings.target { state }).2, ?_, ?_⟩
    · rw [run, if_neg (not_not_intro idle), connect, valid]
      dsimp only
      rw [connecting]
    · exact congrArg (fun result => [RigEvent.connected benchmark.settings.target result]) refused
  · refine ⟨benchmark.callOrder_runAfter rig state,
      fun count going terminated => benchmark.decidedBy_runAfter rig state going terminated,
      fun count later before terminated =>
        benchmark.unfurthered_runAfter rig state before terminated,
      fun result after journal finished => ?_⟩
    have connected : (benchmark.connect rig.journaled { state }).1 = .ok () := by
      rw [connect, valid]
      exact opened
    obtain ⟨⟨verdict, ended⟩, rfl⟩ :=
      benchmark.ended_of_finished rig.journaled { state } idle connected finished
    exact ⟨rfl, (benchmark.callOrder_runAfter rig state limit).of_ended ended⟩
  · rw [run, if_pos (benchmark.phase_of_finished rig.journaled { state } finished)]

/-- The calls of a test in which a halt was cleared; the test cannot be run again. -/
theorem calls_in_order_stalling :
    let outcome := small.run ScriptedDevice.rig.journaled 60 { state := stalling }
    outcome.1 = (.finished (.ok ⟨.inbound, 24, 3, ⟨3⟩⟩), { small with phase := .reported }) ∧
      (∃ refusal armed started upkeep recalled awaited answer,
        deviceCalls outcome.2.history =
          armed ++ started ++ upkeep ++ recalled ++ awaited ++
            [.wrote 2 [0x01] small.settings.commandTimeout answer, .disconnected] ∧
        Run.Arms small.settings .inbound refusal armed ∧
        Run.Starts small.settings .inbound started refusal ∧
        (∀ call ∈ upkeep, call.isUpkeep = true) ∧
        (∀ call ∈ recalled, call.isCancellation = true) ∧
        ∀ call ∈ awaited, call.isPoll = true) ∧
      ∀ again other, ({ small with phase := .reported } : Benchmark).run
        ScriptedDevice.rig.journaled again other =
          ((.finished (.error (.setup (.misconfigured .alreadyRun))),
            { small with phase := .reported }), other) := by
  intro outcome
  have finished : outcome.1 =
      (.finished (.ok ⟨.inbound, 24, 3, ⟨3⟩⟩), { small with phase := .reported }) := by
    decide +kernel
  obtain ⟨_, _, connected, again⟩ := small.calls_in_order ScriptedDevice.rig stalling rfl 60
  obtain ⟨_, _, _, ended⟩ := connected (by decide +kernel) (by decide +kernel)
  exact ⟨finished, (ended _ _ _ (Prod.ext finished rfl)).2, again _ _ _ (Prod.ext finished rfl)⟩

end UsbThroughput.Benchmark
