import UsbThroughput.Proofs.Benchmark.InFlight
import UsbThroughput.Proofs.Session.Resembling
import UsbThroughput.Script.Stack

/-!
# Commands that fail

What comes of the start and stop commands is noted and has no other effect
(`Benchmark.commands_immaterial`): on two devices that answer alike but for writes a benchmark goes
through the same states, makes the same calls and comes to the same conclusion.
-/

namespace UsbThroughput

/-- A scripted device with other results of writes. -/
def ScriptedDevice.rewrite (writes : List (Option (UsbResult Nat))) (device : ScriptedDevice) :
    ScriptedDevice :=
  { device with writes }

/-- A scripted device resembles itself with other answers to writes. -/
theorem ScriptedDevice.resembles :
    rig.Resembles rig fun device twin => ∃ writes, twin = device.rewrite writes where
  connect _ _ _ := .of_change fun ⟨_, refusal, _⟩ _ => by cases refusal <;> rfl
  submit _ _ _ := .of_change fun _ _ => rfl
  cancel _ _ _ := .of_change fun _ _ => rfl
  poll _ _ _ := .of_change fun _ _ => rfl
  write _ _ _ _ _ changed := by
    obtain ⟨writes, rfl⟩ := changed
    exact ⟨_, rfl⟩
  clearHalt _ _ _ := .of_change fun _ _ => rfl
  disconnect := id
  now := .of_change fun _ _ => rfl
  note _ := id
  noteTwin _ := id

/-- A scripted stack with other results of writes. -/
def ScriptedStack.rewrite (writes : List (Option (Int × Option Int))) (stack : ScriptedStack) :
    ScriptedStack :=
  { stack with writes }

/-- A scripted stack resembles itself with other answers to writes. -/
theorem ScriptedStack.resembles :
    calls.Resembles calls fun stack twin => ∃ writes, twin = stack.rewrite writes where
  openDevice _ _ _ _ := .of_change fun _ _ => rfl
  claim _ _ _ := .of_change fun _ _ => rfl
  release _ _ _ := .of_change fun _ _ => rfl
  allocate _ _ _ := .of_change fun _ _ => rfl
  submit _ _ _ := .of_change fun _ _ => rfl
  cancel _ _ _ := .of_change fun _ _ => rfl
  handleEvents _ _ _ := .of_change fun _ _ => rfl
  write _ _ _ _ _ changed := by
    obtain ⟨writes, rfl⟩ := changed
    exact ⟨_, rfl⟩
  clearHalt _ _ _ := .of_change fun _ _ => rfl
  free _ := id
  close := id
  now := .of_change fun _ _ => rfl
  note _ := id
  noteTwin _ := id

namespace Benchmark

/-- The slots at the moments of a step, in two views of a run. -/
theorem queues_of_views {σ τ : Type} {rig : Rig σ} {other : Rig τ} {view : σ → τ}
    (mirrors : rig.Mirrors other view) (run : Run σ) :
    ((run.mapRig view).moments other).map (fun moment => moment.2.queue) =
      (run.moments rig).map fun moment => moment.2.queue := by
  rw [Run.mapRig_moments mirrors, List.map_map]
  rfl

/-- **Commands that fail interfere with nothing.** Let two devices, or two stacks, answer alike but
for writes. Then a benchmark goes through the same states on both: after every step all is the same
but the state of the device, and so are the slots at all moments of the step. It makes the same
calls, but for the answers to writes, and comes to the same conclusion. -/
theorem commands_immaterial (benchmark : Benchmark) :
    (∀ {σ τ : Type} {rig : Rig σ} {other : Rig τ} {linked : σ → τ → Prop},
      rig.Resembles other linked → ∀ {state : σ} {twin : τ}, linked state twin →
        (∀ count,
          let run := benchmark.runAfter rig.journaled { state } count
          let ran := benchmark.runAfter other.journaled { state := twin } count
          ran.mapRig (fun _ => ()) = run.mapRig (fun _ => ()) ∧
          (ran.moments other.journaled).map (fun moment => moment.2.queue) =
            (run.moments rig.journaled).map (fun moment => moment.2.queue) ∧
          ran.rigState.history.filterMap RigEvent.unanswered? =
            run.rigState.history.filterMap RigEvent.unanswered?) ∧
        ∀ limit, (benchmark.run other limit twin).1 = (benchmark.run rig limit state).1) ∧
    ∀ {β γ : Type} {stack : Stack β} {other : Stack γ} {linked : β → γ → Prop},
      stack.Resembles other linked → ∀ {state : β} {twin : γ}, linked state twin →
        ∀ limit nextNumber,
          let ended := benchmark.run (Session.rig stack.journaled) limit
            { stackState := { state }, nextNumber }
          let endedTwin := benchmark.run (Session.rig other.journaled) limit
            { stackState := { state := twin }, nextNumber }
          endedTwin.1 = ended.1 ∧
            endedTwin.2.stackState.history.filterMap StackEvent.unanswered? =
              ended.2.stackState.history.filterMap StackEvent.unanswered? := by
  constructor
  · intro σ τ rig other linked resembles state twin link
    constructor
    · intro count run ran
      have watched := resembles.journaled
      have twins : Journal.Twins linked RigEvent.unanswered? ({ state } : Journal RigEvent σ)
          ({ state := twin } : Journal RigEvent τ) := ⟨link, rfl⟩
      obtain ⟨both, first, second⟩ := benchmark.resembles_runAfter watched twins count
      have same : run = both.mapRig (fun pair => pair.1.1) := first
      have sameTwin : ran = both.mapRig (fun pair => pair.1.2) := second
      rw [same, sameTwin]
      refine ⟨rfl, ?_, both.rigState.2.same⟩
      rw [queues_of_views (Rig.mirrors_paired_first watched),
        queues_of_views (Rig.mirrors_paired_second watched)]
    · intro limit
      exact (benchmark.resembles_run resembles link limit).1
  · intro β γ stack other linked resembles state twin link limit nextNumber ended endedTwin
    have alike : Session.Alike (Journal.Twins linked StackEvent.unanswered?)
        { stackState := { state }, nextNumber }
        { stackState := { state := twin }, nextNumber } := ⟨{ state := twin }, ⟨link, rfl⟩, rfl⟩
    obtain ⟨conclusion, _, twins, last⟩ :=
      benchmark.resembles_run (Session.resembles_rig resembles.journaled) alike limit
    refine ⟨conclusion, ?_⟩
    rw [show endedTwin.2 = _ from last]
    exact twins.same

/-- What the start and stop commands come to where they are not taken, in results and in codes. -/
def refusals : List (Option (UsbResult Nat)) := [some (.error .pipe), some (.ok 0)]

def refusedCodes : List (Option (Int × Option Int)) := [some (-9, some 0), some (0, some 0)]

/-- A recovery from a stall goes the same way if both commands fail, and so does a session. -/
theorem commands_immaterial_refused :
    let rig := ScriptedDevice.rig
    let deaf := stalling.rewrite refusals
    let sessions := Session.rig ScriptedStack.calls.journaled
    let stack : ScriptedStack := { host := { script := {} } }
    (small.runAfter rig.journaled { state := deaf } 30).rigState.history ≠
        (small.runAfter rig.journaled { state := stalling } 30).rigState.history ∧
      (small.runAfter rig.journaled { state := deaf } 30).rigState.history.filterMap
          RigEvent.unanswered? =
        (small.runAfter rig.journaled { state := stalling } 30).rigState.history.filterMap
          RigEvent.unanswered? ∧
      (small.run rig 30 deaf).1 = (small.run rig 30 stalling).1 ∧
      (small.run sessions 30 { stackState := { state := stack.rewrite refusedCodes } }).1 =
        (small.run sessions 30 { stackState := { state := stack } }).1 := by
  intro rig deaf sessions stack
  obtain ⟨onDevices, onStacks⟩ := small.commands_immaterial
  have changed : ∃ writes, deaf = stalling.rewrite writes := ⟨refusals, rfl⟩
  have changedStack : ∃ writes, stack.rewrite refusedCodes = stack.rewrite writes :=
    ⟨refusedCodes, rfl⟩
  have both := onDevices ScriptedDevice.resembles changed
  have ended := onStacks ScriptedStack.resembles changedStack 30 0
  exact ⟨by decide +kernel, (both.1 30).2.2, both.2 30, ended.1⟩

end Benchmark

end UsbThroughput
