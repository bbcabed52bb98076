import UsbThroughput.Proofs.Benchmark.Addressing
import UsbThroughput.Proofs.Benchmark.Ownership
import UsbThroughput.Proofs.Session.Requests

/-!
# The timeouts of transfers

A stack is asked for timeouts in whole milliseconds. The settings give them in nanoseconds, and
what is left over is dropped.
-/

namespace UsbThroughput

/-- A span without a whole millisecond is shorter than one. -/
theorem Duration.milliseconds_eq_zero (span : Duration) :
    span.milliseconds = 0 ↔ span.nanoseconds < perMillisecond :=
  Nat.div_eq_zero_iff_lt (by decide)

namespace Benchmark

variable {β : Type} (stack : Stack β) (benchmark : Benchmark) (state : β) (nextNumber : Nat)

/-- Every request of a benchmark asks for the transfer that its settings describe. -/
theorem request_of_submitted {count : Nat} {asked : Request} {code : Int}
    (member : .submitted asked code ∈
      (benchmark.watchedAfter stack state nextNumber count).stackHistory) :
    asked.length = benchmark.settings.transferLength benchmark.direction ∧
      asked.timeout =
        min benchmark.settings.transferTimeout.milliseconds Session.maxTimeout := by
  have start : Session.Backed
      { state := { stackState := { state }, nextNumber } : Watched β } := List.forall_mem_nil _
  have requested : asked ∈
      (benchmark.watchedAfter stack state nextNumber count).rigState.state.requested :=
    List.mem_filterMap.mpr ⟨_, member, rfl⟩
  obtain ⟨slot, result, among, _, length, timeout⟩ :=
    benchmark.keeps_runAfter (Session.keeps_backed stack) _ start count asked requested
  have suits := benchmark.suits_of_submitted (Session.rig stack.journaled) _ among
  rw [length, timeout, suits.long, suits.timed]
  exact ⟨rfl, rfl⟩

/-- **Timeouts are cut to whole milliseconds.** Every transfer that a benchmark submits to a stack,
for the first time or again, carries the timeout of the settings in whole milliseconds, at most the
largest word of 32 bits. So it has no timeout at all just if that of the settings is shorter than a
millisecond, which valid settings do not rule out. -/
theorem timeout_of_request (count : Nat) :
    let start : Session (Journal StackEvent β) := { stackState := { state }, nextNumber }
    let run := benchmark.runAfter (Session.rig stack.journaled) start count
    ∀ asked code, .submitted asked code ∈ run.rigState.stackState.history →
      asked.timeout = min benchmark.settings.transferTimeout.milliseconds Session.maxTimeout ∧
        (asked.timeout = 0 ↔
          benchmark.settings.transferTimeout.nanoseconds < Duration.perMillisecond) := by
  intro start run asked code member
  have watched : run = (benchmark.watchedAfter stack state nextNumber count).mapRig Journal.state :=
    benchmark.runAfter_journaled (Session.rig stack.journaled) start count
  rw [watched] at member
  obtain ⟨_, timeout⟩ := benchmark.request_of_submitted stack state nextNumber member
  refine ⟨timeout, ?_⟩
  have positive : 0 < Session.maxTimeout := by decide
  rw [timeout, ← Duration.milliseconds_eq_zero]
  omega

/-- A timeout of a second is asked for as a thousand milliseconds. -/
theorem timeout_of_request_second :
    let start : Session (Journal StackEvent ScriptedStack) := { stackState := { state := forgetful } }
    let run := small.runAfter (Session.rig ScriptedStack.calls.journaled) start 16
    let asked : Request := { transfer := 1, endpoint := 129, length := 8, timeout := 1000 }
    .submitted asked 0 ∈ run.rigState.stackState.history ∧
      asked.timeout = min small.settings.transferTimeout.milliseconds Session.maxTimeout ∧
      (asked.timeout = 0 ↔
        small.settings.transferTimeout.nanoseconds < Duration.perMillisecond) := by
  have member : .submitted { transfer := 1, endpoint := 129, length := 8, timeout := 1000 } 0 ∈
      (small.runAfter (Session.rig ScriptedStack.calls.journaled)
        { stackState := { state := forgetful } } 16).rigState.stackState.history := by
    decide +kernel
  exact ⟨member, timeout_of_request ScriptedStack.calls small forgetful 0 16 _ 0 member⟩

/-- A test whose transfers are to time out after half a millisecond. -/
def hasty : Benchmark where
  settings := { small.settings with transferTimeout := .ofMicroseconds 500 }
  direction := .inbound

/-- A test with valid settings whose transfers never time out. -/
theorem timeout_of_request_hasty :
    hasty.settings.validate = .ok () ∧
      let start : Session (Journal StackEvent ScriptedStack) :=
        { stackState := { state := { host := { script := {} } } } }
      let run := hasty.runAfter (Session.rig ScriptedStack.calls.journaled) start 1
      .submitted ⟨0, 129, 8, 0⟩ 0 ∈ run.rigState.stackState.history := by
  decide +kernel

end Benchmark

end UsbThroughput
