import UsbThroughput.Proofs.Benchmark.Addressing
import UsbThroughput.Proofs.Benchmark.Recovery
import UsbThroughput.Proofs.Run.Bounds
import UsbThroughput.Proofs.Session.Requests
import UsbThroughput.Script.Stack

/-!
# What can break a benchmark

Whatever a device does, be it to hand over completions twice, of slots that it does not have, or
with lengths past all bounds, a benchmark is broken off only when its total overflows, and that
takes a target within one transfer of the largest count.
-/

namespace UsbThroughput.Benchmark

open RigEvent

/-- A benchmark whose slots can all have a transfer does not break its session. -/
theorem whole_runAfter {β : Type} (stack : Stack β) {benchmark : Benchmark}
    (narrow : benchmark.settings.queueDepth benchmark.direction < UInt64.size)
    {session : Session β} (unbroken : session.broken = none) (count : Nat) :
    ∀ entry ∈ (benchmark.runAfter (Session.rig stack).journaled
      { state := session } count).rigState.entries, entry.2.broken = none := by
  have start : Session.Whole { state := session } := fun _ => ⟨unbroken, List.forall_mem_nil _⟩
  refine (benchmark.keeps_runAfter (Session.keeps_whole stack) _ start count ?_).2
  intro slot result member
  have suits := benchmark.suits_of_submitted (Session.rig stack) session member
  exact suits.placed.trans_le (Nat.le_pred_of_lt narrow)

/-- **A benchmark is broken off only at the largest count.** On every device, and on every session
of a stack, nothing but an overflow breaks off a benchmark. If fewer transfers were handed over
than a count can hold, it is the total of bytes that overflows, by a completed transfer that was
counted while the total did not exceed the target; so the target lies within one transfer of the
largest count. At no moment does a slot show more than its buffer holds, and recoveries are never
counted past their limit. A session is not broken, since a word of 64 bits counts its slots. -/
theorem broken_only_at_capacity (benchmark : Benchmark)
    (narrow : benchmark.settings.queueDepth benchmark.direction < UInt64.size) :
    (∀ {σ : Type} (rig : Rig σ) (state : σ) (count : Nat),
      let run := benchmark.runAfter rig.journaled { state } count
      (∀ fault, run.stage = .broken fault → fault = .countOverflow ∧
        ((delivered run.rigState.history).length < UInt64.size →
          Meter.capacity < benchmark.settings.dataSize +
            benchmark.settings.transferLength benchmark.direction ∧
          ∃ completion ∈ delivered run.rigState.history, ∃ bytes,
            benchmark.settings.worth? benchmark.direction completion = some bytes ∧
            run.meter.bytesTotal ≤ benchmark.settings.dataSize ∧
            Meter.capacity < run.meter.bytesTotal + bytes)) ∧
      (∀ applied moment, (applied, moment) ∈ run.moments rig.journaled →
        ∀ id slot, moment.queue.slot? id = some slot → slot.actualLength ≤ slot.buffer.size) ∧
      (∀ maxAttempts, benchmark.settings.stallRecovery = .clearHalt maxAttempts →
        run.recoveries ≤ maxAttempts) ∧
      (benchmark.settings.stallRecovery = .leaveIdle → run.recoveries = 0)) ∧
    ∀ {β : Type} (stack : Stack β) (session : Session β) (count : Nat), session.broken = none →
      ∀ entry ∈ (benchmark.runAfter (Session.rig stack).journaled
        { state := session } count).rigState.entries, entry.2.broken = none := by
  refine ⟨?_, fun stack _ count unbroken => whole_runAfter stack narrow unbroken count⟩
  intro σ rig state count run
  refine ⟨fun fault broken => ⟨benchmark.fault_runAfter rig.journaled { state } broken, ?_⟩, ?_, ?_⟩
  · intro countable
    obtain ⟨completion, member, bytes, worth, few, sooner, overflow⟩ :=
      benchmark.overflow_of_broken rig state broken
    have room : run.meter.completions + 1 ≤ Meter.capacity :=
      Nat.le_pred_of_lt (Nat.lt_of_le_of_lt sooner countable)
    have full := overflow.resolve_right (Nat.not_lt.mpr room)
    have near := benchmark.capacity_lt_of_broken rig state broken room
    exact ⟨near, completion, member, bytes, worth, few, full⟩
  · intro applied moment member id slot held
    have path := Run.path_of_moment rig.journaled member
    exact (path.contained (benchmark.contained_runAfter rig.journaled { state } count)).slot held
  · have attempts := benchmark.attempts_runAfter rig state count
    have bounded := attempts.bounded
    have unrecovered := attempts.unrecovered
    rw [(benchmark.settings_runAfter rig.journaled { state } count).1] at bounded unrecovered
    exact ⟨bounded, unrecovered⟩

/-- A device that hands over completions of any kind: too long, twice, of an unknown slot, and of
a slot that stalled already; some of them in a call that fails. -/
def erratic : ScriptedDevice where
  host :=
    { script :=
        { events :=
            [{ deliveries :=
                some [⟨0, .completed, 500⟩, ⟨0, .completed, 500⟩, ⟨7, .completed, 8⟩] },
              { deliveries := some [⟨1, .stall, 9⟩, ⟨1, .stall, 9⟩, ⟨0, .cancelled, 3⟩] },
              { deliveries := some [⟨1, .completed, 4⟩, ⟨1, .error, 70⟩],
                result := some (.error .io) }] } }

/-- A stack whose callbacks run for any transfer, in calls that succeed and in one that fails. -/
def babbling : ScriptedStack where
  host :=
    { script :=
        { events :=
            [{ deliveries := some [⟨0, 0, 500⟩, ⟨0, 0, -1⟩, ⟨7, 0, 8⟩], result := some (-1) },
              { deliveries := some [⟨1, 4, 0⟩, ⟨1, 4, 0⟩] }] } }

/-- Neither the device nor the stack breaks anything. -/
theorem broken_only_at_capacity_erratic :
    let run := small.runAfter ScriptedDevice.rig.journaled { state := erratic } 23
    (delivered run.rigState.history).length = 9 ∧ run.recoveries = 1 ∧
    (∀ fault, run.stage ≠ .broken fault) ∧
    (∀ id slot, run.queue.slot? id = some slot → slot.actualLength ≤ slot.buffer.size) ∧
    ∀ entry ∈ (small.runAfter (Session.rig ScriptedStack.calls).journaled
      { state := { stackState := babbling } } 23).rigState.entries, entry.2.broken = none := by
  intro run
  obtain ⟨device, session⟩ := broken_only_at_capacity small (by decide)
  obtain ⟨faults, contained, _⟩ := device ScriptedDevice.rig erratic 23
  have few : (delivered run.rigState.history).length = 9 := by decide +kernel
  refine ⟨few, by decide +kernel, fun fault broken => ?_, ?_, session _ _ _ rfl⟩
  · have countable : (delivered run.rigState.history).length < UInt64.size := few ▸ by decide
    exact absurd ((faults fault broken).2 countable).1 (by decide)
  · exact contained [] run List.mem_cons_self

end UsbThroughput.Benchmark
