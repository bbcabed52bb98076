import Mathlib.Algebra.BigOperators.Group.List.Basic
import Mathlib.Data.Nat.Find
import UsbThroughput.Proofs.Benchmark.Faults
import UsbThroughput.Proofs.Run.Allowance
import UsbThroughput.Proofs.Script.Faithful
import UsbThroughput.Proofs.Settings

/-!
# A test that makes progress ends

On a faithful device whose event calls either fail or hand over transfers that have finished, with
at least one byte in each that completed, a test is decided: no mix of short transfers, stalls,
recoveries and idle slots keeps it going. How many event calls that takes at most can be told from
the settings (`Benchmark.decided_in_time`). The exception is a target so close to the largest count
that the total overflows instead of exceeding it (`Benchmark.undecided_at_capacity`).
-/

namespace UsbThroughput

open RigEvent

/-- Whether the main loop of a test has been left, be it that the test was broken off. -/
def Stage.isPastLoop (stage : Stage) : Bool := stage.isFinal || stage.isOver

/-- The main loop is left to wind up, unless the test is broken off. -/
theorem Stage.cancelling_of_leadsTo {stage next : Stage} (leads : stage.leadsTo next = true)
    (within : stage.isPastLoop = false) (past : next.isPastLoop = true) :
    next = .cancelling ∨ ∃ fault, next = .broken fault := by
  cases stage <;> cases next <;> simp_all [leadsTo, isPastLoop, isFinal, isOver]

namespace Settings

/-- A completed transfer that moved something counts for something. -/
theorem one_le_of_worth? {settings : Settings} {direction : Direction} {completion : Completion}
    {worth : Nat} (counts : settings.worth? direction completion = some worth)
    (room : 1 ≤ settings.transferLength direction)
    (moved : completion.status = .completed → 1 ≤ completion.length) : 1 ≤ worth := by
  unfold worth? at counts
  split at counts
  next completed =>
    cases counts
    exact Nat.le_min.mpr ⟨moved completed.1, room⟩
  · contradiction

end Settings

namespace Benchmark

variable {σ : Type} (rig : Rig σ) (benchmark : Benchmark) (state : σ)

/-- **A device makes progress** as long as a test on it is not decided: it is faithful, and each
event call fails or hands over finished transfers, with at least one byte if they completed. -/
structure MakesProgress : Prop where
  faithful : ∀ count, (benchmark.runAfter rig.journaled { state } count).stage.isFinal = false →
    Faithful (benchmark.runAfter rig.journaled { state } count).rigState.history
  progress : ∀ count, (benchmark.runAfter rig.journaled { state } count).stage.isFinal = false →
    ∀ event ∈ (benchmark.runAfter rig.journaled { state } count).rigState.history, event.Progresses

/-- Whether no event call of a history failed. -/
def Unfailing (history : List RigEvent) : Prop :=
  ∀ event ∈ history, event.isPoll = true → event.goesOn = true

instance (history : List RigEvent) : Decidable (Unfailing history) :=
  inferInstanceAs (Decidable (∀ event ∈ history, event.isPoll = true → event.goesOn = true))

private theorem countP_isPoll (history : List RigEvent) :
    (deviceCalls history).countP isPoll = history.countP isPoll :=
  countP_deviceCalls (fun _ => onDevice_of_isPoll) history

private theorem unfailing_deviceCalls {history : List RigEvent} :
    Unfailing (deviceCalls history) ↔ Unfailing history :=
  ⟨fun unfailing event member polls => unfailing event
      (List.mem_filter.mpr ⟨member, onDevice_of_isPoll polls⟩) polls,
    fun unfailing event member => unfailing event (List.mem_of_mem_filter member)⟩

/-- What was handed over by a device that makes progress has moved something, if it completed. -/
theorem one_le_of_delivered {history : List RigEvent}
    (progress : ∀ event ∈ history, event.Progresses) (unfailing : Unfailing history)
    {completion : Completion} (member : completion ∈ delivered history)
    (completed : completion.status = .completed) : 1 ≤ completion.length := by
  obtain ⟨event, found, among⟩ := List.mem_flatMap.mp member
  have polls : event.isPoll = true := by
    apply Bool.of_not_eq_false
    intro other
    rw [handedOver_of_isPoll_eq_false other] at among
    contradiction
  exact (progress event found (unfailing event found polls)).2 completion among completed

/-- Up to the decision, slots are held. -/
theorem holdsSlots_of_going {stage : Stage} (going : stage.isFinal = false) :
    stage.holdsSlots = true := by
  cases stage <;> first | rfl | contradiction

variable {benchmark rig state} {count : Nat}

private theorem going_before
    (going : (benchmark.runAfter rig state (count + 1)).stage.isFinal = false) :
    (benchmark.runAfter rig state count).stage.isFinal = false := by
  apply Bool.of_not_eq_true
  intro final
  have still := isFinal_runAfter rig (Nat.le_succ count) final
  exact Bool.noConfusion (going.symm.trans still)

namespace MakesProgress

/-- Only what happened until the test was over matters. -/
theorem of_isOver
    (stopped : (benchmark.runAfter rig.journaled { state } count).stage.isOver = true)
    (faithful : Faithful (benchmark.runAfter rig.journaled { state } count).rigState.history)
    (progress : ∀ event ∈ (benchmark.runAfter rig.journaled { state } count).rigState.history,
      event.Progresses) : benchmark.MakesProgress rig state where
  faithful earlier _ := faithful.of_isPrefix (history_isPrefix rig stopped earlier)
  progress earlier _ event member :=
    progress event ((history_isPrefix rig stopped earlier).subset member)

/-- Only what happened up to the decision matters. -/
theorem of_decided
    (decided : (benchmark.runAfter rig.journaled { state } count).stage.isFinal = true)
    (faithful : Faithful (benchmark.runAfter rig.journaled { state } count).rigState.history)
    (progress : ∀ event ∈ (benchmark.runAfter rig.journaled { state } count).rigState.history,
      event.Progresses) : benchmark.MakesProgress rig state := by
  have before {earlier : Nat}
      (going : (benchmark.runAfter rig.journaled { state } earlier).stage.isFinal = false) :
      earlier ≤ count := by
    apply Nat.le_of_not_le
    intro after
    exact Bool.noConfusion (going.symm.trans (isFinal_runAfter rig.journaled after decided))
  exact
    { faithful earlier going := faithful.of_isPrefix (benchmark.history_runAfter_le rig state
        (before going))
      progress earlier going event member := progress event
        ((benchmark.history_runAfter_le rig state (before going)).subset member) }

variable (progress : benchmark.MakesProgress rig state)
  (valid : benchmark.settings.validate = .ok ())

include progress valid

/-- Every completion at hand takes something from the allowance of the run. -/
theorem feeds (going : (benchmark.runAfter rig.journaled { state } count).stage.isFinal = false)
    (unfailing : Unfailing (benchmark.runAfter rig.journaled { state } count).rigState.history)
    {completion : Completion} {rest : List Completion}
    (waiting : (benchmark.runAfter rig.journaled { state } count).arrivals = completion :: rest) :
    (benchmark.runAfter rig.journaled { state } count).Feeds completion := by
  have holds := holdsSlots_of_going going
  have faithful := progress.faithful count going
  have accounts := benchmark.accounts_runAfter rig state holds faithful
  obtain ⟨slot, held, flying⟩ := accounts.submitted_of_waiting faithful waiting
  refine ⟨slot, held, flying, fun completed => Nat.le_min.mpr ⟨?_, ?_⟩⟩
  · have member : completion ∈
        delivered (benchmark.runAfter rig.journaled { state } count).rigState.history := by
      rw [benchmark.handed_runAfter rig state count, waiting]
      exact List.mem_append_right _ List.mem_cons_self
    exact one_le_of_delivered (progress.progress count going) unfailing member completed
  · rw [(benchmark.fitted_runAfter rig.journaled { state } holds).size_eq held]
    rw [(benchmark.settings_runAfter rig.journaled { state } count).1]
    exact (Settings.transferLength_bounds valid _).1

/-- **Event calls are paid for.** While the test is not decided no event call has failed, and the
event calls so far and what the run may still take are no more than what there was at first. -/
theorem polls_le
    (going : (benchmark.runAfter rig.journaled { state } count).stage.isFinal = false) :
    Unfailing (benchmark.runAfter rig.journaled { state } count).rigState.history ∧
      (benchmark.runAfter rig.journaled { state } count).rigState.history.countP isPoll +
          (benchmark.runAfter rig.journaled { state } count).allowance ≤
        (benchmark.runAfter rig.journaled { state } 0).allowance +
          (benchmark.runAfter rig.journaled { state } count).pending := by
  induction count with
  | zero =>
      have none : ∀ event ∈ (benchmark.runAfter rig.journaled { state } 0).rigState.history,
          event.isPoll = false := fun event member =>
        isPoll_of_aside (benchmark.aside_begin rig state event member)
      refine ⟨fun event member polls => ?_, ?_⟩
      · rw [none event member] at polls
        contradiction
      · have nothing := List.countP_eq_zero.mpr fun event member =>
          Bool.eq_false_iff.mp (none event member)
        rw [nothing, Nat.zero_add]
        exact Nat.le_add_right _ _
  | succ count ih =>
      have before := going_before going
      obtain ⟨unfailing, paid⟩ := ih before
      obtain ⟨calls, performs, advance⟩ := benchmark.advances_runAfter rig state count
      have grown := performs.deviceCalls_eq
      have answered : Unfailing calls := by
        rcases advance.asks before with none | ⟨_, call, rfl, goesOn⟩
        · exact fun call member polls => Bool.noConfusion ((none call member).symm.trans polls)
        · exact List.forall_mem_singleton.mpr fun _ => goesOn going
      have spent : Run.Spends _ calls _ :=
        advance.spends before (benchmark.halted_of_filling rig state)
          (benchmark.staged_runAfter rig.journaled { state } count).cleared
          (fun completion rest waiting => progress.feeds valid before unfailing waiting)
          (fun call member =>
            progress.progress (count + 1) going call (performs.mem_history member))
      have paying : calls.countP isPoll = calls.countP goesOn :=
        List.countP_congr fun call member => ⟨answered call member, isPoll_of_goesOn⟩
      refine ⟨?_, ?_⟩
      · rw [← unfailing_deviceCalls, grown]
        exact List.forall_mem_append.mpr ⟨unfailing_deviceCalls.mpr unfailing, answered⟩
      · rw [← countP_isPoll, grown, List.countP_append, countP_isPoll, paying]
        rw [Run.Spends] at spent
        omega

/-- The step that decides the test may make one more event call. -/
theorem polls_le_succ
    (going : (benchmark.runAfter rig.journaled { state } count).stage.isFinal = false) :
    (benchmark.runAfter rig.journaled { state } (count + 1)).rigState.history.countP isPoll ≤
      (benchmark.runAfter rig.journaled { state } 0).allowance + 1 := by
  obtain ⟨_, paid⟩ := progress.polls_le valid going
  obtain ⟨calls, performs, advance⟩ := benchmark.advances_runAfter rig state count
  rw [← countP_isPoll, performs.deviceCalls_eq, List.countP_append, countP_isPoll]
  rcases advance.asks going with none | ⟨waiting, call, rfl, _⟩
  · have nothing : calls.countP isPoll = 0 := List.countP_eq_zero.mpr fun call member =>
      Bool.eq_false_iff.mp (none call member)
    have one := Run.pending_le_one (benchmark.runAfter rig.journaled { state } count)
    omega
  · -- Whenever completions are asked for, those that came before have all been acted on.
    have empty : (benchmark.runAfter rig.journaled { state } count).pending = 0 :=
      if_pos ((benchmark.staged_runAfter rig.journaled { state } count).cleared (waiting ▸ rfl))
    have one : [call].countP isPoll ≤ 1 := List.countP_le_length
    omega

/-- The main loop is left at some time. -/
theorem leaves_loop : ∃ count,
    (benchmark.runAfter rig.journaled { state } count).stage.isPastLoop = true := by
  have stops (stage : Stage) (stopped : stage.isOver = true) : stage.isPastLoop = true :=
    Bool.or_eq_true_iff.mpr (Or.inr stopped)
  have bounded (count : Nat)
      (within : (benchmark.runAfter rig.journaled { state } count).stage.isPastLoop = false) :
      (benchmark.runAfter rig.journaled { state } count).rigState.history.countP goesOn ≤
        (benchmark.runAfter rig.journaled { state } 0).allowance + 1 := by
    obtain ⟨_, paid⟩ := progress.polls_le valid (Bool.or_eq_false_iff.mp within).1
    have one := Run.pending_le_one (benchmark.runAfter rig.journaled { state } count)
    have fewer : (benchmark.runAfter rig.journaled { state } count).rigState.history.countP goesOn ≤
        (benchmark.runAfter rig.journaled { state } count).rigState.history.countP isPoll :=
      List.countP_mono_left fun _ _ => isPoll_of_goesOn
    omega
  obtain ⟨later, _, arrived⟩ := benchmark.reaches_of_bounded rig state stops bounded 0
  exact ⟨later, arrived⟩

/-- **What breaks off a test that makes progress** is its total of bytes: it did not exceed the
target, and one more transfer would have taken it past the largest count. -/
theorem overflows {fault : Fault}
    (broken : (benchmark.runAfter rig.journaled { state } count).stage = .broken fault) :
    ∃ bytes ≤ benchmark.settings.transferLength benchmark.direction,
      (benchmark.runAfter rig.journaled { state } count).meter.bytesTotal ≤
          benchmark.settings.dataSize ∧
        Meter.capacity <
          (benchmark.runAfter rig.journaled { state } count).meter.bytesTotal + bytes := by
  have going : (benchmark.runAfter rig.journaled { state } count).stage.isFinal = false := by
    rw [broken]
    rfl
  obtain ⟨unfailing, _⟩ := progress.polls_le valid going
  have long := (Settings.transferLength_bounds valid benchmark.direction).1
  have moved {completion : Completion} (member : completion ∈
      delivered (benchmark.runAfter rig.journaled { state } count).rigState.history) :=
    one_le_of_delivered (progress.progress count going) unfailing member
  obtain ⟨completion, member, bytes, worth, few, _, overflow⟩ :=
    benchmark.overflow_of_broken rig state broken
  refine ⟨bytes, Settings.le_of_worth? worth, few, ?_⟩
  rcases overflow with total | completions
  · exact total
  · -- Each transfer that was counted has moved at least one byte, and so has the last one.
    obtain ⟨counted, tallies, before, _⟩ :=
      benchmark.tallied_runAfter rig.journaled { state } count
    obtain ⟨settings, direction⟩ := benchmark.settings_runAfter rig.journaled { state } count
    rw [settings, direction] at before
    have some : ∀ worth ∈ counted, 1 ≤ worth := by
      intro worth among
      obtain ⟨taken, found, counts⟩ := List.mem_filterMap.mp (before.subset among)
      have handed : taken ∈ delivered
          (benchmark.runAfter rig.journaled { state } count).rigState.history := by
        rw [benchmark.handed_runAfter rig state count]
        exact List.mem_append_left _ found
      exact Settings.one_le_of_worth? counts long (moved handed)
    have last : 1 ≤ bytes := Settings.one_le_of_worth? worth long (moved member)
    have fewer := List.length_le_sum_of_one_le counted some
    rw [← tallies.completions_eq, ← tallies.bytesTotal_eq] at fewer
    omega

end MakesProgress

/-- At the beginning a test is allowed its target, and every slot for each recovery and once
more. -/
private theorem allowance_runAfter_zero (rig : Rig σ) (benchmark : Benchmark) (state : σ) :
    (benchmark.runAfter rig state 0).allowance =
      benchmark.settings.dataSize + benchmark.settings.queueDepth benchmark.direction *
        (benchmark.settings.recoveriesAllowed + 1) := by
  have empty := inFlight_ofSettings benchmark.settings benchmark.direction
  have depth := Queue.depth_ofSettings benchmark.settings benchmark.direction
  change benchmark.settings.dataSize - 0 +
    (Queue.ofSettings benchmark.settings benchmark.direction).inFlight +
    (Queue.ofSettings benchmark.settings benchmark.direction).depth *
      (benchmark.settings.recoveriesAllowed - 0 + 1) = _
  rw [empty, depth]
  rfl

/-- No more attempts are made to clear a halt than recoveries are allowed. -/
theorem clearings_le (rig : Rig σ) (benchmark : Benchmark) (state : σ) (count : Nat) :
    (benchmark.runAfter rig.journaled { state } count).rigState.history.countP clearsHalt ≤
      benchmark.settings.recoveriesAllowed := by
  have attempts := benchmark.attempts_runAfter rig state count
  have same := (benchmark.settings_runAfter rig.journaled { state } count).1
  refine attempts.most.trans ?_
  cases policy : benchmark.settings.stallRecovery with
  | leaveIdle =>
      rw [attempts.unrecovered (by rw [same, policy])]
      exact Nat.zero_le _
  | clearHalt maxAttempts =>
      rw [Settings.recoveriesAllowed, policy]
      exact attempts.bounded maxAttempts (by rw [same, policy])

/-- **A test that makes progress is decided.** On a device that makes progress, every valid test
leaves its main loop and goes on to cancel what is in flight, after no more event calls than its
target, its slots and its recoveries allow, and no more clearings of a halt than recoveries. Only a
test whose target lies within one transfer of the largest count may be broken off instead: its
total did not exceed the target, and one more transfer took it past that count. -/
theorem decided_in_time (rig : Rig σ) (benchmark : Benchmark) (state : σ)
    (valid : benchmark.settings.validate = .ok ())
    (progress : benchmark.MakesProgress rig state) :
    ∃ count,
      let run := benchmark.runAfter rig.journaled { state } count
      (run.stage = .cancelling ∨
        run.stage = .broken .countOverflow ∧
          Meter.capacity < benchmark.settings.dataSize +
            benchmark.settings.transferLength benchmark.direction ∧
          ∃ bytes ≤ benchmark.settings.transferLength benchmark.direction,
            run.meter.bytesTotal ≤ benchmark.settings.dataSize ∧
              Meter.capacity < run.meter.bytesTotal + bytes) ∧
      run.rigState.history.countP isPoll ≤
        benchmark.settings.dataSize + benchmark.settings.queueDepth benchmark.direction *
          (benchmark.settings.recoveriesAllowed + 1) + 1 ∧
      run.rigState.history.countP clearsHalt ≤ benchmark.settings.recoveriesAllowed := by
  have leaves := progress.leaves_loop valid
  have arrived := Nat.find_spec leaves
  have first := @Nat.find_min _ _ leaves
  generalize Nat.find leaves = count at arrived first
  cases count with
  | zero => contradiction
  | succ count =>
      have within := Bool.of_not_eq_true (first (Nat.lt_succ_self count))
      have most := progress.polls_le_succ valid (Bool.or_eq_false_iff.mp within).1
      rw [allowance_runAfter_zero] at most
      refine ⟨count + 1, ?_, most, clearings_le rig benchmark state _⟩
      have leads := Run.leadsTo_step rig.journaled
        (benchmark.runAfter rig.journaled { state } count)
      rw [← benchmark.runAfter_succ] at leads
      rcases Stage.cancelling_of_leadsTo leads within arrived with cancelling | ⟨fault, broken⟩
      · exact Or.inl cancelling
      · obtain ⟨bytes, short, few, many⟩ := progress.overflows valid broken
        refine Or.inr ⟨?_, many.trans_le (Nat.add_le_add few short), bytes, short, few, many⟩
        rw [broken, benchmark.fault_runAfter rig.journaled { state } broken]

/-- The small test is decided although its first transfer stalls. -/
theorem decided_in_time_stalling :
    small.settings.validate = .ok () ∧ small.MakesProgress ScriptedDevice.rig stalling ∧
      ∃ count,
        let run := small.runAfter ScriptedDevice.rig.journaled { state := stalling } count
        run.stage = .cancelling ∧ run.rigState.history.countP isPoll ≤ 20 + 2 * (3 + 1) + 1 ∧
          run.rigState.history.countP clearsHalt ≤ 3 := by
  have valid : small.settings.validate = .ok () := by decide
  have decided : (small.runAfter ScriptedDevice.rig.journaled
      { state := stalling } 19).stage.isFinal = true := by decide +kernel
  have progress : small.MakesProgress ScriptedDevice.rig stalling :=
    .of_decided decided (by decide +kernel) (by decide +kernel)
  obtain ⟨count, left, polls, clearings⟩ :=
    small.decided_in_time ScriptedDevice.rig stalling valid progress
  refine ⟨valid, progress, count, left.resolve_right fun broken => ?_, polls, clearings⟩
  exact absurd broken.2.1 (by decide)

/-! ## A target that no total exceeds -/

/-- A test of one slot of eight bytes whose target is the largest count. -/
def insatiable : Benchmark where
  settings := { dataSize := Meter.capacity, inboundLength := 8, inboundDepth := 1 }
  direction := .inbound

/-- A device that completes one transfer after another, for more event calls than can be
counted. -/
def tireless : ScriptedDevice where
  host := { script := { maxEvents := UInt64.size } }

namespace Insatiable

/-- The device after so many event calls. -/
def device (pending : List (Nat × Nat)) (calls : Nat) (clock : Duration) : ScriptedDevice where
  host := { tireless.host with pending, eventCalls := calls, clock }

/-- What each event call answers. -/
def answer : Polled where
  delivered := [⟨0, .completed, 8⟩]
  result := .ok ()

/-- The meter after so many completed transfers. -/
def meter (rounds : Nat) : Meter where
  target := Meter.capacity
  bytesTotal := 8 * rounds
  completions := rounds
  started := some .zero

/-- The only slot of the test. -/
def slot : Slot := .inbound 0 (Direction.inbound.address 1) 8 (.ofMilliseconds 1000)

section

variable (clock : Duration) (entries : List (RigEvent × ScriptedDevice)) (rounds : Nat)

/-- The run after so many completed transfers, with the next one in flight. -/
def underway : Run (Journal RigEvent ScriptedDevice) :=
  { Run.begin insatiable.settings insatiable.direction
      { state := device [(0, 8)] rounds clock, entries } with
    queue := { direction := .inbound, slots := [{ slot with state := .submitted }] }
    meter := meter rounds
    stage := .waiting }

/-- The run when that one was handed over. -/
def answered : Run (Journal RigEvent ScriptedDevice) :=
  { underway clock entries rounds with
    rigState :=
      { state := device [] (rounds + 1) clock
        entries :=
          (.polled (.ofMilliseconds 100) answer, device [] (rounds + 1) clock) :: entries }
    arrivals := answer.delivered
    stage := .handling }

/-- The run when it was applied to its slot. -/
def applied : Run (Journal RigEvent ScriptedDevice) :=
  { answered clock entries rounds with
    queue := { direction := .inbound, slots := [slot.complete .completed 8] }
    arrivals := [] }

end

/-- Calls that show progress, on a device that lists nothing. -/
def Plain (entries : List (RigEvent × ScriptedDevice)) : Prop :=
  ∀ entry ∈ entries, entry.1.Progresses ∧ entry.2.host.script.events = []

instance (entries : List (RigEvent × ScriptedDevice)) : Decidable (Plain entries) :=
  inferInstanceAs (Decidable (∀ entry ∈ entries, _ ∧ _))

private theorem progresses_answer (timeout : Duration) :
    RigEvent.Progresses (.polled timeout answer) := fun _ =>
  ⟨List.cons_ne_nil _ _, List.forall_mem_singleton.mpr fun _ => Nat.succ_pos 7⟩

variable {rounds : Nat} (clock : Duration) (entries : List (RigEvent × ScriptedDevice))

private theorem not_terminated_meter (few : 8 * rounds ≤ Meter.capacity) :
    ¬(meter rounds).terminated = true := by
  rw [Meter.terminated, Bool.or_eq_true_iff, decide_eq_true_iff]
  rintro (exceeded | failed)
  · exact absurd exceeded (Nat.not_lt.mpr few)
  · contradiction

private theorem record?_meter (now : Duration) :
    (meter rounds).record? now 8 =
      if 8 * (rounds + 1) ≤ Meter.capacity then some (meter (rounds + 1)) else none := by
  change (if Meter.capacity < 8 * (rounds + 1) ∨ Meter.capacity < rounds + 1 then none
    else some (if Meter.capacity < 8 * (rounds + 1) then _ else meter (rounds + 1))) = _
  split
  next many => rw [if_neg (by omega)]
  next few => rw [if_neg (by omega), if_pos (by omega)]

/-- The device completes what is in line. -/
private theorem poll_device (within : rounds < UInt64.size) (timeout : Duration) :
    ScriptedDevice.rig.poll timeout (device [(0, 8)] rounds clock) =
      (answer, device [] (rounds + 1) clock) := by
  have handles : (device [(0, 8)] rounds clock).host.handleEvents .named timeout =
      (([⟨0, .completed, 8⟩], .ok ()), (device [] (rounds + 1) clock).host) := by
    change (if UInt64.size < rounds + 1 then _ else _) = _
    rw [if_neg (Nat.not_lt.mpr within)]
    rfl
  simp only [ScriptedDevice.rig, ScriptedDevice.poll, ScriptedDevice.onHost, handles]
  rfl

/-- The transfer in flight is waited for, applied to its slot, and counted. -/
theorem steps_underway (few : 8 * rounds ≤ Meter.capacity) :
    ((underway clock entries rounds).step ScriptedDevice.rig.journaled).step
        ScriptedDevice.rig.journaled =
      (applied clock entries rounds).onCompleted ScriptedDevice.rig.journaled 0
        (slot.complete .completed 8) := by
  have within : rounds < UInt64.size := by
    have capacity : Meter.capacity < UInt64.size := by decide
    omega
  have flying : (underway clock entries rounds).queue.inFlight ≠ 0 := Nat.one_ne_zero
  have going : ¬(underway clock entries rounds).meter.terminated = true := not_terminated_meter few
  have waited : (underway clock entries rounds).settings.eventTimeout = .ofMilliseconds 100 := rfl
  have polled : ScriptedDevice.rig.journaled.poll (.ofMilliseconds 100)
      (underway clock entries rounds).rigState =
        (answer, (answered clock entries rounds).rigState) :=
    Journal.record_of_eq _ (poll_device clock within (.ofMilliseconds 100))
  have first : (underway clock entries rounds).step ScriptedDevice.rig.journaled =
      answered clock entries rounds := by
    change (underway clock entries rounds).wait _ = _
    rw [Run.wait, if_neg going, if_neg flying, Run.poll, waited, polled]
    rfl
  rw [first]
  change (if (underway clock entries rounds).meter.terminated = true then _ else _) = _
  rw [if_neg going]
  rfl

/-- **A round of the test.** As long as the total does not overflow, the slot is submitted again. -/
theorem round (few : 8 * (rounds + 1) ≤ Meter.capacity) (plain : Plain entries) :
    ∃ later written, Plain written ∧
      (((underway clock entries rounds).step ScriptedDevice.rig.journaled).step
          ScriptedDevice.rig.journaled).step ScriptedDevice.rig.journaled =
        underway later written (rounds + 1) := by
  let later := clock.add ⟨1⟩
  let written : List (RigEvent × ScriptedDevice) :=
    (.submitted { slot with state := .completed } (.ok ()), device [(0, 8)] (rounds + 1) later) ::
      (.noted (.completed 0 8 (8 * (rounds + 1))), device [] (rounds + 1) later) ::
        (.polled (.ofMilliseconds 100) answer, device [] (rounds + 1) clock) :: entries
  refine ⟨later, written, ?_, ?_⟩
  · exact List.forall_mem_cons.mpr ⟨⟨nofun, rfl⟩, List.forall_mem_cons.mpr ⟨⟨nofun, rfl⟩,
      List.forall_mem_cons.mpr ⟨⟨progresses_answer _, rfl⟩, plain⟩⟩⟩
  have counted : (applied clock entries rounds).meter.record?
      (ScriptedDevice.rig.journaled.now (applied clock entries rounds).rigState).1
      (slot.complete .completed 8).moved = some (meter (rounds + 1)) :=
    (record?_meter clock).trans (if_pos few)
  have submitted : (applied clock entries rounds).onCompleted ScriptedDevice.rig.journaled 0
      (slot.complete .completed 8) =
        { underway later written (rounds + 1) with stage := .handling } := by
    unfold Run.onCompleted
    dsimp only
    rw [counted]
    dsimp only
    rw [if_neg (not_terminated_meter few)]
    rfl
  rw [steps_underway clock entries (by omega), submitted]
  rfl

/-- **The last round of the test.** The transfer with which the total would overflow breaks the
test off. -/
theorem last_round (few : 8 * rounds ≤ Meter.capacity)
    (many : Meter.capacity < 8 * (rounds + 1)) (plain : Plain entries) :
    let last := ((underway clock entries rounds).step ScriptedDevice.rig.journaled).step
      ScriptedDevice.rig.journaled
    last.stage = .broken .countOverflow ∧ Plain last.rigState.entries := by
  have overflow : (applied clock entries rounds).meter.record?
      (ScriptedDevice.rig.journaled.now (applied clock entries rounds).rigState).1
      (slot.complete .completed 8).moved = none :=
    (record?_meter clock).trans (if_neg (Nat.not_le.mpr many))
  have broken : (applied clock entries rounds).onCompleted ScriptedDevice.rig.journaled 0
      (slot.complete .completed 8) = Run.breakOff ScriptedDevice.rig.journaled .countOverflow
        { applied clock entries rounds with
          rigState :=
            { (applied clock entries rounds).rigState with
              state := device [] (rounds + 1) (clock.add ⟨1⟩) } } := by
    unfold Run.onCompleted
    dsimp only
    rw [overflow]
    rfl
  intro last
  have same : last = _ := (steps_underway clock entries few).trans broken
  rw [same]
  exact ⟨rfl, List.forall_mem_cons.mpr ⟨⟨nofun, rfl⟩,
    List.forall_mem_cons.mpr ⟨⟨progresses_answer _, rfl⟩, plain⟩⟩⟩

/-- The test goes on for as many rounds as can be counted. -/
theorem reaches_underway (few : 8 * rounds ≤ Meter.capacity) :
    ∃ count clock entries, Plain entries ∧
      insatiable.runAfter ScriptedDevice.rig.journaled { state := tireless } count =
        underway clock entries rounds := by
  induction rounds with
  | zero =>
      have plain : Plain (insatiable.runAfter ScriptedDevice.rig.journaled
        { state := tireless } 2).rigState.entries := by decide
      exact ⟨2, _, _, plain, rfl⟩
  | succ rounds ih =>
      obtain ⟨count, clock, entries, plain, same⟩ := ih (by omega)
      obtain ⟨later, written, shown, next⟩ := round clock entries few plain
      rw [← same, ← runAfter_succ, ← runAfter_succ, ← runAfter_succ] at next
      exact ⟨count + 3, later, written, shown, next⟩

end Insatiable

/-- **A test with the largest count as its target is never decided**, however long the device makes
progress: no total exceeds that count, so the test is broken off. -/
theorem undecided_at_capacity :
    insatiable.settings.validate = .ok () ∧
      insatiable.MakesProgress ScriptedDevice.rig tireless ∧
      (∃ count, (insatiable.runAfter ScriptedDevice.rig.journaled
        { state := tireless } count).stage = .broken .countOverflow) ∧
      ∀ count, (insatiable.runAfter ScriptedDevice.rig.journaled
        { state := tireless } count).stage ≠ .cancelling := by
  have few : 8 * (Meter.capacity / 8) ≤ Meter.capacity := Nat.mul_div_le _ _
  have many : Meter.capacity < 8 * (Meter.capacity / 8 + 1) :=
    Nat.lt_mul_div_succ _ (Nat.succ_pos 7)
  obtain ⟨last, broken, plain⟩ : ∃ last,
      (insatiable.runAfter ScriptedDevice.rig.journaled { state := tireless } last).stage =
          .broken .countOverflow ∧
        Insatiable.Plain (insatiable.runAfter ScriptedDevice.rig.journaled
          { state := tireless } last).rigState.entries := by
    obtain ⟨count, clock, entries, plain, same⟩ := Insatiable.reaches_underway few
    have ends := Insatiable.last_round clock entries few many plain
    rw [← same, ← runAfter_succ, ← runAfter_succ] at ends
    exact ⟨count + 2, ends⟩
  have stopped : (insatiable.runAfter ScriptedDevice.rig.journaled
      { state := tireless } last).stage.isOver = true := congrArg Stage.isOver broken
  have faithful : Faithful (insatiable.runAfter ScriptedDevice.rig.journaled
      { state := tireless } last).rigState.history := by
    have listed : Journal.Throughout tireless.ListsInLine (insatiable.runAfter
        ScriptedDevice.rig.journaled { state := tireless } last).rigState.entries.reverse :=
      ScriptedDevice.listsInLine_of_unlisted rfl fun entry member =>
        (plain entry (List.mem_reverse.mp member)).2
    have run : insatiable.run ScriptedDevice.rig.journaled last { state := tireless } = _ :=
      insatiable.run_of_connected ScriptedDevice.rig.journaled rfl rfl
    have faithful := insatiable.faithful_of_listsInLine last tireless rfl rfl
    rw [run] at faithful
    exact faithful listed
  have progress : insatiable.MakesProgress ScriptedDevice.rig tireless :=
    .of_isOver stopped faithful fun event member => by
      obtain ⟨entry, found, rfl⟩ := List.mem_map.mp (List.mem_reverse.mp member)
      exact (plain entry found).1
  refine ⟨by decide, progress, ⟨last, broken⟩, fun count cancelling => ?_⟩
  -- A test that was decided is not broken off later, and one that was broken off not decided.
  rcases Nat.le_total count last with before | after
  · have final := isFinal_runAfter ScriptedDevice.rig.journaled before
      (congrArg Stage.isFinal cancelling)
    rw [broken] at final
    contradiction
  · rw [insatiable.runAfter_of_isOver ScriptedDevice.rig.journaled stopped after, broken]
      at cancelling
    contradiction

end Benchmark

end UsbThroughput
