import UsbThroughput.Proofs.Benchmark.FullQueue
import UsbThroughput.Proofs.Run.Recovery

/-!
# How a test recovers from halts

Where the settings ask for it, a stall begins a recovery: the queue is emptied, the halt is cleared
at most once, and the queue is submitted again, so often as the settings allow. Otherwise no halt
is ever cleared, and nothing is cancelled before the test winds up.
-/

namespace UsbThroughput

open RigEvent

namespace Run

variable {σ : Type} {run last : Run σ} {calls : List RigEvent}

/-- **The recovery from halts**, as it is seen at one step with some calls. -/
structure Recovers (maxAttempts : Nat) (run : Run σ) (calls : List RigEvent) (last : Run σ) :
    Prop where
  /-- A recovery begins just with a stall that nothing stands against. -/
  begins : run.halted = false ∧ last.halted = true ↔ ∃ stall, run.Stalls maxAttempts stall
  /-- Then every slot in flight that was not cancelled before is cancelled, from the last to the
  first. -/
  cancels : ∀ stall, run.Stalls maxAttempts stall →
    last.recoveries = run.recoveries + 1 ∧ Cancels (run.receive stall).queue.slots calls ∧
      (calls.filterMap cancelled?).Pairwise fun first second => second.id < first.id
  /-- Nothing else is counted as a recovery. -/
  uncounted : (∀ stall, ¬run.Stalls maxAttempts stall) → last.recoveries = run.recoveries
  /-- Until the halt is cleared it stays, and no slot is submitted. -/
  emptying : run.halted = true → (∀ call ∈ calls, call.clearsHalt = false) →
    last.halted = true ∧ ∀ call ∈ calls, call.isSubmission = false
  /-- Further stalls and cancelled transfers do not fail the test. -/
  unharmed : run.halted = true → ∀ completion, run.next? = some completion →
    completion.status = .stall ∨ completion.status = .cancelled → last.meter = run.meter
  /-- An attempt to clear the halt is made in a recovery, with nothing in flight. -/
  attempts : (∃ call ∈ calls, call.clearsHalt = true) →
    run.halted = true ∧ run.meter.terminated = false ∧ run.queue.inFlight = 0 ∧
      run.Attempt calls last

/-- **Each step recovers from halts as it should**, whatever its course. -/
theorem Advance.recovers (advance : run.Advance calls last)
    (fresh : run.stage = .filling → run.halted = false)
    (numbered : run.stage.holdsSlots = true → run.queue.Numbered) {maxAttempts : Nat}
    (policy : run.settings.stallRecovery = .clearHalt maxAttempts) :
    run.Recovers maxAttempts calls last := by
  have unharmed (halted : run.halted = true) (completion : Completion)
      (taken : run.next? = some completion) :
      completion.status = .stall ∨ completion.status = .cancelled → last.meter = run.meter :=
    advance.unharmed halted taken
  cases advance.haltCourse fresh numbered with
  | begun allowed stall policy' stalls cancels halted counted meter =>
      have same : allowed = maxAttempts := StallRecovery.clearHalt.inj (policy'.symm.trans policy)
      subst same
      have free := stalls.free
      refine ⟨iff_of_true ⟨free, halted⟩ ⟨stall, stalls⟩, fun other again => ?_, fun unstalled => ?_,
        fun stuck => ?_, unharmed, ?_⟩
      · have one := Option.some.inj (stalls.taken.symm.trans again.taken)
        subst one
        refine ⟨counted, cancels, cancels.decreasing ?_⟩
        exact (numbered (stalls.handling ▸ rfl)).of_makes (makes_receive run stall)
      · exact (unstalled stall stalls).elim
      · rw [free] at stuck
        contradiction
      · rintro ⟨call, member, clears⟩
        rw [clearsHalt_of_isCancellation (cancels.isCancellation call member)] at clears
        contradiction
  | attempted waiting going empty halted attempt counted =>
      have unstalled (stall : Completion) : ¬run.Stalls maxAttempts stall := by
        intro stalls
        rw [stalls.free] at halted
        contradiction
      refine ⟨iff_of_false (fun begun => ?_) fun ⟨stall, stalls⟩ => unstalled stall stalls,
        fun stall stalls => (unstalled stall stalls).elim, fun _ => counted,
        fun _ unattempted => ?_, unharmed, fun _ => ⟨halted, going, empty, attempt⟩⟩
      · rw [begun.1] at halted
        contradiction
      · obtain ⟨endpoint, result, others, rfl, _⟩ := attempt.calls_eq
        have quiet := unattempted _ List.mem_cons_self
        contradiction
  | apart unstalled halted counted unattempted unsubmitted kept =>
      refine ⟨iff_of_false (fun begun => ?_) fun ⟨stall, stalls⟩ =>
          unstalled maxAttempts stall policy stalls,
        fun stall stalls => (unstalled maxAttempts stall policy stalls).elim, fun _ => counted,
        fun stuck _ => ⟨halted.trans stuck, unsubmitted stuck⟩, unharmed, ?_⟩
      · rw [halted, begun.1] at begun
        exact Bool.noConfusion begun.2
      · rintro ⟨call, member, clears⟩
        rw [unattempted call member] at clears
        contradiction

/-- Outside of a recovery, slots are cancelled only to wind up. -/
theorem Advance.of_cancelled (advance : run.Advance calls last)
    (policy : run.settings.stallRecovery = .leaveIdle) {slot : Slot} {result : UsbResult Unit}
    (member : .cancelled slot result ∈ calls) : run.stage = .cancelling := by
  have submission {calls : List RigEvent} (each : ∀ call ∈ calls, call.isSubmission = true)
      (member : .cancelled slot result ∈ calls) : False :=
    Bool.noConfusion (each (.cancelled slot result) member)
  cases advance with
  | recalled state deadline calls cancelling cancels => exact cancelling
  | filled state now later slots calls refusal filling empty fills =>
      exact (submission fills.isSubmission member).elim
  | recovered state later slots calls refusal waiting going empty halted fills =>
      have later := List.mem_of_ne_of_mem RigEvent.noConfusion member
      exact (submission fills.isSubmission later).elim
  | handled completion rest calls handling waiting reaction =>
      cases reaction with
      | resubmitted state now later slot next meter calls refusal _ _ _ _ _ _ fills =>
          exact (submission fills.isSubmission member).elim
      | begun state maxAttempts slot calls _ _ _ allowed _ _ _ =>
          rw [settings_receive] at allowed
          exact StallRecovery.noConfusion (policy.symm.trans allowed)
      | overflowed => cases List.mem_singleton.mp member
      | _ => cases member
  | closed state now result closing =>
      split at member <;>
        simp only [List.mem_cons, List.not_mem_nil, or_false, reduceCtorEq] at member
  | started => cases List.mem_singleton.mp member
  | stuck => cases List.mem_singleton.mp member
  | polled => cases List.mem_singleton.mp member
  | awaited => cases List.mem_singleton.mp member
  | _ => cases member

end Run

namespace Benchmark

variable {σ : Type} (rig : Rig σ) (benchmark : Benchmark) (state : σ)

/-- A test that has just begun waits for no halt. -/
theorem halted_of_filling {count : Nat}
    (filling : (benchmark.runAfter rig.journaled { state } count).stage = .filling) :
    (benchmark.runAfter rig.journaled { state } count).halted = false := by
  obtain rfl := benchmark.eq_zero_of_filling rig.journaled filling
  rfl

/-- Slots stand at their places as long as they are held. -/
theorem numbered_runAfter {count : Nat}
    (holds : (benchmark.runAfter rig.journaled { state } count).stage.holdsSlots = true) :
    (benchmark.runAfter rig.journaled { state } count).queue.Numbered := by
  exact (Queue.numbered_ofSettings _ _).of_makes (benchmark.fitted_runAfter rig.journaled _ holds)

/-- Each step of a test has its course. -/
private theorem haltCourse_runAfter (count : Nat) :
    ∃ calls,
      (benchmark.runAfter rig.journaled { state } count).rigState.Performs calls
        (benchmark.runAfter rig.journaled { state } (count + 1)).rigState ∧
      (benchmark.runAfter rig.journaled { state } count).HaltCourse calls
        (benchmark.runAfter rig.journaled { state } (count + 1)) := by
  obtain ⟨calls, performs, advance⟩ := benchmark.advances_runAfter rig state count
  exact ⟨calls, performs, advance.haltCourse (benchmark.halted_of_filling rig state)
    (benchmark.numbered_runAfter rig state)⟩

/-- The attempts to clear a halt go with the recoveries. -/
theorem attempts_runAfter (count : Nat) :
    (benchmark.runAfter rig.journaled { state } count).Attempts
      ((benchmark.runAfter rig.journaled { state } count).rigState.history.countP clearsHalt) := by
  induction count with
  | zero =>
      have none : (benchmark.runAfter rig.journaled { state } 0).rigState.history.countP clearsHalt =
          0 := by
        apply List.countP_eq_zero.mpr
        intro event member clears
        have quiet := benchmark.quiet_begin rig state event member
        cases event <;> contradiction
      rw [none]
      exact ⟨Nat.le_refl _, fun _ => rfl, nofun, fun _ _ => Nat.zero_le _, nofun, fun _ => rfl⟩
  | succ count ih =>
      obtain ⟨calls, performs, course⟩ := benchmark.haltCourse_runAfter rig state count
      have settings := (benchmark.settings_runAfter rig.journaled { state } (count + 1)).1.trans
        (benchmark.settings_runAfter rig.journaled { state } count).1.symm
      rw [← Run.countP_clearsHalt, performs.deviceCalls_eq, List.countP_append,
        Run.countP_clearsHalt]
      exact course.attempts settings ih

/-- An attempt to clear a halt is made in a recovery, and it is the only one in that recovery. -/
theorem haltCleared_runAfter (count : Nat) {before after : List RigEvent} {endpoint : UInt8}
    {result : UsbResult Unit}
    (split : (benchmark.runAfter rig.journaled { state } count).rigState.history =
      before ++ .haltCleared endpoint result :: after) :
    ∃ earlier < count,
      let run := benchmark.runAfter rig.journaled { state } earlier
      run.rigState.history <+: before ∧
      before ++ [.haltCleared endpoint result] <+:
        (benchmark.runAfter rig.journaled { state } (earlier + 1)).rigState.history ∧
      run.halted = true ∧ run.queue.inFlight = 0 ∧
      run.recoveries = before.countP clearsHalt + 1 := by
  obtain ⟨earlier, less, calls, first, rest, advance, found, grown, same⟩ :=
    benchmark.call_of_split rig state count rfl split
  have course := advance.haltCourse (benchmark.halted_of_filling rig state)
    (benchmark.numbered_runAfter rig state)
  obtain ⟨going, halted, empty, alone⟩ := course.of_clearsHalt rfl same
  have attempts := (benchmark.attempts_runAfter rig state earlier).pending halted going
  refine ⟨earlier, less, ⟨first, found.symm⟩, ⟨rest, ?_⟩, halted, empty, ?_⟩
  · rw [grown, found, List.append_assoc, List.append_assoc]
    rfl
  · rw [found, ← Run.countP_clearsHalt, deviceCalls_append, alone, List.append_nil,
      Run.countP_clearsHalt]
    exact attempts.symm

/-- A failure that was kept is what the test ends with. -/
theorem verdict_of_failure {count later : Nat} {failure : Failure}
    (failed : (benchmark.runAfter rig.journaled { state } count).meter.failure = some failure)
    (after : count ≤ later) {verdict : Except Failure Report}
    (ended : (benchmark.runAfter rig.journaled { state } later).stage = .ended verdict) :
    verdict = .error failure := by
  have terminated : (benchmark.runAfter rig.journaled { state } count).meter.terminated = true := by
    rw [Meter.terminated, failed]
    exact Bool.or_true _
  obtain ⟨now, verdict_eq⟩ := benchmark.verdict_runAfter rig.journaled { state } ended
  rw [verdict_eq, benchmark.meter_runAfter_of_terminated rig.journaled { state } after terminated,
    Meter.finish, failed]

/-- Where stalls are not recovered from, nothing is cancelled until the test winds up. -/
theorem noted_of_cancelled {count : Nat} (policy : benchmark.settings.stallRecovery = .leaveIdle)
    {before after : List RigEvent} {slot : Slot} {result : UsbResult Unit}
    (split : (benchmark.runAfter rig.journaled { state } count).rigState.history =
      before ++ .cancelled slot result :: after) :
    .noted (.moved .running .draining) ∈ before := by
  obtain ⟨earlier, _, calls, first, rest, advance, found, grown, same⟩ :=
    benchmark.call_of_split rig state count rfl split
  have member : .cancelled slot result ∈ calls :=
    same ▸ List.mem_append_right _ List.mem_cons_self
  have cancelling := advance.of_cancelled
    (by rw [(benchmark.settings_runAfter rig.journaled { state } earlier).1, policy]) member
  obtain ⟨later, noted⟩ :=
    Run.history_cancelQueue rig (benchmark.runAfter rig.journaled { state } earlier)
  have step : benchmark.runAfter rig.journaled { state } (earlier + 1) =
      (benchmark.runAfter rig.journaled { state } earlier).cancelQueue rig.journaled := by
    rw [runAfter_succ, Run.step, cancelling]
  rw [← step, grown, List.append_cancel_left_eq] at noted
  cases first with
  | nil => exact RigEvent.noConfusion (List.cons.inj noted).1
  | cons notice notes =>
      rw [found, (List.cons.inj noted).1]
      exact List.mem_append_right _ List.mem_cons_self

/-- **Halts are recovered from** as the settings say. If they allow some recoveries, every step
keeps to the protocol; the attempts to clear the halt are at most one for each recovery, made with
nothing in flight, and no more recoveries are begun than are allowed, so that their count fits
wherever the number of those allowed does. A failure that a step leaves behind is that of the test.
If the settings allow none, no attempt is made, and nothing is cancelled before the test winds
up. -/
theorem halts_recovered (count : Nat) :
    let run := benchmark.runAfter rig.journaled { state } count
    let last := benchmark.runAfter rig.journaled { state } (count + 1)
    match benchmark.settings.stallRecovery with
    | .clearHalt maxAttempts =>
        (∃ calls, run.rigState.Performs calls last.rigState ∧
          run.Recovers maxAttempts calls last) ∧
        run.rigState.history.countP clearsHalt ≤ run.recoveries ∧
        run.recoveries ≤ maxAttempts ∧
        (maxAttempts < UInt32.size → run.recoveries < UInt32.size) ∧
        (∀ before endpoint result after,
          run.rigState.history = before ++ .haltCleared endpoint result :: after →
          ∃ earlier < count,
            let trying := benchmark.runAfter rig.journaled { state } earlier
            trying.rigState.history <+: before ∧
            before ++ [.haltCleared endpoint result] <+:
              (benchmark.runAfter rig.journaled { state } (earlier + 1)).rigState.history ∧
            trying.halted = true ∧ trying.queue.inFlight = 0 ∧
            trying.recoveries = before.countP clearsHalt + 1) ∧
        ∀ failure, last.meter.failure = some failure → ∀ later > count, ∀ verdict,
          (benchmark.runAfter rig.journaled { state } later).stage = .ended verdict →
          verdict = .error failure
    | .leaveIdle =>
        (∀ event ∈ run.rigState.history, event.clearsHalt = false) ∧
        ∀ before slot result after,
          run.rigState.history = before ++ .cancelled slot result :: after →
          .noted (.moved .running .draining) ∈ before := by
  intro run last
  have attempts := benchmark.attempts_runAfter rig state count
  have settings := (benchmark.settings_runAfter rig.journaled { state } count).1
  cases policy : benchmark.settings.stallRecovery with
  | clearHalt maxAttempts =>
      have bounded := attempts.bounded maxAttempts (by rw [settings, policy])
      obtain ⟨calls, performs, advance⟩ := benchmark.advances_runAfter rig state count
      have recovers := advance.recovers (benchmark.halted_of_filling rig state)
        (benchmark.numbered_runAfter rig state) (by rw [settings, policy])
      refine ⟨⟨calls, performs, recovers⟩, attempts.most, bounded,
        fun small => Nat.lt_of_le_of_lt bounded small, ?_, ?_⟩
      · intro before endpoint result after split
        exact benchmark.haltCleared_runAfter rig state count split
      · intro failure failed later after verdict ended
        exact benchmark.verdict_of_failure rig state failed after ended
  | leaveIdle =>
      refine ⟨?_, fun before slot result after split => ?_⟩
      · have none := attempts.most
        rw [attempts.unrecovered (by rw [settings, policy]), Nat.le_zero,
          List.countP_eq_zero] at none
        exact fun event member => Bool.eq_false_iff.mpr (none event member)
      · exact benchmark.noted_of_cancelled rig state policy split

/-- After the stall of slot 0 the halt was cleared once, in the only recovery. -/
theorem halts_recovered_stalling :
    let run := small.runAfter ScriptedDevice.rig.journaled { state := stalling } 9
    run.rigState.history.countP clearsHalt = 1 ∧ run.recoveries = 1 ∧
      run.rigState.history.countP clearsHalt ≤ run.recoveries ∧ run.recoveries ≤ 3 ∧
      ∃ earlier < 9,
        let trying := small.runAfter ScriptedDevice.rig.journaled { state := stalling } earlier
        trying.halted = true ∧ trying.queue.inFlight = 0 ∧ trying.recoveries = 1 := by
  intro run
  obtain ⟨_, most, bounded, _, once, _⟩ := small.halts_recovered ScriptedDevice.rig stalling 9
  have split : run.rigState.history =
      run.rigState.history.take 14 ++ .haltCleared 129 (.ok ()) ::
        run.rigState.history.drop 15 := by decide +kernel
  obtain ⟨earlier, less, _, _, halted, empty, recoveries⟩ := once _ _ _ _ split
  have first : (run.rigState.history.take 14).countP clearsHalt = 0 := by decide +kernel
  rw [first] at recoveries
  exact ⟨by decide +kernel, by decide +kernel, most, bounded, earlier, less, halted, empty,
    recoveries⟩

end Benchmark

end UsbThroughput
