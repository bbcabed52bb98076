import UsbThroughput.Proofs.Benchmark.Outcome
import UsbThroughput.Proofs.Run.Branches
import UsbThroughput.Proofs.Run.Upkeep

/-!
# The queue is kept full

Whenever a test waits for transfers to finish, there is something to wait for, and as much of it
as there can be: every slot is in flight, unless it was left idle after a stall, or the queue is
being emptied before a halt is cleared.
-/

namespace UsbThroughput

open RigEvent

/-- A run that winds up began to do so by cancelling its slots. -/
theorem Stage.isFinal_before {stage next : Stage} (leads : stage.leadsTo next = true)
    (final : next.isFinal = true) (begun : next ≠ .cancelling) : stage.isFinal = true := by
  cases stage <;> cases next <;> simp_all [leadsTo, isFinal]

namespace Run

variable {σ : Type} {run last : Run σ} {calls : List RigEvent}

/-- A halt is waited for only after a stall. -/
theorem Advance.stall_of_halted (advance : run.Advance calls last) (free : run.halted = false)
    (halted : last.halted = true) :
    ∃ stall, run.next? = some stall ∧ stall.status = .stall := by
  have stuck (same : last.halted = run.halted) : False := by
    rw [same, free] at halted
    contradiction
  cases advance with
  | recovered => exact Bool.noConfusion halted
  | settled state deadline completion rest settling waiting =>
      exact (stuck (halted_receive _ completion)).elim
  | handled completion rest calls handling waiting reaction =>
      have same := halted_receive { run with arrivals := rest } completion
      cases reaction with
      | begun state maxAttempts slot calls _ _ stalled _ _ _ _ =>
          refine ⟨completion, ?_, stalled⟩
          rw [next?, handling, waiting]
          rfl
      | _ => exact (stuck same).elim
  | _ => exact (stuck rfl).elim

/-- Completions are asked for by a run that waits, or by one that winds up. -/
theorem Advance.of_polled (advance : run.Advance calls last) {timeout : Duration} {answer : Polled}
    (member : .polled timeout answer ∈ calls) :
    (run.stage = .waiting ∧ run.meter.terminated = false ∧ run.queue.inFlight ≠ 0) ∨
      ∃ deadline, run.stage = .draining deadline := by
  have submission {calls : List RigEvent} (each : ∀ call ∈ calls, call.isSubmission = true)
      (member : .polled timeout answer ∈ calls) : False :=
    Bool.noConfusion (each (.polled timeout answer) member)
  have cancellation {calls : List RigEvent} (each : ∀ call ∈ calls, call.isCancellation = true)
      (member : .polled timeout answer ∈ calls) : False :=
    Bool.noConfusion (each (.polled timeout answer) member)
  cases advance with
  | polled state now answer waiting going flying => exact Or.inl ⟨waiting, going, flying⟩
  | awaited state deadline timeout answer draining flying => exact Or.inr ⟨deadline, draining⟩
  | filled state now later slots calls refusal filling empty fills =>
      exact (submission fills.isSubmission member).elim
  | recovered state later slots calls refusal waiting going empty halted fills =>
      have later := List.mem_of_ne_of_mem RigEvent.noConfusion member
      exact (submission fills.isSubmission later).elim
  | recalled state deadline calls cancelling cancels =>
      exact (cancellation cancels.isCancellation member).elim
  | handled completion rest calls handling waiting reaction =>
      cases reaction with
      | resubmitted state now later slot next meter calls refusal _ _ _ _ _ _ fills =>
          exact (submission fills.isSubmission member).elim
      | begun state maxAttempts slot calls _ _ _ _ _ _ cancels =>
          exact (cancellation cancels.isCancellation member).elim
      | overflowed => cases List.mem_singleton.mp member
      | _ => cases member
  | closed state now result closing =>
      split at member <;>
        simp only [List.mem_cons, List.not_mem_nil, or_false, reduceCtorEq] at member
  | started => cases List.mem_singleton.mp member
  | stuck => cases List.mem_singleton.mp member
  | _ => cases member

/-- The step of a waiting run that asks for completions does so before anything else. -/
theorem history_poll_step (rig : Rig σ) {run : Run (Journal RigEvent σ)}
    (waiting : run.stage = .waiting) (going : run.meter.terminated = false)
    (flying : run.queue.inFlight ≠ 0) :
    ∃ timeout answer notes,
      (run.step rig.journaled).rigState.history =
        run.rigState.history ++ .polled timeout answer :: notes ∧
      ∀ event ∈ notes, event.onDevice = false := by
  have written := rig.history_poll run.rigState run.settings.eventTimeout
  rw [step_of_asking rig.journaled waiting going flying]
  unfold poll
  dsimp only
  split
  · exact ⟨_, _, [], written, List.forall_mem_nil _⟩
  · exact ⟨_, _, [], written, List.forall_mem_nil _⟩
  next error _ _ =>
    refine ⟨run.settings.eventTimeout,
      (rig.journaled.poll run.settings.eventTimeout run.rigState).1,
      [.noted (.pollFailed error)], ?_, List.forall_mem_singleton.mpr rfl⟩
    have noted := rig.history_note
      (rig.journaled.poll run.settings.eventTimeout run.rigState).2 (.pollFailed error)
    rw [written, List.append_assoc] at noted
    exact noted

/-- Cancelling the queue at the end of a test begins with the notice of it. -/
theorem history_cancelQueue (rig : Rig σ) (run : Run (Journal RigEvent σ)) :
    ∃ later,
      (run.cancelQueue rig.journaled).rigState.history =
        run.rigState.history ++ .noted (.moved .running .draining) :: later := by
  let noted := rig.journaled.note (.moved .running .draining) run.rigState
  have written : noted.history = run.rigState.history ++ [.noted (.moved .running .draining)] :=
    rig.history_note run.rigState _
  obtain ⟨calls, performs, _, _⟩ := Queue.cancels_cancelEach rig run.queue.slots noted
  obtain ⟨later, grown⟩ := performs.isPrefix.trans
    (rig.performs_note (.cancelling (run.queue.cancel rig.journaled noted).1.inFlight) _).isPrefix
  refine ⟨later, grown.symm.trans ?_⟩
  rw [written, List.append_assoc]
  rfl

end Run

namespace Benchmark

variable {σ : Type} (rig : Rig σ) (benchmark : Benchmark) (state : σ)

/-- The completions taken up since a recovery was begun that is still under way. It was begun with
a stall. -/
structure SinceStall (began count : Nat) (stall : Completion) (since : List Completion) : Prop where
  earlier : began < count
  free : (benchmark.runAfter rig.journaled { state } began).halted = false
  taken : (benchmark.runAfter rig.journaled { state } began).next? = some stall
  stalled : stall.status = .stall
  pending : ∀ later, began < later → later ≤ count →
    (benchmark.runAfter rig.journaled { state } later).halted = true
  since_eq : benchmark.takenUp rig.journaled { state } count =
    benchmark.takenUp rig.journaled { state } began ++ stall :: since

variable {rig benchmark state}

/-- When a recovery has just begun, nothing was taken up since. -/
private theorem SinceStall.of_begun {count : Nat} {stall : Completion}
    (free : (benchmark.runAfter rig.journaled { state } count).halted = false)
    (taken : (benchmark.runAfter rig.journaled { state } count).next? = some stall)
    (stalled : stall.status = .stall)
    (halted : (benchmark.runAfter rig.journaled { state } (count + 1)).halted = true) :
    benchmark.SinceStall rig state count (count + 1) stall [] where
  earlier := Nat.lt_succ_self count
  free := free
  taken := taken
  stalled := stalled
  pending later after before := by
    rw [Nat.le_antisymm before after]
    exact halted
  since_eq := by
    rw [takenUp, Run.takenUp]
    exact congrArg (_ ++ Option.toList ·) taken

/-- While the recovery is under way, what a step takes up is added. -/
theorem SinceStall.succ {began count : Nat} {stall : Completion} {since : List Completion}
    (sinceStall : benchmark.SinceStall rig state began count stall since)
    (halted : (benchmark.runAfter rig.journaled { state } (count + 1)).halted = true) :
    benchmark.SinceStall rig state began (count + 1) stall
      (since ++ (benchmark.runAfter rig.journaled { state } count).next?.toList) where
  earlier := Nat.lt_succ_of_lt sinceStall.earlier
  free := sinceStall.free
  taken := sinceStall.taken
  stalled := sinceStall.stalled
  pending later after before := by
    rcases Nat.le_succ_iff.mp before with among | rfl
    · exact sinceStall.pending later after among
    · exact halted
  since_eq := by
    have before := sinceStall.since_eq
    rw [takenUp] at before
    rw [takenUp, Run.takenUp, before, List.append_assoc]
    rfl

variable (rig benchmark state)

/-- The queue is in order at every moment of the test, in view of all completions taken up, and of
those since the stall if there was one. -/
theorem kept_runAfter (count : Nat)
    (tends : (benchmark.runAfter rig.journaled { state } count).Tends) :
    ∃ since,
      (benchmark.runAfter rig.journaled { state } count).Upkeep
        (benchmark.takenUp rig.journaled { state } count) since ∧
      ((benchmark.runAfter rig.journaled { state } count).halted = true →
        ∃ began stall rest, since = stall :: rest ∧
          benchmark.SinceStall rig state began count stall rest) := by
  induction count with
  | zero => exact absurd tends.running Bool.false_ne_true
  | succ count ih =>
      obtain ⟨calls, _, advance⟩ := benchmark.advances_runAfter rig state count
      have fresh (filling : (benchmark.runAfter rig.journaled { state } count).stage = .filling) :
          (benchmark.runAfter rig.journaled { state } count).halted = false ∧
            benchmark.takenUp rig.journaled { state } count = [] := by
        obtain rfl := benchmark.eq_zero_of_filling rig.journaled filling
        exact ⟨rfl, rfl⟩
      rcases advance.tends_before tends with filling | before
      · have begins (before : (benchmark.runAfter rig.journaled { state } count).Tends) :
            (benchmark.runAfter rig.journaled { state } count).Upkeep
              (benchmark.takenUp rig.journaled { state } count) [] := by
          have running := before.running
          rw [filling] at running
          contradiction
        refine ⟨_, advance.kept fresh begins tends, fun halted => ?_⟩
        obtain ⟨stall, taken, _⟩ := advance.stall_of_halted (fresh filling).1 halted
        rw [Run.next?, filling] at taken
        contradiction
      · obtain ⟨since, kept, pending⟩ := ih before
        refine ⟨_, advance.kept fresh (fun _ => kept) tends, fun halted => ?_⟩
        cases stuck : (benchmark.runAfter rig.journaled { state } count).halted with
        | true =>
            obtain ⟨began, stall, rest, rfl, earlier⟩ := pending stuck
            exact ⟨began, stall, _, rfl, earlier.succ halted⟩
        | false =>
            obtain ⟨stall, taken, stalled⟩ := advance.stall_of_halted stuck halted
            refine ⟨count, stall, [], by rw [taken]; rfl, ?_⟩
            exact .of_begun stuck taken stalled halted

/-- A run that winds up has said so. -/
theorem draining_noted (count : Nat)
    (final : (benchmark.runAfter rig.journaled { state } count).stage.isFinal = true)
    (begun : (benchmark.runAfter rig.journaled { state } count).stage ≠ .cancelling) :
    .noted (.moved .running .draining) ∈
      (benchmark.runAfter rig.journaled { state } count).rigState.history := by
  induction count with
  | zero => exact absurd final Bool.false_ne_true
  | succ count ih =>
      have leads := Run.leadsTo_step rig.journaled (benchmark.runAfter rig.journaled { state } count)
      have grown := (benchmark.history_runAfter_succ rig state count).subset
      rw [← runAfter_succ] at leads
      by_cases cancelling : (benchmark.runAfter rig.journaled { state } count).stage = .cancelling
      · obtain ⟨later, noted⟩ :=
          Run.history_cancelQueue rig (benchmark.runAfter rig.journaled { state } count)
        rw [runAfter_succ, Run.step, cancelling]
        exact noted ▸ List.mem_append_right _ List.mem_cons_self
      · exact grown (ih (Stage.isFinal_before leads final begun) cancelling)

/-- **The queue is kept full.** Take any call of a test that asks for completions, made before the
test begins to wind up. As it is made, some slot is in flight. If no halt is to be cleared, the
slots not in flight are those left idle: there are some only if stalls are not recovered from, and
they are those of which the last completion was a stall. If a halt is to be cleared, the slots in
flight are those of which nothing was heard since the stall with which the recovery began, and all
of them were asked to be given up. -/
theorem queue_kept_full (count : Nat) {before after : List RigEvent} {timeout : Duration}
    {answer : Polled}
    (split : (benchmark.runAfter rig.journaled { state } count).rigState.history =
      before ++ .polled timeout answer :: after)
    (early : .noted (.moved .running .draining) ∉ before) :
    ∃ earlier < count,
      let run := benchmark.runAfter rig.journaled { state } earlier
      run.rigState.history = before ∧
      (∃ id slot, run.queue.slot? id = some slot ∧ slot.isSubmitted = true) ∧
      (run.halted = false → ∀ id slot, run.queue.slot? id = some slot →
        (slot.isSubmitted = false ↔
          benchmark.settings.stallRecovery = .leaveIdle ∧
            ∃ completion,
              Completion.last? (benchmark.takenUp rig.journaled { state } earlier) id =
                some completion ∧
              completion.status = .stall)) ∧
      (run.halted = true → ∃ began stall since,
        benchmark.SinceStall rig state began earlier stall since ∧
        ∀ id slot, run.queue.slot? id = some slot →
          (slot.isSubmitted = true ↔ ∀ completion ∈ stall :: since, completion.slot ≠ id) ∧
          (slot.isSubmitted = true → slot.cancelRequested = true)) := by
  obtain ⟨earlier, less, calls, first, rest, advance, found, grown, same⟩ :=
    benchmark.call_of_split rig state count rfl split
  have member : .polled timeout answer ∈ calls :=
    same ▸ List.mem_append_right _ List.mem_cons_self
  rcases advance.of_polled member with ⟨waiting, going, flying⟩ | ⟨deadline, draining⟩
  · have tends : (benchmark.runAfter rig.journaled { state } earlier).Tends := ⟨waiting ▸ rfl, going⟩
    obtain ⟨since, kept, pending⟩ := benchmark.kept_runAfter rig state earlier tends
    have policy := congrArg Settings.stallRecovery
      (benchmark.settings_runAfter rig.journaled { state } earlier).1
    refine ⟨earlier, less, ?_, ?_, ?_, ?_⟩
    · obtain ⟨_, _, notes, polled, asides⟩ := Run.history_poll_step rig waiting going flying
      rw [← runAfter_succ, grown] at polled
      cases first with
      | nil => rw [found, List.append_nil]
      | cons other others =>
          have late := (List.cons.inj (List.append_cancel_left polled)).2
          exact Bool.noConfusion
            (asides (.polled timeout answer) (late ▸ List.mem_append_right _ List.mem_cons_self))
    · obtain ⟨slot, among, submitted⟩ := List.countP_pos_iff.mp (Nat.pos_of_ne_zero flying)
      obtain ⟨id, held⟩ := List.mem_iff_getElem?.mp among
      exact ⟨id, slot, held, submitted⟩
    · intro free id slot held
      rw [← policy]
      exact kept.full free id slot held
    · intro halted
      obtain ⟨began, stall, rest, rfl, sinceStall⟩ := pending halted
      exact ⟨began, stall, rest, sinceStall, kept.emptying halted⟩
  · have said := benchmark.draining_noted rig state earlier (draining ▸ rfl)
      (draining ▸ Stage.noConfusion)
    exact (early (found ▸ List.mem_append_left _ said)).elim

/-- After the stall of slot 0 the second call for completions waits for slot 1 alone. -/
theorem queue_kept_full_stalling :
    let history := (small.runAfter ScriptedDevice.rig.journaled { state := stalling } 9).rigState.history
    history =
        history.take 11 ++
          .polled (.ofMilliseconds 100) ⟨[⟨1, .cancelled, 0⟩], .ok ()⟩ :: history.drop 12 ∧
      ∃ earlier < 9,
        let run := small.runAfter ScriptedDevice.rig.journaled { state := stalling } earlier
        run.rigState.history = history.take 11 ∧
        (∃ id slot, run.queue.slot? id = some slot ∧ slot.isSubmitted = true) ∧
        (run.halted = true → ∃ began stall since,
          small.SinceStall ScriptedDevice.rig stalling began earlier stall since ∧
          ∀ id slot, run.queue.slot? id = some slot →
            (slot.isSubmitted = true ↔ ∀ completion ∈ stall :: since, completion.slot ≠ id) ∧
            (slot.isSubmitted = true → slot.cancelRequested = true)) := by
  intro history
  have split : history =
      history.take 11 ++
        .polled (.ofMilliseconds 100) ⟨[⟨1, .cancelled, 0⟩], .ok ()⟩ :: history.drop 12 := by
    decide +kernel
  have early : .noted (.moved .running .draining) ∉ history.take 11 := by decide +kernel
  obtain ⟨earlier, less, made, flying, _, emptying⟩ :=
    small.queue_kept_full ScriptedDevice.rig stalling 9 split early
  exact ⟨split, earlier, less, made, flying, emptying⟩

end Benchmark

end UsbThroughput
