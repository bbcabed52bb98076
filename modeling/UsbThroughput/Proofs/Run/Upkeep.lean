import UsbThroughput.Proofs.Run.Advance

/-!
# Keeping the queue full

While a test goes on, every slot is in flight, but for those that were left idle after a stall;
and while the queue is emptied before a halt is cleared, the slots in flight are those of which
nothing was heard since, all of them cancelled (`Run.Upkeep`). Every step keeps this
(`Run.Advance.kept`).
-/

namespace UsbThroughput

open RigEvent

/-- The last of some completions that is one of a slot. -/
def Completion.last? (completions : List Completion) (id : Nat) : Option Completion :=
  (completions.filter fun completion => completion.slot == id).getLast?

/-- The last completion of a slot is the newest. -/
theorem Completion.last?_concat_of_eq (completions : List Completion) (completion : Completion) :
    last? (completions ++ [completion]) completion.slot = some completion := by
  rw [last?, List.filter_append, List.filter_singleton, beq_self_eq_true, cond_true]
  exact List.getLast?_concat

/-- A completion of another slot leaves the last one. -/
theorem Completion.last?_concat_of_ne {completions : List Completion} {completion : Completion}
    {id : Nat} (other : completion.slot ≠ id) :
    last? (completions ++ [completion]) id = last? completions id := by
  rw [last?, List.filter_append, List.filter_singleton, beq_eq_false_iff_ne.mpr other,
    cond_false, List.append_nil]
  rfl

/-- Whether a stage lies between the first submission of the queue and the decision to end the
test. -/
def Stage.isRunning : Stage → Bool
  | starting | waiting | handling => true
  | _ => false

namespace Run

variable {σ : Type}

/-- A run that keeps its queue full: the first submission is made, and the decision to end the
test has not fallen. -/
structure Tends (run : Run σ) : Prop where
  running : run.stage.isRunning = true
  going : run.meter.terminated = false

/-- A slot is left idle if stalls are not recovered from, and the last of the completions taken up
for it was a stall. -/
def LeavesIdle (run : Run σ) (taken : List Completion) (id : Nat) : Prop :=
  run.settings.stallRecovery = .leaveIdle ∧
    ∃ completion, Completion.last? taken id = some completion ∧ completion.status = .stall

/-- **The upkeep of the queue**, in view of the completions taken up so far and of those since a
recovery was begun. -/
structure Upkeep (taken since : List Completion) (run : Run σ) : Prop where
  full : run.halted = false → ∀ id slot, run.queue.slot? id = some slot →
    (slot.isSubmitted = false ↔ run.LeavesIdle taken id)
  emptying : run.halted = true → ∀ id slot, run.queue.slot? id = some slot →
    (slot.isSubmitted = true ↔ ∀ completion ∈ since, completion.slot ≠ id) ∧
      (slot.isSubmitted = true → slot.cancelRequested = true)
  policy : run.halted = true → ∃ maxAttempts, run.settings.stallRecovery = .clearHalt maxAttempts

variable {run last : Run σ} {taken since : List Completion} {calls : List RigEvent}

private theorem not_tends_of_terminated (terminated : run.meter.terminated = true) :
    ¬run.Tends := by
  intro tends
  rw [tends.going] at terminated
  contradiction

/-- A meter that failed is decided. -/
theorem terminated_fail_eq (now : Duration) (failure : Failure) (meter : Meter) :
    (meter.fail now failure).terminated = true := by
  have decided := Meter.terminated_failOn now (some failure) meter
  rwa [Option.isSome_some, Bool.or_true] at decided

/-- A queue that was just submitted is full. -/
theorem kept_of_lent (lent : ∃ slots, run.queue.slots = List.map Slot.lent slots)
    (free : run.halted = false) (recovers : ∀ id, ¬run.LeavesIdle taken id) :
    run.Upkeep taken since where
  full _ id slot held := by
    obtain ⟨slots, same⟩ := lent
    rw [Queue.slot?, same, List.getElem?_map] at held
    obtain ⟨_, _, rfl⟩ := Option.map_eq_some_iff.mp held
    exact iff_of_false Bool.noConfusion (recovers id)
  emptying halted := by
    rw [free] at halted
    contradiction
  policy halted := by
    rw [free] at halted
    contradiction

/-- A slot after a completion was applied: it is that of the completion, or as it was. -/
theorem slot?_receive {completion : Completion} {id : Nat} {slot : Slot}
    (held : (run.receive completion).queue.slot? id = some slot) :
    (completion.slot = id ∧ slot.isSubmitted = false) ∨
      completion.slot ≠ id ∧ run.queue.slot? id = some slot := by
  rcases receive_cases run completion with ⟨unheld, same⟩ | ⟨before, there, same⟩
  · rw [same] at held
    refine Or.inr ⟨fun named => ?_, held⟩
    rw [named, held] at unheld
    contradiction
  · by_cases named : completion.slot = id
    · subst named
      rw [same, slot?_putSlot there] at held
      cases held
      exact Or.inl ⟨rfl, before.isSubmitted_complete _ _⟩
    · rw [same] at held
      refine Or.inr ⟨named, ?_⟩
      change (run.queue.slots.set _ _)[id]? = some slot at held
      rwa [List.getElem?_set_ne named] at held

/-- While the queue is emptied, a slot of which something is heard is not in flight any more. -/
theorem Upkeep.receive_of_halted {completion : Completion} (kept : run.Upkeep taken since)
    (halted : run.halted = true) :
    (run.receive completion).Upkeep (taken ++ [completion]) (since ++ [completion]) where
  full free := by
    rw [halted_receive, halted] at free
    contradiction
  emptying _ id slot held := by
    rcases slot?_receive held with ⟨named, grounded⟩ | ⟨other, before⟩
    · rw [grounded]
      refine ⟨iff_of_false Bool.false_ne_true fun silent => ?_, Bool.noConfusion⟩
      exact silent completion (List.mem_append_right _ (List.mem_singleton_self _)) named
    · obtain ⟨flying, asked⟩ := kept.emptying halted id slot before
      refine ⟨flying.trans ?_, asked⟩
      rw [List.forall_mem_append, List.forall_mem_singleton]
      exact (and_iff_left other).symm
  policy _ := by
    rw [settings_receive]
    exact kept.policy halted

/-- A completion of one slot says nothing of another. -/
theorem Upkeep.full_of_ne {completion : Completion} (kept : run.Upkeep taken since)
    (free : run.halted = false) {id : Nat} {slot : Slot} (other : completion.slot ≠ id)
    (held : (run.receive completion).queue.slot? id = some slot) :
    slot.isSubmitted = false ↔ (run.receive completion).LeavesIdle (taken ++ [completion]) id := by
  rw [LeavesIdle, settings_receive, Completion.last?_concat_of_ne other]
  rcases slot?_receive held with ⟨named, _⟩ | ⟨_, before⟩
  · exact (other named).elim
  · exact kept.full free id slot before

/-- The queue without a halt, after a slot was put back to which its completion applies. -/
theorem Upkeep.full_putSlot {completion : Completion} {slot next : Slot}
    (kept : run.Upkeep taken since) (free : run.halted = false)
    (held : (run.receive completion).queue.slot? completion.slot = some slot)
    (judged : next.isSubmitted = false ↔
      (run.receive completion).LeavesIdle (taken ++ [completion]) completion.slot)
    (id : Nat) (other : Slot)
    (found : ((run.receive completion).putSlot completion.slot next).queue.slot? id = some other) :
    other.isSubmitted = false ↔
      (run.receive completion).LeavesIdle (taken ++ [completion]) id := by
  by_cases named : completion.slot = id
  · subst named
    rw [slot?_putSlot held] at found
    cases found
    exact judged
  · change ((run.receive completion).queue.slots.set _ _)[id]? = some other at found
    rw [List.getElem?_set_ne named] at found
    exact kept.full_of_ne free named found

/-- While the queue is emptied, acting on a completion adds what was heard of its slot. -/
theorem Reaction.kept_of_halted {completion : Completion}
    (reaction : (run.receive completion).Reaction completion calls last)
    (kept : run.Upkeep taken since) (halted : run.halted = true) (tends : last.Tends) :
    last.Upkeep (taken ++ [completion]) (since ++ [completion]) := by
  have halt := (halted_receive run completion).trans halted
  have still :
      (run.receive completion).Upkeep (taken ++ [completion]) (since ++ [completion]) :=
    kept.receive_of_halted halted
  cases reaction with
  | passed state passes => exact ⟨still.full, still.emptying, still.policy⟩
  | counted state now slot meter _ _ _ _ _ => exact ⟨still.full, still.emptying, still.policy⟩
  | failed state now failure _ _ =>
      exact (not_tends_of_terminated (terminated_fail_eq now failure _) tends).elim
  | overflowed state _ _ => exact absurd tends.running Bool.false_ne_true
  | resubmitted state now later slot next meter calls refusal _ _ _ _ _ free _ =>
      rw [halt] at free
      contradiction
  | begun state maxAttempts slot calls _ _ _ _ free _ _ =>
      rw [halt] at free
      contradiction

/-- Without a halt, a completion of which nothing comes leaves its slot idle as the settings say. -/
theorem Upkeep.full_of_passes {completion : Completion} (kept : run.Upkeep taken since)
    (free : run.halted = false) (going : (run.receive completion).meter.terminated = false)
    (passes : (run.receive completion).Passes completion) (id : Nat) (slot : Slot)
    (held : (run.receive completion).queue.slot? id = some slot) :
    slot.isSubmitted = false ↔ (run.receive completion).LeavesIdle (taken ++ [completion]) id := by
  have halt := (halted_receive run completion).trans free
  by_cases named : completion.slot = id
  · subst named
    have grounded : slot.isSubmitted = false := by
      rcases slot?_receive held with ⟨_, grounded⟩ | ⟨other, _⟩
      · exact grounded
      · exact (other rfl).elim
    cases passes with
    | unknown unheld => exact absurd (held.symm.trans unheld) nofun
    | late terminated => exact Bool.noConfusion (going.symm.trans terminated)
    | leftIdle stalled policy =>
        exact iff_of_true grounded
          ⟨policy, completion, Completion.last?_concat_of_eq taken completion, stalled⟩
    | stalledWhileHalted _ stuck => exact Bool.noConfusion (halt.symm.trans stuck)
    | cancelledWhileHalted _ stuck => exact Bool.noConfusion (halt.symm.trans stuck)
  · exact kept.full_of_ne free named held

/-- When a recovery begins, all slots are in flight and asked for but that of the stall. -/
theorem Upkeep.emptying_of_begun {completion : Completion} {maxAttempts : Nat}
    (kept : run.Upkeep taken since) (free : run.halted = false)
    (policy : (run.receive completion).settings.stallRecovery = .clearHalt maxAttempts) (id : Nat)
    {slot : Slot} (held : (run.receive completion).queue.slot? id = some slot) :
    (slot.recalled.isSubmitted = true ↔ ∀ other ∈ [completion], other.slot ≠ id) ∧
      (slot.recalled.isSubmitted = true → slot.recalled.cancelRequested = true) := by
  rw [Slot.isSubmitted_recalled, List.forall_mem_singleton]
  refine ⟨?_, Slot.cancelRequested_recalled⟩
  rcases slot?_receive held with ⟨named, grounded⟩ | ⟨named, _⟩
  · exact iff_of_false (grounded ▸ Bool.false_ne_true) (not_not_intro named)
  · refine iff_of_true (Bool.of_not_eq_false fun grounded => ?_) named
    obtain ⟨idle, _⟩ := (kept.full_of_ne free named held).mp grounded
    rw [policy] at idle
    contradiction

/-- Without a halt, acting on a completion keeps the queue full, or begins to empty it. -/
theorem Reaction.kept_of_free {completion : Completion}
    (reaction : (run.receive completion).Reaction completion calls last)
    (kept : run.Upkeep taken since) (free : run.halted = false) (tends : last.Tends) :
    last.Upkeep (taken ++ [completion]) [completion] := by
  have unstuck : (run.receive completion).halted ≠ true := by
    rw [halted_receive, free]
    exact Bool.false_ne_true
  have unhalted {next : Run σ} (same : next.halted = (run.receive completion).halted)
      (full : ∀ id slot, next.queue.slot? id = some slot →
        (slot.isSubmitted = false ↔ next.LeavesIdle (taken ++ [completion]) id)) :
      next.Upkeep (taken ++ [completion]) [completion] :=
    ⟨fun _ => full, fun stuck => (unstuck (same ▸ stuck)).elim,
      fun stuck => (unstuck (same ▸ stuck)).elim⟩
  cases reaction with
  | passed state passes => exact unhalted rfl (kept.full_of_passes free tends.going passes)
  | counted state now slot meter _ _ _ _ decided =>
      rcases decided with terminated | stuck
      · exact (not_tends_of_terminated terminated tends).elim
      · exact (unstuck stuck).elim
  | failed state now failure _ _ =>
      exact (not_tends_of_terminated (terminated_fail_eq now failure _) tends).elim
  | overflowed state _ _ => exact absurd tends.running Bool.false_ne_true
  | resubmitted state now later slot next meter calls refusal _ held completed _ _ _ fills =>
      have flying : next.isSubmitted = true := by
        rcases fills.of_singleton with ⟨_, same, _⟩ | ⟨cause, _, _, refused⟩
        · cases same
          rfl
        · rw [refused] at tends
          exact (not_tends_of_terminated (terminated_fail_eq later _ _) tends).elim
      refine unhalted rfl (kept.full_putSlot free held ?_)
      refine iff_of_false (flying ▸ Bool.noConfusion) ?_
      rintro ⟨_, other, heard, stalled⟩
      rw [Completion.last?_concat_of_eq] at heard
      cases heard
      rw [completed] at stalled
      contradiction
  | begun state maxAttempts slot calls _ held stalled policy _ _ _ =>
      refine ⟨Bool.noConfusion, fun _ id other found => ?_, fun _ => ⟨maxAttempts, policy⟩⟩
      obtain ⟨before, there, rfl⟩ :
          ∃ before, (run.receive completion).queue.slot? id = some before ∧
            before.recalled = other :=
        Option.map_eq_some_iff.mp ((List.getElem?_map ..).symm.trans found)
      exact kept.emptying_of_begun free policy id there

/-- **Acting on a completion keeps the queue in order**, unless it decides the test. -/
theorem Reaction.kept {completion : Completion}
    (reaction : (run.receive completion).Reaction completion calls last)
    (kept : run.Upkeep taken since) (tends : last.Tends) :
    last.Upkeep (taken ++ [completion])
      (if run.halted then since ++ [completion] else [completion]) := by
  cases halted : run.halted with
  | true => exact reaction.kept_of_halted kept halted tends
  | false => exact reaction.kept_of_free kept halted tends

/-- A completion that leaves the test going came while it was going. -/
theorem Reaction.going {completion : Completion}
    (reaction : (run.receive completion).Reaction completion calls last) (tends : last.Tends) :
    run.meter.terminated = false := by
  rw [← meter_receive run completion]
  cases reaction with
  | passed state passes => exact tends.going
  | failed state now failure going _ => exact going
  | counted state now slot meter going _ _ _ _ => exact going
  | resubmitted state now later slot next meter calls refusal going _ _ _ _ _ _ => exact going
  | overflowed state going _ => exact going
  | begun state maxAttempts slot calls going _ _ _ _ _ _ => exact going

/-- A test that goes on went on before, or it has just begun. -/
theorem Advance.tends_before (advance : run.Advance calls last) (tends : last.Tends) :
    run.stage = .filling ∨ run.Tends := by
  cases advance with
  | filled state now later slots calls refusal filling empty fills => exact Or.inl filling
  | started state result starting going => exact Or.inr ⟨starting ▸ rfl, going⟩
  | notStarted state starting terminated =>
      exact Bool.noConfusion (terminated.symm.trans tends.going)
  | recovered state later slots calls refusal waiting going empty halted fills =>
      exact Or.inr ⟨waiting ▸ rfl, going⟩
  | stuck state now error waiting going empty halted => exact Or.inr ⟨waiting ▸ rfl, going⟩
  | polled state now answer waiting going flying => exact Or.inr ⟨waiting ▸ rfl, going⟩
  | finished handling empty => exact Or.inr ⟨handling ▸ rfl, tends.going⟩
  | handled completion rest calls handling waiting reaction =>
      exact Or.inr ⟨handling ▸ rfl, reaction.going tends⟩
  | stayed done =>
      have running := tends.running
      cases stage : run.stage <;> rw [stage] at done running <;> contradiction
  | settled state deadline completion rest settling waiting =>
      have running := tends.running
      rw [receive_eq, show run.stage = _ from settling] at running
      contradiction
  | awaited state deadline timeout answer draining flying =>
      have running := tends.running
      dsimp only at running
      split at running <;> contradiction
  | _ => exact absurd tends.running Bool.false_ne_true

/-- **Every step keeps the queue in order**, as long as the test goes on. -/
theorem Advance.kept (advance : run.Advance calls last)
    (fresh : run.stage = .filling → run.halted = false ∧ taken = [])
    (kept : run.Tends → run.Upkeep taken since) (tends : last.Tends) :
    last.Upkeep (taken ++ run.next?.toList)
      (if run.halted then since ++ run.next?.toList else run.next?.toList) := by
  have unheard (stage : run.stage = .starting ∨ run.stage = .waiting ∨
      run.stage = .handling ∧ run.arrivals = []) : run.next? = none := by
    unfold next?
    rcases stage with starting | waiting | ⟨handling, empty⟩
    · rw [starting]
    · rw [waiting]
    · rw [handling, empty]
      rfl
  have still (stage : run.stage = .starting ∨ run.stage = .waiting ∨
      run.stage = .handling ∧ run.arrivals = []) (kept : run.Upkeep taken since) :
      run.Upkeep (taken ++ run.next?.toList)
        (if run.halted then since ++ run.next?.toList else run.next?.toList) := by
    rw [unheard stage, Option.toList_none, List.append_nil, List.append_nil]
    refine ⟨kept.full, fun halted => ?_, kept.policy⟩
    rw [if_pos halted]
    exact kept.emptying halted
  cases advance with
  | filled state now later slots calls refusal filling empty fills =>
      obtain ⟨_, rfl⟩ := fresh filling
      have nothing : run.next? = none := by rw [next?, filling]
      rw [nothing]
      cases refusal with
      | some error => exact (not_tends_of_terminated (terminated_fail_eq later _ _) tends).elim
      | none =>
          refine kept_of_lent ⟨_, fills.next_eq_of_none⟩ (fresh filling).1 ?_
          rintro id ⟨_, completion, heard, _⟩
          contradiction
  | started state result starting going =>
      have before := still (Or.inl starting) (kept ⟨starting ▸ rfl, going⟩)
      exact ⟨before.full, before.emptying, before.policy⟩
  | notStarted state starting terminated =>
      exact Bool.noConfusion (terminated.symm.trans tends.going)
  | recovered state later slots calls refusal waiting going empty halted fills =>
      cases refusal with
      | some error => exact (not_tends_of_terminated (terminated_fail_eq later _ _) tends).elim
      | none =>
          refine kept_of_lent ⟨_, fills.next_eq_of_none⟩ rfl ?_
          rintro id ⟨idle, _⟩
          obtain ⟨maxAttempts, policy⟩ := (kept ⟨waiting ▸ rfl, going⟩).policy halted
          exact StallRecovery.noConfusion (policy.symm.trans idle)
  | stuck state now error waiting going empty halted =>
      exact (not_tends_of_terminated (terminated_fail_eq now .stalled _) tends).elim
  | polled state now answer waiting going flying =>
      have before := still (Or.inr (Or.inl waiting)) (kept ⟨waiting ▸ rfl, going⟩)
      exact ⟨before.full, before.emptying, before.policy⟩
  | finished handling empty =>
      have before := still (Or.inr (Or.inr ⟨handling, empty⟩))
        (kept ⟨handling ▸ rfl, tends.going⟩)
      exact ⟨before.full, before.emptying, before.policy⟩
  | handled completion rest calls handling waiting reaction =>
      have next : run.next? = some completion := by
        rw [next?, handling, waiting]
        rfl
      rw [next]
      have before : { run with arrivals := rest }.Upkeep taken since := by
        obtain ⟨full, emptying, policy⟩ := kept ⟨handling ▸ rfl, reaction.going tends⟩
        exact ⟨full, emptying, policy⟩
      exact reaction.kept before tends
  | stayed done =>
      have running := tends.running
      cases stage : run.stage <;> rw [stage] at done running <;> contradiction
  | settled state deadline completion rest settling waiting =>
      have running := tends.running
      rw [receive_eq, show run.stage = _ from settling] at running
      contradiction
  | awaited state deadline timeout answer draining flying =>
      have running := tends.running
      dsimp only at running
      split at running <;> contradiction
  | _ => exact absurd tends.running Bool.false_ne_true

end Run

end UsbThroughput
