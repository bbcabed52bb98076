import UsbThroughput.Proofs.Run.Mirror
import UsbThroughput.Proofs.Run.Upkeep

/-!
# How long a run takes

Between one call for completions and the next a run takes only so many steps, which its stage and
the completions at hand tell (`Run.rank`). So a run on a device that answers only so many of these
calls without failing comes to its end (`Benchmark.ends_of_bounded`).
-/

namespace UsbThroughput

open RigEvent

/-- Whether an event is a call for completions after which a run goes on. -/
def RigEvent.goesOn : RigEvent → Bool
  | polled timeout answer => (fatal? (polled timeout answer)).isNone
  | _ => false

namespace Run

variable {σ : Type} {run last : Run σ} {calls : List RigEvent}

/-- How many steps a run takes at most before it calls for completions again, or ends. -/
def rank (run : Run σ) : Nat :=
  match run.stage with
  | .filling => 10
  | .starting => 9
  | .handling => 8 + run.arrivals.length
  | .waiting => if run.meter.terminated then 5 else if run.halted then 7 else 6
  | .settling _ => 4 + run.arrivals.length
  | .cancelling => 4
  | .draining _ => 3
  | .abandoning => 2
  | .closing => 1
  | .ended _ | .broken _ => 0

private theorem rank_waiting (waiting : run.stage = .waiting) :
    run.rank = if run.meter.terminated then 5 else if run.halted then 7 else 6 := by
  rw [rank, waiting]

private theorem rank_handling (handling : run.stage = .handling) :
    run.rank = 8 + run.arrivals.length := by
  rw [rank, handling]

private theorem rank_settling {deadline : Duration} (settling : run.stage = .settling deadline) :
    run.rank = 4 + run.arrivals.length := by
  rw [rank, settling]

private theorem rank_waiting_bounds (waiting : run.stage = .waiting) :
    4 < run.rank ∧ run.rank < 8 := by
  rw [rank_waiting waiting]
  split
  · exact ⟨Nat.lt_succ_self 4, by decide⟩
  · split <;> decide

/-- While a halt is to be cleared, a waiting run takes a step more. -/
theorem rank_waiting_of_halted (waiting : run.stage = .waiting)
    (going : run.meter.terminated = false) (halted : run.halted = true) : run.rank = 7 := by
  rw [rank_waiting waiting, going, halted]
  rfl

/-- A run that waits may be any number of steps from its next call, but fewer than one that has
not sent the start command or has completions to act on. -/
theorem rank_goTo_waiting (run : Run σ) : (run.goTo .waiting).rank < 8 :=
  (rank_waiting_bounds rfl).2

/-- Acting on a completion leaves none more of them. -/
theorem Reaction.rank_le {completion : Completion} (reaction : run.Reaction completion calls last)
    (handling : run.stage = .handling) : last.rank ≤ run.rank := by
  rw [rank_handling handling]
  cases reaction with
  | passed => exact Nat.le_of_eq (rank_handling handling)
  | failed => exact Nat.le_of_eq (rank_handling handling)
  | counted => exact Nat.le_of_eq (rank_handling handling)
  | resubmitted => exact Nat.le_of_eq (rank_handling rfl)
  | overflowed => exact Nat.zero_le _
  | begun => exact Nat.le_of_eq (rank_handling handling)

/-- **A step without a call for completions**, or with one that fails, comes nearer to the next. -/
theorem Advance.rank_lt (advance : run.Advance calls last) (unfinished : run.stage.isOver = false)
    (none : ∀ call ∈ calls, call.goesOn = false) : last.rank < run.rank := by
  have stopped {timeout : Duration} {answer : Polled}
      (goes : (fatal? (.polled timeout answer)).isNone = false) :
      (fatal? (.polled timeout answer)).isSome = true := by
    rw [← Option.not_isNone, goes]
    rfl
  cases advance with
  | stayed done => exact Bool.noConfusion (done.symm.trans unfinished)
  | filled state now later slots calls refusal filling =>
      rw [rank.eq_def run, filling]
      exact Nat.lt_succ_self 9
  | started state result starting =>
      have near := rank_goTo_waiting { run with rigState := state }
      rw [rank.eq_def run, starting]
      exact Nat.lt_succ_of_lt near
  | notStarted state starting =>
      have near := rank_goTo_waiting { run with rigState := state }
      rw [rank.eq_def run, starting]
      exact Nat.lt_succ_of_lt near
  | decided waiting => exact (rank_waiting_bounds waiting).1
  | starved state now waiting => exact (rank_waiting_bounds waiting).1
  | recovered state later slots calls refusal waiting going empty halted =>
      rw [rank_waiting_of_halted waiting going halted]
      refine lt_of_eq_of_lt (rank_waiting rfl) ?_
      split
      · exact Nat.lt_add_of_pos_right Nat.two_pos
      · exact Nat.lt_succ_self 6
  | stuck state now error waiting going empty halted =>
      rw [rank_waiting_of_halted waiting going halted]
      refine lt_of_eq_of_lt (rank_waiting waiting) ?_
      rw [if_pos (terminated_fail_eq now .stalled run.meter)]
      exact Nat.lt_add_of_pos_right Nat.two_pos
  | polled state now answer waiting =>
      rw [stopped (none _ (List.mem_singleton_self _))]
      exact (rank_waiting_bounds waiting).1
  | finished handling empty =>
      rw [rank_handling handling]
      exact Nat.lt_add_right _ (rank_goTo_waiting run)
  | handled completion rest calls handling waiting reaction =>
      have received : ({ run with arrivals := rest }.receive completion).stage = .handling :=
        (stage_receive _ completion).trans handling
      have near := reaction.rank_le received
      rw [rank_handling received, arrivals_receive] at near
      rw [rank_handling handling, waiting]
      exact Nat.lt_of_le_of_lt near (Nat.lt_succ_self _)
  | recalled state deadline calls cancelling =>
      rw [rank.eq_def run, cancelling]
      exact Nat.lt_succ_self 3
  | drained state deadline draining =>
      rw [rank.eq_def run, draining]
      exact Nat.lt_succ_self 2
  | awaited state deadline timeout answer draining =>
      rw [rank.eq_def run, draining, stopped (none _ (List.mem_singleton_self _))]
      exact Nat.lt_succ_self 2
  | resumed deadline settling empty =>
      rw [rank_settling settling]
      exact Nat.lt_add_right _ (Nat.lt_succ_self 3)
  | settled state deadline completion rest settling waiting =>
      have received : ({ run with arrivals := rest }.receive completion).stage =
          .settling deadline := (stage_receive _ completion).trans settling
      rw [rank_settling settling, waiting]
      refine lt_of_eq_of_lt (rank_settling received) ?_
      rw [arrivals_receive]
      exact Nat.lt_succ_self _
  | abandoned state abandoning =>
      rw [rank.eq_def run, abandoning]
      exact Nat.lt_succ_self 1
  | closed state now result closing =>
      rw [rank.eq_def run, closing]
      exact Nat.lt_succ_self 0

end Run

namespace Benchmark

variable {σ : Type} (rig : Rig σ) (benchmark : Benchmark) (state : σ)

private theorem countP_goesOn (history : List RigEvent) :
    (deviceCalls history).countP goesOn = history.countP goesOn := by
  apply countP_deviceCalls
  intro event goes
  cases event <;> first | rfl | contradiction

/-- **A run comes to where it is to go**, or to its end, if on the way only so many of its calls for
completions do not fail. -/
theorem reaches_of_bounded {arrived : Stage → Bool}
    (stops : ∀ stage, stage.isOver = true → arrived stage = true) {bound : Nat}
    (bounded : ∀ count,
      arrived (benchmark.runAfter rig.journaled { state } count).stage = false →
      (benchmark.runAfter rig.journaled { state } count).rigState.history.countP goesOn ≤ bound)
    (count : Nat) :
    ∃ later ≥ count, arrived (benchmark.runAfter rig.journaled { state } later).stage = true := by
  -- First by the number of calls that are left, then by the steps up to the next one.
  induction room : bound -
      (benchmark.runAfter rig.journaled { state } count).rigState.history.countP goesOn
    using Nat.strongRecOn generalizing count with
  | ind room fewerCalls =>
  induction steps : (benchmark.runAfter rig.journaled { state } count).rank
    using Nat.strongRecOn generalizing count with
  | ind steps fewerSteps =>
      cases there : arrived (benchmark.runAfter rig.journaled { state } count).stage with
      | true => exact ⟨count, Nat.le_refl count, there⟩
      | false =>
      cases next : arrived (benchmark.runAfter rig.journaled { state } (count + 1)).stage with
      | true => exact ⟨count + 1, Nat.le_succ count, next⟩
      | false =>
          have unfinished :
              (benchmark.runAfter rig.journaled { state } count).stage.isOver = false :=
            Bool.eq_false_iff.mpr fun stopped =>
              Bool.noConfusion (there.symm.trans (stops _ stopped))
          obtain ⟨calls, performs, advance⟩ := benchmark.advances_runAfter rig state count
          have counted := performs.deviceCalls_eq
          have grown :
              (benchmark.runAfter rig.journaled { state } (count + 1)).rigState.history.countP
              goesOn = (benchmark.runAfter rig.journaled { state } count).rigState.history.countP
                goesOn + calls.countP goesOn := by
            rw [← countP_goesOn, counted, List.countP_append, countP_goesOn]
          have most := bounded (count + 1) next
          have onwards : ∃ later ≥ count + 1,
              arrived (benchmark.runAfter rig.journaled { state } later).stage = true := by
            by_cases none : calls.countP goesOn = 0
            · rw [none] at grown
              have near := advance.rank_lt unfinished fun call member =>
                Bool.eq_false_iff.mpr (List.countP_eq_zero.mp none call member)
              exact fewerSteps _ (steps ▸ near) (count + 1) (by rw [grown, Nat.add_zero, room]) rfl
            · exact fewerCalls _ (by omega) (count + 1) rfl
          obtain ⟨later, after, arrives⟩ := onwards
          exact ⟨later, Nat.le_of_succ_le after, arrives⟩

/-- **A run comes to its end** if only so many of its calls for completions do not fail. -/
theorem ends_of_bounded {bound : Nat}
    (bounded : ∀ count,
      (benchmark.runAfter rig.journaled { state } count).rigState.history.countP goesOn ≤ bound)
    (count : Nat) :
    ∃ later ≥ count, (benchmark.runAfter rig.journaled { state } later).stage.isOver = true :=
  benchmark.reaches_of_bounded rig state (fun _ stopped => stopped) (fun count _ => bounded count)
    count

end Benchmark

/-! ## Devices that fail in the end -/

/-- Every call on a rig leaves it with no more than before of something of which each call for
completions takes one, unless it fails. -/
structure Rig.Spends {σ : Type} (rig : Rig σ) (left : σ → Nat) : Prop where
  connect : ∀ target state, left (rig.connect target state).2 ≤ left state
  submit : ∀ slot state, left (rig.submit slot state).2 ≤ left state
  cancel : ∀ slot state, left (rig.cancel slot state).2 ≤ left state
  poll : ∀ timeout state,
    (if goesOn (.polled timeout (rig.poll timeout state).1) then 1 else 0) +
      left (rig.poll timeout state).2 ≤ left state
  write : ∀ endpoint data timeout state,
    left (rig.write endpoint data timeout state).2 ≤ left state
  clearHalt : ∀ endpoint state, left (rig.clearHalt endpoint state).2 ≤ left state
  disconnect : ∀ state, left (rig.disconnect state) ≤ left state
  now : ∀ state, left (rig.now state).2 ≤ left state
  note : ∀ notice state, left (rig.note notice state) ≤ left state

/-- The event calls that went well and those that are left come to no more than at the beginning. -/
theorem Rig.Spends.keeps {σ : Type} {rig : Rig σ} {left : σ → Nat} (spends : rig.Spends left)
    (most : Nat) :
    rig.journaled.Keeps fun journal =>
      journal.history.countP goesOn + left journal.state ≤ most := by
  have grown {journal later : Journal RigEvent σ} {event : RigEvent}
      (holds : journal.history.countP goesOn + left journal.state ≤ most)
      (history : later.history = journal.history ++ [event])
      (less : (if event.goesOn then 1 else 0) + left later.state ≤ left journal.state) :
      later.history.countP goesOn + left later.state ≤ most := by
    rw [history, List.countP_append, List.countP_singleton]
    omega
  have other {journal later : Journal RigEvent σ} {event : RigEvent}
      (holds : journal.history.countP goesOn + left journal.state ≤ most)
      (history : later.history = journal.history ++ [event]) (fails : event.goesOn = false)
      (less : left later.state ≤ left journal.state) :
      later.history.countP goesOn + left later.state ≤ most := by
    refine grown holds history ?_
    rw [fails, if_neg Bool.false_ne_true, Nat.zero_add]
    exact less
  exact
    { connect target journal holds :=
        other holds (Journal.history_record ..) rfl (spends.connect target journal.state)
      submit slot journal holds :=
        other holds (rig.history_submit journal slot) rfl (spends.submit slot journal.state)
      cancel slot journal holds :=
        other holds (rig.history_cancel journal slot) rfl (spends.cancel slot journal.state)
      poll timeout journal holds :=
        grown holds (rig.history_poll journal timeout) (spends.poll timeout journal.state)
      write endpoint data timeout journal holds :=
        other holds (rig.history_write journal endpoint data timeout) rfl
          (spends.write endpoint data timeout journal.state)
      clearHalt endpoint journal holds :=
        other holds (rig.history_clearHalt journal endpoint) rfl
          (spends.clearHalt endpoint journal.state)
      disconnect journal holds :=
        other holds (rig.history_disconnect journal) rfl (spends.disconnect journal.state)
      now journal holds := Nat.le_trans (Nat.add_le_add_left (spends.now journal.state) _) holds
      note notice journal holds :=
        other holds (rig.history_note journal notice) rfl (spends.note notice journal.state) }

/-- **A benchmark comes to its end** on a device that can be asked for completions only so often
before it fails. -/
theorem Benchmark.ends_of_spends {σ : Type} {rig : Rig σ} {left : σ → Nat}
    (spends : rig.Spends left) (benchmark : Benchmark) (state : σ) :
    ∃ enough, ∀ count ≥ enough, (benchmark.runAfter rig state count).stage.isOver = true := by
  have bounded (count : Nat) :
      (benchmark.runAfter rig.journaled { state } count).rigState.history.countP
      goesOn ≤ left state := by
    have kept := benchmark.keeps_runAfter (spends.keeps (left state)) { state }
      (Nat.le_of_eq (Nat.zero_add _)) count
    exact Nat.le_trans (Nat.le_add_right _ _) kept
  obtain ⟨enough, _, stopped⟩ := benchmark.ends_of_bounded rig state bounded 0
  refine ⟨enough, fun count later => ?_⟩
  have still := benchmark.runAfter_of_isOver rig.journaled stopped later
  rw [← still] at stopped
  rw [benchmark.runAfter_journaled]
  exact stopped

end UsbThroughput
