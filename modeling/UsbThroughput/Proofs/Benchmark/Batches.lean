import UsbThroughput.Proofs.Benchmark.Progress
import UsbThroughput.Proofs.Run.Even

/-!
# Batches of completions

A device hands over finished transfers in batches, one for each event call. Between two batches a
test looks after itself: it is decided, it clears a halt, or it fails since nothing is in flight.
Still it makes no difference how the completions are cut into batches
(`Benchmark.batches_immaterial`), since none of this could have happened in the middle of a batch:
what waits to be acted on is in flight.

The proof pairs the moments of two runs (`Benchmark.Meet`). Where one of them ends a batch or asks
for the next, the other stands still; where it does something else, the other catches up first.
-/

namespace UsbThroughput

open RigEvent

/-- A stage, no matter whether completions are being acted on or asked for. -/
def Stage.unbatched : Stage → Stage
  | handling => waiting
  | stage => stage

private theorem Stage.eq_of_unbatched {stage next : Stage} (same : stage.unbatched = next.unbatched)
    (elsewhere : next.unbatched ≠ waiting) : stage = next := by
  cases stage <;> cases next <;> simp_all [unbatched]

private theorem Stage.waiting_or_handling {stage : Stage} (same : stage.unbatched = waiting) :
    stage = waiting ∨ stage = handling := by
  cases stage <;> simp_all [unbatched]

/-- **Two histories differ in their batches**: both devices are faithful, no event call failed, the
same requests were answered alike, and as far as both go, the same completions were handed over. -/
structure RigEvent.Rebatched (first second : List RigEvent) : Prop where
  faithful : Faithful first
  faithfulTwin : Faithful second
  unfailing : Benchmark.Unfailing first
  unfailingTwin : Benchmark.Unfailing second
  answers : AnswerAlike (requests first) (requests second)
  comparable : delivered first <+: delivered second ∨ delivered second <+: delivered first

namespace RigEvent

private theorem delivered_isPrefix {first second : List RigEvent} (before : first <+: second) :
    delivered first <+: delivered second := by
  obtain ⟨more, rfl⟩ := before
  rw [delivered_append]
  exact List.prefix_append _ _

namespace Rebatched

variable {first second before beforeTwin : List RigEvent}

/-- What is so of two histories was so before. -/
theorem of_isPrefix (rebatched : Rebatched first second) (earlier : before <+: first)
    (earlierTwin : beforeTwin <+: second) : Rebatched before beforeTwin where
  faithful := rebatched.faithful.of_isPrefix earlier
  faithfulTwin := rebatched.faithfulTwin.of_isPrefix earlierTwin
  unfailing event member := rebatched.unfailing event (earlier.subset member)
  unfailingTwin event member := rebatched.unfailingTwin event (earlierTwin.subset member)
  answers := rebatched.answers.of_isPrefix (earlier.filter _) (earlierTwin.filter _)
  comparable := by
    have whole := delivered_isPrefix earlier
    have wholeTwin := delivered_isPrefix earlierTwin
    rcases rebatched.comparable with shorter | longer
    · exact List.prefix_or_prefix_of_prefix (whole.trans shorter) wholeTwin
    · exact List.prefix_or_prefix_of_prefix whole (wholeTwin.trans longer)

/-- If two histories have handed over the same so far, the same completion comes next. -/
theorem next_eq (rebatched : Rebatched first second) {taken rest restTwin : List Completion}
    {completion other : Completion} (handed : delivered first = taken ++ completion :: rest)
    (handedTwin : delivered second = taken ++ other :: restTwin) : other = completion := by
  have comparable := rebatched.comparable
  rw [handed, handedTwin] at comparable
  rcases comparable with shorter | longer
  · exact (List.cons_prefix_cons.mp ((List.prefix_append_right_inj taken).mp shorter)).1.symm
  · exact (List.cons_prefix_cons.mp ((List.prefix_append_right_inj taken).mp longer)).1

end Rebatched

end RigEvent

/-- A step between the decision and the winding up asks for nothing. -/
theorem Run.Advance.requests_of_decided {σ : Type} {run last : Run σ} {calls : List RigEvent}
    (advance : run.Advance calls last) (begun : run.stage ≠ .filling)
    (within : run.stage.isFinal = false) (decided : run.meter.terminated = true) :
    requests calls = [] ∧ last.recoveries = run.recoveries := by
  cases advance with
  | stayed => exact ⟨rfl, rfl⟩
  | notStarted => exact ⟨rfl, rfl⟩
  | decided => exact ⟨rfl, rfl⟩
  | finished => exact ⟨rfl, rfl⟩
  | filled _ _ _ _ _ _ filling => exact (begun filling).elim
  | started _ _ _ going => exact Bool.noConfusion (decided.symm.trans going)
  | starved _ _ _ going => exact Bool.noConfusion (decided.symm.trans going)
  | recovered _ _ _ _ _ _ going => exact Bool.noConfusion (decided.symm.trans going)
  | stuck _ _ _ _ going => exact Bool.noConfusion (decided.symm.trans going)
  | polled _ _ _ _ going => exact Bool.noConfusion (decided.symm.trans going)
  | handled completion rest calls _ _ reaction =>
      have received : ({ run with arrivals := rest }.receive completion).meter.terminated = true :=
        (congrArg Meter.terminated (meter_receive _ completion)).trans decided
      cases reaction with
      | passed => exact ⟨rfl, recoveries_receive _ completion⟩
      | failed _ _ _ going => exact Bool.noConfusion (received.symm.trans going)
      | counted _ _ _ _ going => exact Bool.noConfusion (received.symm.trans going)
      | resubmitted _ _ _ _ _ _ _ _ going => exact Bool.noConfusion (received.symm.trans going)
      | overflowed _ going => exact Bool.noConfusion (received.symm.trans going)
      | begun _ _ _ _ going => exact Bool.noConfusion (received.symm.trans going)
  | _ =>
      rw [show run.stage = _ from ‹run.stage = _›] at within
      contradiction

namespace Benchmark

variable {σ τ ρ : Type}

/-- **Two runs meet**: after so many steps each they are even, and they have made the same requests
and acted on the same completions. -/
structure Meet (benchmark : Benchmark) (rig : Rig σ) (other : Rig τ) (state : σ) (twin : τ)
    (count later : Nat) : Prop where
  even : (benchmark.runAfter rig.journaled { state } count).Even
    (benchmark.runAfter other.journaled { state := twin } later)
  stage : (benchmark.runAfter other.journaled { state := twin } later).stage.unbatched =
    (benchmark.runAfter rig.journaled { state } count).stage.unbatched
  asked : requests (benchmark.runAfter other.journaled { state := twin } later).rigState.history =
    requests (benchmark.runAfter rig.journaled { state } count).rigState.history
  taken : benchmark.takenUp other.journaled { state := twin } later =
    benchmark.takenUp rig.journaled { state } count

variable {benchmark : Benchmark} {rig : Rig σ} {other : Rig τ} {third : Rig ρ} {state : σ}
  {twin : τ} {also : ρ} {count later last : Nat}

/-- Runs meet each other. -/
theorem Meet.symm (meet : benchmark.Meet rig other state twin count later) :
    benchmark.Meet other rig twin state later count :=
  ⟨meet.even.symm, meet.stage.symm, meet.asked.symm, meet.taken.symm⟩

/-- A run that meets another meets whom that one meets. -/
theorem Meet.trans (meet : benchmark.Meet rig other state twin count later)
    (next : benchmark.Meet other third twin also later last) :
    benchmark.Meet rig third state also count last :=
  ⟨meet.even.trans next.even, next.stage.trans meet.stage, next.asked.trans meet.asked,
    next.taken.trans meet.taken⟩

/-- Two runs meet before their first step. -/
theorem meet_zero (rig : Rig σ) (other : Rig τ) (benchmark : Benchmark) (state : σ) (twin : τ) :
    benchmark.Meet rig other state twin 0 0 := by
  have unasked {ρ : Type} (rig : Rig ρ) (state : ρ) :
      requests (benchmark.runAfter rig.journaled { state } 0).rigState.history = [] := by
    rw [← requests_deviceCalls, deviceCalls, List.filter_eq_nil_iff.mpr]
    · rfl
    · intro event member
      rw [benchmark.aside_begin rig state event member]
      exact Bool.false_ne_true
  exact ⟨⟨rfl, rfl, rfl, rfl, rfl, rfl, ⟨rfl, rfl, rfl, rfl⟩⟩, rfl,
    (unasked other twin).trans (unasked rig state).symm, rfl⟩

/-! ## Steps from batch to batch -/

/-- A run stands still in a step in which it asks for nothing and acts on nothing. -/
theorem meet_of_still {calls : List RigEvent}
    (performs : (benchmark.runAfter rig.journaled { state } count).rigState.Performs calls
      (benchmark.runAfter rig.journaled { state } (count + 1)).rigState)
    (unasked : requests calls = [])
    (nothing : (benchmark.runAfter rig.journaled { state } count).next? = none)
    (even : (benchmark.runAfter rig.journaled { state } count).Even
      (benchmark.runAfter rig.journaled { state } (count + 1)))
    (stage : (benchmark.runAfter rig.journaled { state } (count + 1)).stage.unbatched =
      (benchmark.runAfter rig.journaled { state } count).stage.unbatched) :
    benchmark.Meet rig rig state state count (count + 1) where
  even := even
  stage := stage
  asked := by rw [performs.requests_eq, unasked, List.append_nil]
  taken := by rw [takenUp_succ, nothing, Option.toList_none, List.append_nil]

/-- At the end of a batch a run stands still. -/
theorem meet_of_finished
    (handling : (benchmark.runAfter rig.journaled { state } count).stage = .handling)
    (empty : (benchmark.runAfter rig.journaled { state } count).arrivals = []) :
    benchmark.Meet rig rig state state count (count + 1) ∧
      (benchmark.runAfter rig.journaled { state } (count + 1)).stage = .waiting := by
  obtain ⟨calls, performs, advance⟩ := benchmark.advances_runAfter rig state count
  obtain ⟨rfl, same⟩ := advance.of_finished handling empty
  have nothing : (benchmark.runAfter rig.journaled { state } count).next? = none := by
    rw [Run.next?, handling]
    exact congrArg List.head? empty
  refine ⟨meet_of_still performs rfl nothing ?_ ?_, ?_⟩
  · rw [same]
    exact ⟨rfl, rfl, rfl, rfl, rfl, rfl, ⟨rfl, rfl, rfl, rfl⟩⟩
  · rw [same, handling]
    rfl
  · rw [same]

/-- A run that asks for the next batch stands still. -/
theorem meet_of_polled
    (waiting : (benchmark.runAfter rig.journaled { state } count).stage = .waiting)
    (going : (benchmark.runAfter rig.journaled { state } count).meter.terminated = false)
    (flying : (benchmark.runAfter rig.journaled { state } count).queue.inFlight ≠ 0)
    (unfailing :
      Unfailing (benchmark.runAfter rig.journaled { state } (count + 1)).rigState.history) :
    benchmark.Meet rig rig state state count (count + 1) ∧
      (benchmark.runAfter rig.journaled { state } (count + 1)).stage = .handling := by
  obtain ⟨calls, performs, advance⟩ := benchmark.advances_runAfter rig state count
  obtain ⟨after, now, answer, rfl, same⟩ := advance.of_flying waiting going flying
  have goes := unfailing _ (performs.mem_history (List.mem_singleton_self _)) rfl
  rw [Option.isNone_iff_eq_none.mp goes] at same
  have nothing : (benchmark.runAfter rig.journaled { state } count).next? = none := by
    rw [Run.next?, waiting]
  refine ⟨meet_of_still performs rfl nothing ?_ ?_, ?_⟩
  · rw [same]
    exact ⟨rfl, rfl, rfl, rfl, rfl, rfl, ⟨rfl, rfl, rfl, rfl⟩⟩
  · rw [same, waiting]
    rfl
  · rw [same]
    rfl

/-! ## Steps that are made by both -/

/-- Two runs meet again if they make their next steps in the same way. -/
theorem Meet.succ (meet : benchmark.Meet rig other state twin count later)
    (alike : AnswerAlike
      (requests (benchmark.runAfter rig.journaled { state } (count + 1)).rigState.history)
      (requests
        (benchmark.runAfter other.journaled { state := twin } (later + 1)).rigState.history))
    (next : (benchmark.runAfter other.journaled { state := twin } later).next? =
      (benchmark.runAfter rig.journaled { state } count).next?)
    (goes : ∀ calls others,
      (benchmark.runAfter rig.journaled { state } count).Advance calls
        (benchmark.runAfter rig.journaled { state } (count + 1)) →
      (benchmark.runAfter other.journaled { state := twin } later).Advance others
        (benchmark.runAfter other.journaled { state := twin } (later + 1)) →
      AnswerAlike (requests calls) (requests others) →
      requests others = requests calls ∧
        (benchmark.runAfter rig.journaled { state } (count + 1)).Even
          (benchmark.runAfter other.journaled { state := twin } (later + 1)) ∧
        (benchmark.runAfter other.journaled { state := twin } (later + 1)).stage.unbatched =
          (benchmark.runAfter rig.journaled { state } (count + 1)).stage.unbatched) :
    benchmark.Meet rig other state twin (count + 1) (later + 1) := by
  obtain ⟨calls, performs, advance⟩ := benchmark.advances_runAfter rig state count
  obtain ⟨others, performsTwin, advanceTwin⟩ := benchmark.advances_runAfter other twin later
  rw [performs.requests_eq, performsTwin.requests_eq, meet.asked] at alike
  obtain ⟨same, even, stage⟩ := goes calls others advance advanceTwin alike.of_append
  refine ⟨even, stage, ?_, congrArg₂ (· ++ ·) meet.taken (congrArg Option.toList next)⟩
  rw [performs.requests_eq, performsTwin.requests_eq, meet.asked, same]

/-! ## Before the run winds up -/

section

variable (cancelling : (benchmark.runAfter rig.journaled { state } last).stage = .cancelling)

include cancelling

/-- Before the run winds up it was not decided to do so. -/
theorem within_of_cancelling (before : count < last) :
    (benchmark.runAfter rig.journaled { state } count).stage.isFinal = false := by
  apply Bool.of_not_eq_true
  intro final
  obtain ⟨middle, rfl⟩ := Nat.exists_eq_succ_of_ne_zero (Nat.ne_zero_of_lt before)
  have leads := Run.leadsTo_step rig.journaled (benchmark.runAfter rig.journaled { state } middle)
  rw [← benchmark.runAfter_succ, cancelling] at leads
  have still := isFinal_runAfter rig.journaled (Nat.le_of_lt_succ before) final
  exact Bool.noConfusion (still.symm.trans (Stage.within_of_leadsTo_cancelling leads))

/-- As long as the test goes on, the run does not wind up. -/
theorem lt_of_going
    (going : (benchmark.runAfter rig.journaled { state } count).meter.terminated = false) :
    count < last := by
  apply Nat.lt_of_not_le
  intro after
  have decided := (benchmark.staged_runAfter rig.journaled { state } count).decided
    (isFinal_runAfter rig.journaled after (cancelling ▸ rfl))
  exact Bool.noConfusion (going.symm.trans decided)

/-- A run that winds up was never broken off. -/
theorem whole_of_cancelling (before : count ≤ last) (fault : Fault) :
    (benchmark.runAfter rig.journaled { state } count).stage ≠ .broken fault := by
  intro broken
  have still := benchmark.runAfter_of_isOver rig.journaled (congrArg Stage.isOver broken) before
  rw [still, broken] at cancelling
  contradiction

/-- A run that acts on completions goes on to do so, or to ask for more of them. -/
theorem unbatched_of_handling
    (handling : (benchmark.runAfter rig.journaled { state } count).stage = .handling)
    (before : count < last) :
    (benchmark.runAfter rig.journaled { state } (count + 1)).stage.unbatched = .waiting := by
  have leads := Run.leadsTo_step rig.journaled (benchmark.runAfter rig.journaled { state } count)
  rw [← benchmark.runAfter_succ, handling] at leads
  have whole := whole_of_cancelling cancelling before
  cases stage : (benchmark.runAfter rig.journaled { state } (count + 1)).stage with
  | waiting => rfl
  | handling => rfl
  | broken fault => exact (whole fault stage).elim
  | _ =>
      rw [stage] at leads
      contradiction

/-- What a run is about while its test goes on. -/
theorem stage_of_going
    (going : (benchmark.runAfter rig.journaled { state } count).meter.terminated = false) :
    (benchmark.runAfter rig.journaled { state } count).stage = .filling ∨
      (benchmark.runAfter rig.journaled { state } count).stage = .starting ∨
      (benchmark.runAfter rig.journaled { state } count).stage = .waiting ∨
      (benchmark.runAfter rig.journaled { state } count).stage = .handling := by
  have before := lt_of_going cancelling going
  have within := within_of_cancelling cancelling before
  cases stage : (benchmark.runAfter rig.journaled { state } count).stage with
  | filling => exact Or.inl rfl
  | starting => exact Or.inr (Or.inl rfl)
  | waiting => exact Or.inr (Or.inr (Or.inl rfl))
  | handling => exact Or.inr (Or.inr (Or.inr rfl))
  | broken fault => exact (whole_of_cancelling cancelling (Nat.le_of_lt before) fault stage).elim
  | _ =>
      rw [stage] at within
      contradiction

/-- Once the test is decided, nothing is asked of the device before it winds up. -/
theorem requests_of_decided
    (decided : (benchmark.runAfter rig.journaled { state } count).meter.terminated = true)
    (before : count ≤ last) :
    requests (benchmark.runAfter rig.journaled { state } last).rigState.history =
        requests (benchmark.runAfter rig.journaled { state } count).rigState.history ∧
      (benchmark.runAfter rig.journaled { state } last).recoveries =
        (benchmark.runAfter rig.journaled { state } count).recoveries := by
  suffices still : ∀ later, count ≤ later → later ≤ last →
      requests (benchmark.runAfter rig.journaled { state } later).rigState.history =
          requests (benchmark.runAfter rig.journaled { state } count).rigState.history ∧
        (benchmark.runAfter rig.journaled { state } later).recoveries =
          (benchmark.runAfter rig.journaled { state } count).recoveries from
    still last before (Nat.le_refl last)
  intro later after
  induction later, after using Nat.le_induction with
  | base => exact fun _ => ⟨rfl, rfl⟩
  | succ later after ih =>
      intro within
      obtain ⟨same, recoveries⟩ := ih (Nat.le_of_succ_le within)
      obtain ⟨calls, performs, advance⟩ := benchmark.advances_runAfter rig state later
      have still : (benchmark.runAfter rig.journaled { state } later).meter.terminated = true := by
        rw [benchmark.meter_runAfter_of_terminated rig.journaled { state } after decided, decided]
      have begun : (benchmark.runAfter rig.journaled { state } later).stage ≠ .filling := by
        intro filling
        have fresh := (benchmark.staged_runAfter rig.journaled { state } later).fresh filling
        rw [fresh] at still
        contradiction
      obtain ⟨unasked, kept⟩ :=
        advance.requests_of_decided begun (within_of_cancelling cancelling within) still
      rw [performs.requests_eq, unasked, List.append_nil]
      exact ⟨same, kept.trans recoveries⟩

end

/-! ## Catching up -/

/-- What waits to be acted on is in flight. -/
theorem flying_of_waiting
    (faithful : Faithful (benchmark.runAfter rig.journaled { state } count).rigState.history)
    (within : (benchmark.runAfter rig.journaled { state } count).stage.isFinal = false)
    {completion : Completion} {rest : List Completion}
    (waiting : (benchmark.runAfter rig.journaled { state } count).arrivals = completion :: rest) :
    ∃ slot, (benchmark.runAfter rig.journaled { state } count).queue.slot? completion.slot =
        some slot ∧ (benchmark.runAfter rig.journaled { state } count).queue.inFlight ≠ 0 := by
  have accounts := benchmark.accounts_runAfter rig state (holdsSlots_of_going within) faithful
  obtain ⟨slot, held, flying⟩ := accounts.submitted_of_waiting faithful waiting
  refine ⟨slot, held, fun empty => ?_⟩
  exact List.countP_eq_zero.mp empty slot (List.mem_of_getElem? held) flying

section

variable {lastTwin : Nat}
  (rebatched : Rebatched (benchmark.runAfter rig.journaled { state } last).rigState.history
    (benchmark.runAfter other.journaled { state := twin } lastTwin).rigState.history)
  (cancelling : (benchmark.runAfter rig.journaled { state } last).stage = .cancelling)
  (cancellingTwin :
    (benchmark.runAfter other.journaled { state := twin } lastTwin).stage = .cancelling)

include rebatched

private theorem rebatched_before (before : count ≤ last) (beforeTwin : later ≤ lastTwin) :
    Rebatched (benchmark.runAfter rig.journaled { state } count).rigState.history
      (benchmark.runAfter other.journaled { state := twin } later).rigState.history :=
  rebatched.of_isPrefix (benchmark.history_runAfter_le rig state before)
    (benchmark.history_runAfter_le other twin beforeTwin)

include cancelling cancellingTwin

/-- A run that has nothing in flight is caught up with by one that stands at the end of a batch. -/
theorem Meet.catchUp_grounded (meet : benchmark.Meet rig other state twin count later)
    (waiting : (benchmark.runAfter rig.journaled { state } count).stage = .waiting)
    (going : (benchmark.runAfter rig.journaled { state } count).meter.terminated = false)
    (empty : (benchmark.runAfter rig.journaled { state } count).queue.inFlight = 0) :
    ∃ next, benchmark.Meet rig other state twin count next ∧
      (benchmark.runAfter other.journaled { state := twin } next).stage = .waiting := by
  have goingTwin := meet.even.meter.terminated.trans going
  have before := lt_of_going cancelling going
  have beforeTwin := lt_of_going cancellingTwin goingTwin
  have stage := meet.stage
  rw [waiting] at stage
  rcases Stage.waiting_or_handling stage with waitingTwin | handlingTwin
  · exact ⟨later, meet, waitingTwin⟩
  · cases arrivals : (benchmark.runAfter other.journaled { state := twin } later).arrivals with
    | nil =>
        obtain ⟨still, waitingTwin⟩ := meet_of_finished handlingTwin arrivals
        exact ⟨later + 1, meet.trans still, waitingTwin⟩
    | cons completion rest =>
        obtain ⟨_, _, flying⟩ := flying_of_waiting
          (rebatched_before rebatched before.le beforeTwin.le).faithfulTwin
          (within_of_cancelling cancellingTwin beforeTwin) arrivals
        rw [meet.even.queue] at flying
        exact (flying empty).elim

/-- A run that acts on a completion is caught up with: the other run asks for batches until it is
handed the same completion. -/
theorem Meet.catchUp_handling (meet : benchmark.Meet rig other state twin count later)
    (handling : (benchmark.runAfter rig.journaled { state } count).stage = .handling)
    (going : (benchmark.runAfter rig.journaled { state } count).meter.terminated = false)
    {completion : Completion} {rest : List Completion}
    (waiting : (benchmark.runAfter rig.journaled { state } count).arrivals = completion :: rest) :
    ∃ next restTwin, benchmark.Meet rig other state twin count next ∧
      (benchmark.runAfter other.journaled { state := twin } next).stage = .handling ∧
      (benchmark.runAfter other.journaled { state := twin } next).arrivals =
        completion :: restTwin := by
  -- By induction on how many steps the other run has left before it winds up.
  generalize distance : lastTwin - later = left
  induction left using Nat.strong_induction_on generalizing later with
  | _ left ih =>
    have goingTwin := meet.even.meter.terminated.trans going
    have before := lt_of_going cancelling going
    have beforeTwin := lt_of_going cancellingTwin goingTwin
    have fewer : lastTwin - (later + 1) < left := by omega
    have soFar := rebatched_before rebatched before.le beforeTwin.le
    have stage := meet.stage
    rw [handling] at stage
    rcases Stage.waiting_or_handling stage with waitingTwin | handlingTwin
    · obtain ⟨_, _, flying⟩ :=
        flying_of_waiting soFar.faithful (within_of_cancelling cancelling before) waiting
      rw [← meet.even.queue] at flying
      obtain ⟨still, _⟩ := meet_of_polled waitingTwin goingTwin flying
        (rebatched_before rebatched before.le beforeTwin).unfailingTwin
      exact ih _ fewer (meet.trans still) rfl
    · cases arrivals : (benchmark.runAfter other.journaled { state := twin } later).arrivals with
      | nil =>
          obtain ⟨still, _⟩ := meet_of_finished handlingTwin arrivals
          exact ih _ fewer (meet.trans still) rfl
      | cons also restTwin =>
          have handed := benchmark.handed_runAfter rig state count
          have handedTwin := benchmark.handed_runAfter other twin later
          rw [Run.Handed, waiting] at handed
          rw [Run.Handed, arrivals, meet.taken] at handedTwin
          obtain rfl := soFar.next_eq handed handedTwin
          exact ⟨later, restTwin, meet, handlingTwin, arrivals⟩

/-- **The next moment at which two runs meet.** As long as the test goes on, each step of one run
has its place in the other. -/
theorem Meet.next (meet : benchmark.Meet rig other state twin count later)
    (going : (benchmark.runAfter rig.journaled { state } count).meter.terminated = false) :
    ∃ next ≤ lastTwin, benchmark.Meet rig other state twin (count + 1) next := by
  have before := lt_of_going cancelling going
  have beforeTwin {next : Nat} (meet : benchmark.Meet rig other state twin count next) :
      next < lastTwin := lt_of_going cancellingTwin (meet.even.meter.terminated.trans going)
  -- Both make the same step after they have met once more, now in the same stage.
  have together {next : Nat} (meet : benchmark.Meet rig other state twin count next)
      (same : (benchmark.runAfter other.journaled { state := twin } next).next? =
        (benchmark.runAfter rig.journaled { state } count).next?) :=
    meet.succ (rebatched_before rebatched before (beforeTwin meet)).answers same
  rcases stage_of_going cancelling going with filling | starting | waiting | handling
  · have same := Stage.eq_of_unbatched meet.stage (filling ▸ Stage.noConfusion)
    refine ⟨later + 1, beforeTwin meet, together meet ?_ ?_⟩
    · rw [Run.next?, Run.next?, same, filling]
    · intro calls others advance advanceTwin alike
      obtain ⟨asked, even, stage⟩ :=
        advance.even_of_filling advanceTwin meet.even same alike filling
      exact ⟨asked, even, congrArg Stage.unbatched stage⟩
  · have same := Stage.eq_of_unbatched meet.stage (starting ▸ Stage.noConfusion)
    refine ⟨later + 1, beforeTwin meet, together meet ?_ ?_⟩
    · rw [Run.next?, Run.next?, same, starting]
    · intro calls others advance advanceTwin alike
      obtain ⟨asked, even, stage⟩ :=
        advance.even_of_starting advanceTwin meet.even same going alike starting
      exact ⟨asked, even, congrArg Stage.unbatched stage⟩
  · by_cases empty : (benchmark.runAfter rig.journaled { state } count).queue.inFlight = 0
    · obtain ⟨next, meet, waitingTwin⟩ :=
        meet.catchUp_grounded rebatched cancelling cancellingTwin waiting going empty
      refine ⟨next + 1, beforeTwin meet, together meet ?_ ?_⟩
      · rw [Run.next?, Run.next?, waiting, waitingTwin]
      · intro calls others advance advanceTwin alike
        obtain ⟨asked, even, stage⟩ := advance.even_of_grounded advanceTwin meet.even
          (waitingTwin.trans waiting.symm) going alike waiting empty
        exact ⟨asked, even, congrArg Stage.unbatched stage⟩
    · obtain ⟨still, _⟩ := meet_of_polled waiting going empty
        (rebatched_before rebatched before (Nat.zero_le _)).unfailing
      exact ⟨later, (beforeTwin meet).le, still.symm.trans meet⟩
  · cases arrivals : (benchmark.runAfter rig.journaled { state } count).arrivals with
    | nil =>
        obtain ⟨still, _⟩ := meet_of_finished handling arrivals
        exact ⟨later, (beforeTwin meet).le, still.symm.trans meet⟩
    | cons completion rest =>
        obtain ⟨next, restTwin, meet, handlingTwin, arrivalsTwin⟩ :=
          meet.catchUp_handling rebatched cancelling cancellingTwin handling going arrivals
        refine ⟨next + 1, beforeTwin meet, together meet ?_ ?_⟩
        · rw [Run.next?, Run.next?, handling, handlingTwin, arrivals, arrivalsTwin]
          rfl
        · intro calls others advance advanceTwin alike
          have stage := unbatched_of_handling cancelling handling before
          have stageTwin := unbatched_of_handling cancellingTwin handlingTwin (beforeTwin meet)
          obtain ⟨slot, held, _⟩ := flying_of_waiting
            (rebatched_before rebatched before.le (Nat.zero_le _)).faithful
            (within_of_cancelling cancelling before) arrivals
          obtain ⟨asked, even⟩ := advance.even_of_handled advanceTwin meet.even
            (handlingTwin.trans handling.symm) going alike handling arrivals arrivalsTwin held
            (whole_of_cancelling cancelling before)
            (whole_of_cancelling cancellingTwin (beforeTwin meet))
          exact ⟨asked, even, stageTwin.trans stage.symm⟩

/-- Up to the step that decides the test, two runs meet again and again. -/
theorem meets (count : Nat) (going : ∀ earlier < count,
      (benchmark.runAfter rig.journaled { state } earlier).meter.terminated = false) :
    ∃ later ≤ lastTwin, benchmark.Meet rig other state twin count later := by
  induction count with
  | zero => exact ⟨0, Nat.zero_le _, meet_zero rig other benchmark state twin⟩
  | succ count ih =>
      obtain ⟨later, _, meet⟩ := ih fun earlier before => going earlier (Nat.lt_succ_of_lt before)
      exact meet.next rebatched cancelling cancellingTwin (going count (Nat.lt_succ_self count))

end

/-- The verdict of a test goes by its meter at the decision to wind up. -/
theorem verdict_of_cancelling
    (cancelling : (benchmark.runAfter rig state count).stage = .cancelling)
    (stopped : (benchmark.runAfter rig state last).stage.isOver = true) :
    ∃ now, (benchmark.runAfter rig state last).stage =
      .ended ((benchmark.runAfter rig state count).meter.finish now benchmark.direction) := by
  have final : (benchmark.runAfter rig state count).stage.isFinal = true := cancelling ▸ rfl
  have after : count ≤ last := by
    apply Nat.le_of_not_le
    intro before
    rw [benchmark.runAfter_of_isOver rig stopped before] at cancelling
    rw [cancelling] at stopped
    contradiction
  obtain ⟨verdict, ended⟩ := Stage.ended_of_final (isFinal_runAfter rig after final) stopped
  obtain ⟨now, same⟩ := benchmark.verdict_runAfter rig state ended
  have decided := (benchmark.staged_runAfter rig state count).decided final
  rw [benchmark.meter_runAfter_of_terminated rig state after decided,
    (benchmark.settings_runAfter rig state last).2] at same
  exact ⟨now, ended.trans (congrArg Stage.ended same)⟩

/-- **Batches make no difference.** Let two faithful devices answer the same requests alike and hand
over the same completions, cut into batches in any way, by event calls that do not fail. If a test
comes to the point on both where it cancels what is in flight, then up to there it has asked the
same of both, it has counted the same transfers and bytes or keeps the same failure, and it has
begun as many recoveries; and where it is over on both, it has ended with the same failure or with
the same report but for the time. -/
theorem batches_immaterial (rig : Rig σ) (other : Rig τ) (benchmark : Benchmark) (state : σ)
    (twin : τ) (count later : Nat)
    (cancelling : (benchmark.runAfter rig.journaled { state } count).stage = .cancelling)
    (cancellingTwin :
      (benchmark.runAfter other.journaled { state := twin } later).stage = .cancelling)
    (rebatched : Rebatched (benchmark.runAfter rig.journaled { state } count).rigState.history
      (benchmark.runAfter other.journaled { state := twin } later).rigState.history) :
    let run := benchmark.runAfter rig.journaled { state } count
    let also := benchmark.runAfter other.journaled { state := twin } later
    requests also.rigState.history = requests run.rigState.history ∧ run.meter.Alike also.meter ∧
      also.recoveries = run.recoveries ∧
      ∀ last lastTwin,
        (benchmark.runAfter rig.journaled { state } last).stage.isOver = true →
        (benchmark.runAfter other.journaled { state := twin } lastTwin).stage.isOver = true →
        ∃ verdict verdictTwin,
          (benchmark.runAfter rig.journaled { state } last).stage = .ended verdict ∧
          (benchmark.runAfter other.journaled { state := twin } lastTwin).stage =
            .ended verdictTwin ∧
          verdictTwin.map Report.timeless = verdict.map Report.timeless := by
  have final := (benchmark.staged_runAfter rig.journaled { state } count).decided (cancelling ▸ rfl)
  have decides : ∃ first,
      (benchmark.runAfter rig.journaled { state } first).meter.terminated = true := ⟨count, final⟩
  have decided := Nat.find_spec decides
  have before := Nat.find_le (h := decides) final
  obtain ⟨middle, beforeTwin, meet⟩ := meets rebatched cancelling cancellingTwin (Nat.find decides)
    fun earlier less => Bool.of_not_eq_true (Nat.find_min decides less)
  have decidedTwin := meet.even.meter.terminated.trans decided
  obtain ⟨asked, recoveries⟩ := requests_of_decided cancelling decided before
  obtain ⟨askedTwin, recoveriesTwin⟩ := requests_of_decided cancellingTwin decidedTwin beforeTwin
  have alike : (benchmark.runAfter rig.journaled { state } count).meter.Alike
      (benchmark.runAfter other.journaled { state := twin } later).meter := by
    rw [benchmark.meter_runAfter_of_terminated rig.journaled { state } before decided,
      benchmark.meter_runAfter_of_terminated other.journaled { state := twin } beforeTwin
        decidedTwin]
    exact meet.even.meter
  refine ⟨askedTwin.trans (meet.asked.trans asked.symm), alike,
    recoveriesTwin.trans (meet.even.recoveries.trans recoveries.symm), ?_⟩
  intro last lastTwin stopped stoppedTwin
  obtain ⟨now, ended⟩ := verdict_of_cancelling cancelling stopped
  obtain ⟨also, endedTwin⟩ := verdict_of_cancelling cancellingTwin stoppedTwin
  exact ⟨_, _, ended, endedTwin, alike.finish now also benchmark.direction⟩

/-- A device that hands over the given batches, one for each event call, and is interrupted where
one is empty. -/
def handing (batches : List (List (Delivery TransferStatus))) : ScriptedDevice where
  host :=
    { script :=
        { cancel := [some (.ok ())]
          events := batches.map fun deliveries =>
            { deliveries := some deliveries
              result := if deliveries.isEmpty then some (.error .interrupted) else none } } }

/-- Both slots stall and complete then, one of them with a short transfer, each by itself. -/
def oneByOne : ScriptedDevice :=
  handing [[⟨0, .stall, 0⟩], [], [⟨1, .stall, 0⟩], [⟨0, .completed, 8⟩], [⟨1, .completed, 5⟩],
    [⟨0, .completed, 8⟩]]

/-- Both slots stall together and complete together. -/
def inPairs : ScriptedDevice :=
  handing [[⟨0, .stall, 0⟩, ⟨1, .stall, 0⟩], [⟨0, .completed, 8⟩, ⟨1, .completed, 5⟩],
    [⟨0, .completed, 8⟩, ⟨1, .completed, 8⟩]]

/-- A recovery goes the same way whether both stalls are heard of at once or one after the other. -/
theorem batches_immaterial_stalled :
    let run := small.runAfter ScriptedDevice.rig.journaled { state := oneByOne } 21
    let also := small.runAfter ScriptedDevice.rig.journaled { state := inPairs } 16
    run.stage = .cancelling ∧ also.stage = .cancelling ∧
      Rebatched run.rigState.history also.rigState.history ∧
      requests also.rigState.history = requests run.rigState.history ∧
      run.meter.Alike also.meter ∧ also.recoveries = run.recoveries ∧
      ∃ verdict verdictTwin,
        (small.runAfter ScriptedDevice.rig.journaled { state := oneByOne } 28).stage =
          .ended verdict ∧
        (small.runAfter ScriptedDevice.rig.journaled { state := inPairs } 20).stage =
          .ended verdictTwin ∧
        verdictTwin.map Report.timeless = verdict.map Report.timeless := by
  intro run also
  have cancelling : run.stage = .cancelling := by decide +kernel
  have cancellingTwin : also.stage = .cancelling := by decide +kernel
  have asked : requests also.rigState.history = requests run.rigState.history := by
    decide +kernel
  have rebatched : Rebatched run.rigState.history also.rigState.history :=
    { faithful := by decide +kernel
      faithfulTwin := by decide +kernel
      unfailing := by decide +kernel
      unfailingTwin := by decide +kernel
      answers := .of_eq asked
      comparable := Or.inl (by decide +kernel) }
  obtain ⟨same, alike, recoveries, ended⟩ := batches_immaterial ScriptedDevice.rig
    ScriptedDevice.rig small oneByOne inPairs 21 16 cancelling cancellingTwin rebatched
  exact ⟨cancelling, cancellingTwin, rebatched, same, alike, recoveries,
    ended 28 20 (by decide +kernel) (by decide +kernel)⟩

end Benchmark

end UsbThroughput
