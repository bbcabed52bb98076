import UsbThroughput.Proofs.Queue.Filling
import UsbThroughput.Proofs.Run.Halt
import UsbThroughput.Proofs.Run.Tally
import UsbThroughput.Proofs.Run.Upkeep

/-!
# The recovery from a halt

A recovery begins with a stall, by cancelling what is in flight. No slot is submitted until the
halt is cleared, which is attempted once and with nothing in flight; then the whole queue is
submitted again. What one step does about it is its course (`Run.HaltCourse`), of which there are
three, and how the number of attempts goes with the number of recoveries is `Run.Attempts`.
-/

namespace UsbThroughput

open RigEvent

/-- The slots of a queue are cancelled from the last to the first. -/
theorem Cancels.decreasing {queue : Queue} {calls : List RigEvent}
    (cancels : Cancels queue.slots calls) (numbered : queue.Numbered) :
    (calls.filterMap cancelled?).Pairwise fun first second => second.id < first.id := by
  have asked : calls.filterMap cancelled? =
      (queue.slots.filter Slot.isCancellable).reverse.map Slot.requestCancel := by
    have same := congrArg (List.filterMap id) cancels
    rwa [List.filterMap_map, List.filterMap_map, Function.id_comp, Function.id_comp,
      List.filterMap_eq_map] at same
  have inOrder : queue.slots.Pairwise fun first second => first.id < second.id := by
    apply List.pairwise_map.mp
    rw [numbered.ids_eq]
    exact List.pairwise_lt_range
  rw [asked, List.pairwise_map, List.pairwise_reverse]
  exact inOrder.filter _

namespace Run

variable {σ : Type}

/-- The next step acts on a stall that begins a recovery: the test is not decided, no recovery is
under way, and fewer than all of them have been begun. -/
structure Stalls (maxAttempts : Nat) (stall : Completion) (run : Run σ) : Prop where
  handling : run.stage = .handling
  taken : run.next? = some stall
  stalled : stall.status = .stall
  known : stall.slot < run.queue.depth
  going : run.meter.terminated = false
  free : run.halted = false
  left : run.recoveries < maxAttempts

/-- An attempt to clear a halt, and what follows at once: the test fails, or the queue is submitted
from slot zero on, up to the first slot that is refused, which fails the test. -/
inductive Attempt (run : Run σ) (calls : List RigEvent) (last : Run σ) : Prop where
  | failed (endpoint : UInt8) (error : UsbError)
      (calls_eq : calls = [.haltCleared endpoint (.error error)])
      (halted : last.halted = true) (failure : last.meter.failure = some .stalled)
  | cleared (endpoint : UInt8) (fills : List RigEvent) (refusal : Option SubmissionError)
      (calls_eq : calls = .haltCleared endpoint (.ok ()) :: fills)
      (submitted : Fills run.queue.slots fills last.queue.slots refusal)
      (inOrder : fills.map submittedId? = (List.range fills.length).map some)
      (whole : refusal = none → fills.length = run.queue.depth) (halted : last.halted = false)
      (failure : last.meter.failure = refusal.map SubmissionError.failure)

/-- What a step has to do with the recovery from halts: it begins one, it attempts to clear the
halt, or neither. -/
inductive HaltCourse (run : Run σ) (calls : List RigEvent) (last : Run σ) : Prop where
  | begun (maxAttempts : Nat) (stall : Completion)
      (policy : run.settings.stallRecovery = .clearHalt maxAttempts)
      (stalls : run.Stalls maxAttempts stall)
      (cancels : Cancels (run.receive stall).queue.slots calls) (halted : last.halted = true)
      (counted : last.recoveries = run.recoveries + 1) (meter : last.meter = run.meter)
  | attempted (waiting : run.stage = .waiting) (going : run.meter.terminated = false)
      (empty : run.queue.inFlight = 0) (halted : run.halted = true)
      (attempt : run.Attempt calls last)
      (counted : last.recoveries = run.recoveries)
  | apart (unstalled : ∀ maxAttempts stall,
        run.settings.stallRecovery = .clearHalt maxAttempts → ¬run.Stalls maxAttempts stall)
      (halted : last.halted = run.halted) (counted : last.recoveries = run.recoveries)
      (unattempted : ∀ call ∈ calls, call.clearsHalt = false)
      (unsubmitted : run.halted = true → ∀ call ∈ calls, call.isSubmission = false)
      (kept : run.halted = true → run.meter.terminated = true → last.meter.terminated = true)

variable {run last : Run σ} {calls : List RigEvent}

/-! ## A recovery begins -/

/-- Taking up a completion leaves the number of slots. -/
theorem depth_receive (run : Run σ) (completion : Completion) :
    (run.receive completion).queue.depth = run.queue.depth := by
  rcases receive_cases run completion with ⟨_, same⟩ | ⟨_, _, same⟩
  · rw [same]
  · rw [same]
    exact List.length_set

/-- What a completion does to the queue does not depend on the completions that wait. -/
theorem queue_receive (run : Run σ) (rest : List Completion) (completion : Completion) :
    ({ run with arrivals := rest }.receive completion).queue = (run.receive completion).queue := by
  unfold receive
  cases run.queue.slot? completion.slot <;> rfl

/-- The stall is the first of the completions that wait. -/
theorem Stalls.arrivals_eq {maxAttempts : Nat} {stall : Completion}
    (stalls : run.Stalls maxAttempts stall) : ∃ rest, run.arrivals = stall :: rest := by
  have taken := stalls.taken
  rw [next?, stalls.handling] at taken
  exact List.head?_eq_some_iff.mp taken

/-- The stall of a slot in a test that is not decided, if it begins a recovery. -/
def BeginsAt (run : Run σ) (completion : Completion) : Prop :=
  run.meter.terminated = false ∧ (∃ slot, run.queue.slot? completion.slot = some slot) ∧
    run.Begins completion

/-- Whether the next step begins a recovery shows when its completion has been taken up. -/
theorem stalls_iff_beginsAt {completion : Completion} {rest : List Completion}
    (handling : run.stage = .handling) (waiting : run.arrivals = completion :: rest) :
    (∃ maxAttempts, run.settings.stallRecovery = .clearHalt maxAttempts ∧
      run.Stalls maxAttempts completion) ↔
        ({ run with arrivals := rest }.receive completion).BeginsAt completion := by
  have taken : run.next? = some completion := by
    rw [next?, handling, waiting]
    rfl
  rw [BeginsAt, Begins, queue_receive, meter_receive, halted_receive, settings_receive,
    recoveries_receive]
  constructor
  · rintro ⟨maxAttempts, policy, stalls⟩
    have known : completion.slot < (run.receive completion).queue.depth :=
      (depth_receive run completion).symm ▸ stalls.known
    exact ⟨stalls.going, ⟨_, List.getElem?_eq_getElem known⟩, stalls.stalled, stalls.free,
      maxAttempts, policy, stalls.left⟩
  · rintro ⟨going, ⟨slot, held⟩, stalled, free, maxAttempts, policy, left⟩
    have known : completion.slot < run.queue.depth :=
      depth_receive run completion ▸ (List.getElem?_eq_some_iff.mp held).1
    exact ⟨maxAttempts, policy, handling, taken, stalled, known, going, free, left⟩

/-- A recovery begins by cancelling the whole queue. -/
theorem Reaction.begun_of_beginsAt {completion : Completion}
    (reaction : run.Reaction completion calls last) (begins : run.BeginsAt completion) :
    Cancels run.queue.slots calls ∧ ∃ state,
      last = { run.withSlots (run.queue.slots.map Slot.recalled) state with
        recoveries := run.recoveries + 1
        halted := true } := by
  obtain ⟨going, ⟨slot, held⟩, stall⟩ := begins
  rcases reaction.of_not_completed held going (stall.1 ▸ TransferStatus.noConfusion) with
    ⟨_, cancels, state, same⟩ | ⟨unbegun, _⟩
  · exact ⟨cancels, state, same⟩
  · exact (unbegun stall).elim

/-! ## A recovery is left as it is -/

/-- A step that begins no recovery and attempts to clear no halt. While a halt is there, it submits
nothing, and a test that is decided stays so. -/
structure LeavesHalt (run : Run σ) (calls : List RigEvent) (last : Run σ) : Prop where
  halted : last.halted = run.halted
  counted : last.recoveries = run.recoveries
  unattempted : ∀ call ∈ calls, call.clearsHalt = false
  unsubmitted : run.halted = true → ∀ call ∈ calls, call.isSubmission = false
  kept : run.halted = true → run.meter.terminated = true → last.meter.terminated = true

/-- Such a step has its course if no stall is next that begins a recovery. -/
theorem LeavesHalt.haltCourse (leaves : run.LeavesHalt calls last)
    (unstalled : ∀ maxAttempts stall, run.settings.stallRecovery = .clearHalt maxAttempts →
      ¬run.Stalls maxAttempts stall) : run.HaltCourse calls last :=
  .apart unstalled leaves.halted leaves.counted leaves.unattempted leaves.unsubmitted leaves.kept

/-- Submissions leave a recovery as it is, if there is none. -/
theorem LeavesHalt.of_submissions (free : run.halted = false) (halted : last.halted = run.halted)
    (counted : last.recoveries = run.recoveries)
    (submissions : ∀ call ∈ calls, call.isSubmission = true) : run.LeavesHalt calls last := by
  have unhalted {claim : Prop} (halt : run.halted = true) : claim :=
    Bool.noConfusion (free.symm.trans halt)
  exact
    { halted
      counted
      unattempted := fun call member => clearsHalt_of_isSubmission (submissions call member)
      unsubmitted := unhalted
      kept := unhalted }

/-- A step without any call leaves a recovery as it is. -/
theorem LeavesHalt.of_silent (halted : last.halted = run.halted)
    (counted : last.recoveries = run.recoveries)
    (kept : run.meter.terminated = true → last.meter.terminated = true) :
    run.LeavesHalt [] last :=
  ⟨halted, counted, List.forall_mem_nil _, fun _ => List.forall_mem_nil _, fun _ => kept⟩

/-- What leaves a recovery as it is after a completion was taken up leaves it as it was before. -/
theorem LeavesHalt.of_receive {rest : List Completion} {completion : Completion}
    (leaves : ({ run with arrivals := rest }.receive completion).LeavesHalt calls last) :
    run.LeavesHalt calls last := by
  obtain ⟨halted, counted, unattempted, unsubmitted, kept⟩ := leaves
  rw [halted_receive] at halted unsubmitted kept
  rw [recoveries_receive] at counted
  rw [meter_receive] at kept
  exact ⟨halted, counted, unattempted, unsubmitted, kept⟩

/-- **A reaction that begins no recovery** leaves it as it is. -/
theorem Reaction.leavesHalt {completion : Completion}
    (reaction : run.Reaction completion calls last) (unbegun : ¬run.BeginsAt completion) :
    run.LeavesHalt calls last := by
  cases reaction with
  | begun state maxAttempts slot calls going held stalled policy free left cancels =>
      exact (unbegun ⟨going, ⟨slot, held⟩, stalled, free, maxAttempts, policy, left⟩).elim
  | passed state passes => exact .of_silent rfl rfl id
  | failed state now failure going _ =>
      exact .of_silent rfl rfl fun _ => terminated_fail_eq now failure _
  | counted state now slot meter going _ _ _ _ =>
      refine .of_silent rfl rfl fun decided => ?_
      rw [going] at decided
      contradiction
  | overflowed state going _ =>
      exact ⟨rfl, rfl, List.forall_mem_singleton.mpr rfl,
        fun _ => List.forall_mem_singleton.mpr rfl, fun _ => id⟩
  | resubmitted state now later slot next meter calls refusal going _ _ _ _ free fills =>
      exact .of_submissions free rfl rfl fills.isSubmission

/-- **The course of a step that takes up a completion**: it begins a recovery if it can, and leaves
it as it is otherwise. -/
theorem Reaction.haltCourse {completion : Completion} {rest : List Completion}
    (handling : run.stage = .handling) (waiting : run.arrivals = completion :: rest)
    (reaction : ({ run with arrivals := rest }.receive completion).Reaction completion calls last) :
    run.HaltCourse calls last := by
  by_cases begins : ({ run with arrivals := rest }.receive completion).BeginsAt completion
  · obtain ⟨maxAttempts, policy, stalls⟩ := (stalls_iff_beginsAt handling waiting).mpr begins
    obtain ⟨cancels, state, rfl⟩ := reaction.begun_of_beginsAt begins
    rw [queue_receive] at cancels
    exact .begun maxAttempts completion policy stalls cancels rfl
      (congrArg (· + 1) (recoveries_receive _ completion)) (meter_receive _ completion)
  · refine (reaction.leavesHalt begins).of_receive.haltCourse fun maxAttempts stall policy stalls =>
      begins ((stalls_iff_beginsAt handling waiting).mp ?_)
    obtain ⟨_, same⟩ := stalls.arrivals_eq
    cases waiting.symm.trans same
    exact ⟨maxAttempts, policy, stalls⟩

/-! ## A halt is cleared -/

/-- The situation in which the next step attempts to clear a halt. -/
structure Clears (run : Run σ) : Prop where
  waiting : run.stage = .waiting
  going : run.meter.terminated = false
  empty : run.queue.inFlight = 0
  halted : run.halted = true

/-- **The course of a step that attempts to clear a halt.** -/
theorem Advance.haltCourse_of_clears (advance : run.Advance calls last) (clears : run.Clears)
    (numbered : run.queue.Numbered) : run.HaltCourse calls last := by
  obtain ⟨waiting, going, empty, halted⟩ := clears
  have fine := (Meter.le_of_going going).2
  rcases advance.of_halted waiting going empty halted with
    ⟨error, state, now, rfl, rfl⟩ | ⟨fills, state, later, slots, refusal, rfl, submitted, rfl⟩
  · refine .attempted waiting going empty halted (.failed _ error rfl halted ?_) rfl
    rw [Meter.failure_fail, fine, Option.none_or]
  · obtain ⟨inOrder, _, whole⟩ := submitted.inOrder numbered
    refine .attempted waiting going empty halted ?_ rfl
    refine .cleared _ fills refusal rfl submitted inOrder whole rfl ?_
    rw [Meter.failure_failOn, fine, Option.none_or]

/-- An attempt to clear a halt is the first call of its step, and no other call is one. -/
theorem Attempt.calls_eq (attempt : run.Attempt calls last) :
    ∃ endpoint result others, calls = .haltCleared endpoint result :: others ∧
      ∀ call ∈ others, call.clearsHalt = false := by
  cases attempt with
  | failed endpoint error calls_eq => exact ⟨endpoint, _, [], calls_eq, List.forall_mem_nil _⟩
  | cleared endpoint fills refusal calls_eq submitted =>
      exact ⟨endpoint, _, fills, calls_eq, fun call member =>
        clearsHalt_of_isSubmission (submitted.isSubmission call member)⟩

/-! ## The course of each step -/

/-- **Every other step** leaves a recovery as it is. -/
theorem Advance.leavesHalt (advance : run.Advance calls last)
    (fresh : run.stage = .filling → run.halted = false) (elsewhere : run.stage ≠ .handling)
    (unready : ¬run.Clears) : run.LeavesHalt calls last := by
  cases advance with
  -- The steps that belong to another course come first.
  | handled _ _ _ handling => exact (elsewhere handling).elim
  | finished handling => exact (elsewhere handling).elim
  | recovered _ _ _ _ _ waiting going empty halted =>
      exact (unready ⟨waiting, going, empty, halted⟩).elim
  | stuck _ _ _ waiting going empty halted => exact (unready ⟨waiting, going, empty, halted⟩).elim
  | filled state now later slots calls refusal filling empty fills =>
      exact .of_submissions (fresh filling) rfl rfl fills.isSubmission
  | started state result starting going =>
      exact ⟨rfl, rfl, List.forall_mem_singleton.mpr rfl,
        fun _ => List.forall_mem_singleton.mpr rfl, fun _ => id⟩
  | polled state now answer waiting going flying =>
      refine ⟨rfl, rfl, List.forall_mem_singleton.mpr rfl,
        fun _ => List.forall_mem_singleton.mpr rfl, fun _ decided => ?_⟩
      rw [going] at decided
      contradiction
  | awaited state deadline timeout answer draining flying =>
      exact ⟨rfl, rfl, List.forall_mem_singleton.mpr rfl,
        fun _ => List.forall_mem_singleton.mpr rfl, fun _ => id⟩
  | recalled state deadline calls cancelling cancels =>
      refine ⟨rfl, rfl, fun call member =>
        clearsHalt_of_isCancellation (cancels.isCancellation call member),
        fun _ call member => ?_, fun _ => id⟩
      have cancellation := cancels.isCancellation call member
      cases call <;> first | rfl | contradiction
  | closed state now result closing =>
      refine ⟨rfl, rfl, ?_, fun _ => ?_, fun _ => id⟩
      all_goals
        split
        · exact List.forall_mem_singleton.mpr rfl
        · exact List.forall_mem_cons.mpr ⟨rfl, List.forall_mem_singleton.mpr rfl⟩
  | settled state deadline completion rest settling waiting =>
      have leaves : ({ run with arrivals := rest }.receive completion).LeavesHalt []
          { { run with arrivals := rest }.receive completion with rigState := state } :=
        .of_silent rfl rfl id
      exact leaves.of_receive
  | starved state now waiting going empty free =>
      exact .of_silent rfl rfl fun _ => terminated_fail_eq now .stalled _
  | stayed done => exact .of_silent rfl rfl id
  | notStarted state starting terminated => exact .of_silent rfl rfl id
  | decided waiting terminated => exact .of_silent rfl rfl id
  | drained state deadline draining => exact .of_silent rfl rfl id
  | resumed deadline settling empty => exact .of_silent rfl rfl id
  | abandoned state abandoning => exact .of_silent rfl rfl id

/-- **What a step has to do with the recovery from halts.** -/
theorem Advance.haltCourse (advance : run.Advance calls last)
    (fresh : run.stage = .filling → run.halted = false)
    (numbered : run.stage.holdsSlots = true → run.queue.Numbered) : run.HaltCourse calls last := by
  by_cases clears : run.Clears
  · exact advance.haltCourse_of_clears clears (numbered (clears.waiting ▸ rfl))
  by_cases handling : run.stage = .handling
  · cases waiting : run.arrivals with
    | nil =>
        obtain ⟨rfl, rfl⟩ := advance.of_finished handling waiting
        have leaves : run.LeavesHalt [] { run with stage := .waiting } := .of_silent rfl rfl id
        refine leaves.haltCourse fun _ _ _ stalls => ?_
        obtain ⟨_, same⟩ := stalls.arrivals_eq
        cases waiting.symm.trans same
    | cons completion rest =>
        exact (advance.of_handled handling waiting).haltCourse handling waiting
  · exact (advance.leavesHalt fresh handling clears).haltCourse fun _ _ _ stalls =>
      handling stalls.handling

/-- A stall or a cancelled transfer is no failure while a halt is there. -/
theorem Reaction.unharmed {completion : Completion} (reaction : run.Reaction completion calls last)
    (halted : run.halted = true)
    (harmless : completion.status = .stall ∨ completion.status = .cancelled) :
    last.meter = run.meter := by
  have short : completion.status ≠ .completed := by
    rcases harmless with stalled | cancelled
    · simp [stalled]
    · simp [cancelled]
  cases reaction with
  | passed state passes => rfl
  | failed state now failure going objection =>
      unfold objection? at objection
      split at objection
      · rcases harmless with stalled | cancelled
        · rw [stalled, objectionTo?, halted] at objection
          split at objection <;> contradiction
        · rw [cancelled, objectionTo?, halted] at objection
          contradiction
      · contradiction
  | counted state now slot meter _ _ completed _ _ => exact (short completed).elim
  | resubmitted state now later slot next meter calls refusal _ _ completed _ _ _ _ =>
      exact (short completed).elim
  | overflowed state _ completed => exact (short completed).elim
  | begun state maxAttempts slot calls _ _ _ _ free _ _ =>
      rw [halted] at free
      contradiction

/-- A stall or a cancelled transfer does no harm while the queue is emptied. -/
theorem Advance.unharmed (advance : run.Advance calls last) (halted : run.halted = true)
    {completion : Completion} (taken : run.next? = some completion)
    (harmless : completion.status = .stall ∨ completion.status = .cancelled) :
    last.meter = run.meter := by
  cases advance with
  | handled other rest calls handling waiting reaction =>
      rw [next?, handling, waiting] at taken
      cases Option.some.inj taken
      exact (reaction.unharmed ((halted_receive _ completion).trans halted) harmless).trans
        (meter_receive _ completion)
  | settled state deadline other rest settling waiting => exact meter_receive _ other
  | filled state now later slots calls refusal filling empty fills =>
      rw [next?, filling] at taken
      contradiction
  | starved state now waiting going empty free =>
      rw [next?, waiting] at taken
      contradiction
  | recovered state later slots calls refusal waiting going empty halted fills =>
      rw [next?, waiting] at taken
      contradiction
  | stuck state now error waiting going empty halted =>
      rw [next?, waiting] at taken
      contradiction
  | polled state now answer waiting going flying =>
      rw [next?, waiting] at taken
      contradiction
  | _ => rfl

/-! ## How many times -/

/-- A step that attempts to clear the halt does so before anything else. -/
theorem HaltCourse.of_clearsHalt (course : run.HaltCourse calls last) {first rest : List RigEvent}
    {event : RigEvent} (clears : event.clearsHalt = true) (split : first ++ event :: rest = calls) :
    run.meter.terminated = false ∧ run.halted = true ∧ run.queue.inFlight = 0 ∧ first = [] := by
  have member : event ∈ calls := split ▸ List.mem_append_right first List.mem_cons_self
  cases course with
  | begun maxAttempts stall policy stalls cancels =>
      rw [clearsHalt_of_isCancellation (cancels.isCancellation event member)] at clears
      contradiction
  | apart unstalled halted counted unattempted =>
      rw [unattempted event member] at clears
      contradiction
  | attempted waiting going empty halted attempt =>
      refine ⟨going, halted, empty, ?_⟩
      obtain ⟨endpoint, result, others, rfl, quiet⟩ := attempt.calls_eq
      cases first with
      | nil => rfl
      | cons head tail =>
          have later : event ∈ others :=
            (List.cons.inj split).2 ▸ List.mem_append_right tail List.mem_cons_self
          rw [quiet event later] at clears
          contradiction

/-- Attempts to clear a halt are calls on the device. -/
theorem countP_clearsHalt (history : List RigEvent) :
    (deviceCalls history).countP clearsHalt = history.countP clearsHalt := by
  apply countP_deviceCalls
  intro event clears
  cases event <;> first | rfl | contradiction

/-- **How often a halt was attempted to be cleared**: once for each recovery that was begun, but
for the one that is under way. -/
structure Attempts (attempts : Nat) (run : Run σ) : Prop where
  most : attempts ≤ run.recoveries
  settled : run.halted = false → attempts = run.recoveries
  pending : run.halted = true → run.meter.terminated = false → attempts + 1 = run.recoveries
  bounded : ∀ maxAttempts, run.settings.stallRecovery = .clearHalt maxAttempts →
    run.recoveries ≤ maxAttempts
  policy : run.halted = true → run.settings.stallRecovery ≠ .leaveIdle
  unrecovered : run.settings.stallRecovery = .leaveIdle → run.recoveries = 0

/-- A recovery that begins is one more than was attempted to be cleared. -/
theorem Attempts.begin {attempts maxAttempts : Nat} {stall : Completion}
    (before : run.Attempts attempts) (same : last.settings = run.settings)
    (policy : run.settings.stallRecovery = .clearHalt maxAttempts)
    (stalls : run.Stalls maxAttempts stall) (halted : last.halted = true)
    (counted : last.recoveries = run.recoveries + 1) : last.Attempts attempts := by
  have level := before.settled stalls.free
  refine ⟨?_, fun free => ?_, fun _ _ => ?_, fun other allowed => ?_, fun _ idle => ?_,
    fun idle => ?_⟩
  · rw [level, counted]
    exact Nat.le_succ _
  · rw [halted] at free
    contradiction
  · rw [level, counted]
  · rw [same, policy] at allowed
    cases allowed
    rw [counted]
    exact stalls.left
  all_goals
    rw [same, policy] at idle
    contradiction

/-- The attempt makes up for the recovery that is under way. It is the last one if it fails. -/
theorem Attempts.attempt {attempts : Nat} (before : run.Attempts attempts)
    (same : last.settings = run.settings) (going : run.meter.terminated = false)
    (halted : run.halted = true) (attempt : run.Attempt calls last)
    (counted : last.recoveries = run.recoveries) : last.Attempts (attempts + 1) := by
  rw [before.pending halted going]
  refine ⟨counted.ge, fun _ => counted.symm, fun still ongoing => ?_, ?_, ?_, ?_⟩
  · cases attempt with
    | failed endpoint error _ _ failure =>
        rw [(Meter.le_of_going ongoing).2] at failure
        contradiction
    | cleared endpoint fills refusal _ _ _ _ free _ =>
        rw [free] at still
        contradiction
  · rw [same, counted]
    exact before.bounded
  · rw [same]
    exact fun _ => before.policy halted
  · rw [same, counted]
    exact before.unrecovered

/-- A step that leaves the recovery as it is leaves the count. -/
theorem Attempts.leave {attempts : Nat} (before : run.Attempts attempts)
    (same : last.settings = run.settings) (leaves : run.LeavesHalt calls last) :
    last.Attempts attempts := by
  obtain ⟨halted, counted, _, _, kept⟩ := leaves
  refine ⟨?_, ?_, fun still ongoing => ?_, ?_, ?_, ?_⟩
  · rw [counted]
    exact before.most
  · rw [halted, counted]
    exact before.settled
  · rw [halted] at still
    rw [counted]
    refine before.pending still (Bool.eq_false_iff.mpr fun decided => ?_)
    rw [kept still decided] at ongoing
    contradiction
  · rw [same, counted]
    exact before.bounded
  · rw [same, halted]
    exact before.policy
  · rw [same, counted]
    exact before.unrecovered

/-- **One step keeps the attempts in line with the recoveries**, whatever its course. -/
theorem HaltCourse.attempts (course : run.HaltCourse calls last)
    (same : last.settings = run.settings) {attempts : Nat} (before : run.Attempts attempts) :
    last.Attempts (attempts + calls.countP clearsHalt) := by
  have none {calls : List RigEvent} (unattempted : ∀ call ∈ calls, call.clearsHalt = false) :
      calls.countP clearsHalt = 0 :=
    List.countP_eq_zero.mpr fun call member => unattempted call member ▸ Bool.false_ne_true
  cases course with
  | begun maxAttempts stall policy stalls cancels halted counted meter =>
      rw [none fun call member => clearsHalt_of_isCancellation (cancels.isCancellation call member)]
      exact before.begin same policy stalls halted counted
  | attempted waiting going empty halted attempt counted =>
      obtain ⟨endpoint, result, others, rfl, quiet⟩ := attempt.calls_eq
      rw [List.countP_cons, none quiet]
      exact before.attempt same going halted attempt counted
  | apart unstalled halted counted unattempted unsubmitted kept =>
      rw [none unattempted]
      exact before.leave same ⟨halted, counted, unattempted, unsubmitted, kept⟩

end Run

end UsbThroughput
