import UsbThroughput.Proofs.Run.Advance
import UsbThroughput.Proofs.Run.Tally

/-!
# Staying within bounds

No slot shows more of its buffer than there is, whatever lengths the device reports
(`Run.Contained`). And nothing breaks off a run but a completed transfer that the meter has no room
for (`Run.overflows_of_broken`), because a slot is submitted on its own only after a completion was
applied to it.
-/

namespace UsbThroughput

/-- A slot shows no more bytes than its buffer holds. -/
def Slot.Contained (slot : Slot) : Prop := slot.actualLength ≤ slot.buffer.size

namespace Slot.Contained

variable {slot : Slot}

/-- What shows of a completed slot fits in its buffer, whatever length was told. -/
theorem complete (slot : Slot) (status : TransferStatus) (length : Nat) :
    (slot.complete status length).Contained :=
  Nat.min_le_right _ _

theorem requestCancel (contained : slot.Contained) : slot.requestCancel.Contained := contained

theorem setAside (contained : slot.Contained) : slot.setAside.Contained := contained

/-- A submission leaves a slot contained, whatever comes of it. -/
theorem submit {σ : Type} (rig : Rig σ) (contained : slot.Contained) (state : σ) :
    (slot.submit rig state).1.2.Contained := by
  rcases slot.submit_cases rig state with ⟨_, same⟩ | ⟨_, _, same⟩ | ⟨_, _, _, same⟩
  · rw [same]
    exact contained
  · rw [same]
    exact Nat.zero_le _
  · rw [same]
    exact Nat.zero_le _

/-- A slot that is given up shows nothing of its buffer, which is gone. -/
theorem relinquish (contained : slot.Contained) : (Run.relinquish slot).Contained := by
  unfold Run.relinquish
  split
  · exact Nat.zero_le _
  · exact contained

end Slot.Contained

/-- A transfer that the meter does not take would overflow a count. -/
theorem Meter.overflow_of_unrecorded {meter : Meter} {now : Duration} {bytes : Nat}
    (unrecorded : meter.record? now bytes = none) :
    capacity < meter.bytesTotal + bytes ∨ capacity < meter.completions + 1 := by
  unfold record? at unrecorded
  split at unrecorded
  · contradiction
  · split at unrecorded
    next full => exact full
    next => contradiction

namespace Run

variable {σ : Type}

/-- No slot shows more bytes than its buffer holds. -/
def Contained (run : Run σ) : Prop := ∀ slot ∈ run.queue.slots, slot.Contained

variable {rig : Rig σ} {scope : Scope} {run last : Run σ} {taken : List Completion}

/-- Each slot of a contained run is contained. -/
theorem Contained.slot {id : Nat} {slot : Slot} (contained : run.Contained)
    (held : run.queue.slot? id = some slot) : slot.Contained :=
  contained slot (List.mem_of_getElem? held)

/-- A run stays contained when a contained slot is put in its place. -/
theorem Contained.putSlot {slot : Slot} (contained : run.Contained) (next : slot.Contained)
    (id : Nat) : (run.putSlot id slot).Contained := by
  intro other member
  rcases List.mem_or_eq_of_mem_set member with before | rfl
  · exact contained other before
  · exact next

/-- An elementary change takes no slot past its buffer. -/
theorem Move.contained (move : Move rig scope run taken last) (contained : run.Contained) :
    last.Contained := by
  cases move with
  | take completion rest waiting =>
      rcases receive_cases { run with arrivals := rest } completion with
        ⟨_, same⟩ | ⟨slot, _, same⟩
      · rw [same]
        exact contained
      · rw [same]
        exact Contained.putSlot contained (.complete slot _ _) _
  | submit id slot held free =>
      exact Contained.putSlot contained ((contained.slot held).submit rig run.rigState) id
  | cancel id slot held flying unasked =>
      exact Contained.putSlot contained (contained.slot held).requestCancel id
  | setAside id slot held free =>
      exact Contained.putSlot contained (contained.slot held).setAside id
  | _ => exact contained

/-- A path leads from a contained run to one. -/
theorem Path.contained (path : Path rig scope run taken last) (contained : run.Contained) :
    last.Contained := by
  induction path with
  | refl => exact contained
  | step _ move ih => exact move.contained ih

/-- A contained run comes to none that is not. -/
theorem Reaches.contained (reached : Reaches rig run taken last) (contained : run.Contained) :
    last.Contained := by
  cases reached with
  | on path => exact path.contained contained
  | stopped path stage done => exact path.contained contained

variable (rig) in
/-- No step takes a slot past its buffer. -/
theorem Contained.step (contained : run.Contained) : (run.step rig).Contained := by
  by_cases abandoning : run.stage = .abandoning
  · rw [Run.step, abandoning]
    intro slot member
    change slot ∈ (Queue.abandonEach rig run.queue.slots run.rigState).1 at member
    rw [slots_abandonEach] at member
    obtain ⟨before, among, rfl⟩ := List.mem_map.mp member
    exact (contained before among).relinquish
  · exact (reaches_step run abandoning).contained contained

variable (rig) in
/-- Any number of steps keep a run contained. -/
theorem Contained.steps (contained : run.Contained) (count : Nat) :
    (run.steps rig count).Contained := by
  induction count with
  | zero => exact contained
  | succ count ih =>
      rw [steps_succ]
      exact ih.step rig

/-! ## What breaks off a run -/

/-- A slot out of flight breaks off the run only if its completed transfer cannot be counted. -/
theorem unrecorded_of_onCompleted {id : Nat} {slot : Slot} (free : slot.isSubmitted = false)
    (unbroken : ∀ fault, run.stage ≠ .broken fault) {fault : Fault}
    (broken : (run.onCompleted rig id slot).stage = .broken fault) :
    run.meter.record? (rig.now run.rigState).1 slot.moved = none ∧
      run.onCompleted rig id slot =
        { run with rigState := (rig.now run.rigState).2 }.breakOff rig .countOverflow := by
  unfold onCompleted at broken ⊢
  dsimp only at broken ⊢
  split at broken
  next unrecorded =>
    rw [unrecorded]
    exact ⟨rfl, rfl⟩
  next meter _ =>
    split at broken
    · exact (unbroken fault broken).elim
    · split at broken
      · exact (unbroken fault broken).elim
      · rw [stage_afterSubmission_of_free rig (refusal_of_free rig free _)] at broken
        contradiction

private theorem stage_onStall (run : Run σ) (id : Nat) (slot : Slot) :
    (run.onStall rig id slot).stage = run.stage := by
  unfold onStall
  split
  · rfl
  · unfold onHalt
    split
    · rfl
    · split <;> rfl

private theorem stage_onFailed (run : Run σ) (id : Nat) (status : TransferStatus) :
    (run.onFailed rig id status).stage = run.stage := by
  unfold onFailed
  split
  · rfl
  · dsimp only
    split <;> rfl

/-- A completed transfer for which the meter has no room, while the test goes on. -/
structure Overflows (run : Run σ) (completion : Completion) (bytes : Nat) : Prop where
  worth : run.settings.worth? run.direction completion = some bytes
  going : run.meter.terminated = false
  overflow : Meter.capacity < run.meter.bytesTotal + bytes ∨
    Meter.capacity < run.meter.completions + 1

/-- Acting on a completion breaks off the run only if the transfer completed and cannot be
counted. -/
theorem overflows_of_handle (fitted : run.Fitted) {completion : Completion}
    (handling : run.stage = .handling) {fault : Fault}
    (broken : (run.handle rig completion).stage = .broken fault) :
    (∃ bytes, run.Overflows completion bytes) ∧
      run.handle rig completion =
        { run.receive completion with rigState := (rig.now run.rigState).2 }.breakOff rig
          .countOverflow := by
  have unbroken {next : Run σ} (same : next.stage = run.stage) : next.stage ≠ .broken fault := by
    rw [same, handling]
    exact nofun
  have received := stage_receive run completion
  cases held : run.queue.slot? completion.slot with
  | none =>
      rw [handle_of_unknown rig held] at broken
      exact (unbroken rfl broken).elim
  | some slot =>
      cases going : run.meter.terminated with
      | true =>
          rw [handle_of_terminated rig held going] at broken
          exact (unbroken received broken).elim
      | false =>
          rw [handle_of_going rig held going] at broken ⊢
          cases status : completion.status with
          | completed =>
              rw [status] at broken
              obtain ⟨unrecorded, same⟩ := unrecorded_of_onCompleted
                (slot.isSubmitted_complete .completed completion.length)
                (fun _ => received ▸ handling ▸ nofun) broken
              have overflow := Meter.overflow_of_unrecorded unrecorded
              rw [meter_receive, Slot.moved_complete, fitted.size_eq held] at overflow
              have known : completion.slot < run.settings.queueDepth run.direction := by
                rw [← fitted.depth_eq]
                exact (List.getElem?_eq_some_iff.mp held).1
              rw [rigState_receive] at same
              exact ⟨⟨_, if_pos ⟨status, known⟩, going, overflow⟩, same⟩
          | stall =>
              rw [status] at broken
              exact (unbroken ((stage_onStall _ _ _).trans received) broken).elim
          | _ =>
              rw [status] at broken
              exact (unbroken ((stage_onFailed _ _ _).trans received) broken).elim

/-- Only a step that acts on a completion breaks off a run. -/
theorem Advance.handling_of_broken {calls : List RigEvent} (advance : run.Advance calls last)
    (unbroken : run.stage.isOver = false) {fault : Fault} (broken : last.stage = .broken fault) :
    run.stage = .handling := by
  cases advance with
  | handled completion rest calls handling waiting reaction => exact handling
  | stayed done =>
      rw [unbroken] at done
      contradiction
  | stuck state now error waiting going empty halted =>
      exact Stage.noConfusion (waiting.symm.trans broken)
  | settled state deadline completion rest settling waiting =>
      have same := stage_receive { run with arrivals := rest } completion
      exact Stage.noConfusion (settling.symm.trans (same.symm.trans broken))
  | polled state now answer waiting going flying =>
      dsimp only at broken
      split at broken <;> contradiction
  | awaited state deadline timeout answer draining flying =>
      dsimp only at broken
      split at broken <;> contradiction
  | _ => contradiction

/-- **What breaks off a run** is a completed transfer that it takes up and cannot count. The device
is closed at once. -/
theorem overflows_of_broken {run : Run (Journal RigEvent σ)} {rig : Rig σ} (sound : run.Sound)
    (fitted : run.stage.holdsSlots = true → run.Fitted) (unbroken : run.stage.isOver = false)
    {fault : Fault} (broken : (run.step rig.journaled).stage = .broken fault) :
    ∃ completion rest bytes, run.stage = .handling ∧ run.arrivals = completion :: rest ∧
      run.Overflows completion bytes ∧
      run.step rig.journaled = Run.shut rig.journaled (.broken .countOverflow)
        { { run with arrivals := rest }.receive completion with
          rigState := (rig.journaled.now run.rigState).2 } := by
  obtain ⟨_, _, advance⟩ := advances_step rig sound
  have handling := advance.handling_of_broken unbroken broken
  have stepped : run.step rig.journaled = run.handleNext rig.journaled := by rw [step, handling]
  rw [stepped, handleNext] at broken ⊢
  cases waiting : run.arrivals with
  | nil =>
      rw [waiting] at broken
      exact Stage.noConfusion broken
  | cons completion rest =>
      rw [waiting] at broken
      have taken : { run with arrivals := rest }.Fitted := fitted (handling ▸ rfl)
      obtain ⟨⟨bytes, overflows⟩, same⟩ := overflows_of_handle taken handling broken
      exact ⟨completion, rest, bytes, handling, rfl,
        ⟨overflows.worth, overflows.going, overflows.overflow⟩, same⟩

end Run

namespace Benchmark

open RigEvent

variable {σ : Type} (rig : Rig σ) (benchmark : Benchmark) (state : σ)

/-- The slots of a benchmark are contained at every step. -/
theorem contained_runAfter (count : Nat) : (benchmark.runAfter rig state count).Contained := by
  refine Run.Contained.steps rig (fun slot member => ?_) count
  change slot ∈ (Queue.ofSettings benchmark.settings benchmark.direction).slots at member
  rw [← Queue.make_of_mem member]
  exact Nat.zero_le _

/-- **The completion that breaks off a benchmark** is one that the device has handed over. Before
it, the meter had counted fewer transfers than were handed over, and no more bytes than the
target. -/
theorem overflow_of_broken {count : Nat} {fault : Fault}
    (broken : (benchmark.runAfter rig.journaled { state } count).stage = .broken fault) :
    let run := benchmark.runAfter rig.journaled { state } count
    ∃ completion ∈ delivered run.rigState.history, ∃ bytes,
      benchmark.settings.worth? benchmark.direction completion = some bytes ∧
      run.meter.bytesTotal ≤ benchmark.settings.dataSize ∧
      run.meter.completions < (delivered run.rigState.history).length ∧
      (Meter.capacity < run.meter.bytesTotal + bytes ∨
        Meter.capacity < run.meter.completions + 1) := by
  intro run
  obtain ⟨earlier, _, unbroken, same⟩ :=
    benchmark.last_step_of_isOver rig.journaled { state } (congrArg Stage.isOver broken)
  have handed := benchmark.handed_runAfter rig state (earlier + 1)
  obtain ⟨settings, direction⟩ := benchmark.settings_runAfter rig.journaled { state } earlier
  obtain ⟨counted, tallies, before, _⟩ := benchmark.tallied_runAfter rig.journaled { state } earlier
  have fitted := @benchmark.fitted_runAfter _ rig.journaled { state } earlier
  rw [same, benchmark.runAfter_succ] at broken
  obtain ⟨completion, rest, bytes, handling, waiting, overflows, closed⟩ := Run.overflows_of_broken
    (benchmark.sound_runAfter rig.journaled { state } earlier) fitted unbroken broken
  have next : (benchmark.runAfter rig.journaled { state } earlier).next? = some completion := by
    rw [Run.next?, handling, waiting]
    rfl
  obtain ⟨few, _⟩ := Meter.le_of_going overflows.going
  -- What was counted before is among what was taken up before, and `completion` comes after it.
  have taken : delivered run.rigState.history =
      benchmark.takenUp rig.journaled { state } earlier ++ completion :: run.arrivals := by
    have upTo : benchmark.takenUp rig.journaled { state } (earlier + 1) =
        benchmark.takenUp rig.journaled { state } earlier ++ [completion] :=
      congrArg (fun next => benchmark.takenUp rig.journaled { state } earlier ++ next.toList) next
    have split := handed.trans (congrArg (· ++ _) upTo)
    rw [List.append_assoc, ← same] at split
    exact split
  have after : run.meter = (benchmark.runAfter rig.journaled { state } earlier).meter := by
    change (benchmark.runAfter rig.journaled { state } count).meter = _
    rw [same, benchmark.runAfter_succ, closed]
    exact Run.meter_receive { benchmark.runAfter rig.journaled { state } earlier with
      arrivals := rest } completion
  rw [settings] at tallies
  have sooner : counted.length ≤ (benchmark.takenUp rig.journaled { state } earlier).length :=
    before.length_le.trans (List.length_filterMap_le _ _)
  have worth := overflows.worth
  rw [settings, direction] at worth
  refine ⟨completion, ?_, bytes, worth, ?_, ?_, ?_⟩
  · rw [taken]
    exact List.mem_append_right _ List.mem_cons_self
  · rw [after, ← tallies.target_eq]
    exact few
  · rw [after, tallies.completions_eq, taken, List.length_append, List.length_cons]
    omega
  · rw [after]
    exact overflows.overflow

/-- A benchmark that is broken off has a target within one transfer of the largest count, unless it
has counted that many transfers. -/
theorem capacity_lt_of_broken {count : Nat} {fault : Fault}
    (broken : (benchmark.runAfter rig.journaled { state } count).stage = .broken fault)
    (room : (benchmark.runAfter rig.journaled { state } count).meter.completions <
      Meter.capacity) :
    Meter.capacity <
      benchmark.settings.dataSize + benchmark.settings.transferLength benchmark.direction := by
  obtain ⟨_, _, bytes, worth, few, _, overflow⟩ := benchmark.overflow_of_broken rig state broken
  have full := overflow.resolve_right (Nat.not_lt.mpr room)
  exact full.trans_le (Nat.add_le_add few (Settings.le_of_worth? worth))

end Benchmark

end UsbThroughput
