import UsbThroughput.Proofs.Rig.Calls
import UsbThroughput.Proofs.Run.Accounting
import UsbThroughput.Proofs.Run.Calls

/-!
# When a halt is cleared

A halt is cleared by a step of a waiting run, when nothing is in flight and every completion that
was handed over has been acted on (`Run.haltCleared_steps`).
-/

namespace UsbThroughput

open RigEvent

/-- Whether an event is an attempt to clear a halt. -/
def RigEvent.clearsHalt : RigEvent → Bool
  | haltCleared _ _ => true
  | _ => false

/-- A submission clears no halt. -/
theorem RigEvent.clearsHalt_of_isSubmission {call : RigEvent}
    (submission : call.isSubmission = true) : call.clearsHalt = false := by
  cases call <;> first | rfl | contradiction

/-- A cancellation clears no halt. -/
theorem RigEvent.clearsHalt_of_isCancellation {call : RigEvent}
    (cancellation : call.isCancellation = true) : call.clearsHalt = false := by
  cases call <;> first | rfl | contradiction

namespace Run

variable {σ : Type} (rig : Rig σ)

/-- Calls that clear no halt unless the run waits with nothing in flight, and then do not ask for
completions. -/
def Orderly (run : Run (Journal RigEvent σ)) (calls : List RigEvent) : Prop :=
  (∃ call ∈ calls, call.clearsHalt = true) →
    run.stage = .waiting ∧ run.queue.inFlight = 0 ∧ delivered calls = []

private theorem orderly_of_isSubmission {run : Run (Journal RigEvent σ)} {calls : List RigEvent}
    (submissions : ∀ call ∈ calls, call.isSubmission = true) : run.Orderly calls := by
  rintro ⟨call, member, clears⟩
  rw [clearsHalt_of_isSubmission (submissions call member)] at clears
  contradiction

private theorem orderly_nil {run : Run (Journal RigEvent σ)} : run.Orderly [] :=
  orderly_of_isSubmission (List.forall_mem_nil _)

private theorem orderly_polled {run : Run (Journal RigEvent σ)} (timeout : Duration)
    (answer : Polled) :
    run.Orderly [.polled timeout answer] := by
  rintro ⟨call, member, clears⟩
  rw [List.mem_singleton.mp member] at clears
  contradiction

/-- Waiting for what was cancelled is orderly. -/
private theorem adds_drain (run : Run (Journal RigEvent σ)) (deadline : Duration) :
    ∃ calls, run.Adds calls (run.drain rig.journaled deadline) ∧ run.Orderly calls := by
  unfold drain
  split
  · exact ⟨[], .of_same rfl, orderly_nil⟩
  · dsimp only
    split
    · exact ⟨[], .of_same rfl, orderly_nil⟩
    · generalize (deadline.since (rig.journaled.now run.rigState).1).min _ = span
      generalize (rig.journaled.poll span (rig.journaled.now run.rigState).2).1.delivered =
        delivered
      have polled : run.Adds [_]
          { run with
            rigState := (rig.journaled.poll span (rig.journaled.now run.rigState).2).2
            arrivals := run.arrivals ++ delivered } :=
        .of_event rfl (rig.history_poll (rig.journaled.now run.rigState).2 span)
      split
      · exact ⟨_, polled, orderly_polled _ _⟩
      · exact ⟨_, polled, orderly_polled _ _⟩
      next error _ _ =>
        have noted := polled.trans (ensues_note rig _ (.drainPollFailed error)).adds
        exact ⟨_, noted, orderly_polled _ _⟩

/-- Acting on a completion comes to submissions at most. -/
theorem adds_handle (run : Run (Journal RigEvent σ)) (completion : Completion) :
    ∃ calls, run.Adds calls (run.handle rig.journaled completion) ∧
      ∀ call ∈ calls, call.isSubmission = true := by
  cases terminated : run.meter.terminated with
  | false =>
      obtain ⟨calls, submissions, ensues⟩ := ensues_handle rig run terminated completion
      exact ⟨calls, ensues.adds, submissions⟩
  | true =>
      refine ⟨[], ?_, List.forall_mem_nil _⟩
      cases held : run.queue.slot? completion.slot with
      | none =>
          rw [handle_of_unknown _ held]
          exact (ensues_note rig run _).adds
      | some slot =>
          have received : run.Adds [] (run.receive completion) :=
            .of_same (congrArg Journal.history (rigState_receive run completion))
          rw [handle_of_terminated _ held terminated]
          exact received.trans (ensues_note rig _ _).adds

/-- **The calls of a step** are in order. -/
theorem adds_step (run : Run (Journal RigEvent σ)) :
    ∃ calls, run.Adds calls (run.step rig.journaled) ∧ run.Orderly calls := by
  cases stage : run.stage with
  | filling =>
      rw [step, stage]
      obtain ⟨calls, submissions, ensues⟩ := ensues_fillQueue rig .starting
        { run with
          rigState := (rig.journaled.now run.rigState).2
          meter := run.meter.start (rig.journaled.now run.rigState).1 }
      exact ⟨calls, ensues.adds, orderly_of_isSubmission submissions⟩
  | starting =>
      rw [step, stage]
      exact ⟨[], (path_sendStart run).adds, orderly_nil⟩
  | waiting =>
      rw [step, stage]
      dsimp only
      unfold wait
      split
      · exact ⟨[], .of_same rfl, orderly_nil⟩
      · split
        next empty =>
          split
          · obtain ⟨endpoint, result, calls, submissions, ensues⟩ := ensues_recover rig run
            refine ⟨_, ensues.adds, fun _ => ⟨stage, empty, ?_⟩⟩
            have nothing := delivered_of_isSubmission submissions
            exact nothing
          · exact ⟨[], (((path_note _ _).then_path (path_fail _ _)).then_path
              (path_goTo _ _)).adds, orderly_nil⟩
        next =>
          obtain ⟨timeout, answer, ensues⟩ := ensues_poll rig run
          exact ⟨_, ensues.adds, orderly_polled timeout answer⟩
  | handling =>
      rw [step, stage]
      dsimp only
      unfold handleNext
      split
      · exact ⟨[], .of_same rfl, orderly_nil⟩
      next completion rest _ =>
        obtain ⟨calls, adds, submissions⟩ :=
          adds_handle rig { run with arrivals := rest } completion
        exact ⟨calls, adds, orderly_of_isSubmission submissions⟩
  | cancelling =>
      rw [step, stage]
      exact ⟨[], (path_cancelQueue run).adds, orderly_nil⟩
  | draining deadline =>
      rw [step, stage]
      exact adds_drain rig run deadline
  | settling deadline =>
      rw [step, stage]
      exact ⟨[], (path_settle run deadline).adds, orderly_nil⟩
  | abandoning =>
      rw [step, stage]
      exact ⟨[], adds_abandonQueue rig run, orderly_nil⟩
  | closing =>
      rw [step, stage]
      exact ⟨[], adds_close rig run, orderly_nil⟩
  | ended _ =>
      rw [step, stage]
      exact ⟨[], .of_same rfl, orderly_nil⟩
  | broken _ =>
      rw [step, stage]
      exact ⟨[], .of_same rfl, orderly_nil⟩

/-! ## Over all steps -/

/-- **Every attempt to clear a halt** is made by a step that begins with every completion acted
on, and no completion is handed over between the beginning of the step and the attempt. -/
theorem haltCleared_steps {run : Run (Journal RigEvent σ)} (staged : run.Staged)
    (begun : run.Handed []) (fresh : ∀ event ∈ run.rigState.history, event.clearsHalt = false)
    (count : Nat) {before after : List RigEvent} {event : RigEvent}
    (clears : event.clearsHalt = true)
    (split : (run.steps rig.journaled count).rigState.history = before ++ event :: after) :
    ∃ earlier < count,
      (run.steps rig.journaled earlier).rigState.history <+: before ∧
        (run.steps rig.journaled earlier).arrivals = [] ∧
        delivered before = run.takenUp rig.journaled earlier := by
  have unwritten : event ∉ run.rigState.history := fun member =>
    Bool.noConfusion ((fresh event member).symm.trans clears)
  have grows (count : Nat) : (run.steps rig.journaled count).rigState.history <+:
      (run.steps rig.journaled (count + 1)).rigState.history := by
    obtain ⟨_, ⟨events, grown, _⟩, _⟩ := adds_step rig (run.steps rig.journaled count)
    rw [steps_succ, grown]
    exact List.prefix_append _ _
  obtain ⟨earlier, less, first, rest, found, written⟩ :=
    Journal.written_by_step grows count unwritten split
  obtain ⟨calls, ⟨events, grown, same⟩, orderly⟩ :=
    adds_step rig (run.steps rig.journaled earlier)
  rw [steps_succ, grown] at written
  have made : event ∈ calls := by
    rw [← same, List.append_cancel_left written]
    refine List.mem_filter.mpr ⟨List.mem_append_right first List.mem_cons_self, ?_⟩
    cases event <;> first | rfl | contradiction
  obtain ⟨waiting, _, nothing⟩ := orderly ⟨event, made, clears⟩
  have empty : (run.steps rig.journaled earlier).arrivals = [] :=
    (staged.steps rig.journaled earlier).cleared (waiting ▸ rfl)
  have handed := handed_steps rig begun earlier
  rw [Handed, empty, List.append_nil] at handed
  rw [← same, delivered_calls, List.append_cancel_left written, delivered_append] at nothing
  refine ⟨earlier, less, ⟨first, found.symm⟩, empty, ?_⟩
  rw [found, delivered_append, (List.append_eq_nil_iff.mp nothing).1, List.append_nil, handed]

end Run

end UsbThroughput
