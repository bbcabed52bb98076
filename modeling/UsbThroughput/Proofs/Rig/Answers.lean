import UsbThroughput.Proofs.Rig.Calls

/-!
# Requests and their answers

What a device is asked to do, in order (`RigEvent.requests`): everything but the questions for
completions. Two devices answer alike if the same requests have had the same answers as long as the
same requests were made (`RigEvent.AnswerAlike`). Then work on the same slots makes the same
requests and comes to the same (`Fills.eq_of_answerAlike`, `Cancels.eq_of_answerAlike`).
-/

namespace UsbThroughput

open RigEvent

namespace RigEvent

/-- Whether a call asks something of the device other than for completions. -/
def isRequest : RigEvent → Bool
  | submitted _ _ | cancelled _ _ | wrote _ _ _ _ | haltCleared _ _ => true
  | _ => false

/-- What the device was asked to do, with its answers. -/
def requests (history : List RigEvent) : List RigEvent := history.filter isRequest

@[simp] theorem requests_append (first second : List RigEvent) :
    requests (first ++ second) = requests first ++ requests second :=
  List.filter_append ..

/-- Requests are calls on the device. -/
theorem requests_deviceCalls (history : List RigEvent) :
    requests (deviceCalls history) = requests history := by
  rw [requests, deviceCalls, List.filter_filter]
  apply List.filter_congr
  intro event _
  cases event <;> rfl

/-- Submissions are requests. -/
theorem requests_of_isSubmission {calls : List RigEvent}
    (submissions : ∀ call ∈ calls, call.isSubmission = true) : requests calls = calls := by
  apply List.filter_eq_self.mpr
  intro call member
  have submission := submissions call member
  cases call <;> first | rfl | contradiction

/-- Cancellations are requests. -/
theorem requests_of_isCancellation {calls : List RigEvent}
    (cancellations : ∀ call ∈ calls, call.isCancellation = true) : requests calls = calls := by
  apply List.filter_eq_self.mpr
  intro call member
  have cancellation := cancellations call member
  cases call <;> first | rfl | contradiction

/-- A request as it was made, whatever came of it. -/
def question : RigEvent → RigEvent
  | submitted slot _ => submitted slot (.ok ())
  | cancelled slot _ => cancelled slot (.ok ())
  | wrote endpoint data timeout _ => wrote endpoint data timeout (.ok 0)
  | haltCleared endpoint _ => haltCleared endpoint (.ok ())
  | event => event

/-- **The same requests are answered alike**: after the same requests with the same answers, the
same request has the same answer. -/
def AnswerAlike (first second : List RigEvent) : Prop :=
  ∀ shared call other, shared ++ [call] <+: first → shared ++ [other] <+: second →
    other.question = call.question → other = call

namespace AnswerAlike

variable {shared first second : List RigEvent} {call other : RigEvent}

/-- Histories with the same requests and answers are alike. -/
theorem of_eq (same : second = first) : AnswerAlike first second := by
  subst same
  intro shared call other before also _
  have long : (shared ++ [other]).length = (shared ++ [call]).length := by
    rw [List.length_append, List.length_append]
    rfl
  have both := (List.prefix_of_prefix_length_le also before long.le).eq_of_length long
  cases List.append_cancel_left both
  rfl

/-- What was asked earlier was answered alike, too. -/
theorem of_isPrefix {before beforeTwin : List RigEvent} (alike : AnswerAlike first second)
    (earlier : before <+: first) (earlierTwin : beforeTwin <+: second) :
    AnswerAlike before beforeTwin :=
  fun shared call other found foundTwin =>
    alike shared call other (found.trans earlier) (foundTwin.trans earlierTwin)

theorem of_append (alike : AnswerAlike (shared ++ first) (shared ++ second)) :
    AnswerAlike first second := by
  intro more call other found foundTwin
  apply alike (shared ++ more)
  · rw [List.append_assoc]
    exact (List.prefix_append_right_inj shared).mpr found
  · rw [List.append_assoc]
    exact (List.prefix_append_right_inj shared).mpr foundTwin

/-- The first requests are the same if they ask the same. -/
theorem head (alike : AnswerAlike (call :: first) (other :: second))
    (same : other.question = call.question) : other = call :=
  alike [] call other ⟨first, rfl⟩ ⟨second, rfl⟩ same

/-- After a request that both have made, the rest is answered alike. -/
theorem tail (alike : AnswerAlike (call :: first) (call :: second)) :
    AnswerAlike first second := by
  have appended : AnswerAlike ([call] ++ first) ([call] ++ second) := alike
  exact appended.of_append

/-- The same requests have the same answers. -/
theorem eq_of_questions (alike : AnswerAlike first second)
    (same : second.map question = first.map question) : second = first := by
  induction first generalizing second with
  | nil => exact List.map_eq_nil_iff.mp same
  | cons call rest ih =>
      obtain ⟨other, more, rfl, asked, others⟩ := List.map_eq_cons_iff.mp same
      obtain rfl := alike.head asked
      rw [ih alike.tail others]

end AnswerAlike

end RigEvent

/-- What was performed is added to the requests. -/
theorem Journal.Performs.requests_eq {σ : Type} {journal later : Journal RigEvent σ}
    {calls : List RigEvent} (performs : journal.Performs calls later) :
    requests later.history = requests journal.history ++ requests calls := by
  rw [← requests_deviceCalls, performs.deviceCalls_eq, requests_append, requests_deviceCalls]

/-- Slots submitted in turn go the same way if they are answered alike. -/
theorem Fills.eq_of_answerAlike {slots next nextTwin : List Slot} {calls others : List RigEvent}
    {refusal refusalTwin : Option SubmissionError} (fills : Fills slots calls next refusal)
    (twin : Fills slots others nextTwin refusalTwin) (alike : AnswerAlike calls others) :
    others = calls ∧ nextTwin = next ∧ refusalTwin = refusal := by
  induction fills generalizing others nextTwin refusalTwin with
  | done =>
      cases twin
      exact ⟨rfl, rfl, rfl⟩
  | refused slot rest cause =>
      cases twin with
      | refused _ _ causeTwin =>
          cases alike.head rfl
          exact ⟨rfl, rfl, rfl⟩
      | taken _ _ => cases alike.head rfl
  | taken slot fills ih =>
      cases twin with
      | refused _ _ cause => cases alike.head rfl
      | taken _ twin =>
          obtain ⟨rfl, rfl, rfl⟩ := ih twin alike.tail
          exact ⟨rfl, rfl, rfl⟩

/-- What a cancelled queue asks for does not depend on the answers. -/
theorem Cancels.map_question {slots : List Slot} {calls : List RigEvent}
    (cancels : Cancels slots calls) :
    calls.map question =
      (slots.filter Slot.isCancellable).reverse.map fun slot =>
        .cancelled slot.requestCancel (.ok ()) := by
  unfold Cancels at cancels
  generalize (slots.filter Slot.isCancellable).reverse = asked at cancels ⊢
  induction calls generalizing asked with
  | nil => rw [List.map_eq_nil_iff.mp cancels.symm, List.map_nil, List.map_nil]
  | cons call rest ih =>
      obtain ⟨slot, more, rfl, same, others⟩ := List.map_eq_cons_iff.mp cancels.symm
      cases call with
      | cancelled cancelled result =>
          cases same
          rw [List.map_cons, ih more others.symm]
          rfl
      | _ => contradiction

/-- Slots cancelled in turn go the same way if they are answered alike. -/
theorem Cancels.eq_of_answerAlike {slots : List Slot} {calls others : List RigEvent}
    (cancels : Cancels slots calls) (twin : Cancels slots others)
    (alike : AnswerAlike calls others) : others = calls :=
  alike.eq_of_questions (twin.map_question.trans cancels.map_question.symm)

end UsbThroughput
