import UsbThroughput.Proofs.Rig.Calls
import UsbThroughput.Proofs.Rig.Tandem
import UsbThroughput.Proofs.Session.Teardown

/-!
# Calls on the host

What a history asks of the host below, with the answers: of a rig that stands for the host itself
(`RigEvent.hostCalls`), and of a stack (`StackEvent.hostCalls`). The transfer of a slot has the
number of the slot. A rig may be asked to cancel a slot whose completions have all been handed
over; such a call is made in vain (`RigEvent.isVain`) and is none on the host.
-/

namespace UsbThroughput

open Completion

/-- A call on a host and its answer. -/
inductive HostCall where
  | submitted (request : Request) (result : UsbResult Unit)
  | cancelled (transfer : Nat) (result : UsbResult Unit)
  | handled (completions : List Completion) (result : UsbResult Unit)
  | haltCleared (endpoint : UInt8) (result : UsbResult Unit)
  | wrote (endpoint : UInt8) (data : List UInt8)
  deriving DecidableEq, Repr

/-- What the submission of a slot asks for, if its transfer has the number of the slot. -/
def Slot.request (slot : Slot) : Request :=
  Session.request { slot := slot.id, number := slot.id, inFlight := false } slot

/-- The completion that a callback announces, if a transfer has the number of its slot. -/
def Callback.completion (callback : Callback) : Completion where
  slot := callback.transfer
  status := .ofCode callback.status
  length := callback.length.toNat

namespace RigEvent

/-- Whether an event is the cancellation of a slot with nothing out, after others. -/
def isVain (before : List RigEvent) : RigEvent → Bool
  | cancelled slot _ => accepted before slot.id ≤ countFor (delivered before) slot.id
  | _ => false

/-- The call on a host that an event stands for. -/
def hostCall? : RigEvent → Option HostCall
  | submitted slot result => some (.submitted slot.request result)
  | cancelled slot result => some (.cancelled slot.id result)
  | polled _ answer => some (.handled answer.delivered answer.result)
  | haltCleared endpoint result => some (.haltCleared endpoint result)
  | wrote endpoint data _ _ => some (.wrote endpoint data)
  | connected _ _ | disconnected | noted _ => none

/-- The calls on a host that events stand for, after others. -/
def hostCallsAfter (before : List RigEvent) : List RigEvent → List HostCall
  | [] => []
  | event :: rest =>
      (if event.isVain before then none else event.hostCall?).toList ++
        hostCallsAfter (before ++ [event]) rest

/-- The calls on a host, without those that were made in vain. -/
def hostCalls (history : List RigEvent) : List HostCall := hostCallsAfter [] history

private theorem hostCallsAfter_concat (before history : List RigEvent) (event : RigEvent) :
    hostCallsAfter before (history ++ [event]) =
      hostCallsAfter before history ++
        (if event.isVain (before ++ history) then none else event.hostCall?).toList := by
  induction history generalizing before with
  | nil =>
      rw [List.nil_append, hostCallsAfter, List.append_nil]
      exact List.append_nil _
  | cons first rest ih =>
      rw [List.cons_append, hostCallsAfter, ih, hostCallsAfter, List.append_assoc,
        List.append_assoc, List.singleton_append]

/-- A call is one on the host, unless it is in vain. -/
theorem hostCalls_concat (history : List RigEvent) (event : RigEvent) :
    hostCalls (history ++ [event]) =
      hostCalls history ++ (if event.isVain history then none else event.hostCall?).toList :=
  hostCallsAfter_concat [] history event

/-- The answers to cancellations are those of a list, but a slot with nothing out is cancelled only
when none is left there. -/
def Heeds (answers : List (Option (UsbResult Unit))) (before : List RigEvent) (event : RigEvent) :
    Prop :=
  event.isVain before = true → ∀ answer ∈ answers.drop (before.countP isCancellation), answer = none

instance (answers : List (Option (UsbResult Unit))) (before : List RigEvent) (event : RigEvent) :
    Decidable (Heeds answers before event) :=
  inferInstanceAs (Decidable (_ → _))

end RigEvent

namespace StackEvent

/-- The call on the host that an event stands for. -/
def hostCall? : StackEvent → Option HostCall
  | submitted request code => some (.submitted request (.ofCode code))
  | cancelled transfer code => some (.cancelled transfer (.ofCode code))
  | handled _ answer =>
      some (.handled (answer.callbacks.map Callback.completion) (.ofCode answer.code))
  | haltCleared endpoint code => some (.haltCleared endpoint (.ofCode code))
  | wrote endpoint data _ _ => some (.wrote endpoint data)
  | _ => none

/-- The calls on the host. -/
def hostCalls (history : List StackEvent) : List HostCall := history.filterMap hostCall?

@[simp] theorem hostCalls_append (first second : List StackEvent) :
    hostCalls (first ++ second) = hostCalls first ++ hostCalls second :=
  List.filterMap_append

end StackEvent

/-- Closing a session asks nothing of the host. -/
theorem Session.hostCalls_disconnect {β : Type} (stack : Stack β)
    (session : Session (Journal StackEvent β)) :
    StackEvent.hostCalls (session.disconnect stack.journaled).stackState.history =
      StackEvent.hostCalls session.stackState.history := by
  have farewells (transfers : List Transfer) :
      StackEvent.hostCalls (transfers.map farewell) = [] := by
    apply List.filterMap_eq_nil_iff.mpr
    refine List.forall_mem_map.mpr fun transfer _ => ?_
    unfold farewell
    split <;> rfl
  have released (session : Session (Journal StackEvent β)) :
      StackEvent.hostCalls (session.releaseInterface stack.journaled).stackState.history =
        StackEvent.hostCalls session.stackState.history := by
    have first := stack.history_release session.stackState session.interface
    unfold releaseInterface
    dsimp only
    split
    · rw [first, StackEvent.hostCalls_append]
      exact List.append_nil _
    · rw [stack.history_release, stack.history_note, first]
      simp only [StackEvent.hostCalls_append, List.append_assoc]
      exact List.append_nil _
  unfold disconnect
  dsimp only
  rw [stack.history_close, StackEvent.hostCalls_append, released, history_dropTransfers,
    StackEvent.hostCalls_append, farewells]
  exact (List.append_nil _).trans (List.append_nil _)

/-! ## Two histories -/

/-- A transfer that is out is handed over, or is still out. -/
theorem Completion.countFor_add_stillOut {completions : List Completion} {out : Nat → Bool}
    (apart : (completions.map Completion.slot).Nodup)
    (flying : ∀ completion ∈ completions, out completion.slot = true) (id : Nat) :
    (countFor completions id + if stillOut completions out id then 1 else 0) =
      if out id then 1 else 0 := by
  rw [countFor_eq_count]
  by_cases member : id ∈ completions.map Completion.slot
  · obtain ⟨completion, among, rfl⟩ := List.mem_map.mp member
    rw [List.count_eq_one_of_mem apart member, flying completion among,
      stillOut_of_mem among, if_neg Bool.false_ne_true]
    rfl
  · have absent : ∀ completion ∈ completions, completion.slot ≠ id :=
      fun completion among same => member (List.mem_map.mpr ⟨completion, among, same⟩)
    rw [List.count_eq_zero_of_not_mem member, Nat.zero_add, stillOut_of_forall_ne absent]

/-- The history of a rig and that of a stack tell of the same calls on a host, after which some
transfers are out. -/
structure SameCalls (out : Nat → Bool) (calls : List RigEvent) (history : List StackEvent) :
    Prop where
  balanced : ∀ id, RigEvent.accepted calls id =
    countFor (RigEvent.delivered calls) id + if out id then 1 else 0
  same : StackEvent.hostCalls history = RigEvent.hostCalls calls

namespace SameCalls

variable {out : Nat → Bool} {calls : List RigEvent} {history : List StackEvent}
  (agree : SameCalls out calls history)

include agree

/-- A cancellation is in vain just for a slot that is not out. -/
theorem isVain_cancelled (slot : Slot) (result : UsbResult Unit) :
    (RigEvent.cancelled slot result).isVain calls = !out slot.id := by
  have balanced := agree.balanced slot.id
  unfold RigEvent.isVain
  cases marked : out slot.id with
  | true =>
      rw [marked, if_pos rfl] at balanced
      exact decide_eq_false (by omega)
  | false =>
      rw [marked, if_neg Bool.false_ne_true] at balanced
      exact decide_eq_true (Nat.le_of_eq balanced)

/-- A call that is no accepted submission and no cancellation and hands over nothing. -/
theorem call {event : RigEvent} {events : List StackEvent}
    (refused : ∀ id, event.accepts id = false) (empty : event.handedOver = [])
    (other : event.isCancellation = false)
    (equal : StackEvent.hostCalls events = event.hostCall?.toList) :
    SameCalls out (calls ++ [event]) (history ++ events) where
  balanced id := by
    rw [RigEvent.accepted_append, RigEvent.accepted_singleton, refused, RigEvent.delivered_append,
      RigEvent.delivered_singleton, empty, List.append_nil]
    exact agree.balanced id
  same := by
    have plain : event.isVain calls = false := by
      cases event <;> first | rfl | contradiction
    rw [StackEvent.hostCalls_append, RigEvent.hostCalls_concat, plain, agree.same, equal]
    rfl

/-- What is written down on one side only is no call on the host. -/
theorem aside {events : List StackEvent} (none : StackEvent.hostCalls events = []) :
    SameCalls out calls (history ++ events) where
  balanced := agree.balanced
  same := by
    rw [StackEvent.hostCalls_append, none, List.append_nil]
    exact agree.same

/-- A notice is no call on the host. -/
theorem note (notice : Notice) :
    SameCalls out (calls ++ [.noted notice]) history := by
  have noted : SameCalls out (calls ++ [.noted notice]) (history ++ []) :=
    agree.call (fun _ => rfl) rfl rfl rfl
  rwa [List.append_nil] at noted

/-- A slot with nothing out is submitted. -/
theorem submit {slot : Slot} (free : out slot.id = false) {request : Request}
    (asks : request = slot.request) (code : Int) :
    (UsbResult.ofCode code = .ok () →
      SameCalls (Function.update out slot.id true)
        (calls ++ [.submitted slot (UsbResult.ofCode code)])
        (history ++ [.submitted request code])) ∧
    ∀ error, UsbResult.ofCode code = .error error →
      SameCalls out (calls ++ [.submitted slot (UsbResult.ofCode code)])
        (history ++ [.submitted request code]) := by
  have equal : StackEvent.hostCalls [.submitted request code] =
      (RigEvent.submitted slot (UsbResult.ofCode code)).hostCall?.toList := by
    rw [asks]
    rfl
  constructor
  · intro accepted
    refine ⟨fun id => ?_, ?_⟩
    · have balanced := agree.balanced id
      rw [RigEvent.accepted_append, RigEvent.accepted_singleton, RigEvent.delivered_append,
        RigEvent.delivered_singleton, accepted]
      by_cases named : id = slot.id
      · subst named
        rw [free] at balanced
        rw [Function.update_self, balanced]
        simp [RigEvent.accepts, RigEvent.handedOver]
      · rw [Function.update_of_ne named, balanced]
        have different : ¬slot.id = id := fun same => named same.symm
        simp [RigEvent.accepts, RigEvent.handedOver, different]
    · rw [StackEvent.hostCalls_append, RigEvent.hostCalls_concat, agree.same, equal]
      rfl
  · intro error refused
    refine agree.call ?_ rfl rfl equal
    intro id
    rw [refused]
    rfl

/-- A slot is cancelled, on the host only if its transfer is out. -/
theorem cancel (slot : Slot) (result : UsbResult Unit) {events : List StackEvent}
    (equal : StackEvent.hostCalls events =
      if out slot.id then [.cancelled slot.id result] else []) :
    SameCalls out (calls ++ [.cancelled slot result]) (history ++ events) where
  balanced id := by
    rw [RigEvent.accepted_append, RigEvent.delivered_append, RigEvent.delivered_singleton]
    change _ + 0 = countFor (_ ++ []) id + _
    rw [List.append_nil]
    exact agree.balanced id
  same := by
    rw [StackEvent.hostCalls_append, RigEvent.hostCalls_concat, agree.isVain_cancelled, agree.same,
      equal]
    cases out slot.id <;> rfl

/-- Faithful completions are those of transfers that are out, one for each. -/
theorem out_of_faithful {timeout : Duration} {answer : Polled}
    (faithful : RigEvent.Faithful (calls ++ [.polled timeout answer])) :
    (answer.delivered.map Completion.slot).Nodup ∧
      ∀ completion ∈ answer.delivered, out completion.slot = true := by
  have most (id : Nat) : countFor answer.delivered id ≤ if out id then 1 else 0 := by
    have le := faithful.le id
    rw [RigEvent.accepted_append, RigEvent.delivered_append, RigEvent.delivered_singleton,
      countFor_append, agree.balanced id] at le
    exact Nat.add_le_add_iff_left.mp le
  constructor
  · refine List.nodup_iff_count_le_one.mpr fun id => ?_
    rw [← countFor_eq_count]
    exact Nat.le_trans (most id) (by split <;> decide)
  · intro completion member
    by_contra none
    have le := most completion.slot
    rw [if_neg none] at le
    exact Nat.not_lt_of_le le (countFor_pos member)

/-- Completions of transfers that are out are handed over. -/
theorem poll {timeout : Duration} {answer : Polled} {call : EventCall} {ran : EventAnswer}
    (apart : (answer.delivered.map Completion.slot).Nodup)
    (flying : ∀ completion ∈ answer.delivered, out completion.slot = true)
    (delivered : ran.callbacks.map Callback.completion = answer.delivered)
    (result : UsbResult.ofCode ran.code = answer.result) :
    SameCalls (stillOut answer.delivered out) (calls ++ [.polled timeout answer])
      (history ++ [.handled call ran]) where
  balanced id := by
    have balanced := agree.balanced id
    rw [RigEvent.accepted_append, RigEvent.accepted_singleton, RigEvent.delivered_append,
      RigEvent.delivered_singleton, countFor_append, balanced]
    change _ + 0 = countFor _ id + countFor answer.delivered id + _
    rw [Nat.add_zero, Nat.add_assoc, countFor_add_stillOut apart flying]
  same := by
    rw [StackEvent.hostCalls_append, RigEvent.hostCalls_concat, agree.same]
    change _ ++ [HostCall.handled _ _] = _ ++ [HostCall.handled _ _]
    rw [delivered, result]

end SameCalls

end UsbThroughput
