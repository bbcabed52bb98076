import UsbThroughput.Proofs.Stack.History

/-!
# Visits to a device

How a program that keeps to the rules uses a stack (`StackEvent.Bracketed`): it starts the stack,
pays visits to devices one after the other, and ends the use of the stack. A visit
(`StackEvent.Visit`) begins with the search for the device and ends with its closing; the interface
is claimed and released in between, and transfers are freed when all work with them is over.
-/

namespace UsbThroughput.StackEvent

/-- Whether an event is a call of the stack, and not an entry of the log or a pause. -/
def isCall : StackEvent → Bool
  | slept _ | noted _ => false
  | _ => true

/-- The calls in a history. -/
def calls (history : List StackEvent) : List StackEvent := history.filter isCall

/-- Whether an event is work with an open device: something is done about a transfer, short of
freeing it, or bytes are written, or a halt is cleared. -/
def isWork : StackEvent → Bool
  | allocated _ _ | submitted _ _ | cancelled _ _ | handled _ _ | wrote _ _ _ _
  | haltCleared _ _ => true
  | _ => false

/-- How an interface is released: once, or twice if the first attempt fails. -/
inductive Releases (interface : UInt8) : List StackEvent → Prop where
  | once : Releases interface [.released interface 0]
  | twice (code later : Int) (failed : code ≠ 0) :
      Releases interface [.released interface code, .released interface later]

/-- The calls of one visit to a device. -/
inductive Visit : List StackEvent → Prop where
  | notFound (vendor product : UInt16) : Visit [.opened vendor product false]
  | notClaimed (vendor product : UInt16) (interface : UInt8) (code : Int) (failed : code ≠ 0) :
      Visit [.opened vendor product true, .claimed interface code, .closed]
  /-- The transfers that are freed were allocated in this visit, and none is freed twice. -/
  | used (vendor product : UInt16) (interface : UInt8) (work : List StackEvent)
      (numbers : List Nat) (releases : List StackEvent)
      (works : ∀ call ∈ work, call.isWork = true)
      (own : ∀ number ∈ numbers, Allocated work number) (apart : numbers.Nodup)
      (released : Releases interface releases) :
      Visit ([.opened vendor product true, .claimed interface 0] ++ work ++
        numbers.map .freed ++ releases ++ [.closed])

/-- The calls of a whole program, with so many visits at most. -/
inductive Bracketed (most : Nat) : List StackEvent → Prop where
  | unavailable (code : Int) (failed : code ≠ 0) : Bracketed most [.started code]
  | between (visits : List (List StackEvent)) (few : visits.length ≤ most)
      (each : ∀ visit ∈ visits, Visit visit) :
      Bracketed most ([.started 0] ++ visits.flatten ++ [.exited])

@[simp] theorem calls_append (first second : List StackEvent) :
    calls (first ++ second) = calls first ++ calls second :=
  List.filter_append ..

/-- A call is added to the calls. -/
theorem calls_concat_of_call (history : List StackEvent) {event : StackEvent}
    (call : event.isCall = true) : calls (history ++ [event]) = calls history ++ [event] := by
  rw [calls_append, calls, calls, List.filter_singleton, call]
  rfl

/-- What is no call leaves the calls as they are. -/
theorem calls_concat_of_aside (history : List StackEvent) {event : StackEvent}
    (aside : event.isCall = false) : calls (history ++ [event]) = calls history := by
  rw [calls_append, calls, calls, List.filter_singleton, aside]
  exact List.append_nil _

/-- Work with a device frees nothing. -/
theorem freedCount_of_works {events : List StackEvent}
    (works : ∀ event ∈ events, event.isCall = true → event.isWork = true) (number : Nat) :
    freedCount events number = 0 := by
  apply List.countP_eq_zero.mpr
  intro event member
  have work := works event member
  cases event with
  | freed _ => exact absurd (work rfl) Bool.false_ne_true
  | _ => exact Bool.false_ne_true

/-- An allocation is a call. -/
theorem allocated_calls {history : List StackEvent} {number : Nat} :
    Allocated (calls history) number ↔ Allocated history number := by
  refine ⟨fun ⟨event, member, same⟩ => ⟨event, List.mem_of_mem_filter member, same⟩,
    fun ⟨event, member, same⟩ => ⟨event, List.mem_filter.mpr ⟨member, ?_⟩, same⟩⟩
  cases event <;> first | rfl | contradiction

end UsbThroughput.StackEvent
