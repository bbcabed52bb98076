import UsbThroughput.Slot.Submission

/-!
# The transfer queue

A fixed list of slots on one endpoint. All of them are submitted together by `Queue.submit`;
after that each is submitted again on its own when it completes.
-/

namespace UsbThroughput

/-- The slots of a test. -/
structure Queue where
  direction : Direction
  slots : List Slot
  deriving DecidableEq, Repr

namespace Queue

/-- A queue of slots that receive up to `length` bytes each. -/
def inbound (endpoint : UInt8) (depth length : Nat) (timeout : Duration) : Queue where
  direction := .inbound
  slots := (List.range depth).map fun id => Slot.inbound id endpoint length timeout

/-- A queue of slots that send the same payload. -/
def outbound (endpoint : UInt8) (depth : Nat) (payload : Array UInt8) (timeout : Duration) :
    Queue where
  direction := .outbound
  slots := (List.range depth).map fun id => Slot.outbound id endpoint payload timeout

/-- The queue of a test. -/
def ofSettings (settings : Settings) (direction : Direction) : Queue :=
  let endpoint := settings.endpoint direction
  let depth := settings.queueDepth direction
  match direction with
  | .inbound =>
      inbound endpoint depth (settings.transferLength direction) settings.transferTimeout
  | .outbound => outbound endpoint depth settings.outboundPayload settings.transferTimeout

/-- The number of slots. -/
def depth (queue : Queue) : Nat := queue.slots.length

/-- The slot with the given number. -/
def slot? (queue : Queue) (id : Nat) : Option Slot := queue.slots[id]?

/-- Puts a slot back into its place. -/
def replace (queue : Queue) (id : Nat) (slot : Slot) : Queue :=
  { queue with slots := queue.slots.set id slot }

/-- The number of slots in a state. -/
def count (queue : Queue) (state : SlotState) : Nat :=
  queue.slots.countP fun slot => slot.state = state

/-- The number of slots in flight. -/
def inFlight (queue : Queue) : Nat := queue.slots.countP Slot.isSubmitted

variable {σ : Type} (rig : Rig σ)

/-- Submits slots from first to last, up to the first that is refused. -/
def submitEach : List Slot → σ → (Except Refusal Unit × List Slot) × σ
  | [], state => ((.ok (), []), state)
  | slot :: rest, state =>
      match slot.submit rig state with
      | ((.error refusal, slot), state) => ((.error refusal, slot :: rest), state)
      | ((.ok (), slot), state) =>
          let ((result, rest), state) := submitEach rest state
          ((result, slot :: rest), state)

/-- Cancels slots from last to first. -/
def cancelEach : List Slot → σ → List Slot × σ
  | [], state => ([], state)
  | slot :: rest, state =>
      let (rest, state) := cancelEach rest state
      let (slot, state) := slot.cancel rig state
      (slot :: rest, state)

/-- Gives up each slot in flight, from first to last. -/
def abandonEach : List Slot → σ → List Slot × σ
  | [], state => ([], state)
  | slot :: rest, state =>
      let (slot, state) :=
        if slot.isSubmitted then (slot.abandon, rig.note (.abandoned slot.id) state)
        else (slot, state)
      let (rest, state) := abandonEach rest state
      (slot :: rest, state)

/-- Submits every slot, up to the first that is refused. Those before it stay in flight. -/
def submit (queue : Queue) (state : σ) : (Except Refusal Unit × Queue) × σ :=
  let ((result, slots), state) := submitEach rig queue.slots state
  ((result, { queue with slots }), state)

/-- Cancels every slot in flight. The order is from last to first, so that no slot reaches the bus
after one before it was cancelled. -/
def cancel (queue : Queue) (state : σ) : Queue × σ :=
  let (slots, state) := cancelEach rig queue.slots state
  ({ queue with slots }, state)

/-- Gives up every slot that is still in flight. -/
def abandon (queue : Queue) (state : σ) : Queue × σ :=
  let (slots, state) := abandonEach rig queue.slots state
  ({ queue with slots }, state)

end Queue

end UsbThroughput
