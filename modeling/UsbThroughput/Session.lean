import UsbThroughput.Rig
import UsbThroughput.Stack

/-!
# Sessions

A session is a rig over a USB stack: it opens a device, claims its interface and presents the
transfers of the stack as the slots of a test. Each slot is bound to one transfer, which is
allocated when the slot is first submitted and freed when the device is closed. A transfer that is
still in flight then is leaked, because a late callback must find it alive.

Callbacks put completions into the session (`Session.arrivals`). They are handed over, and the
marks of their transfers removed, by the next event call that succeeds. While completions wait,
the stack is not asked for more.

The transfers are counted up to the slot with the largest number, in 64 bits. The submission of a
slot whose number leaves no room for that count breaks the session (`Session.broken`).
-/

namespace UsbThroughput

/-- The transfer bound to a slot. -/
structure Transfer where
  slot : Nat
  number : Nat
  /-- Whether the last submission was accepted and its completion has not been handed over. -/
  inFlight : Bool
  deriving DecidableEq, Repr

/-- The use of a stack by one program, with the state of the stack. -/
structure Session (β : Type) where
  stackState : β
  /-- The number of the next transfer that is allocated. -/
  nextNumber : Nat := 0
  /-- The interface of the open device. -/
  interface : UInt8 := 0
  /-- The transfers of the open device, in the order of their slots. -/
  transfers : List Transfer := []
  /-- Completions put in by callbacks and not handed over yet, in order. -/
  arrivals : List Completion := []
  /-- The flag that callbacks raise to end an event call early. -/
  raised : Bool := false
  /-- What broke the session, if it can only be closed. -/
  broken : Option Fault := none
  deriving DecidableEq, Repr

namespace Session

variable {β : Type}

/-- The transfer bound to a slot. -/
def transfer? (session : Session β) (slot : Nat) : Option Transfer :=
  session.transfers.find? fun transfer => transfer.slot == slot

/-- Puts a transfer into a list in the order of slots, in place of one for the same slot. -/
def insertTransfer (transfer : Transfer) : List Transfer → List Transfer
  | [] => [transfer]
  | first :: rest =>
      if transfer.slot < first.slot then transfer :: first :: rest
      else if transfer.slot = first.slot then transfer :: rest
      else first :: insertTransfer transfer rest

/-- Binds a transfer to its slot. -/
def bindTransfer (transfer : Transfer) (session : Session β) : Session β :=
  { session with transfers := insertTransfer transfer session.transfers }

/-- The completion that a callback puts in: the slot is that of the transfer, if the open device
has it, and a negative length counts as nothing. -/
def completionOf? (session : Session β) (callback : Callback) : Option Completion :=
  (session.transfers.find? fun transfer => transfer.number == callback.transfer).map fun transfer =>
    { slot := transfer.slot
      status := .ofCode callback.status
      length := callback.length.toNat }

/-- The number of slots that can have a transfer: their count is a word of 64 bits. -/
def maxSlots : Nat := UInt64.size - 1

/-- The largest timeout of a transfer in milliseconds. -/
def maxTimeout : Nat := UInt32.size - 1

/-- A longest span in seconds that an event call can wait for. -/
def maxWaitSeconds : Nat := UInt64.size / 2 - 1

/-- The wait that is used in place of one that is too long: a day. -/
def longWaitSeconds : Nat := 86400

/-- A span in the units of an event call. Fractions of a microsecond are dropped. -/
def waitTime (span : Duration) : WaitTime where
  seconds := if span.seconds ≤ maxWaitSeconds then span.seconds else longWaitSeconds
  microseconds := span.subsecondMicroseconds

/-- The number of bytes that a write reports. A negative one is read as a word of 64 bits. -/
def writtenCount (transferred : Int) : Nat := (transferred % UInt64.size).toNat

variable (stack : Stack β)

/-- Writes to the log. -/
def note (notice : Notice) (session : Session β) : Session β :=
  { session with stackState := stack.note notice session.stackState }

/-- Makes the stack ready for use. -/
def start (session : Session β) : UsbResult Unit × Session β :=
  let (code, stackState) := stack.start session.stackState
  (.ofCode code, { session with stackState })

/-- Ends the use of the stack. -/
def exit (session : Session β) : Session β :=
  { session with stackState := stack.exit session.stackState }

/-- Opens a device and claims its interface. The device is closed again if the claim fails. -/
def connect (target : Target) (session : Session β) : Except SetupError Unit × Session β :=
  match stack.openDevice target.vendor target.product session.stackState with
  | (false, stackState) =>
      (.error (.deviceNotFound target.vendor target.product), { session with stackState })
  | (true, stackState) =>
      let (code, stackState) := stack.claim target.interface stackState
      match UsbResult.ofCode code with
      | .error cause =>
          (.error (.claim target.interface cause),
            { session with stackState := stack.close stackState })
      | .ok () =>
          let opened : Session β :=
            { stackState, nextNumber := session.nextNumber, interface := target.interface }
          (.ok (), opened.note stack (.opened target.vendor target.product target.interface))

/-- The transfer of a slot, allocated if the slot has none yet. -/
def obtainTransfer (slot : Nat) (session : Session β) : UsbResult Transfer × Session β :=
  match session.transfer? slot with
  | some transfer => (.ok transfer, session)
  | none =>
      match stack.allocate session.nextNumber session.stackState with
      | (false, stackState) => (.error .noMem, { session with stackState })
      | (true, stackState) =>
          let transfer := { slot, number := session.nextNumber, inFlight := false }
          (.ok transfer,
            { session with stackState, nextNumber := session.nextNumber + 1 }.bindTransfer transfer)

/-- What the submission of a slot asks the stack for. -/
def request (transfer : Transfer) (slot : Slot) : Request where
  transfer := transfer.number
  endpoint := slot.endpoint
  length := slot.length
  timeout := min slot.timeout.milliseconds maxTimeout

/-- Submits the transfer of a slot. A slot past the last one that can have a transfer breaks the
session, before the stack is asked for anything. -/
def submit (slot : Slot) (session : Session β) : UsbResult Unit × Session β :=
  if maxSlots ≤ slot.id then (.error .noMem, { session with broken := some .countOverflow })
  else
    match session.obtainTransfer stack slot.id with
    | (.error error, session) => (.error error, session)
    | (.ok transfer, session) =>
        if Settings.maxLength < slot.length then (.error .invalidParam, session)
        else
          let (code, stackState) := stack.submit (request transfer slot) session.stackState
          let session := { session with stackState }
          match UsbResult.ofCode code with
          | .error error => (.error error, session)
          | .ok () => (.ok (), session.bindTransfer { transfer with inFlight := true })

/-- Cancels the transfer of a slot, if it is in flight. -/
def cancel (slot : Slot) (session : Session β) : UsbResult Unit × Session β :=
  match session.transfer? slot.id with
  | none => (.error .notFound, session)
  | some transfer =>
      if transfer.inFlight then
        let (code, stackState) := stack.cancel transfer.number session.stackState
        (.ofCode code, { session with stackState })
      else (.error .notFound, session)

/-- Makes an event call, and puts in what its callbacks announce. -/
def handleEvents (timeout : Duration) (session : Session β) : UsbResult Unit × Session β :=
  let call : EventCall :=
    { wait := waitTime timeout
      watched := session.transfers.map Transfer.number
      raised := false }
  let (answer, stackState) := stack.handleEvents call session.stackState
  (.ofCode answer.code,
    { session with
      stackState
      arrivals := session.arrivals ++ answer.callbacks.filterMap session.completionOf?
      raised := call.raisedAfter answer.callbacks })

/-- Hands over the completions that were put in, and removes the marks of their transfers. -/
def takeArrivals (session : Session β) : List Completion × Session β :=
  let unmarked := session.transfers.map fun transfer =>
    if session.arrivals.any fun completion => completion.slot == transfer.slot then
      { transfer with inFlight := false }
    else transfer
  (session.arrivals, { session with transfers := unmarked, arrivals := [] })

/-- Waits for transfers to finish, unless completions are waiting already. After a failed event
call its completions stay in the session. -/
def poll (timeout : Duration) (session : Session β) : Polled × Session β :=
  let (result, session) :=
    if session.arrivals.isEmpty then session.handleEvents stack timeout else (.ok (), session)
  match result with
  | .error error => (⟨[], .error error⟩, session)
  | .ok () =>
      let (delivered, session) := session.takeArrivals
      (⟨delivered, .ok ()⟩, session)

/-- Writes bytes to an outbound endpoint. A write that was cut short by time or by a signal counts
as a success if bytes were written. -/
def write (endpoint : UInt8) (data : List UInt8) (timeout : Duration) (session : Session β) :
    UsbResult Nat × Session β :=
  if Direction.ofAddress endpoint = .inbound then (.error .invalidParam, session)
  else
    let milliseconds := timeout.milliseconds % (maxTimeout + 1)
    let (answer, stackState) := stack.write endpoint data milliseconds session.stackState
    let session := { session with stackState }
    match UsbResult.ofCode answer.code with
    | .ok () => (.ok (writtenCount answer.transferred), session)
    | .error error =>
        if (error = .timeout ∨ error = .interrupted) ∧ 0 < answer.transferred then
          (.ok (writtenCount answer.transferred), session)
        else (.error error, session)

/-- Clears the halt of an endpoint. -/
def clearHalt (endpoint : UInt8) (session : Session β) : UsbResult Unit × Session β :=
  let (code, stackState) := stack.clearHalt endpoint session.stackState
  (.ofCode code, { session with stackState })

/-- Frees the transfers that are not in flight and leaks the others, in the order of slots. -/
def dropTransfers : List Transfer → β → β
  | [], state => state
  | transfer :: rest, state =>
      dropTransfers rest
        (if transfer.inFlight then stack.note .leaking state else stack.free transfer.number state)

/-- Releases the interface. If that fails it is noted, and tried once more. -/
def releaseInterface (session : Session β) : Session β :=
  let (code, stackState) := stack.release session.interface session.stackState
  match UsbResult.ofCode code with
  | .ok () => { session with stackState }
  | .error error =>
      let noted := stack.note (.releaseFailed session.interface error) stackState
      { session with stackState := (stack.release session.interface noted).2 }

/-- Gives up the transfers, releases the interface and closes the device. -/
def disconnect (session : Session β) : Session β :=
  let session :=
    { session with stackState := dropTransfers stack session.transfers session.stackState }
  let session := session.releaseInterface stack
  { stackState := stack.close session.stackState, nextNumber := session.nextNumber }

/-- The sessions of a stack as a rig. -/
def rig : Rig (Session β) where
  connect := connect stack
  submit := submit stack
  cancel := cancel stack
  poll := poll stack
  write := write stack
  clearHalt := clearHalt stack
  disconnect := disconnect stack
  now session :=
    let (now, stackState) := stack.now session.stackState
    (now, { session with stackState })
  note := note stack

end Session

end UsbThroughput
