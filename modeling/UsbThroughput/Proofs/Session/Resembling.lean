import UsbThroughput.Proofs.Run.Resembling
import UsbThroughput.Proofs.Session.Operations

/-!
# Stacks that differ in their answers to writes

If two stacks answer alike but for writes (`Stack.Resembles`), so do their sessions
(`Stack.Resembles.rig`), and the same calls are made on the stacks.
-/

namespace UsbThroughput

variable {β γ : Type}

/-- What a call on a stack tells, but for the log and the answers to writes. -/
def StackEvent.unanswered? : StackEvent → Option StackEvent
  | noted _ => none
  | wrote endpoint data timeout _ => some (wrote endpoint data timeout ⟨0, 0⟩)
  | event => some event

/-- **The stacks answer alike but for writes**, as far as sessions use them. -/
structure Stack.Resembles (stack : Stack β) (other : Stack γ) (linked : β → γ → Prop) : Prop where
  openDevice : ∀ vendor product {state twin}, linked state twin →
    Answered linked (stack.openDevice vendor product state) (other.openDevice vendor product twin)
  claim : ∀ interface {state twin}, linked state twin →
    Answered linked (stack.claim interface state) (other.claim interface twin)
  release : ∀ interface {state twin}, linked state twin →
    Answered linked (stack.release interface state) (other.release interface twin)
  allocate : ∀ number {state twin}, linked state twin →
    Answered linked (stack.allocate number state) (other.allocate number twin)
  submit : ∀ request {state twin}, linked state twin →
    Answered linked (stack.submit request state) (other.submit request twin)
  cancel : ∀ number {state twin}, linked state twin →
    Answered linked (stack.cancel number state) (other.cancel number twin)
  handleEvents : ∀ call {state twin}, linked state twin →
    Answered linked (stack.handleEvents call state) (other.handleEvents call twin)
  write : ∀ endpoint data timeout {state twin}, linked state twin →
    linked (stack.write endpoint data timeout state).2 (other.write endpoint data timeout twin).2
  clearHalt : ∀ endpoint {state twin}, linked state twin →
    Answered linked (stack.clearHalt endpoint state) (other.clearHalt endpoint twin)
  free : ∀ number {state twin}, linked state twin →
    linked (stack.free number state) (other.free number twin)
  close : ∀ {state twin}, linked state twin → linked (stack.close state) (other.close twin)
  now : ∀ {state twin}, linked state twin → Answered linked (stack.now state) (other.now twin)
  note : ∀ notice {state twin}, linked state twin → linked (stack.note notice state) twin
  noteTwin : ∀ notice {state twin}, linked state twin → linked state (other.note notice twin)

namespace Stack

variable {stack : Stack β} {other : Stack γ} {linked : β → γ → Prop}
  (resembles : stack.Resembles other linked)

include resembles

/-- With journals, the calls are linked as well, but for the answers to writes. -/
theorem Resembles.journaled :
    stack.journaled.Resembles other.journaled
      (Journal.Twins linked StackEvent.unanswered?) where
  openDevice vendor product _ _ twins :=
    twins.answered (resembles.openDevice vendor product twins.link)
  claim interface _ _ twins := twins.answered (resembles.claim interface twins.link)
  release interface _ _ twins := twins.answered (resembles.release interface twins.link)
  allocate number _ _ twins := twins.answered (resembles.allocate number twins.link)
  submit request _ _ twins := twins.answered (resembles.submit request twins.link)
  cancel number _ _ twins := twins.answered (resembles.cancel number twins.link)
  handleEvents call _ _ twins := twins.answered (resembles.handleEvents call twins.link)
  write endpoint data timeout _ _ twins :=
    twins.record rfl (resembles.write endpoint data timeout twins.link)
  clearHalt endpoint _ _ twins := twins.answered (resembles.clearHalt endpoint twins.link)
  free number _ _ twins := twins.recordChange (resembles.free number twins.link)
  close twins := twins.recordChange (resembles.close twins.link)
  now twins := twins.answeredSilently (resembles.now twins.link)
  note notice _ _ twins := twins.recordFirst rfl (resembles.note notice twins.link)
  noteTwin notice _ _ twins := twins.recordSecond rfl (resembles.noteTwin notice twins.link)

end Stack

namespace Session

/-- A session as it would be on another stack. -/
def place (stackState : γ) (session : Session β) : Session γ where
  stackState
  nextNumber := session.nextNumber
  interface := session.interface
  transfers := session.transfers
  arrivals := session.arrivals
  raised := session.raised
  broken := session.broken

/-- Two sessions are the same on stacks with states that are linked. -/
def Alike (linked : β → γ → Prop) (session : Session β) (twin : Session γ) : Prop :=
  ∃ stackState, linked session.stackState stackState ∧ twin = session.place stackState

variable {stack : Stack β} {other : Stack γ} {linked : β → γ → Prop}
  (resembles : stack.Resembles other linked) {session : Session β} {twin : Session γ}

include resembles

private theorem alike_note (notice : Notice) (alike : session.Alike linked twin) :
    (session.note stack notice).Alike linked twin := by
  obtain ⟨stackState, link, rfl⟩ := alike
  exact ⟨stackState, resembles.note notice link, rfl⟩

private theorem alike_noteTwin (notice : Notice) (alike : session.Alike linked twin) :
    session.Alike linked (twin.note other notice) := by
  obtain ⟨stackState, link, rfl⟩ := alike
  exact ⟨_, resembles.noteTwin notice link, rfl⟩

private theorem answered_connect (target : Target) (alike : session.Alike linked twin) :
    Answered (Alike linked) (session.connect stack target) (twin.connect other target) := by
  obtain ⟨stackState, link, rfl⟩ := alike
  obtain ⟨found, device, deviceTwin, opened, openedTwin, link⟩ :=
    (resembles.openDevice target.vendor target.product link).split
  unfold connect
  rw [opened, show other.openDevice _ _ (session.place stackState).stackState = _ from openedTwin]
  cases found with
  | false => exact ⟨rfl, deviceTwin, link, rfl⟩
  | true =>
      obtain ⟨code, claimed, claimedTwin, claims, claimsTwin, link⟩ :=
        (resembles.claim target.interface link).split
      simp only [claims, claimsTwin]
      cases UsbResult.ofCode code with
      | error cause => exact ⟨rfl, _, resembles.close link, rfl⟩
      | ok _ => exact ⟨rfl, _, resembles.noteTwin _ (resembles.note _ link), rfl⟩

private theorem answered_obtainTransfer (slot : Nat) (alike : session.Alike linked twin) :
    Answered (Alike linked) (session.obtainTransfer stack slot)
      (twin.obtainTransfer other slot) := by
  obtain ⟨stackState, link, rfl⟩ := alike
  have same : (session.place stackState).transfer? slot = session.transfer? slot := rfl
  unfold obtainTransfer
  rw [same]
  cases session.transfer? slot with
  | some transfer => exact ⟨rfl, stackState, link, rfl⟩
  | none =>
      obtain ⟨memory, after, afterTwin, allocates, allocatesTwin, link⟩ :=
        (resembles.allocate session.nextNumber link).split
      dsimp only
      rw [allocates, show other.allocate (session.place stackState).nextNumber
        (session.place stackState).stackState = _ from allocatesTwin]
      cases memory with
      | false => exact ⟨rfl, afterTwin, link, rfl⟩
      | true => exact ⟨rfl, afterTwin, link, rfl⟩

private theorem answered_submit (slot : Slot) (alike : session.Alike linked twin) :
    Answered (Alike linked) (session.submit stack slot) (twin.submit other slot) := by
  unfold submit
  split
  · obtain ⟨stackState, link, rfl⟩ := alike
    exact ⟨rfl, stackState, link, rfl⟩
  · obtain ⟨result, after, afterTwin, obtains, obtainsTwin, alike⟩ :=
      (answered_obtainTransfer resembles slot.id alike).split
    rw [obtains, obtainsTwin]
    cases result with
    | error error => exact ⟨rfl, alike⟩
    | ok transfer =>
        obtain ⟨stackState, link, rfl⟩ := alike
        obtain ⟨code, done, doneTwin, submits, submitsTwin, linkAfter⟩ :=
          (resembles.submit (request transfer slot) link).split
        have again : other.submit (request transfer slot) (after.place stackState).stackState =
          (code, doneTwin) := submitsTwin
        simp only [submits, again]
        split
        · exact ⟨rfl, stackState, link, rfl⟩
        · cases UsbResult.ofCode code with
          | error error => exact ⟨rfl, doneTwin, linkAfter, rfl⟩
          | ok _ => exact ⟨rfl, doneTwin, linkAfter, rfl⟩

private theorem answered_cancel (slot : Slot) (alike : session.Alike linked twin) :
    Answered (Alike linked) (session.cancel stack slot) (twin.cancel other slot) := by
  obtain ⟨stackState, link, rfl⟩ := alike
  have same : (session.place stackState).transfer? slot.id = session.transfer? slot.id := rfl
  unfold cancel
  rw [same]
  cases session.transfer? slot.id with
  | none => exact ⟨rfl, stackState, link, rfl⟩
  | some transfer =>
      dsimp only
      split
      · obtain ⟨same, link⟩ := resembles.cancel transfer.number link
        exact ⟨congrArg UsbResult.ofCode same, _, link, rfl⟩
      · exact ⟨rfl, stackState, link, rfl⟩

private theorem answered_handleEvents (timeout : Duration) (alike : session.Alike linked twin) :
    Answered (Alike linked) (session.handleEvents stack timeout)
      (twin.handleEvents other timeout) := by
  obtain ⟨stackState, link, rfl⟩ := alike
  let call : EventCall :=
    { wait := waitTime timeout
      watched := session.transfers.map Transfer.number
      raised := false }
  obtain ⟨same, link⟩ := resembles.handleEvents call link
  refine ⟨congrArg (fun answer : EventAnswer => UsbResult.ofCode answer.code) same, _, link, ?_⟩
  exact congrArg (fun answer : EventAnswer =>
    { session.place (other.handleEvents call stackState).2 with
      arrivals := session.arrivals ++ answer.callbacks.filterMap session.completionOf?
      raised := call.raisedAfter answer.callbacks }) same

omit resembles in
private theorem alike_takeArrivals (alike : session.Alike linked twin) :
    session.takeArrivals.2.Alike linked twin.takeArrivals.2 := by
  obtain ⟨stackState, link, rfl⟩ := alike
  exact ⟨stackState, link, rfl⟩

omit resembles in
/-- The same completions wait in sessions that are alike. -/
theorem Alike.arrivals_eq (alike : session.Alike linked twin) :
    twin.arrivals = session.arrivals := by
  obtain ⟨stackState, _, rfl⟩ := alike
  rfl

private theorem answered_poll (timeout : Duration) (alike : session.Alike linked twin) :
    Answered (Alike linked) (session.poll stack timeout) (twin.poll other timeout) := by
  have arrivals := alike.arrivals_eq
  by_cases empty : session.arrivals = []
  · obtain ⟨result, after, afterTwin, handles, handlesTwin, alike⟩ :=
      (answered_handleEvents resembles timeout alike).split
    rw [poll_of_empty stack timeout empty, poll_of_empty other timeout (arrivals.trans empty),
      handles, handlesTwin]
    cases result with
    | error error => exact ⟨rfl, alike⟩
    | ok _ =>
        exact ⟨congrArg (fun arrivals => Polled.mk arrivals (.ok ())) alike.arrivals_eq,
          alike_takeArrivals alike⟩
  · rw [poll_of_waiting stack timeout empty, poll_of_waiting other timeout (arrivals ▸ empty)]
    exact ⟨congrArg (fun arrivals => Polled.mk arrivals (.ok ())) arrivals,
      alike_takeArrivals alike⟩

private theorem alike_write (endpoint : UInt8) (data : List UInt8) (timeout : Duration)
    (alike : session.Alike linked twin) :
    (session.write stack endpoint data timeout).2.Alike linked
      (twin.write other endpoint data timeout).2 := by
  obtain ⟨stackState, link, rfl⟩ := alike
  rw [session_write, session_write]
  split
  · exact ⟨stackState, link, rfl⟩
  · exact ⟨_, resembles.write endpoint data (timeout.milliseconds % (maxTimeout + 1)) link, rfl⟩

private theorem linked_dropTransfers (transfers : List Transfer) {state : β} {stateTwin : γ}
    (link : linked state stateTwin) :
    linked (dropTransfers stack transfers state) (dropTransfers other transfers stateTwin) := by
  induction transfers generalizing state stateTwin with
  | nil => exact link
  | cons transfer rest ih =>
      unfold dropTransfers
      split
      · exact ih (resembles.noteTwin _ (resembles.note _ link))
      · exact ih (resembles.free _ link)

private theorem alike_releaseInterface (alike : session.Alike linked twin) :
    (session.releaseInterface stack).Alike linked (twin.releaseInterface other) := by
  obtain ⟨stackState, link, rfl⟩ := alike
  obtain ⟨code, after, afterTwin, releases, releasesTwin, link⟩ :=
    (resembles.release session.interface link).split
  have again : other.release (session.place stackState).interface
    (session.place stackState).stackState = (code, afterTwin) := releasesTwin
  unfold releaseInterface
  rw [releases, again]
  dsimp only
  cases UsbResult.ofCode code with
  | ok _ => exact ⟨afterTwin, link, rfl⟩
  | error error =>
      have noted := resembles.noteTwin (.releaseFailed session.interface error)
        (resembles.note (.releaseFailed session.interface error) link)
      exact ⟨_, (resembles.release session.interface noted).2, rfl⟩

private theorem alike_disconnect (alike : session.Alike linked twin) :
    (session.disconnect stack).Alike linked (twin.disconnect other) := by
  obtain ⟨stackState, link, rfl⟩ := alike
  have dropped : Alike linked
      { session with stackState := dropTransfers stack session.transfers session.stackState }
      (session.place (dropTransfers other session.transfers stackState)) :=
    ⟨_, linked_dropTransfers resembles session.transfers link, rfl⟩
  obtain ⟨released, link, same⟩ := alike_releaseInterface resembles dropped
  refine ⟨other.close released, resembles.close link, ?_⟩
  exact congrArg (fun released : Session γ => ({ released with
    stackState := other.close released.stackState, interface := 0, transfers := [], arrivals := [],
    raised := false, broken := none } : Session γ)) same

/-- **Sessions of stacks that answer alike but for writes** answer alike but for writes. -/
theorem resembles_rig : (Session.rig stack).Resembles (Session.rig other) (Alike linked) where
  connect target _ _ alike := answered_connect resembles target alike
  submit slot _ _ alike := answered_submit resembles slot alike
  cancel slot _ _ alike := answered_cancel resembles slot alike
  poll timeout _ _ alike := answered_poll resembles timeout alike
  write endpoint data timeout _ _ alike := alike_write resembles endpoint data timeout alike
  clearHalt endpoint _ _ alike := by
    obtain ⟨stackState, link, rfl⟩ := alike
    obtain ⟨same, link⟩ := resembles.clearHalt endpoint link
    exact ⟨congrArg UsbResult.ofCode same, _, link, rfl⟩
  disconnect alike := alike_disconnect resembles alike
  now alike := by
    obtain ⟨stackState, link, rfl⟩ := alike
    obtain ⟨same, link⟩ := resembles.now link
    exact ⟨same, _, link, rfl⟩
  note notice _ _ alike := alike_note resembles notice alike
  noteTwin notice _ _ alike := alike_noteTwin resembles notice alike

end Session

end UsbThroughput
