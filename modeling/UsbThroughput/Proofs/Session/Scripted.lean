import UsbThroughput.Proofs.Script.Naming
import UsbThroughput.Proofs.Session.Bound
import UsbThroughput.Script.Device
import UsbThroughput.Script.Stack

/-!
# A session and a device on one script

A device that answers from a script, and the sessions of a stack that answers from the same script
in codes, are rigs in tandem (`Session.tandem`). The session keeps the completions of a failed
event call back and hands them over at the next one, and it does not ask the host to cancel a
transfer whose completion it has handed over, as the device does.
-/

namespace UsbThroughput

open Completion

/-- A scripted device, with a journal of the calls on it. -/
abbrev WatchedDevice := Journal RigEvent ScriptedDevice

/-- A session on a scripted stack, with a journal of the calls on the stack. -/
abbrev ScriptedSession := Session (Journal StackEvent ScriptedStack)

/-- Whether an event is a call for completions that failed and handed over some all the same. -/
def RigEvent.spills : RigEvent → Bool
  | polled _ ⟨_ :: _, .error error⟩ => error ≠ .interrupted
  | _ => false

/-- A callback of a scripted stack announces what a scripted device hands over. -/
theorem ScriptedStack.completion_callbackOf {delivery : Delivery Int}
    (word : IsWord delivery.length) :
    (callbackOf delivery).completion = ScriptedDevice.completionOf delivery.named := by
  unfold callbackOf Callback.completion ScriptedDevice.completionOf Delivery.named
  rw [word.bmod_eq]

namespace Session

private theorem takeArrivals_of_empty {β : Type} {session : Session β}
    (empty : session.arrivals = []) :
    session.takeArrivals = ([], session) := by
  have unmarked : session.transfers.map (unmark []) = session.transfers := List.map_id' _
  unfold takeArrivals
  rw [empty]
  refine congrArg (Prod.mk []) ?_
  change { session with transfers := session.transfers.map (unmark []), arrivals := [] } = session
  rw [unmarked, ← empty]

/-- The host of a session. -/
def host (session : ScriptedSession) : Host Int Int := session.stackState.state.host

/-- The answers to cancellations that a device has left after some calls. -/
def answersLeft (answers : List (Option (UsbResult Unit))) (device : WatchedDevice) :
    List (Option (UsbResult Unit)) :=
  answers.drop (device.history.countP RigEvent.isCancellation)

/-- A scripted device and a session on one script, with the same transfers out. The device has
begun with some answers to cancellations. -/
structure Linked (answers : List (Option (UsbResult Unit))) (armed : Nat) (out : Nat → Bool)
    (device : WatchedDevice) (session : ScriptedSession) : Prop where
  echo : Host.Echo (answersLeft answers device) session.host device.state.host
  holds : session.host.Holds out
  memory : some false ∉ session.stackState.state.allocated
  bound : session.Bound armed out
  empty : session.arrivals = []
  agree : SameCalls out device.history session.stackState.history

/-- What ties a scripted device to a session on the same script. -/
def ties (answers : List (Option (UsbResult Unit))) : Rig.Ties WatchedDevice ScriptedSession where
  Linked := Linked answers
  Holding armed out delivered device session :=
    delivered ≠ [] ∧ session.arrivals = delivered ∧
      Linked answers armed out device session.takeArrivals.2
  Parted device session :=
    StackEvent.hostCalls session.stackState.history = RigEvent.hostCalls device.history
  Fair device :=
    RigEvent.Faithful device.history ∧
      Journal.Throughout (RigEvent.Heeds answers) device.history
  Spilled device := ∃ event ∈ device.history, event.spills = true

variable {answers : List (Option (UsbResult Unit))} {armed : Nat} {out : Nat → Bool}
  {device : WatchedDevice} {session : ScriptedSession}

private theorem fair_of_isPrefix {later : WatchedDevice} (fair : (ties answers).Fair later)
    (before : device.history <+: later.history) : (ties answers).Fair device :=
  ⟨fair.1.of_isPrefix before, fair.2.of_isPrefix before⟩

/-- A call on the device that is no cancellation takes none of the answers to them. -/
theorem answersLeft_of_history {later : WatchedDevice} {event : RigEvent}
    (history : later.history = device.history ++ [event]) (other : event.isCancellation = false) :
    answersLeft answers later = answersLeft answers device := by
  rw [answersLeft, history, List.countP_append, List.countP_singleton, other]
  rfl

private theorem answersLeft_of_cancelled {later : WatchedDevice} {slot : Slot}
    {result : UsbResult Unit}
    (history : later.history = device.history ++ [.cancelled slot result]) :
    answersLeft answers later = (Script.next (answersLeft answers device)).2 := by
  have next (entries : List (Option (UsbResult Unit))) :
      (Script.next entries).2 = entries.drop 1 := by
    cases entries <;> rfl
  rw [answersLeft, history, next, answersLeft, List.drop_drop, List.countP_append]
  rfl

namespace Linked

variable (linked : Linked answers armed out device session)

include linked

/-- A notice on the device leaves the hosts linked. -/
theorem note (notice : Notice) :
    Linked answers armed out (ScriptedDevice.rig.journaled.note notice device) session := by
  have history := Rig.history_note ScriptedDevice.rig device notice
  refine { linked with echo := ?_, agree := ?_ }
  · rw [answersLeft_of_history history rfl]
    exact linked.echo
  · rw [history]
    exact linked.agree.note notice

/-- A notice of the session leaves the hosts linked. -/
theorem noteTwin (notice : Notice) :
    Linked answers armed out device (session.note ScriptedStack.calls.journaled notice) where
  echo := linked.echo
  holds := linked.holds
  memory := linked.memory
  bound := ⟨linked.bound.transfers, linked.bound.numbered, linked.bound.below⟩
  empty := linked.empty
  agree := by
    change SameCalls _ _ (ScriptedStack.calls.journaled.note notice session.stackState).history
    rw [Stack.history_note]
    exact linked.agree.aside rfl

/-- The session reads the clock of its host. -/
theorem nowTwin :
    Linked answers armed out device
      ((Session.rig ScriptedStack.calls.journaled).now session).2 where
  echo := linked.echo.nowTwin
  holds := ⟨linked.holds.worded, linked.holds.short, linked.holds.apart, linked.holds.out⟩
  memory := linked.memory
  bound := ⟨linked.bound.transfers, linked.bound.numbered, linked.bound.below⟩
  empty := linked.empty
  agree := linked.agree

/-- Both hosts read their clocks. -/
theorem now :
    Linked answers armed out (ScriptedDevice.rig.journaled.now device).2
      ((Session.rig ScriptedStack.calls.journaled).now session).2 :=
  { linked.nowTwin with echo := linked.echo.now }

/-- A write to an endpoint for output leaves the hosts linked, whatever it is answered. -/
theorem write {endpoint : UInt8} (outward : Direction.ofAddress endpoint = .outbound)
    (data : List UInt8) (timeout : Duration) :
    Linked answers armed out (ScriptedDevice.rig.journaled.write endpoint data timeout device).2
      (session.write ScriptedStack.calls.journaled endpoint data timeout).2 := by
  have history := Rig.history_write ScriptedDevice.rig device endpoint data timeout
  rw [Session.session_write, if_neg (outward.trans_ne (by decide))]
  refine ⟨?_, linked.holds, linked.memory,
    ⟨linked.bound.transfers, linked.bound.numbered, linked.bound.below⟩, linked.empty, ?_⟩
  · rw [answersLeft_of_history history rfl]
    exact linked.echo
  · dsimp only
    rw [history, Stack.history_write]
    exact linked.agree.call (fun _ => rfl) rfl rfl rfl

/-- A halt is cleared on both hosts, with the same answer. -/
theorem clearHalt (endpoint : UInt8) :
    (session.clearHalt ScriptedStack.calls.journaled endpoint).1 =
        (ScriptedDevice.rig.journaled.clearHalt endpoint device).1 ∧
      Linked answers armed out (ScriptedDevice.rig.journaled.clearHalt endpoint device).2
        (session.clearHalt ScriptedStack.calls.journaled endpoint).2 := by
  obtain ⟨same, echo⟩ := linked.echo.clearHalt
  have history := Rig.history_clearHalt ScriptedDevice.rig device endpoint
  have stackHistory := Stack.history_clearHalt ScriptedStack.calls session.stackState endpoint
  refine ⟨same.symm, ?_, ?_, linked.memory,
    ⟨linked.bound.transfers, linked.bound.numbered, linked.bound.below⟩, linked.empty, ?_⟩
  · rw [answersLeft_of_history history rfl]
    exact echo
  · exact ⟨⟨linked.holds.worded.deliveries, linked.holds.worded.outcomes⟩, linked.holds.short,
      linked.holds.apart, linked.holds.out⟩
  · change SameCalls _ _ (ScriptedStack.calls.journaled.clearHalt endpoint
      session.stackState).2.history
    rw [history, stackHistory]
    refine linked.agree.call (fun _ => rfl) rfl rfl ?_
    exact congrArg (fun result => [HostCall.haltCleared endpoint result]) same.symm

/-- There is memory for every transfer. -/
theorem allocate (number : Nat) :
    (ScriptedStack.calls.journaled.allocate number session.stackState).1 = true ∧
      some false ∉ (ScriptedStack.calls.journaled.allocate number
        session.stackState).2.state.allocated := by
  constructor
  · change (Script.next session.stackState.state.allocated).1.getD true = true
    cases listed : (Script.next session.stackState.state.allocated).1 with
    | none => rfl
    | some success =>
        cases success with
        | true => rfl
        | false => exact absurd (Script.next_mem listed) linked.memory
  · exact fun member => linked.memory (Script.mem_of_next member)

/-- **A submission** is answered alike on both hosts, which go on linked: with one more slot out if
it is accepted, and as they were if it is refused. -/
theorem submit {slot : Slot} (fits : slot.Fits) (turn : slot.id ≤ armed)
    (free : out slot.id = false) :
    (session.submit ScriptedStack.calls.journaled slot).1 =
        (ScriptedDevice.rig.journaled.submit slot device).1 ∧
      ((ScriptedDevice.rig.journaled.submit slot device).1 = .ok () →
        Linked answers (max armed (slot.id + 1)) (Function.update out slot.id true)
          (ScriptedDevice.rig.journaled.submit slot device).2
          (session.submit ScriptedStack.calls.journaled slot).2) ∧
      ∀ error, (ScriptedDevice.rig.journaled.submit slot device).1 = .error error →
        Linked answers (max armed (slot.id + 1)) out
          (ScriptedDevice.rig.journaled.submit slot device).2
          (session.submit ScriptedStack.calls.journaled slot).2 := by
  obtain ⟨success, memory⟩ := linked.allocate armed
  obtain ⟨stackState, known, answer, after, arrivals, taken, refused⟩ :=
    linked.bound.submit fits turn success
  -- An allocation on the way changes nothing that the submission depends on.
  obtain ⟨host, memory, agree⟩ : stackState.state.host = session.host ∧
      some false ∉ stackState.state.allocated ∧
      SameCalls out device.history stackState.history := by
    rcases known with rfl | rfl
    · exact ⟨rfl, linked.memory, linked.agree⟩
    · refine ⟨rfl, memory, ?_⟩
      rw [Stack.history_allocate]
      exact linked.agree.aside rfl
  obtain ⟨same, echo⟩ := linked.echo.submit slot.id slot.length
  have history := Rig.history_submit ScriptedDevice.rig device slot
  have stackHistory := Stack.history_submit ScriptedStack.calls stackState slot.request
  have code : (ScriptedStack.calls.journaled.submit slot.request stackState).1 =
      (session.host.submit .coded slot.id slot.length).1 := host ▸ rfl
  have left : (ScriptedStack.calls.journaled.submit slot.request stackState).2.state.host =
      (session.host.submit .coded slot.id slot.length).2 := host ▸ rfl
  have result : (ScriptedDevice.rig.journaled.submit slot device).1 =
      UsbResult.ofCode (ScriptedStack.calls.journaled.submit slot.request stackState).1 :=
    same.trans (congrArg UsbResult.ofCode code.symm)
  obtain ⟨accepts, refuses⟩ := linked.holds.submit .coded free fits.short
  obtain ⟨accepted, rejected⟩ := agree.submit free rfl
    (ScriptedStack.calls.journaled.submit slot.request stackState).1
  rw [← result, ← history, ← stackHistory, ← after] at accepted rejected
  rw [← result] at answer
  have echoes : Host.Echo (answersLeft answers (ScriptedDevice.rig.journaled.submit slot device).2)
      (session.submit ScriptedStack.calls.journaled slot).2.host
      (ScriptedDevice.rig.journaled.submit slot device).2.state.host := by
    rw [answersLeft_of_history history rfl, Session.host, after, left]
    exact echo
  have remembers : some false ∉
      (session.submit ScriptedStack.calls.journaled slot).2.stackState.state.allocated := by
    rw [after]
    exact memory
  have empty := arrivals.trans linked.empty
  refine ⟨answer, fun success => ?_, fun error failure => ?_⟩
  · refine ⟨echoes, ?_, remembers, taken (answer.trans success), empty, accepted success⟩
    rw [Session.host, after, left]
    apply accepts
    rw [← Dialect.isAccepted_ofCode, ← same]
    exact congrArg Except.isOk success
  · refine ⟨echoes, ?_, remembers, refused error (answer.trans failure), empty,
      rejected error failure⟩
    rw [Session.host, after, left]
    apply refuses
    rw [← Dialect.isAccepted_ofCode, ← same]
    exact congrArg Except.isOk failure

/-- A transfer that is out is cancelled on both hosts. One that was handed over is cancelled by the
device alone, in vain. -/
theorem cancel {slot : Slot}
    (heeded : out slot.id = true ∨ (ties answers).Fair
      (ScriptedDevice.rig.journaled.cancel slot device).2) :
    (session.cancel ScriptedStack.calls.journaled slot).1 =
        (ScriptedDevice.rig.journaled.cancel slot device).1 ∧
      Linked answers armed out (ScriptedDevice.rig.journaled.cancel slot device).2
        (session.cancel ScriptedStack.calls.journaled slot).2 := by
  have history := Rig.history_cancel ScriptedDevice.rig device slot
  have left : answersLeft answers _ = _ := answersLeft_of_cancelled history
  rw [linked.bound.cancel]
  cases flying : out slot.id with
  | true =>
      obtain ⟨same, echo⟩ := linked.echo.cancel slot.id
      have stackHistory := Stack.history_cancel ScriptedStack.calls session.stackState slot.id
      rw [if_pos rfl]
      refine ⟨same.symm, ?_, linked.holds.cancel .coded slot.id, linked.memory,
        ⟨linked.bound.transfers, linked.bound.numbered, linked.bound.below⟩, linked.empty, ?_⟩
      · rw [left]
        exact echo
      · dsimp only
        rw [history, stackHistory]
        refine linked.agree.cancel slot _ ?_
        rw [flying]
        exact congrArg (fun result => [HostCall.cancelled slot.id result]) same.symm
  | false =>
      have fair := heeded.resolve_left (by rw [flying]; exact Bool.false_ne_true)
      have vain := linked.agree.isVain_cancelled slot
        (ScriptedDevice.rig.journaled.cancel slot device).1
      rw [flying] at vain
      have heeds := fair.2
      rw [history, Journal.throughout_concat] at heeds
      have absent : ∀ entry ∈ session.host.pending, entry.1 ≠ slot.id := by
        intro entry member same
        exact Bool.noConfusion (flying.symm.trans (same ▸ linked.holds.out entry member))
      obtain ⟨same, echo⟩ := linked.echo.cancel_of_absent absent (heeds.2 vain)
      rw [if_neg Bool.false_ne_true]
      refine ⟨same.symm, { linked with echo := ?_, agree := ?_ }⟩
      · rw [left]
        exact echo
      · have agree : SameCalls out _ (session.stackState.history ++ []) :=
          linked.agree.cancel slot (ScriptedDevice.rig.journaled.cancel slot device).1 (by
            rw [flying]
            rfl)
        rw [history]
        rwa [List.append_nil] at agree

/-- The event call that a session makes, which hands over completions of transfers that are out. -/
theorem handleEvents {timeout : Duration} (later : Duration)
    (faithful : RigEvent.Faithful (ScriptedDevice.rig.journaled.poll timeout device).2.history) :
    let answer := (ScriptedDevice.rig.journaled.poll timeout device).1
    let handled := session.handleEvents ScriptedStack.calls.journaled later
    (answer.delivered.map Completion.slot).Nodup ∧
      (∀ completion ∈ answer.delivered, out completion.slot = true) ∧
      handled.1 = answer.result ∧ handled.2.arrivals = answer.delivered ∧
      Linked answers armed (stillOut answer.delivered out)
        (ScriptedDevice.rig.journaled.poll timeout device).2 handled.2.takeArrivals.2 := by
  intro answer handled
  have history := Rig.history_poll ScriptedDevice.rig device timeout
  rw [history] at faithful
  obtain ⟨apart, flying⟩ := linked.agree.out_of_faithful faithful
  let call : EventCall :=
    { wait := waitTime later, watched := session.transfers.map Transfer.number, raised := false }
  have stackHistory := Stack.history_handleEvents ScriptedStack.calls session.stackState call
  let ran := session.host.handleEvents .coded (ScriptedStack.span call.wait)
  obtain ⟨same, echo⟩ := linked.echo.handleEvents linked.holds timeout
    (ScriptedStack.span call.wait)
  have delivers := linked.holds.handleEvents .coded (ScriptedStack.span call.wait)
  have completions : (ran.1.1.map ScriptedStack.callbackOf).map Callback.completion =
      answer.delivered := by
    have handed : answer.delivered = _ :=
      congrArg (fun answer => answer.1.map ScriptedDevice.completionOf) same
    rw [handed, List.map_map, List.map_map]
    exact List.map_congr_left fun delivery member =>
      ScriptedStack.completion_callbackOf (delivers.words delivery member)
  have result : UsbResult.ofCode ran.1.2 = answer.result := (congrArg Prod.snd same).symm
  have arrivals : handled.2.arrivals = answer.delivered := by
    change session.arrivals ++ (ran.1.1.map ScriptedStack.callbackOf).filterMap
      session.completionOf? = _
    rw [linked.empty, List.nil_append, linked.bound.completions_eq, completions]
    intro callback member
    exact flying callback.completion (completions ▸ List.mem_map_of_mem member)
  have bound : handled.2.Bound armed out :=
    ⟨linked.bound.transfers, linked.bound.numbered, linked.bound.below⟩
  have taken := bound.takeArrivals
  rw [arrivals] at taken
  refine ⟨apart, flying, result, arrivals, ?_, ?_, linked.memory, taken, rfl, ?_⟩
  · rw [answersLeft_of_history history rfl]
    exact echo
  · refine linked.holds.of_sublist delivers.worded delivers.fewer fun entry member marked => ?_
    rw [stillOut_of_forall_ne, marked]
    rw [← completions, List.map_map]
    refine List.forall_mem_map.mpr fun delivery among same => ?_
    exact delivers.gone delivery among entry member same.symm
  · change SameCalls _ _ (ScriptedStack.calls.journaled.handleEvents call
      session.stackState).2.history
    rw [history, stackHistory]
    exact linked.agree.poll apart flying completions result

/-- Both hand over the same completions, unless the event call failed: the session keeps those that
come with a failure. -/
theorem poll {timeout : Duration} (later : Duration)
    (faithful : RigEvent.Faithful (ScriptedDevice.rig.journaled.poll timeout device).2.history) :
    ((ScriptedDevice.rig.journaled.poll timeout device).1.delivered.map Completion.slot).Nodup ∧
      (∀ completion ∈ (ScriptedDevice.rig.journaled.poll timeout device).1.delivered,
        out completion.slot = true) ∧
      (ties answers).Answers armed out (ScriptedDevice.rig.journaled.poll timeout device)
        (session.poll ScriptedStack.calls.journaled later) := by
  have history := Rig.history_poll ScriptedDevice.rig device timeout
  obtain ⟨apart, flying, result, arrivals, taken⟩ := linked.handleEvents later faithful
  refine ⟨apart, flying, ?_⟩
  rw [poll_of_empty ScriptedStack.calls.journaled later linked.empty]
  rcases handling : session.handleEvents ScriptedStack.calls.journaled later with ⟨own, handled⟩
  rw [handling] at result arrivals taken
  rcases polled : ScriptedDevice.rig.journaled.poll timeout device with ⟨⟨delivered, answer⟩, after⟩
  rw [polled] at result arrivals taken history
  obtain rfl : own = answer := result
  obtain rfl : handled.arrivals = delivered := arrivals
  cases own with
  | ok _ => exact .together ⟨handled.arrivals, .ok ()⟩ after _ nofun taken
  | error error =>
      by_cases empty : handled.arrivals = []
      · rw [empty] at taken ⊢
        rw [takeArrivals_of_empty empty] at taken
        exact .together ⟨[], .error error⟩ after handled (fun _ _ _ => rfl) taken
      · refine .held handled.arrivals error after handled (fun serious => ?_) ⟨empty, rfl, taken⟩
        refine ⟨_, history ▸ List.mem_append_right _ (List.mem_singleton_self _), ?_⟩
        cases waiting : handled.arrivals with
        | nil => exact absurd waiting empty
        | cons first rest => exact decide_eq_true serious

/-- Two hosts part when the devices are closed. -/
theorem disconnect :
    (ties answers).Parted (ScriptedDevice.rig.journaled.disconnect device)
      (session.disconnect ScriptedStack.calls.journaled) := by
  have closed : RigEvent.hostCalls (ScriptedDevice.rig.journaled.disconnect device).history =
      RigEvent.hostCalls device.history := by
    rw [Rig.history_disconnect, RigEvent.hostCalls_concat]
    exact List.append_nil _
  exact (hostCalls_disconnect ScriptedStack.calls session).trans
    (linked.agree.same.trans closed.symm)

end Linked

/-- **A session and the device that it stands for are in tandem.** -/
theorem tandem (answers : List (Option (UsbResult Unit))) :
    (ties answers).Tandem ScriptedDevice.rig.journaled
      (Session.rig ScriptedStack.calls.journaled) where
  note linked := linked.note
  noteTwin linked := linked.noteTwin
  now linked := linked.now
  write linked outward := linked.write outward
  clearHalt linked := linked.clearHalt
  submit linked _ fits turn free := linked.submit fits turn free
  cancel linked _ heeded := linked.cancel heeded
  poll linked _ later fair := linked.poll later fair.1
  disconnect linked := linked.disconnect
  nowOfHolding holding := ⟨holding.1, holding.2.1, holding.2.2.nowTwin⟩
  pollOfHolding := by
    rintro armed out delivered device session ⟨some, rfl, linked⟩ timeout
    have hands := poll_of_waiting ScriptedStack.calls.journaled timeout some
    refine ⟨congrArg Prod.fst hands, ?_⟩
    change Linked answers armed out device
      (session.poll ScriptedStack.calls.journaled timeout).2
    rw [hands]
    exact linked
  fairBeforeNote fair := fair_of_isPrefix fair ⟨_, (Rig.history_note ..).symm⟩
  fairBeforeNow fair := fair
  fairBeforeCancel fair := fair_of_isPrefix fair ⟨_, (Rig.history_cancel ..).symm⟩
  spilledNote := by
    rintro device ⟨event, member, spills⟩ notice
    refine ⟨event, ?_, spills⟩
    rw [Rig.history_note]
    exact List.mem_append_left _ member
  spilledNow spilled := spilled

end Session

end UsbThroughput
