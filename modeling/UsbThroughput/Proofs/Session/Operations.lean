import UsbThroughput.Proofs.Session.Ledger

/-!
# The ledger through the operations of a session

Each operation of a session keeps the ledger, once the call on the rig that it answers is written
down (`Session.Agrees`). A slot may be submitted only with nothing of it out, and the host below
must be faithful.
-/

namespace UsbThroughput.Session

open Completion

variable {β : Type}

/-- A session on a stack with a journal whose ledger agrees with some calls on a rig. -/
def Agrees (calls : List RigEvent) (session : Session (Journal StackEvent β)) : Prop :=
  Ledger calls session.stackState.history session.transfers session.arrivals session.nextNumber

variable {calls : List RigEvent} {session last : Session (Journal StackEvent β)}

/-! ## Writes -/

/-- What becomes of a write, in view of the answer of the stack. -/
def writeResult (answer : WriteAnswer) : UsbResult Nat :=
  match UsbResult.ofCode answer.code with
  | .ok () => .ok (writtenCount answer.transferred)
  | .error error =>
      if (error = .timeout ∨ error = .interrupted) ∧ 0 < answer.transferred then
        .ok (writtenCount answer.transferred)
      else .error error

section

variable (stack : Stack β) (endpoint : UInt8) (data : List UInt8) (timeout : Duration)
  (session : Session β)

/-- A write goes to the stack, unless its endpoint is one to read from. -/
theorem write_eq :
    session.write stack endpoint data timeout =
      if Direction.ofAddress endpoint = .inbound then (.error .invalidParam, session)
      else
        (writeResult (stack.write endpoint data (timeout.milliseconds % (maxTimeout + 1))
            session.stackState).1,
          { session with
            stackState := (stack.write endpoint data (timeout.milliseconds % (maxTimeout + 1))
              session.stackState).2 }) := by
  unfold write
  split
  · rfl
  · dsimp only
    split
    next succeeded => rw [writeResult, succeeded]
    next error failed =>
      rw [writeResult, failed]
      dsimp only
      split <;> rfl

/-- Whatever comes of a write, the session only keeps the state of its stack. -/
theorem session_write :
    (session.write stack endpoint data timeout).2 =
      if Direction.ofAddress endpoint = .inbound then session
      else { session with
        stackState := (stack.write endpoint data (timeout.milliseconds % (maxTimeout + 1))
          session.stackState).2 } := by
  rw [write_eq]
  split <;> rfl

end

/-! ## Operations that leave the transfers alone -/

/-- Nothing was asked of the stack about any transfer, and the session kept its own. -/
structure Untouched (session last : Session (Journal StackEvent β)) : Prop where
  grows : ∃ events, last.stackState.history = session.stackState.history ++ events ∧
    ∀ event ∈ events, event.isQuiet = true
  transfers : last.transfers = session.transfers
  arrivals : last.arrivals = session.arrivals
  nextNumber : last.nextNumber = session.nextNumber

theorem Untouched.refl : session.Untouched session :=
  ⟨⟨[], (List.append_nil _).symm, List.forall_mem_nil _⟩, rfl, rfl, rfl⟩

theorem Untouched.trans {middle : Session (Journal StackEvent β)}
    (first : session.Untouched middle) (second : middle.Untouched last) :
    session.Untouched last := by
  obtain ⟨earlier, grown, quiet⟩ := first.grows
  obtain ⟨later, same, still⟩ := second.grows
  refine ⟨⟨earlier ++ later, ?_, List.forall_mem_append.mpr ⟨quiet, still⟩⟩, ?_, ?_, ?_⟩
  · rw [same, grown, List.append_assoc]
  · exact second.transfers.trans first.transfers
  · exact second.arrivals.trans first.arrivals
  · exact second.nextNumber.trans first.nextNumber

/-- What was written down stays. -/
theorem Untouched.prefix_history (untouched : session.Untouched last) :
    session.stackState.history <+: last.stackState.history := by
  obtain ⟨events, grown, _⟩ := untouched.grows
  exact ⟨events, grown.symm⟩

/-- One event that is about no transfer. -/
theorem Untouched.of_event {stackState : Journal StackEvent β} {event : StackEvent}
    (history : stackState.history = session.stackState.history ++ [event])
    (quiet : event.isQuiet = true) : session.Untouched { session with stackState } :=
  ⟨⟨[event], history, List.forall_mem_singleton.mpr quiet⟩, rfl, rfl, rfl⟩

/-- Where nothing was asked about transfers, the histories still agree. -/
theorem Agrees.of_untouched (agrees : session.Agrees calls) (untouched : session.Untouched last) :
    last.Agrees calls := by
  obtain ⟨⟨events, grown, quiet⟩, transfers, arrivals, nextNumber⟩ := untouched
  unfold Agrees
  rw [grown, transfers, arrivals, nextNumber]
  exact Ledger.of_quiet agrees quiet

/-- A call on the rig that neither submits a slot nor hands over completions. -/
theorem Agrees.of_call (agrees : session.Agrees calls) {event : RigEvent}
    (refused : ∀ id, event.accepts id = false) (empty : event.handedOver = []) :
    session.Agrees (calls ++ [event]) :=
  Ledger.of_call agrees refused empty

/-- Quiet calls on the rig leave the histories in agreement. -/
theorem Agrees.of_quiet (agrees : session.Agrees calls) {events : List RigEvent}
    (quiet : ∀ event ∈ events, event.isQuiet = true) : session.Agrees (calls ++ events) := by
  induction events using List.reverseRecOn with
  | nil =>
      rw [List.append_nil]
      exact agrees
  | append_singleton events event ih =>
      obtain ⟨first, last⟩ := List.forall_mem_append.mp quiet
      have still := last event (List.mem_singleton_self event)
      rw [← List.append_assoc]
      apply (ih first).of_call
      · exact RigEvent.accepts_of_isQuiet still
      · exact RigEvent.handedOver_of_isQuiet still

variable (stack : Stack β)

/-- Writing a notice leaves the transfers alone. -/
theorem untouched_note (notice : Notice) (session : Session (Journal StackEvent β)) :
    session.Untouched (session.note stack.journaled notice) :=
  .of_event (stack.history_note session.stackState notice) rfl

/-- Reading the clock leaves the transfers alone. -/
theorem untouched_now (session : Session (Journal StackEvent β)) :
    session.Untouched
      { session with stackState := (stack.journaled.now session.stackState).2 } :=
  ⟨⟨[], (List.append_nil _).symm, List.forall_mem_nil _⟩, rfl, rfl, rfl⟩

/-- Clearing a halt leaves the transfers alone. -/
theorem untouched_clearHalt (endpoint : UInt8) (session : Session (Journal StackEvent β)) :
    session.Untouched (session.clearHalt stack.journaled endpoint).2 :=
  .of_event (stack.history_clearHalt session.stackState endpoint) rfl

/-- A cancellation keeps the transfers of a session. -/
theorem untouched_cancel (slot : Slot) (session : Session (Journal StackEvent β)) :
    session.Untouched (session.cancel stack.journaled slot).2 := by
  unfold cancel
  split
  · exact .refl
  next transfer _ =>
    split
    · exact .of_event (stack.history_cancel session.stackState transfer.number) rfl
    · exact .refl

/-- A write leaves the transfers alone. -/
theorem untouched_write (endpoint : UInt8) (data : List UInt8) (timeout : Duration)
    (session : Session (Journal StackEvent β)) :
    session.Untouched (session.write stack.journaled endpoint data timeout).2 := by
  rw [session_write]
  split
  · exact .refl
  · exact .of_event (stack.history_write session.stackState endpoint data _) rfl

/-- The three ways to a transfer: the slot has one, there is no memory for one, or one is
allocated. -/
theorem obtainTransfer_cases {σ : Type} (stack : Stack σ) (slot : Nat) (session : Session σ) :
    (∃ transfer, session.transfer? slot = some transfer ∧
      session.obtainTransfer stack slot = (.ok transfer, session)) ∨
    (session.transfer? slot = none ∧
      (stack.allocate session.nextNumber session.stackState).1 = false ∧
      session.obtainTransfer stack slot =
        (.error .noMem,
          { session with
            stackState := (stack.allocate session.nextNumber session.stackState).2 })) ∨
    (session.transfer? slot = none ∧
      (stack.allocate session.nextNumber session.stackState).1 = true ∧
      session.obtainTransfer stack slot =
        (.ok { slot, number := session.nextNumber, inFlight := false },
          { session with
            stackState := (stack.allocate session.nextNumber session.stackState).2
            nextNumber := session.nextNumber + 1
            transfers := insertTransfer
              { slot, number := session.nextNumber, inFlight := false } session.transfers })) := by
  unfold obtainTransfer
  cases found : session.transfer? slot with
  | some transfer => exact Or.inl ⟨transfer, rfl, rfl⟩
  | none =>
      rcases answer : stack.allocate session.nextNumber session.stackState with ⟨success, state⟩
      cases success with
      | false => exact Or.inr (Or.inl ⟨rfl, rfl, rfl⟩)
      | true => exact Or.inr (Or.inr ⟨rfl, rfl, rfl⟩)

/-- The transfer that a slot is given is bound to it, and nothing was submitted. -/
theorem Agrees.obtainTransfer (agrees : session.Agrees calls) {slot : Nat}
    (faithful : StackEvent.Faithful
      (session.obtainTransfer stack.journaled slot).2.stackState.history) :
    (session.obtainTransfer stack.journaled slot).2.Agrees calls ∧
      ∀ transfer, (session.obtainTransfer stack.journaled slot).1 = .ok transfer →
        transfer ∈ (session.obtainTransfer stack.journaled slot).2.transfers ∧
          transfer.slot = slot := by
  have written := stack.history_allocate session.stackState session.nextNumber
  have bindings := Ledger.bindings agrees
  rcases obtainTransfer_cases stack.journaled slot session with
    ⟨transfer, found, same⟩ | ⟨absent, failed, same⟩ | ⟨absent, allocated, same⟩
  · rw [same]
    refine ⟨agrees, ?_⟩
    rintro _ ⟨⟩
    exact mem_of_transfer found
  · rw [failed] at written
    rw [same]
    exact ⟨agrees.of_untouched (.of_event written rfl), nofun⟩
  · rw [allocated] at written
    rw [same] at faithful ⊢
    dsimp only at faithful
    rw [written] at faithful
    refine ⟨?_, ?_⟩
    · unfold Agrees
      dsimp only
      rw [written]
      exact Ledger.allocate agrees faithful (slot_ne_of_transfer absent)
    · rintro _ ⟨⟩
      exact ⟨(mem_insertTransfer bindings.inOrder).mpr (Or.inl rfl), rfl⟩

/-- The four ends of a submission: the slot has no place, it gets no transfer, it is too long, or
the stack answers. -/
theorem submit_cases {σ : Type} (stack : Stack σ) (slot : Slot) (session : Session σ) :
    (∃ fault, session.submit stack slot = (.error .noMem, { session with broken := fault })) ∨
    (∃ error, (session.obtainTransfer stack slot.id).1 = .error error ∧
      session.submit stack slot = (.error error, (session.obtainTransfer stack slot.id).2)) ∨
    ∃ transfer obtained, session.obtainTransfer stack slot.id = (.ok transfer, obtained) ∧
      (session.submit stack slot = (.error .invalidParam, obtained) ∨
      (∃ error, UsbResult.ofCode (stack.submit (request transfer slot) obtained.stackState).1 =
          .error error ∧
        session.submit stack slot =
          (.error error, { obtained with
            stackState := (stack.submit (request transfer slot) obtained.stackState).2 })) ∨
      (UsbResult.ofCode (stack.submit (request transfer slot) obtained.stackState).1 = .ok () ∧
        session.submit stack slot =
          (.ok (), { obtained with
            stackState := (stack.submit (request transfer slot) obtained.stackState).2
            transfers :=
              insertTransfer { transfer with inFlight := true } obtained.transfers }))) := by
  unfold submit
  split
  · exact Or.inl ⟨_, rfl⟩
  · rcases session.obtainTransfer stack slot.id with ⟨result, obtained⟩
    cases result with
    | error error => exact Or.inr (Or.inl ⟨error, rfl, rfl⟩)
    | ok transfer =>
        refine Or.inr (Or.inr ⟨transfer, obtained, rfl, ?_⟩)
        by_cases long : Settings.maxLength < slot.length
        · simp only [if_pos long]
          exact Or.inl trivial
        · simp only [if_neg long]
          cases result : UsbResult.ofCode
              (stack.submit (request transfer slot) obtained.stackState).1 with
          | error error => exact Or.inr (Or.inl ⟨error, rfl, rfl⟩)
          | ok _ => exact Or.inr (Or.inr ⟨rfl, rfl⟩)

private theorem history_prefix_obtainTransfer (slot : Nat)
    (session : Session (Journal StackEvent β)) :
    session.stackState.history <+:
      (session.obtainTransfer stack.journaled slot).2.stackState.history := by
  have written := stack.history_allocate session.stackState session.nextNumber
  rcases obtainTransfer_cases stack.journaled slot session with
    ⟨_, _, same⟩ | ⟨_, _, same⟩ | ⟨_, _, same⟩
  · rw [same]
  · rw [same]
    exact ⟨_, written.symm⟩
  · rw [same]
    exact ⟨_, written.symm⟩

/-- A submission keeps what was written down. -/
theorem history_prefix_submit (slot : Slot) (session : Session (Journal StackEvent β)) :
    session.stackState.history <+:
      (session.submit stack.journaled slot).2.stackState.history := by
  have first := history_prefix_obtainTransfer stack slot.id session
  rcases submit_cases stack.journaled slot session with
    ⟨_, same⟩ | ⟨_, _, same⟩ | ⟨transfer, obtained, found, ends⟩
  · rw [same]
  · rw [same]
    exact first
  · have written := stack.history_submit obtained.stackState (request transfer slot)
    rw [found] at first
    rcases ends with same | ⟨_, _, same⟩ | ⟨_, same⟩
    · rw [same]
      exact first
    · rw [same]
      exact first.trans ⟨_, written.symm⟩
    · rw [same]
      exact first.trans ⟨_, written.symm⟩

private theorem slot_obtainTransfer {slot : Nat} {transfer : Transfer}
    (obtained : (session.obtainTransfer stack.journaled slot).1 = .ok transfer) :
    transfer.slot = slot := by
  rcases obtainTransfer_cases stack.journaled slot session with
    ⟨other, found, same⟩ | ⟨_, _, same⟩ | ⟨_, _, same⟩
  · rw [same] at obtained
    cases obtained
    exact (mem_of_transfer found).2
  · rw [same] at obtained
    contradiction
  · rw [same] at obtained
    cases obtained
    rfl

/-- Only the slot that is submitted gets a transfer. -/
theorem slot_of_mem_obtainTransfer {slot : Nat} {transfer : Transfer}
    (member : transfer ∈ (session.obtainTransfer stack.journaled slot).2.transfers) :
    transfer.slot = slot ∨ transfer ∈ session.transfers := by
  rcases obtainTransfer_cases stack.journaled slot session with
    ⟨_, _, same⟩ | ⟨_, _, same⟩ | ⟨_, _, same⟩
  · rw [same] at member
    exact Or.inr member
  · rw [same] at member
    exact Or.inr member
  · rw [same] at member
    exact (mem_of_mem_insertTransfer member).imp_left (congrArg Transfer.slot)

/-- A submission adds no transfer but one for its slot. -/
theorem slot_of_mem_submit {slot : Slot} {transfer : Transfer}
    (member : transfer ∈ (session.submit stack.journaled slot).2.transfers) :
    transfer.slot = slot.id ∨ transfer ∈ session.transfers := by
  have first := @slot_of_mem_obtainTransfer β session stack slot.id transfer
  rcases submit_cases stack.journaled slot session with
    ⟨_, same⟩ | ⟨_, _, same⟩ | ⟨bound, obtained, found, ends⟩
  · rw [same] at member
    exact Or.inr member
  · rw [same] at member
    exact first member
  · have named : bound.slot = slot.id := slot_obtainTransfer stack (congrArg Prod.fst found)
    rw [found] at first
    rcases ends with same | ⟨_, _, same⟩ | ⟨_, same⟩
    · rw [same] at member
      exact first member
    · rw [same] at member
      exact first member
    · rw [same] at member
      rcases mem_of_mem_insertTransfer member with rfl | among
      · exact Or.inl named
      · exact first among

/-- A slot with nothing out is submitted. -/
theorem Agrees.submit (agrees : session.Agrees calls) {slot : Slot}
    (faithful : StackEvent.Faithful (session.submit stack.journaled slot).2.stackState.history)
    (out : RigEvent.accepted calls slot.id = countFor (RigEvent.delivered calls) slot.id) :
    (session.submit stack.journaled slot).2.Agrees
      (calls ++ [.submitted slot (session.submit stack.journaled slot).1]) := by
  rcases submit_cases stack.journaled slot session with
    ⟨fault, same⟩ | ⟨error, _, same⟩ | ⟨transfer, obtained, found, ends⟩
  · rw [same]
    exact agrees.of_call (fun _ => rfl) rfl
  · rw [same] at faithful ⊢
    exact (agrees.obtainTransfer stack faithful).1.of_call (fun _ => rfl) rfl
  · have written := stack.history_submit obtained.stackState (request transfer slot)
    have still : StackEvent.Faithful obtained.stackState.history := by
      rcases ends with same | ⟨_, _, same⟩ | ⟨_, same⟩
      · rw [same] at faithful
        exact faithful
      · rw [same] at faithful
        exact faithful.of_isPrefix ⟨_, written.symm⟩
      · rw [same] at faithful
        exact faithful.of_isPrefix ⟨_, written.symm⟩
    have first := @agrees.obtainTransfer _ _ _ stack slot.id
    rw [found] at first
    obtain ⟨kept, bound⟩ := first still
    obtain ⟨member, named⟩ := bound transfer rfl
    rw [← named] at out
    rcases ends with same | ⟨error, refused, same⟩ | ⟨accepted, same⟩
    · rw [same]
      exact kept.of_call (fun _ => rfl) rfl
    · have idle := Ledger.nothing_out kept still member out
      have after := Ledger.refuse kept (request transfer slot) refused idle
      rw [← written] at after
      rw [same]
      exact Ledger.of_call after (fun _ => rfl) rfl
    · have after :=
        Ledger.accept kept still member named.symm (request transfer slot) rfl accepted out
      rw [← written, ← insertTransfer_mark (Ledger.bindings kept).inOrder member] at after
      rw [same]
      exact after

/-! ## Event calls -/

/-- The callbacks of a transfer put in as many completions of its slot. -/
theorem countFor_completions {session : Session (Journal StackEvent β)}
    (agrees : session.Agrees calls) {transfer : Transfer} (member : transfer ∈ session.transfers)
    (callbacks : List Callback) :
    countFor (callbacks.filterMap session.completionOf?) transfer.slot =
      callbacks.countP fun callback => callback.transfer == transfer.number := by
  induction callbacks with
  | nil => rfl
  | cons callback rest ih =>
      rw [List.countP_cons]
      rcases completionOf_cases session callback with
        ⟨none, apart⟩ | ⟨other, there, named, completion, some, slot⟩
      · have different : ¬(callback.transfer == transfer.number) = true := by
          intro same
          exact apart transfer member (eq_of_beq same).symm
        rw [List.filterMap_cons_none none, ih, if_neg different]
        rfl
      · have same := (Ledger.bindings agrees).number_eq_iff there member
        rw [List.filterMap_cons_some some, countFor_cons, ih, slot, ← named]
        simp only [same, beq_iff_eq]

/-- Callbacks put in no completions of slots without a transfer. -/
theorem countFor_completions_of_unbound {σ : Type} {session : Session σ} {slot : Nat}
    (absent : ∀ transfer ∈ session.transfers, transfer.slot ≠ slot) (callbacks : List Callback) :
    countFor (callbacks.filterMap session.completionOf?) slot = 0 := by
  apply List.countP_eq_zero.mpr
  intro completion member same
  obtain ⟨callback, _, found⟩ := List.mem_filterMap.mp member
  rcases completionOf_cases session callback with
    ⟨none, _⟩ | ⟨transfer, there, _, other, some, named⟩
  · rw [none] at found
    contradiction
  · rw [some] at found
    cases found
    exact absent transfer there (named.symm.trans (eq_of_beq same))

/-- An event call leaves the histories in agreement. -/
theorem Agrees.handleEvents (agrees : session.Agrees calls) (timeout : Duration) :
    (session.handleEvents stack.journaled timeout).2.Agrees calls := by
  unfold Agrees Session.handleEvents
  dsimp only
  rw [stack.history_handleEvents]
  apply Ledger.handle agrees
  · intro transfer member
    exact countFor_completions agrees member _
  · intro slot absent
    exact countFor_completions_of_unbound absent _

/-- While completions wait, they are handed over without a call on the stack. -/
theorem poll_of_waiting {σ : Type} (stack : Stack σ) (timeout : Duration) {session : Session σ}
    (waiting : session.arrivals ≠ []) :
    session.poll stack timeout = (⟨session.arrivals, .ok ()⟩, session.takeArrivals.2) := by
  unfold poll
  rw [if_neg (mt List.isEmpty_iff.mp waiting)]
  rfl

/-- With nothing waiting there is an event call. -/
theorem poll_of_empty {σ : Type} (stack : Stack σ) (timeout : Duration) {session : Session σ}
    (empty : session.arrivals = []) :
    session.poll stack timeout =
      match session.handleEvents stack timeout with
      | (.error error, handled) => (⟨[], .error error⟩, handled)
      | (.ok (), handled) => (⟨handled.arrivals, .ok ()⟩, handled.takeArrivals.2) := by
  unfold poll
  rw [if_pos (List.isEmpty_iff.mpr empty)]
  rcases session.handleEvents stack timeout with ⟨result, handled⟩
  cases result <;> rfl

/-- The two ends of a wait with nothing waiting: the event call fails, or what its callbacks put in
is handed over. -/
theorem poll_cases_of_empty {σ : Type} (stack : Stack σ) (timeout : Duration)
    {session : Session σ} (empty : session.arrivals = []) :
    (∃ error, session.poll stack timeout =
      (⟨[], .error error⟩, (session.handleEvents stack timeout).2)) ∨
    session.poll stack timeout =
      (⟨(session.handleEvents stack timeout).2.arrivals, .ok ()⟩,
        (session.handleEvents stack timeout).2.takeArrivals.2) := by
  rw [poll_of_empty stack timeout empty]
  rcases session.handleEvents stack timeout with ⟨result, handled⟩
  cases result with
  | error error => exact Or.inl ⟨error, rfl⟩
  | ok _ => exact Or.inr rfl

/-- The three ends of a wait for completions: some wait already, or the event call fails, or what
its callbacks put in is handed over. -/
theorem poll_cases {σ : Type} (stack : Stack σ) (timeout : Duration) (session : Session σ) :
    (session.poll stack timeout = (⟨session.arrivals, .ok ()⟩, session.takeArrivals.2)) ∨
    (∃ error, session.poll stack timeout =
      (⟨[], .error error⟩, (session.handleEvents stack timeout).2)) ∨
    (session.poll stack timeout =
      (⟨(session.handleEvents stack timeout).2.arrivals, .ok ()⟩,
        (session.handleEvents stack timeout).2.takeArrivals.2)) := by
  by_cases empty : session.arrivals = []
  · exact Or.inr (poll_cases_of_empty stack timeout empty)
  · exact Or.inl (poll_of_waiting stack timeout empty)

/-- Waiting for completions keeps what was written down. -/
theorem history_prefix_poll (timeout : Duration) (session : Session (Journal StackEvent β)) :
    session.stackState.history <+:
      (session.poll stack.journaled timeout).2.stackState.history := by
  have handled : session.stackState.history <+:
      (session.handleEvents stack.journaled timeout).2.stackState.history :=
    ⟨_, (stack.history_handleEvents session.stackState _).symm⟩
  rcases poll_cases stack.journaled timeout session with same | ⟨_, same⟩ | same
  · rw [same]
    exact List.prefix_refl _
  · rw [same]
    exact handled
  · rw [same]
    exact handled

/-- Waiting for completions leaves the transfers to their slots. -/
theorem slot_of_mem_poll {timeout : Duration} {transfer : Transfer}
    (member : transfer ∈ (session.poll stack.journaled timeout).2.transfers) :
    ∃ other ∈ session.transfers, other.slot = transfer.slot := by
  rcases poll_cases stack.journaled timeout session with same | ⟨_, same⟩ | same
  · rw [same] at member
    obtain ⟨other, among, rfl⟩ := List.mem_map.mp member
    exact ⟨other, among, (slot_unmark session.arrivals other).symm⟩
  · rw [same] at member
    exact ⟨transfer, member, rfl⟩
  · rw [same] at member
    obtain ⟨other, among, rfl⟩ := List.mem_map.mp member
    exact ⟨other, among, (slot_unmark _ other).symm⟩

/-- The completions that wait are handed over. -/
theorem Agrees.takeArrivals (agrees : session.Agrees calls)
    (faithful : StackEvent.Faithful session.stackState.history) (timeout : Duration) :
    session.takeArrivals.2.Agrees (calls ++ [.polled timeout ⟨session.arrivals, .ok ()⟩]) :=
  Ledger.handOver agrees faithful timeout

/-- Waiting for completions leaves the histories in agreement, on a faithful stack. -/
theorem Agrees.poll (agrees : session.Agrees calls) (timeout : Duration)
    (faithful : StackEvent.Faithful
      (session.poll stack.journaled timeout).2.stackState.history) :
    (session.poll stack.journaled timeout).2.Agrees
      (calls ++ [.polled timeout (session.poll stack.journaled timeout).1]) := by
  rcases poll_cases stack.journaled timeout session with same | ⟨error, same⟩ | same
  · rw [same] at faithful ⊢
    exact agrees.takeArrivals faithful timeout
  · rw [same] at faithful ⊢
    exact (agrees.handleEvents stack timeout).of_call (fun _ => rfl) rfl
  · rw [same] at faithful ⊢
    exact (agrees.handleEvents stack timeout).takeArrivals faithful timeout

end UsbThroughput.Session
