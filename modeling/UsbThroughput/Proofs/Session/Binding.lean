import UsbThroughput.Proofs.Session.Conversation

/-!
# Slots and their transfers

A slot is given a transfer when it is submitted for the first time, or later if there was no memory
for one, and keeps it (`Session.Binds`). The mark of the transfer tells whether the last submission
was taken and still is to be answered (`Session.Marks`), provided that the caller waits for the
completion of a slot before it submits the slot again. The main theorem is
`Session.transfers_bound`.
-/

namespace UsbThroughput

/-! ## Slots that are outstanding -/

namespace RigEvent

/-- A call that neither submits a slot nor hands over a completion of it. -/
def Spares (id : Nat) (event : RigEvent) : Prop :=
  event.submittedId? ≠ some id ∧ ∀ completion ∈ event.handedOver, completion.slot ≠ id

instance (id : Nat) (event : RigEvent) : Decidable (event.Spares id) :=
  inferInstanceAs (Decidable (_ ∧ _))

/-- The last submission of a slot was taken, and no completion of the slot was handed over since. -/
def Outstanding (history : List RigEvent) (id : Nat) : Prop :=
  ∃ before slot after, history = before ++ .submitted slot (.ok ()) :: after ∧ slot.id = id ∧
    ∀ event ∈ after, event.Spares id

variable {history : List RigEvent} {event : RigEvent} {id : Nat}

private theorem not_outstanding_nil : ¬Outstanding [] id := by
  rintro ⟨before, _, _, split, _⟩
  exact List.cons_ne_nil _ _ (List.append_eq_nil_iff.mp split.symm).2

/-- An event changes what is outstanding by the slot that it accepts or completes. -/
private theorem outstanding_concat :
    Outstanding (history ++ [event]) id ↔
      event.accepts id = true ∨ Outstanding history id ∧ event.Spares id := by
  constructor
  · rintro ⟨before, slot, after, split, rfl, spared⟩
    rcases List.eq_nil_or_concat after with rfl | ⟨rest, last, rfl⟩
    · obtain ⟨_, same⟩ := List.append_inj' split rfl
      cases same
      exact Or.inl (beq_self_eq_true _)
    · rw [List.concat_eq_append] at split spared
      rw [← List.cons_append, ← List.append_assoc] at split
      obtain ⟨rfl, same⟩ := List.append_inj' split rfl
      cases same
      obtain ⟨earlier, latest⟩ := List.forall_mem_append.mp spared
      exact Or.inr ⟨⟨before, slot, rest, rfl, rfl, earlier⟩, latest _ (List.mem_singleton_self _)⟩
  · rintro (taken | ⟨⟨before, slot, after, rfl, named, spared⟩, spares⟩)
    · cases event with
      | submitted slot result =>
          cases result with
          | ok _ => exact ⟨history, slot, [], rfl, eq_of_beq taken, List.forall_mem_nil _⟩
          | error _ => contradiction
      | _ => contradiction
    · refine ⟨before, slot, after ++ [event], ?_, named, ?_⟩
      · rw [List.append_assoc, List.cons_append]
      · exact List.forall_mem_append.mpr ⟨spared, List.forall_mem_singleton.mpr spares⟩

instance (history : List RigEvent) (id : Nat) : Decidable (Outstanding history id) :=
  decidable_of_iff
    (history.foldl (fun out event => event.accepts id || out && decide (event.Spares id)) false =
      true) <| by
    induction history using List.reverseRecOn with
    | nil => exact iff_of_false Bool.false_ne_true not_outstanding_nil
    | append_singleton history event ih =>
        rw [List.foldl_concat, outstanding_concat, ← ih, Bool.or_eq_true, Bool.and_eq_true,
          decide_eq_true_iff]

/-- A slot is submitted only if it is not outstanding: its last submission was refused, or its
completion was handed over. -/
def Considerate (before : List RigEvent) : RigEvent → Prop
  | submitted slot _ => ¬Outstanding before slot.id
  | _ => True

instance (before : List RigEvent) (event : RigEvent) : Decidable (Considerate before event) := by
  unfold Considerate
  split <;> infer_instance

end RigEvent

/-- Whether a call allocates, submits or frees a transfer. -/
def StackEvent.isUse : StackEvent → Bool
  | allocated _ _ | submitted _ _ | freed _ => true
  | _ => false

namespace Session

open RigEvent StackEvent

variable {β : Type} (stack : Stack β)

/-! ## Submissions -/

/-- **How a slot comes by a transfer.** It keeps the one it has. One is allocated if it has none,
and it goes without if there is no memory. -/
inductive Obtains (session : Session (Journal StackEvent β)) (id : Nat) :
    List StackEvent → Option Nat → Prop where
  | bound {number : Nat} (found : session.number? id = some number) :
      Obtains session id [] (some number)
  | allocated (absent : session.number? id = none) :
      Obtains session id [.allocated session.nextNumber true] (some session.nextNumber)
  | refused (absent : session.number? id = none) :
      Obtains session id [.allocated session.nextNumber false] none

/-- **What the transfer of a slot is submitted for**: the endpoint of the slot, its length and its
timeout, unless the length is too large to be asked for. -/
inductive Asks (slot : Slot) : Option Nat → List StackEvent → UsbResult Unit → Prop where
  | without : Asks slot none [] (.error .noMem)
  | tooLong {number : Nat} (long : Settings.maxLength < slot.length) :
      Asks slot (some number) [] (.error .invalidParam)
  | answered {number : Nat} (fits : slot.length ≤ Settings.maxLength) (code : Int) :
      Asks slot (some number)
        [.submitted
          { transfer := number
            endpoint := slot.endpoint
            length := slot.length
            timeout := min slot.timeout.milliseconds maxTimeout } code]
        (.ofCode code)

/-- What comes of the submission of a slot: the calls on the stack, the transfer of the slot and
the marks of all. -/
structure Submits (slot : Slot) (session last : Session (Journal StackEvent β))
    (answer : UsbResult Unit) : Prop where
  asked : ∃ number? first second, Obtains session slot.id first number? ∧
    Asks slot number? second answer ∧ last.number? slot.id = number? ∧
    last.stackState.history = session.stackState.history ++ (first ++ second)
  others : ∀ id, slot.id ≠ id → last.number? id = session.number? id
  marks : ∀ id, last.isInFlight id =
    ((RigEvent.submitted slot answer).accepts id || session.isInFlight id)

section

variable {slot : Slot} {transfer : Transfer} {session obtained : Session (Journal StackEvent β)}

/-- The transfer that a slot has got is submitted. -/
theorem submits_of_obtained (placed : slot.id < maxSlots)
    (same : session.obtainTransfer stack.journaled slot.id = (.ok transfer, obtained))
    (found : obtained.transfer? slot.id = some transfer) {first : List StackEvent}
    (obtains : Obtains session slot.id first (some transfer.number))
    (grown : obtained.stackState.history = session.stackState.history ++ first)
    (others : ∀ id, slot.id ≠ id → obtained.number? id = session.number? id)
    (marks : ∀ id, obtained.isInFlight id = session.isInFlight id) :
    Submits slot session (session.submit stack.journaled slot).2
      (session.submit stack.journaled slot).1 := by
  have bound := number?_of_transfer found
  have written := stack.history_submit obtained.stackState (request transfer slot)
  rw [grown, List.append_assoc] at written
  unfold submit
  rw [if_neg (Nat.not_le.mpr placed), same]
  dsimp only
  split
  next long =>
    refine ⟨⟨_, first, [], obtains, .tooLong long, bound, ?_⟩, others, marks⟩
    rw [grown, List.append_nil]
  next fits =>
    have asks := @Asks.answered slot transfer.number (Nat.not_lt.mp fits)
      (stack.journaled.submit (request transfer slot) obtained.stackState).1
    split
    next error refused =>
      rw [refused] at asks
      exact ⟨⟨_, first, _, obtains, asks, bound, written⟩, others, marks⟩
    next taken =>
      rw [taken] at asks
      have named : transfer.slot = slot.id := (mem_of_transfer found).2
      refine ⟨⟨_, first, _, obtains, asks, ?_, written⟩, fun id apart => ?_, fun id => ?_⟩
      · exact (number?_bindTransfer ..).trans (if_pos named)
      · exact (number?_bindTransfer ..).trans
          ((if_neg (named ▸ apart)).trans (others id apart))
      · refine (isInFlight_bindTransfer ..).trans ?_
        rw [← marks, named]
        by_cases here : slot.id = id
        · rw [if_pos here, RigEvent.accepts, beq_iff_eq.mpr here]
          rfl
        · rw [if_neg here, RigEvent.accepts, beq_false_of_ne here]
          rfl

/-- **A slot is submitted with its own transfer**, which is allocated only if the slot has none. -/
theorem submits (placed : slot.id < maxSlots) (session : Session (Journal StackEvent β)) :
    Submits slot session (session.submit stack.journaled slot).2
      (session.submit stack.journaled slot).1 := by
  have written := stack.history_allocate session.stackState session.nextNumber
  rcases obtainTransfer_cases stack.journaled slot.id session with
    ⟨transfer, found, same⟩ | ⟨absent, failed, same⟩ | ⟨absent, allocated, same⟩
  · exact submits_of_obtained stack placed same found (.bound (number?_of_transfer found))
      (List.append_nil _).symm (fun _ _ => rfl) fun _ => rfl
  · have none : session.number? slot.id = none := congrArg (Option.map Transfer.number) absent
    rw [failed] at written
    unfold submit
    rw [if_neg (Nat.not_le.mpr placed), same]
    exact ⟨⟨_, _, [], .refused none, .without, none, written⟩, fun _ _ => rfl, fun _ => rfl⟩
  · have none : session.number? slot.id = none := congrArg (Option.map Transfer.number) absent
    rw [allocated] at written
    refine submits_of_obtained stack placed same ?_ (.allocated none) written
      (fun id apart => (number?_bindTransfer ..).trans (if_neg apart)) fun id => ?_
    · exact (find?_insertTransfer _ session.transfers slot.id).trans (if_pos rfl)
    · refine (isInFlight_bindTransfer ..).trans ?_
      split
      next here =>
        subst here
        rw [isInFlight, absent]
        rfl
      · rfl

end

/-! ## Other calls -/

/-- A call that leaves every slot with its transfer, and asks nothing of the stack that makes use
of one. -/
structure Keeps (session last : Session (Journal StackEvent β)) : Prop where
  numbers : ∀ id, last.number? id = session.number? id
  grows : ∃ events, last.stackState.history = session.stackState.history ++ events ∧
    ∀ event ∈ events, event.isUse = false

section

variable {session last : Session (Journal StackEvent β)}

theorem Keeps.refl : session.Keeps session :=
  ⟨fun _ => rfl, [], (List.append_nil _).symm, List.forall_mem_nil _⟩

/-- One event that makes no use of a transfer. -/
theorem Keeps.of_event {event : StackEvent} (numbers : ∀ id, last.number? id = session.number? id)
    (grown : last.stackState.history = session.stackState.history ++ [event])
    (idle : event.isUse = false) : session.Keeps last :=
  ⟨numbers, [event], grown, List.forall_mem_singleton.mpr idle⟩

private theorem keeps_cancel (slot : Slot) (session : Session (Journal StackEvent β)) :
    session.Keeps (session.cancel stack.journaled slot).2 := by
  unfold cancel
  split
  · exact .refl
  next transfer _ =>
    split
    · exact .of_event (fun _ => rfl) (stack.history_cancel session.stackState transfer.number) rfl
    · exact .refl

private theorem keeps_write (endpoint : UInt8) (data : List UInt8) (timeout : Duration)
    (session : Session (Journal StackEvent β)) :
    session.Keeps (session.write stack.journaled endpoint data timeout).2 := by
  rw [session_write]
  split
  · exact .refl
  · exact .of_event (fun _ => rfl) (stack.history_write session.stackState endpoint data _) rfl

private theorem keeps_clearHalt (endpoint : UInt8) (session : Session (Journal StackEvent β)) :
    session.Keeps (session.clearHalt stack.journaled endpoint).2 :=
  .of_event (fun _ => rfl) (stack.history_clearHalt session.stackState endpoint) rfl

private theorem keeps_poll (timeout : Duration) (session : Session (Journal StackEvent β)) :
    session.Keeps (session.poll stack.journaled timeout).2 := by
  have found := transfer?_of_map (slot_unmark _) (transfers_poll stack.journaled timeout session).2
  have numbers (id : Nat) :
      (session.poll stack.journaled timeout).2.number? id = session.number? id := by
    rw [number?, found, Option.map_map, number?]
    exact congrFun (congrArg Option.map (funext (number_unmark _))) _
  by_cases empty : session.arrivals = []
  · exact .of_event numbers (history_poll_of_empty stack timeout empty) rfl
  · refine ⟨numbers, [], ?_, List.forall_mem_nil _⟩
    rw [poll_of_waiting stack.journaled timeout empty, List.append_nil]
    rfl

/-- A mark outlasts a wait if no completion of its slot is handed over. -/
theorem isInFlight_poll (timeout : Duration) (session : Session (Journal StackEvent β)) (id : Nat) :
    (session.poll stack.journaled timeout).2.isInFlight id = true ↔
      session.isInFlight id = true ∧
        ∀ completion ∈ (session.poll stack.journaled timeout).1.delivered,
          completion.slot ≠ id := by
  have found := transfer?_of_map (slot_unmark _)
    (transfers_poll stack.journaled timeout session).2 id
  rw [isInFlight, found, isInFlight]
  cases bound : session.transfer? id with
  | none => exact iff_of_false Bool.false_ne_true fun marked => Bool.false_ne_true marked.1
  | some transfer =>
      obtain rfl : transfer.slot = id := (mem_of_transfer bound).2
      change (unmark _ transfer).inFlight = true ↔ transfer.inFlight = true ∧ _
      unfold unmark
      split
      next handed =>
        obtain ⟨completion, member, same⟩ := List.any_eq_true.mp handed
        exact iff_of_false Bool.false_ne_true fun spared =>
          spared.2 completion member (eq_of_beq same)
      next none =>
        refine (and_iff_left fun completion member same => none ?_).symm
        exact List.any_eq_true.mpr ⟨completion, member, beq_iff_eq.mpr same⟩

end

/-! ## Cancellations -/

section

variable {slot : Slot} {session : Session (Journal StackEvent β)}

/-- A transfer with a mark is cancelled on the stack. -/
private theorem cancel_of_isInFlight (marked : session.isInFlight slot.id = true) :
    ∃ number code, session.number? slot.id = some number ∧
      (session.cancel stack.journaled slot).1 = .ofCode code ∧
      (session.cancel stack.journaled slot).2.stackState.history =
        session.stackState.history ++ [.cancelled number code] := by
  cases found : session.transfer? slot.id with
  | none =>
      rw [isInFlight, found] at marked
      contradiction
  | some transfer =>
      rw [isInFlight, found] at marked
      change transfer.inFlight = true at marked
      refine ⟨transfer.number, (stack.journaled.cancel transfer.number session.stackState).1,
        number?_of_transfer found, ?_⟩
      unfold cancel
      rw [found]
      dsimp only
      rw [if_pos marked]
      exact ⟨rfl, stack.history_cancel session.stackState transfer.number⟩

/-- A transfer without a mark is not asked for, and the caller is told so. -/
private theorem cancel_of_not_isInFlight (free : session.isInFlight slot.id = false) :
    session.cancel stack.journaled slot = (.error .notFound, session) := by
  unfold cancel
  cases found : session.transfer? slot.id with
  | none => rfl
  | some transfer =>
      rw [isInFlight, found] at free
      change transfer.inFlight = false at free
      dsimp only
      rw [if_neg (Bool.eq_false_iff.mp free)]

end

/-! ## Conversations -/

variable {journal later : Watched β}

/-- **How a call goes about transfers.** The submission of a slot concerns no transfer but that of
the slot. A slot past the last one that can have a transfer breaks the session, and any other call
leaves the transfers to their slots. -/
inductive Binds (before after : Watched β) : Operation → Prop where
  | placed {slot : Slot} {answer : UsbResult Unit} (placed : slot.id < maxSlots)
      (grown : after.history = before.history ++ [.submitted slot answer])
      (submits : Submits slot before.state after.state answer) : Binds before after (.submit slot)
  | unplaced {slot : Slot} (past : maxSlots ≤ slot.id)
      (grown : after.history = before.history ++ [.submitted slot (.error .noMem)])
      (broken : after.state = { before.state with broken := some .countOverflow }) :
      Binds before after (.submit slot)
  | other {operation : Operation} (apart : ∀ slot, operation ≠ .submit slot)
      (keeps : before.state.Keeps after.state) : Binds before after operation

/-- Each operation leaves every slot with its transfer. -/
private theorem binds_perform (operation : Operation) (journal : Watched β) :
    Binds journal (operation.perform stack.watched journal) operation := by
  cases operation with
  | submit slot =>
      have grown := (rig stack.journaled).history_submit journal slot
      by_cases placed : slot.id < maxSlots
      · exact .placed placed grown (submits stack placed journal.state)
      · have past := Nat.not_lt.mp placed
        have answered : (rig stack.journaled).submit slot journal.state =
            (.error .noMem, { journal.state with broken := some .countOverflow }) := if_pos past
        exact .unplaced past
          (grown.trans (congrArg (fun answer =>
            journal.history ++ [RigEvent.submitted slot answer.1]) answered))
          (congrArg Prod.snd answered)
  | cancel slot => exact .other nofun (keeps_cancel stack slot journal.state)
  | poll timeout => exact .other nofun (keeps_poll stack timeout journal.state)
  | write endpoint data timeout =>
      exact .other nofun (keeps_write stack endpoint data timeout journal.state)
  | clearHalt endpoint => exact .other nofun (keeps_clearHalt stack endpoint journal.state)

/-- A slot that has a transfer keeps it. -/
theorem Binds.kept {operation : Operation} (binds : Binds journal later operation) {id number : Nat}
    (bound : journal.state.number? id = some number) : later.state.number? id = some number := by
  cases binds with
  | @placed slot _ _ _ submits =>
      by_cases here : slot.id = id
      · subst here
        obtain ⟨_, _, _, obtains, _, now, _⟩ := submits.asked
        rw [now]
        cases obtains with
        | bound found => exact found.symm.trans bound
        | allocated absent => cases absent.symm.trans bound
        | refused absent => cases absent.symm.trans bound
      · exact (submits.others id here).trans bound
  | unplaced _ _ broken =>
      rw [broken]
      exact bound
  | other _ keeps => exact (keeps.numbers id).trans bound

/-- A slot keeps its transfer throughout a conversation. -/
private theorem number?_converse (operations : List Operation) {id number : Nat}
    (bound : journal.state.number? id = some number) :
    (converse stack.watched operations journal).state.number? id = some number := by
  induction operations using List.reverseRecOn with
  | nil => exact bound
  | append_singleton operations operation ih =>
      rw [converse_concat]
      exact (binds_perform stack operation _).kept ih

/-- The transfers of a session are those that were allocated, one for a slot, whatever is called. -/
theorem Bindings.converse
    (bindings : Bindings journal.state.stackState.history journal.state.transfers
      journal.state.nextNumber)
    (operations : List Operation) :
    Bindings (Session.converse stack.watched operations journal).state.stackState.history
      (Session.converse stack.watched operations journal).state.transfers
      (Session.converse stack.watched operations journal).state.nextNumber := by
  induction operations using List.reverseRecOn with
  | nil => exact bindings
  | append_singleton operations operation ih =>
      rw [converse_concat]
      cases operation with
      | submit slot => exact (supplies_submit stack slot ih).bindings
      | cancel slot => exact ih.of_untouched (untouched_cancel stack slot _)
      | poll timeout => exact ih.poll stack timeout
      | write endpoint data timeout =>
          exact ih.of_untouched (untouched_write stack endpoint data timeout _)
      | clearHalt endpoint => exact ih.of_untouched (untouched_clearHalt stack endpoint _)

/-- A slot has a transfer just if one of its number was allocated, and no other slot has that. -/
theorem Bindings.number_eq_some {session : Session (Journal StackEvent β)}
    (bindings : Bindings session.stackState.history session.transfers session.nextNumber)
    {id number : Nat} :
    session.number? id = some number ↔
      ∃ transfer ∈ session.transfers, transfer.slot = id ∧ transfer.number = number := by
  constructor
  · intro bound
    obtain ⟨transfer, found, same⟩ := Option.map_eq_some_iff.mp bound
    obtain ⟨member, named⟩ := mem_of_transfer found
    exact ⟨transfer, member, named, same⟩
  · rintro ⟨transfer, member, rfl, rfl⟩
    exact number?_of_transfer (bindings.inOrder.transfer_eq member)

/-- **The marks are right**: a transfer has one just if its slot is outstanding. -/
def Marks (journal : Watched β) : Prop :=
  ∀ id, journal.state.isInFlight id = true ↔ Outstanding journal.history id

/-- An event keeps the marks right if it sets and clears them as it says. -/
theorem Marks.then_event (marks : Marks journal) {event : RigEvent}
    (grown : later.history = journal.history ++ [event])
    (step : ∀ id, later.state.isInFlight id = true ↔
      event.accepts id = true ∨ journal.state.isInFlight id = true ∧ event.Spares id) :
    Marks later := by
  intro id
  rw [grown, outstanding_concat, step, marks id]

/-- A call that has nothing to do with transfers. -/
theorem Marks.of_untouched (marks : Marks journal)
    (untouched : journal.state.Untouched later.state) {event : RigEvent}
    (grown : later.history = journal.history ++ [event]) (refused : ∀ id, event.accepts id = false)
    (spares : ∀ id, event.Spares id) : Marks later := by
  refine marks.then_event grown fun id => ?_
  rw [isInFlight, transfer?, untouched.transfers, refused, and_iff_left (spares id)]
  exact (or_iff_right Bool.false_ne_true).symm

/-- A submission of a slot that is not outstanding keeps the marks right. -/
theorem Marks.submit (marks : Marks journal) {slot : Slot}
    (free : ¬Outstanding journal.history slot.id) {answer : UsbResult Unit}
    (grown : later.history = journal.history ++ [.submitted slot answer])
    (changed : ∀ id, later.state.isInFlight id =
      ((RigEvent.submitted slot answer).accepts id || journal.state.isInFlight id)) :
    Marks later := by
  refine marks.then_event grown fun id => ?_
  rw [changed, Bool.or_eq_true]
  refine or_congr_right (and_iff_left_of_imp fun marked => ⟨fun same => ?_, nofun⟩).symm
  cases same
  exact free ((marks slot.id).mp marked)

/-- Each operation of a considerate caller keeps the marks right. -/
theorem Marks.perform (marks : Marks journal) (operation : Operation)
    (considerate : Journal.Throughout Considerate
      (operation.perform stack.watched journal).history) :
    Marks (operation.perform stack.watched journal) := by
  cases operation with
  | submit slot =>
      have grown := (rig stack.journaled).history_submit journal slot
      rw [show (Operation.perform stack.watched (.submit slot) journal).history = _ from grown]
        at considerate
      have free := (Journal.throughout_concat.mp considerate).2
      cases binds_perform stack (.submit slot) journal with
      | placed _ same submits => exact marks.submit free same submits.marks
      | unplaced _ same broken =>
          refine marks.submit free same fun id => ?_
          rw [broken]
          rfl
      | other apart _ => exact (apart slot rfl).elim
  | cancel slot =>
      exact marks.of_untouched (untouched_cancel stack slot journal.state)
        ((rig stack.journaled).history_cancel journal slot) (fun _ => rfl) fun _ => ⟨nofun, nofun⟩
  | poll timeout =>
      refine marks.then_event ((rig stack.journaled).history_poll journal timeout) fun id => ?_
      refine (isInFlight_poll stack timeout journal.state id).trans ?_
      refine Iff.trans ?_ (or_iff_right Bool.false_ne_true).symm
      exact and_congr_right fun _ => (and_iff_right nofun).symm
  | write endpoint data timeout =>
      exact marks.of_untouched (untouched_write stack endpoint data timeout journal.state)
        ((rig stack.journaled).history_write journal endpoint data timeout) (fun _ => rfl)
        fun _ => ⟨nofun, nofun⟩
  | clearHalt endpoint =>
      exact marks.of_untouched (untouched_clearHalt stack endpoint journal.state)
        ((rig stack.journaled).history_clearHalt journal endpoint) (fun _ => rfl)
        fun _ => ⟨nofun, nofun⟩

/-- What was said earlier is the beginning of what is said later. -/
theorem history_isPrefix (operations later : List Operation) (journal : Watched β) :
    (converse stack.watched operations journal).history <+:
      (converse stack.watched (operations ++ later) journal).history := by
  induction later using List.reverseRecOn with
  | nil => rw [List.append_nil]
  | append_singleton later operation ih =>
      rw [← List.append_assoc, converse_concat]
      cases operation <;> exact ih.trans ⟨_, (Journal.history_record ..).symm⟩

/-- A conversation with a considerate caller keeps the marks right. -/
theorem Marks.converse (marks : Marks journal) (operations : List Operation)
    (considerate : Journal.Throughout Considerate
      (Session.converse stack.watched operations journal).history) :
    Marks (Session.converse stack.watched operations journal) := by
  induction operations using List.reverseRecOn with
  | nil => exact marks
  | append_singleton operations operation ih =>
      have before := ih (considerate.of_isPrefix (history_isPrefix stack operations [operation] _))
      rw [converse_concat] at considerate ⊢
      exact before.perform stack operation considerate

/-- **A slot is cancelled if it is outstanding.** Then its transfer is, by one call on the stack,
and the answer is that of the stack. Otherwise nothing is asked of the stack, and nothing
changes. -/
structure CancelsOutstanding (slot : Slot) (before after : Watched β) : Prop where
  asked : Outstanding before.history slot.id → ∃ number code,
    before.state.number? slot.id = some number ∧
    after.state.stackState.history = before.state.stackState.history ++ [.cancelled number code] ∧
    after.history = before.history ++ [.cancelled slot (.ofCode code)]
  spared : ¬Outstanding before.history slot.id →
    after.state = before.state ∧
    after.history = before.history ++ [.cancelled slot (.error .notFound)]

/-- **A cancellation reaches the stack** just for a slot that is outstanding. -/
theorem Marks.cancel (marks : Marks journal) (slot : Slot) :
    CancelsOutstanding slot journal (stack.watched.cancel slot journal).2 where
  asked out := by
    obtain ⟨number, code, bound, answered, asked⟩ :=
      cancel_of_isInFlight stack ((marks slot.id).mpr out)
    refine ⟨number, code, bound, asked, ?_⟩
    rw [(rig stack.journaled).history_cancel]
    exact congrArg (fun answer => journal.history ++ [RigEvent.cancelled slot answer]) answered
  spared settled := by
    have free := @cancel_of_not_isInFlight _ stack slot journal.state
      (Bool.eq_false_iff.mpr fun marked => settled ((marks slot.id).mp marked))
    refine ⟨congrArg Prod.snd free, ?_⟩
    rw [(rig stack.journaled).history_cancel]
    exact congrArg (fun answer => journal.history ++ [RigEvent.cancelled slot answer.1]) free

/-- **Each slot has a transfer of its own.** Whatever calls are made on a device that was just
opened, in any order, and whatever the stack answers: the transfers are those that were allocated,
each of them bound to one slot for good, and every call goes about them in the right way. If no slot
is submitted while it is outstanding, then just the outstanding slots are marked as in flight, and
just they are cancelled on the stack. -/
theorem transfers_bound (stack : Stack β) (state : β) (nextNumber : Nat) (interface : UInt8)
    (operations : List Operation) :
    let after := fun operations => converse stack.watched operations
      { state := { stackState := { state }, nextNumber, interface } }
    ((∀ number, Allocated (after operations).state.stackState.history number ↔
        ∃ id, (after operations).state.number? id = some number) ∧
      ∀ id other number, (after operations).state.number? id = some number →
        (after operations).state.number? other = some number → id = other) ∧
    (∀ earlier operation later, operations = earlier ++ operation :: later →
      Binds (after earlier) (after (earlier ++ [operation])) operation ∧
      ∀ id number, (after earlier).state.number? id = some number →
        (after operations).state.number? id = some number) ∧
    (Journal.Throughout Considerate (after operations).history →
      (∀ id, (after operations).state.isInFlight id = true ↔
        Outstanding (after operations).history id) ∧
      ∀ earlier slot later, operations = earlier ++ .cancel slot :: later →
        CancelsOutstanding slot (after earlier) (after (earlier ++ [.cancel slot]))) := by
  intro after
  have bindings := (Conserves.fresh state nextNumber interface).bindings.converse stack operations
  have fresh : Marks (β := β) { state := { stackState := { state }, nextNumber, interface } } :=
    fun _ => iff_of_false Bool.false_ne_true not_outstanding_nil
  refine ⟨⟨fun number => ?_, fun id other number bound same => ?_⟩, ?_, fun considerate =>
    ⟨fresh.converse stack operations considerate, ?_⟩⟩
  · constructor
    · intro present
      obtain ⟨transfer, member, same⟩ := (bindings.allocated number).mp present
      exact ⟨transfer.slot, bindings.number_eq_some.mpr ⟨transfer, member, rfl, same⟩⟩
    · rintro ⟨id, bound⟩
      obtain ⟨transfer, member, _, same⟩ := bindings.number_eq_some.mp bound
      exact (bindings.allocated number).mpr ⟨transfer, member, same⟩
  · obtain ⟨first, member, rfl, rfl⟩ := bindings.number_eq_some.mp bound
    obtain ⟨second, among, rfl, number⟩ := bindings.number_eq_some.mp same
    rw [bindings.distinct first member second among number.symm]
  · rintro earlier operation later rfl
    refine ⟨?_, fun id number bound => ?_⟩
    · unfold after
      rw [converse_concat]
      exact binds_perform stack operation _
    · unfold after
      rw [converse, List.foldl_append]
      exact number?_converse stack (operation :: later) bound
  · rintro earlier slot later rfl
    have before := fresh.converse stack earlier
      (considerate.of_isPrefix (history_isPrefix stack earlier _ _))
    unfold after
    rw [converse_concat]
    exact before.cancel stack slot

/-- A stack that has no memory for a transfer at first, and refuses the first submission. -/
def cramped : ScriptedStack where
  host := { script := { submit := [some (-1)] } }
  allocated := [some false]

/-- A slot is submitted until it is taken, and cancelled before and after. -/
def persist : List Operation :=
  [.submit (.inbound 5 1 8 (.ofSeconds 1)), .submit (.inbound 5 1 8 (.ofSeconds 1)),
    .cancel (.inbound 5 1 8 (.ofSeconds 1)), .submit (.inbound 5 1 8 (.ofSeconds 1)),
    .cancel (.inbound 5 1 8 (.ofSeconds 1))]

/-- The transfer is allocated at the second attempt, submitted twice, and cancelled once. -/
theorem transfers_bound_persisting :
    let after := fun operations => converse ScriptedStack.calls.watched operations
      { state := { stackState := { state := cramped } } }
    Journal.Throughout Considerate (after persist).history ∧
      (after persist).state.stackState.history =
        [.allocated 0 false, .allocated 0 true, .submitted ⟨0, 0x81, 8, 1000⟩ (-1),
          .submitted ⟨0, 0x81, 8, 1000⟩ 0, .cancelled 0 0] ∧
      Outstanding (after persist).history 5 ∧ (after persist).state.isInFlight 5 = true ∧
      CancelsOutstanding (.inbound 5 1 8 (.ofSeconds 1)) (after (persist.take 2))
        (after (persist.take 3)) ∧
      (after (persist.take 3)).state = (after (persist.take 2)).state := by
  intro after
  have considerate : Journal.Throughout Considerate (after persist).history := by decide +kernel
  obtain ⟨_, _, keeps⟩ := transfers_bound ScriptedStack.calls cramped 0 0 persist
  obtain ⟨marks, cancels⟩ := keeps considerate
  have out : Outstanding (after persist).history 5 := by decide +kernel
  have refused : ¬Outstanding (after (persist.take 2)).history 5 := by decide +kernel
  have first := cancels (persist.take 2) (.inbound 5 1 8 (.ofSeconds 1)) _ rfl
  exact ⟨considerate, by decide +kernel, out, (marks 5).mpr out, first, (first.spared refused).1⟩

end Session

end UsbThroughput
