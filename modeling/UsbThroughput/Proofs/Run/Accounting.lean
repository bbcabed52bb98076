import UsbThroughput.Proofs.Run.Frame

/-!
# Accounting for transfers in flight

On a faithful device, the submissions of a slot that were taken exceed the completions applied to
it by one while the slot is in flight, and by none otherwise (`Run.Accounts`). Each elementary
change keeps the accounts balanced, so they are balanced at every moment up to the step that
abandons slots. It follows that a slot is submitted, and a halt cleared, only when nothing is out
(`RigEvent.NothingOut`).
-/

namespace UsbThroughput

open RigEvent Completion

/-- Whether a slot is the one with the given number, and in flight. -/
def Slot.flies (id : Nat) (slot : Slot) : Bool := slot.isSubmitted && slot.id == id

namespace Queue

/-- How many slots with a number are in flight. -/
def flying (queue : Queue) (id : Nat) : Nat := queue.slots.countP (Slot.flies id)

private theorem flying_eq_zero {queue : Queue} (empty : queue.inFlight = 0) (id : Nat) :
    queue.flying id = 0 := by
  apply List.countP_eq_zero.mpr
  intro slot member flies
  exact List.countP_eq_zero.mp empty slot member (Bool.and_eq_true_iff.mp flies).1

/-- Slots of a kind are counted slot by slot. -/
theorem countP_replace (kind : Slot → Bool) {queue : Queue} {place : Nat} {slot : Slot}
    (held : queue.slot? place = some slot) (next : Slot) :
    (queue.replace place next).slots.countP kind + (if kind slot then 1 else 0) =
      queue.slots.countP kind + if kind next then 1 else 0 := by
  obtain ⟨inside, rfl⟩ := List.getElem?_eq_some_iff.mp held
  have among := List.boole_getElem_le_countP (p := kind) inside
  have counted := List.countP_set (p := kind) (a := next) inside
  change (queue.slots.set place next).countP kind + _ = _
  omega

private theorem flying_replace {queue : Queue} {place : Nat} {slot : Slot}
    (held : queue.slot? place = some slot) (next : Slot) (id : Nat) :
    (queue.replace place next).flying id + (if slot.flies id then 1 else 0) =
      queue.flying id + if next.flies id then 1 else 0 :=
  countP_replace (Slot.flies id) held next

/-- Replacing a slot changes what is in flight by these two. -/
theorem inFlight_replace {queue : Queue} {place : Nat} {slot : Slot}
    (held : queue.slot? place = some slot) (next : Slot) :
    (queue.replace place next).inFlight + (if slot.isSubmitted then 1 else 0) =
      queue.inFlight + if next.isSubmitted then 1 else 0 :=
  countP_replace Slot.isSubmitted held next

/-- A slot that is exchanged for one that is in flight just when it is. -/
theorem flying_replace_same {queue : Queue} {place : Nat} {slot next : Slot}
    (held : queue.slot? place = some slot) (named : next.id = slot.id)
    (same : next.isSubmitted = slot.isSubmitted) (id : Nat) :
    (queue.replace place next).flying id = queue.flying id := by
  have exchanged := flying_replace held next id
  have flies : next.flies id = slot.flies id := by rw [Slot.flies, Slot.flies, named, same]
  rw [flies] at exchanged
  exact Nat.add_right_cancel exchanged

/-- A slot is in flight alone under its number. -/
theorem flying_of_slot {queue : Queue} (numbered : queue.Numbered) {id : Nat} {slot : Slot}
    (held : queue.slot? id = some slot) :
    queue.flying id = if slot.isSubmitted then 1 else 0 := by
  have exchanged := flying_replace held slot.setAside id
  have inside : id < queue.slots.length := (List.getElem?_eq_some_iff.mp held).1
  have others : (queue.replace id slot.setAside).flying id = 0 := by
    apply List.countP_eq_zero.mpr
    intro other member flies
    obtain ⟨submitted, named⟩ := Bool.and_eq_true_iff.mp flies
    obtain ⟨place, found⟩ := List.mem_iff_getElem?.mp member
    by_cases same : place = id
    · subst same
      rw [replace, List.getElem?_set_self inside] at found
      cases found
      contradiction
    · rw [replace, List.getElem?_set_ne (Ne.symm same)] at found
      exact same ((numbered place other found).symm.trans (beq_iff_eq.mp named))
  have flies : slot.flies id = slot.isSubmitted := by
    rw [Slot.flies, numbered id slot held, beq_self_eq_true, Bool.and_true]
  rw [others, flies] at exchanged
  rw [Nat.zero_add] at exchanged
  exact exchanged.symm

/-- No slot of a new queue is in flight. -/
theorem flying_ofSettings (settings : Settings) (direction : Direction) (id : Nat) :
    (ofSettings settings direction).flying id = 0 := by
  apply List.countP_eq_zero.mpr
  intro slot member
  rw [← make_of_mem member]
  exact Bool.false_ne_true

end Queue

namespace RigEvent

/-- A slot is submitted only when nothing of it is out, and a halt is cleared only when nothing
is out at all. -/
def NothingOut (before : List RigEvent) : RigEvent → Prop
  | submitted slot _ => accepted before slot.id = countFor (delivered before) slot.id
  | haltCleared _ _ => ∀ id, accepted before id = countFor (delivered before) id
  | _ => True

/-- A quiet event takes nothing out. -/
theorem nothingOut_of_isQuiet {event : RigEvent} (quiet : event.isQuiet = true)
    (before : List RigEvent) : NothingOut before event := by
  cases event <;> first | contradiction | trivial

end RigEvent

namespace Run

variable {σ : Type} {rig : Rig σ} {scope : Scope} {run last : Run (Journal RigEvent σ)}
  {taken next : List Completion}

/-- **Balanced accounts**, with the completions taken up so far: all that was handed over was
taken up or waits, and the submissions of a slot that were taken are those whose completion was
taken up and the one in flight. -/
structure Accounts (taken : List Completion) (run : Run (Journal RigEvent σ)) : Prop where
  numbered : run.queue.Numbered
  handed : run.Handed taken
  balanced : ∀ id,
    accepted run.rigState.history id = countFor taken id + run.queue.flying id
  orderly : Journal.Throughout NothingOut run.rigState.history

/-- Nothing is out under a number under which nothing is in flight. -/
theorem Accounts.nothing_out (accounts : Accounts taken run)
    (faithful : Faithful run.rigState.history) {id : Nat} (grounded : run.queue.flying id = 0) :
    accepted run.rigState.history id = countFor (delivered run.rigState.history) id := by
  have most := faithful.le id
  have balanced := accounts.balanced id
  rw [accounts.handed, countFor_append] at most ⊢
  omega

/-- The accounts are kept through an event if what it hands over is added to what waits, and a
slot that it takes is put in flight. -/
theorem Accounts.of_event (accounts : Accounts taken run) {event : RigEvent}
    (history : last.rigState.history = run.rigState.history ++ [event])
    (numbered : last.queue.Numbered) (arrivals : last.arrivals = run.arrivals ++ event.handedOver)
    (flying : ∀ id, last.queue.flying id = run.queue.flying id + if event.accepts id then 1 else 0)
    (orderly : NothingOut run.rigState.history event) : Accounts taken last where
  numbered := numbered
  handed := accounts.handed.of_event history arrivals
  balanced id := by
    rw [history, accepted_append, accepted_singleton, flying, accounts.balanced, Nat.add_assoc]
  orderly := by
    rw [history, Journal.throughout_concat]
    exact ⟨accounts.orderly, orderly⟩

/-- A quiet event leaves the accounts balanced. -/
theorem Accounts.of_quiet (accounts : Accounts taken run) {event : RigEvent}
    (quiet : event.isQuiet = true)
    (history : last.rigState.history = run.rigState.history ++ [event])
    (numbered : last.queue.Numbered) (arrivals : last.arrivals = run.arrivals)
    (flying : ∀ id, last.queue.flying id = run.queue.flying id) : Accounts taken last := by
  refine accounts.of_event history numbered ?_ (fun id => ?_) (nothingOut_of_isQuiet quiet _)
  · rw [handedOver_of_isQuiet quiet, List.append_nil, arrivals]
  · rw [accepts_of_isQuiet quiet, flying, if_neg Bool.false_ne_true, Nat.add_zero]

/-- A completion of a faithful device finds its slot in flight. -/
theorem Accounts.submitted_of_waiting (accounts : Accounts taken run)
    (faithful : Faithful run.rigState.history) {completion : Completion}
    {rest : List Completion} (waiting : run.arrivals = completion :: rest) :
    ∃ slot, run.queue.slot? completion.slot = some slot ∧ slot.isSubmitted = true := by
  have most := faithful.le completion.slot
  have balanced := accounts.balanced completion.slot
  rw [accounts.handed, waiting, countFor_append, countFor_cons, if_pos rfl] at most
  have flying : 0 < run.queue.flying completion.slot := by omega
  obtain ⟨slot, member, flies⟩ := List.countP_pos_iff.mp flying
  obtain ⟨submitted, named⟩ := Bool.and_eq_true_iff.mp flies
  obtain ⟨place, found⟩ := List.mem_iff_getElem?.mp member
  have there : place = completion.slot :=
    (accounts.numbered place slot found).symm.trans (beq_iff_eq.mp named)
  exact ⟨slot, there ▸ found, submitted⟩

/-- A slot that is out of flight, and exchanged for another, is not counted any more than it. -/
theorem flying_putSlot {id : Nat} {slot other : Slot} (held : run.queue.slot? id = some slot)
    (free : slot.isSubmitted = false) (number : Nat) :
    (run.putSlot id other).queue.flying number =
      run.queue.flying number + if other.flies number then 1 else 0 := by
  have exchanged := Queue.flying_replace held other number
  rw [Slot.flies.eq_1 number slot, free, Bool.false_and, if_neg Bool.false_ne_true] at exchanged
  exact exchanged

/-- A submission leaves the accounts balanced: one is accepted and one more slot in flight, or
neither. -/
theorem Accounts.submit (accounts : Accounts taken run)
    (faithful : Faithful run.rigState.history) {id : Nat} {slot : Slot}
    (held : run.queue.slot? id = some slot) (free : slot.isSubmitted = false) :
    Accounts taken
      ({ run with rigState := (slot.submit rig.journaled run.rigState).2 }.putSlot id
        (slot.submit rig.journaled run.rigState).1.2) := by
  have numbered : (run.queue.replace id (slot.submit rig.journaled run.rigState).1.2).Numbered :=
    accounts.numbered.of_makes (makes_putSlot held (Slot.make_submit ..))
  have grounded : run.queue.flying id = 0 := by
    rw [Queue.flying_of_slot accounts.numbered held, free, if_neg Bool.false_ne_true]
  have out : NothingOut run.rigState.history
      (.submitted slot.reset (rig.journaled.submit slot.reset run.rigState).1) := by
    have nothing := accounts.nothing_out faithful grounded
    rw [← accounts.numbered id slot held] at nothing
    exact nothing
  have written := rig.history_submit run.rigState slot.reset
  rcases slot.submit_cases rig.journaled run.rigState with
    ⟨flight, _⟩ | ⟨_, taken, same⟩ | ⟨_, cause, refused, same⟩
  · rw [free] at flight
    contradiction
  · rw [taken] at written out
    rw [same] at numbered ⊢
    exact accounts.of_event written numbered (List.append_nil _).symm
      (fun number => flying_putSlot held free number) out
  · rw [refused] at written out
    rw [same] at numbered ⊢
    exact accounts.of_event written numbered (List.append_nil _).symm
      (fun number => flying_putSlot held free number) out

/-- A completion applied to the slot in flight that it belongs to keeps the accounts. -/
theorem Accounts.take (accounts : Accounts taken run) {completion : Completion}
    {rest : List Completion} {slot : Slot} (held : run.queue.slot? completion.slot = some slot)
    (flying : slot.isSubmitted = true) (waiting : run.arrivals = completion :: rest)
    (numbered : ({ run with arrivals := rest }.receive completion).queue.Numbered) :
    Accounts (taken ++ [completion]) ({ run with arrivals := rest }.receive completion) := by
  have applied : { run with arrivals := rest }.receive completion =
      { run with arrivals := rest }.putSlot completion.slot
        (slot.complete completion.status completion.length) := by
    simp only [receive, held]
  rw [applied] at numbered ⊢
  refine ⟨numbered, ?_, fun id => ?_, accounts.orderly⟩
  · change delivered run.rigState.history = taken ++ [completion] ++ rest
    rw [List.append_assoc, List.singleton_append, ← waiting]
    exact accounts.handed
  · have exchanged := Queue.flying_replace held
      (slot.complete completion.status completion.length) id
    have named := accounts.numbered _ slot held
    have balanced := accounts.balanced id
    rw [Slot.flies, Slot.flies, Slot.isSubmitted_complete, flying, named] at exchanged
    simp only [Bool.true_and, Bool.false_and, beq_iff_eq, Bool.false_eq_true, ↓reduceIte,
      Nat.add_zero] at exchanged
    change accepted run.rigState.history id = countFor (taken ++ [completion]) id +
      (run.queue.replace completion.slot (slot.complete completion.status completion.length)).flying
        id
    rw [countFor_append, countFor_cons, countFor_nil]
    omega

/-- An elementary change keeps the accounts. -/
theorem Move.accounts (move : Move rig.journaled scope run next last)
    (faithful : Faithful run.rigState.history) (accounts : Accounts taken run) :
    Accounts (taken ++ next) last := by
  have numbered : last.queue.Numbered := accounts.numbered.of_makes move.makes_eq
  cases move with
  | note notice =>
      rw [List.append_nil]
      exact accounts.of_quiet rfl (rig.history_note run.rigState notice) numbered rfl
        fun _ => rfl
  | now =>
      rw [List.append_nil]
      exact ⟨numbered, accounts.handed, accounts.balanced, accounts.orderly⟩
  | write endpoint data timeout =>
      rw [List.append_nil]
      exact accounts.of_quiet rfl (rig.history_write run.rigState endpoint data timeout) numbered
        rfl fun _ => rfl
  | clearHalt endpoint empty =>
      rw [List.append_nil]
      exact accounts.of_event (rig.history_clearHalt run.rigState endpoint) numbered
        (List.append_nil _).symm (fun _ => rfl)
        fun id => accounts.nothing_out faithful (Queue.flying_eq_zero empty id)
  | poll timeout =>
      rw [List.append_nil]
      exact accounts.of_event (rig.history_poll run.rigState timeout) numbered rfl (fun _ => rfl)
        trivial
  | take completion rest waiting =>
      obtain ⟨slot, held, flying⟩ := accounts.submitted_of_waiting faithful waiting
      exact accounts.take held flying waiting numbered
  | submit id slot held free =>
      rw [List.append_nil]
      exact accounts.submit faithful held free
  | cancel id slot held flying unasked =>
      rw [List.append_nil]
      exact accounts.of_quiet rfl (rig.history_cancel run.rigState slot.requestCancel) numbered
        rfl fun number =>
          Queue.flying_replace_same held (Slot.id_requestCancel slot)
            (Slot.isSubmitted_requestCancel slot) number
  | setAside id slot held free =>
      rw [List.append_nil]
      refine ⟨numbered, accounts.handed, fun number => ?_, accounts.orderly⟩
      rw [flying_putSlot held free]
      exact accounts.balanced number
  | tend =>
      rw [List.append_nil]
      exact ⟨numbered, accounts.handed, accounts.balanced, accounts.orderly⟩

/-- **The accounts are kept by every sequence of elementary changes.** -/
theorem Path.accounts {earlier : List Completion} (path : Path rig.journaled scope run next last)
    (faithful : Faithful last.rigState.history) (accounts : Accounts earlier run) :
    Accounts (earlier ++ next) last := by
  induction path with
  | refl =>
      rw [List.append_nil]
      exact accounts
  | step path move ih =>
      have before := faithful.of_isPrefix move.prefix_history
      rw [← List.append_assoc]
      exact move.accounts before (ih before)

/-- The accounts are balanced wherever a run comes to. -/
theorem Reaches.accounts {earlier : List Completion}
    (reached : Reaches rig.journaled run next last) (faithful : Faithful last.rigState.history)
    (accounts : Accounts earlier run) : Accounts (earlier ++ next) last := by
  cases reached with
  | on path => exact path.accounts faithful accounts
  | @stopped last path stage _ =>
      have written := rig.history_disconnect last.rigState
      have kept := path.accounts (faithful.of_isPrefix ⟨_, written.symm⟩) accounts
      exact kept.of_quiet rfl written kept.numbered rfl fun _ => rfl

end Run

namespace RigEvent

/-- A slot is taken only when nothing of it is out. -/
theorem accepted_of_accepts {before : List RigEvent} {event : RigEvent}
    (orderly : NothingOut before event) {id : Nat} (accepts : event.accepts id = true) :
    accepted before id = countFor (delivered before) id := by
  match event with
  | .submitted slot (.ok _) =>
      rw [← beq_iff_eq.mp accepts]
      exact orderly

/-- Where every slot is submitted only when nothing of it is out, no more than one submission of
a slot is ever out. -/
theorem accepted_le_of_orderly {history : List RigEvent}
    (orderly : Journal.Throughout NothingOut history) (id : Nat) :
    accepted history id ≤ countFor (delivered history) id + 1 := by
  induction history using List.reverseRecOn with
  | nil => exact Nat.zero_le _
  | append_singleton history event ih =>
      obtain ⟨before, next⟩ := Journal.throughout_concat.mp orderly
      have bound := ih before
      rw [accepted_append, accepted_singleton, delivered_append, countFor_append]
      by_cases accepts : event.accepts id
      · rw [if_pos accepts, accepted_of_accepts next accepts]
        omega
      · rw [if_neg accepts]
        omega

end RigEvent

end UsbThroughput
