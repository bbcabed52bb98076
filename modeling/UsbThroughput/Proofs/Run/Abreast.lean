import UsbThroughput.Proofs.Rig.Tandem
import UsbThroughput.Proofs.Run.Timeless
import UsbThroughput.Proofs.Run.Upkeep

/-!
# Runs abreast

Runs on two rigs in tandem that go the same way (`Run.Abreast`): they agree but for the time, and
their rigs are tied by the transfers that are out, which are those in flight whose completions have
not been handed over (`Run.isOut`). Each call of a run and each change of a slot keeps them
abreast.
-/

namespace UsbThroughput

variable {σ τ : Type}

namespace Run

/-- Whether the transfer of a slot is in flight and has not been handed over. -/
def isOut (run : Run σ) : Nat → Bool :=
  Completion.stillOut run.arrivals fun id => (run.queue.slot? id).any Slot.isSubmitted

/-- Two runs that go the same way. -/
structure Abreast (ties : Rig.Ties σ τ) (armed : Nat) (run : Run σ) (twin : Run τ) : Prop where
  alike : run.Alike twin
  linked : ties.Linked armed run.isOut run.rigState twin.rigState
  apart : (run.arrivals.map Completion.slot).Nodup
  flying : ∀ completion ∈ run.arrivals,
    ∃ slot, run.queue.slot? completion.slot = some slot ∧ slot.isSubmitted = true

/-- Two runs that came to the same end. -/
structure Over (ties : Rig.Ties σ τ) (run : Run σ) (twin : Run τ) : Prop where
  alike : run.Alike twin
  done : run.stage.isOver = true
  parted : ties.Parted run.rigState twin.rigState

/-- Two runs that go the same way, after perhaps some more slots were submitted, or came to the
same end. -/
def Level (ties : Rig.Ties σ τ) (armed : Nat) (run : Run σ) (twin : Run τ) : Prop :=
  (∃ more ≥ armed, Abreast ties more run twin) ∨ Over ties run twin

variable {ties : Rig.Ties σ τ} {rig : Rig σ} {other : Rig τ} {armed : Nat} {run : Run σ}
  {twin : Run τ}

/-- Runs that are abreast are level. -/
theorem Abreast.level (abreast : Abreast ties armed run twin) : Level ties armed run twin :=
  Or.inl ⟨armed, Nat.le_refl armed, abreast⟩

/-- Runs stay level in view of fewer slots that were armed. -/
theorem Level.mono {fewer : Nat} (level : Level ties armed run twin) (less : fewer ≤ armed) :
    Level ties fewer run twin :=
  level.imp_left fun ⟨more, above, abreast⟩ => ⟨more, Nat.le_trans less above, abreast⟩

/-! ## What is out -/

/-- A slot without a completion that waits is out just if it is in flight. -/
private theorem isOut_of_slot {id : Nat} {slot : Slot} (held : run.queue.slot? id = some slot)
    (silent : ∀ completion ∈ run.arrivals, completion.slot ≠ id) :
    run.isOut id = slot.isSubmitted := by
  rw [isOut, Completion.stillOut_of_forall_ne silent, held]
  rfl

/-- A slot out of flight is not out. -/
private theorem isOut_of_free {id : Nat} {slot : Slot} (held : run.queue.slot? id = some slot)
    (free : slot.isSubmitted = false) : run.isOut id = false := by
  rw [isOut, Completion.stillOut, held]
  exact (congrArg (· && _) free).trans (Bool.false_and _)

/-- Nothing is out if nothing is in flight. -/
theorem isOut_of_grounded (grounded : run.queue.inFlight = 0) : run.isOut = fun _ => false := by
  funext id
  cases held : run.queue.slot? id with
  | none =>
      rw [isOut, Completion.stillOut, held]
      exact Bool.false_and _
  | some slot =>
      have free := List.countP_eq_zero.mp grounded slot (List.mem_of_getElem? held)
      exact isOut_of_free held (Bool.eq_false_iff.mpr free)

/-- A slot that is put back changes nothing for the others. -/
theorem isOut_putSlot {id : Nat} {slot : Slot} (held : run.queue.slot? id = some slot)
    (next : Slot) :
    (run.putSlot id next).isOut =
      Function.update run.isOut id ((run.putSlot id next).isOut id) := by
  funext place
  by_cases same : place = id
  · subst same
    rw [Function.update_self]
  · have apart : (run.putSlot id next).queue.slot? place = run.queue.slot? place :=
      List.getElem?_set_ne (Ne.symm same)
    rw [Function.update_of_ne same, isOut, isOut, Completion.stillOut, Completion.stillOut, apart]
    rfl

private theorem isOut_putSlot_same {id : Nat} {slot next : Slot}
    (held : run.queue.slot? id = some slot)
    (same : next.isSubmitted = slot.isSubmitted) : (run.putSlot id next).isOut = run.isOut := by
  have put := slot?_putSlot held next
  rw [isOut_putSlot held]
  have still : (run.putSlot id next).isOut id = run.isOut id := by
    rw [isOut, isOut, Completion.stillOut, Completion.stillOut, put, held]
    exact congrArg (· && _) same
  rw [still, Function.update_eq_self]

/-- A completion that is taken up was handed over before. -/
theorem isOut_receive {completion : Completion} {rest : List Completion}
    (waiting : run.arrivals = completion :: rest) :
    ({ run with arrivals := rest }.receive completion).isOut = run.isOut := by
  funext id
  rw [isOut, isOut, Completion.stillOut, Completion.stillOut, arrivals_receive, waiting,
    List.any_cons]
  rcases receive_cases { run with arrivals := rest } completion with
    ⟨absent, same⟩ | ⟨slot, held, same⟩
  · rw [same]
    by_cases named : completion.slot = id
    · subst named
      have none : run.queue.slot? completion.slot = none := absent
      simp only [none, Option.any_none, Bool.false_and]
    · rw [beq_eq_false_iff_ne.mpr named, Bool.false_or]
  · by_cases named : completion.slot = id
    · subst named
      rw [same, slot?_putSlot held]
      simp only [Option.any_some, Slot.isSubmitted_complete, Bool.false_and, beq_self_eq_true,
        Bool.true_or, Bool.not_true, Bool.and_false]
    · have apart : ({ run with arrivals := rest }.receive completion).queue.slot? id =
          run.queue.slot? id := by
        rw [same]
        exact List.getElem?_set_ne named
      rw [apart, beq_eq_false_iff_ne.mpr named, Bool.false_or]

/-! ## Bookkeeping -/

namespace Abreast

variable (abreast : Abreast ties armed run twin)

include abreast

/-- Runs stay abreast in the same stage, but for its deadline. -/
theorem goTo {stage next : Stage} (same : next.timeless = stage.timeless) :
    Abreast ties armed (run.goTo stage) (twin.goTo next) :=
  ⟨⟨abreast.alike.outline, abreast.alike.meter, same⟩, abreast.linked, abreast.apart,
    abreast.flying⟩

/-- Runs stay abreast with meters that are alike. -/
theorem withMeter {meter later : Meter} (same : meter.Alike later) :
    Abreast ties armed { run with meter } { twin with meter := later } :=
  ⟨⟨abreast.alike.outline, same, abreast.alike.stage⟩, abreast.linked, abreast.apart,
    abreast.flying⟩

/-- Runs stay abreast in the same recovery. -/
theorem withHalt {recoveries also : Nat} (same : also = recoveries) (halted : Bool) :
    Abreast ties armed { run with recoveries, halted }
      { twin with recoveries := also, halted } := by
  subst same
  have outline := congrArg (fun outline => { outline with recoveries := also, halted })
    abreast.alike.outline
  exact ⟨⟨outline, abreast.alike.meter, abreast.alike.stage⟩, abreast.linked, abreast.apart,
    abreast.flying⟩

/-- Runs stay abreast with rigs that are linked. -/
theorem withRigs {more : Nat} {state : σ} {later : τ}
    (linked : ties.Linked more run.isOut state later) :
    Abreast ties more { run with rigState := state } { twin with rigState := later } :=
  ⟨⟨abreast.alike.outline, abreast.alike.meter, abreast.alike.stage⟩, linked, abreast.apart,
    abreast.flying⟩

/-- A slot that is put back keeps what is out, if it is in flight as before. -/
theorem putSlot {id : Nat} {slot next : Slot} (held : run.queue.slot? id = some slot)
    (same : next.isSubmitted = slot.isSubmitted) :
    Abreast ties armed (run.putSlot id next) (twin.putSlot id next) where
  alike := ⟨congrArg (Run.putSlot id next) abreast.alike.outline, abreast.alike.meter,
    abreast.alike.stage⟩
  linked := by
    rw [isOut_putSlot_same held same]
    exact abreast.linked
  apart := abreast.apart
  flying completion member := by
    obtain ⟨before, there, submitted⟩ := abreast.flying completion member
    by_cases named : completion.slot = id
    · rw [named, held] at there
      cases there
      exact ⟨next, named ▸ slot?_putSlot held next, same.trans submitted⟩
    · exact ⟨before, (List.getElem?_set_ne (Ne.symm named)).trans there, submitted⟩

/-- A completion is taken up. -/
theorem take {completion : Completion} {rest : List Completion}
    (waiting : run.arrivals = completion :: rest) :
    Abreast ties armed ({ run with arrivals := rest }.receive completion)
      ({ twin with arrivals := rest }.receive completion) where
  alike := by
    have outlined {ρ : Type} (run : Run ρ) :
        ({ run with arrivals := rest }.receive completion).outline =
          { run.outline with arrivals := rest }.receive completion := by
      have same : ({ run.outline with arrivals := rest } : Run Unit).queue.slot? completion.slot =
        ({ run with arrivals := rest } : Run ρ).queue.slot? completion.slot := rfl
      unfold receive
      rw [same]
      cases ({ run with arrivals := rest } : Run ρ).queue.slot? completion.slot <;> rfl
    refine ⟨?_, ?_, ?_⟩
    · rw [outlined, outlined, abreast.alike.outline]
    · rw [meter_receive, meter_receive]
      exact abreast.alike.meter
    · rw [stage_receive, stage_receive]
      exact abreast.alike.stage
  linked := by
    rw [isOut_receive waiting, rigState_receive, rigState_receive]
    exact abreast.linked
  apart := by
    have apart := abreast.apart
    rw [waiting] at apart
    rw [arrivals_receive]
    exact apart.of_cons
  flying other member := by
    rw [arrivals_receive] at member
    have apart := abreast.apart
    rw [waiting, List.map_cons, List.nodup_cons] at apart
    have different : other.slot ≠ completion.slot := fun same =>
      apart.1 (List.mem_map.mpr ⟨other, member, same⟩)
    obtain ⟨slot, held, submitted⟩ :=
      abreast.flying other (waiting ▸ List.mem_cons_of_mem completion member)
    refine ⟨slot, ?_, submitted⟩
    rcases receive_cases { run with arrivals := rest } completion with
      ⟨_, same⟩ | ⟨_, _, same⟩
    · rw [same]
      exact held
    · rw [same]
      exact (List.getElem?_set_ne (Ne.symm different)).trans held

end Abreast

/-! ## Calls -/

namespace Abreast

variable (tandem : ties.Tandem rig other) (abreast : Abreast ties armed run twin)

include tandem abreast

/-- Runs stay abreast whatever they note. -/
theorem note (notice later : Notice) :
    Abreast ties armed (run.note rig notice) (twin.note other later) :=
  abreast.withRigs (tandem.noteTwin (tandem.note abreast.linked notice) later)

/-- Runs stay abreast when both read the clock. -/
theorem now :
    Abreast ties armed { run with rigState := (rig.now run.rigState).2 }
      { twin with rigState := (other.now twin.rigState).2 } :=
  abreast.withRigs (tandem.now abreast.linked)

/-- Runs stay abreast when both fail. -/
theorem fail (failure : Failure) :
    Abreast ties armed (run.fail rig failure) (twin.fail other failure) :=
  (abreast.now tandem).withMeter (abreast.alike.meter.fail _ _ failure)

/-- Runs stay abreast when both send the same command. -/
theorem send {channel also : Channel} {command next : Command} (same : also = channel)
    (equal : next = command) (outward : Direction.ofAddress channel.endpoint = .outbound) :
    Abreast ties armed { run with rigState := (channel.send rig command run.rigState).2 }
      { twin with rigState := (also.send other next twin.rigState).2 } := by
  subst same equal
  exact abreast.withRigs (tandem.send abreast.linked also next outward)

/-- A slot out of flight is submitted. -/
theorem submit {id : Nat} {slot : Slot} (held : run.queue.slot? id = some slot)
    (free : slot.isSubmitted = false) (named : slot.id = id) (fits : slot.Fits)
    (reached : id ≤ armed) :
    (slot.submit other twin.rigState).1 = (slot.submit rig run.rigState).1 ∧
      Abreast ties (max armed (id + 1))
        ({ run with rigState := (slot.submit rig run.rigState).2 }.putSlot id
          (slot.submit rig run.rigState).1.2)
        ({ twin with rigState := (slot.submit other twin.rigState).2 }.putSlot id
          (slot.submit other twin.rigState).1.2) := by
  subst named
  obtain ⟨same, taken, refused⟩ := tandem.submit abreast.linked slot.reset
    ⟨fits.placed, fits.short⟩ reached (isOut_of_free held free)
  have others : ∀ completion ∈ run.arrivals, completion.slot ≠ slot.id := by
    intro completion member named
    obtain ⟨before, there, submitted⟩ := abreast.flying completion member
    rw [named, held] at there
    cases there
    exact Bool.noConfusion (free.symm.trans submitted)
  rcases slot.submit_cases rig run.rigState with
    ⟨flying, _⟩ | ⟨_, accepted, submits⟩ | ⟨_, cause, rejected, submits⟩
  · exact Bool.noConfusion (free.symm.trans flying)
  · have submitsTwin := Slot.submit_of_taken other free (same.trans accepted)
    rw [submits, submitsTwin]
    refine ⟨rfl, ?_, ?_, abreast.apart, ?_⟩
    · exact ⟨congrArg (Run.putSlot slot.id slot.lent) abreast.alike.outline, abreast.alike.meter,
        abreast.alike.stage⟩
    · have out : (run.putSlot slot.id slot.lent).isOut slot.id = true :=
        isOut_of_slot (slot?_putSlot held slot.lent) others
      have marked := isOut_putSlot held slot.lent
      rw [out] at marked
      exact marked ▸ taken accepted
    · intro completion member
      obtain ⟨before, there, submitted⟩ := abreast.flying completion member
      exact ⟨before, (List.getElem?_set_ne (Ne.symm (others completion member))).trans there,
        submitted⟩
  · have submitsTwin := Slot.submit_of_refused other free (same.trans rejected)
    rw [submits, submitsTwin]
    exact ⟨rfl, (abreast.withRigs (refused cause rejected)).putSlot held free.symm⟩

/-- The transfer of a slot is asked to be given up. -/
theorem cancel {id : Nat} {slot : Slot} (held : run.queue.slot? id = some slot)
    (named : slot.id = id)
    (fair : run.arrivals = [] ∨ ties.Fair (slot.cancel rig run.rigState).2) :
    (slot.cancel other twin.rigState).1 = (slot.cancel rig run.rigState).1 ∧
      Abreast ties armed
        ({ run with rigState := (slot.cancel rig run.rigState).2 }.putSlot id
          (slot.cancel rig run.rigState).1)
        ({ twin with rigState := (slot.cancel other twin.rigState).2 }.putSlot id
          (slot.cancel other twin.rigState).1) := by
  subst named
  cases asks : slot.isSubmitted && !slot.cancelRequested with
  | false =>
      rw [Slot.cancel_of_settled asks, Slot.cancel_of_settled asks]
      exact ⟨rfl, abreast.putSlot held rfl⟩
  | true =>
      have flying : slot.isSubmitted = true := (Bool.and_eq_true_iff.mp asks).1
      rw [Slot.cancel_of_asking asks] at fair
      obtain ⟨same, linked⟩ := tandem.cancel abreast.linked slot.requestCancel (by
        refine fair.imp ?_ ?_
        · intro empty
          rw [← flying]
          exact isOut_of_slot held (by rw [empty]; exact List.forall_mem_nil _)
        · intro fair
          dsimp only at fair
          split at fair
          · exact fair
          · exact tandem.fairBeforeNote fair)
      rw [Slot.cancel_of_asking asks, Slot.cancel_of_asking asks, same]
      refine ⟨rfl, Abreast.putSlot (abreast.withRigs ?_) held rfl⟩
      cases (rig.cancel slot.requestCancel run.rigState).1 with
      | ok _ => exact linked
      | error error => exact tandem.noteTwin (tandem.note linked _) _

end Abreast

/-! ## Work on the whole queue -/

namespace Abreast

variable (tandem : ties.Tandem rig other)

include tandem

/-- Slots between others are submitted, up to the first that is refused. -/
theorem submitEach (slots before after : List Slot) (abreast : Abreast ties armed run twin)
    (split : run.queue.slots = before ++ (slots ++ after))
    (named : slots.map Slot.id = List.range' before.length slots.length)
    (fits : ∀ slot ∈ slots, slot.Fits) (free : ∀ slot ∈ slots, slot.isSubmitted = false)
    (reached : before.length ≤ armed) :
    (Queue.submitEach other slots twin.rigState).1 =
        (Queue.submitEach rig slots run.rigState).1 ∧
      ∃ more ≥ armed,
        ((Queue.submitEach rig slots run.rigState).1.1 = .ok () →
          before.length + slots.length ≤ more) ∧
        Abreast ties more
          (run.withSlots (before ++ ((Queue.submitEach rig slots run.rigState).1.2 ++ after))
            (Queue.submitEach rig slots run.rigState).2)
          (twin.withSlots (before ++ ((Queue.submitEach rig slots run.rigState).1.2 ++ after))
            (Queue.submitEach other slots twin.rigState).2) := by
  -- What was submitted before has its place in front, so that the numbers go on from there.
  induction slots generalizing before armed run twin with
  | nil =>
      refine ⟨rfl, armed, Nat.le_refl armed, fun _ => reached, ?_⟩
      have splitTwin := (congrArg Queue.slots abreast.alike.queue).trans split
      rw [Queue.submitEach, Queue.submitEach, withSlots_self split, withSlots_self splitTwin]
      exact abreast
  | cons slot slots ih =>
      obtain ⟨first, others⟩ := List.forall_mem_cons.mp fits
      obtain ⟨idle, grounded⟩ := List.forall_mem_cons.mp free
      rw [List.map_cons, List.length_cons, List.range'_succ] at named
      obtain ⟨place, later⟩ := List.cons.inj named
      have splitTwin := (congrArg Queue.slots abreast.alike.queue).trans split
      obtain ⟨same, moved⟩ := abreast.submit tandem (slot?_between split) idle place first reached
      rw [putSlot_between split, putSlot_between splitTwin] at moved
      rcases answer : slot.submit rig run.rigState with ⟨⟨result, next⟩, state⟩
      rcases answerTwin : slot.submit other twin.rigState with ⟨pair, stateTwin⟩
      rw [answer, answerTwin] at same
      rw [answer, answerTwin] at moved
      obtain rfl : pair = (result, next) := same
      have above : armed ≤ max armed (before.length + 1) := Nat.le_max_left _ _
      cases result with
      | error refusal =>
          simp only [Queue.submitEach, answer, answerTwin]
          exact ⟨trivial, _, above, by simp, moved⟩
      | ok _ =>
          have resplit : (run.withSlots (before ++ next :: (slots ++ after)) state).queue.slots =
              (before ++ [next]) ++ (slots ++ after) := by
            rw [List.append_assoc]
            rfl
          have size : (before ++ [next]).length = before.length + 1 := List.length_append
          obtain ⟨equal, more, enough, all, rest⟩ := ih (before ++ [next]) moved resplit
            (size ▸ later) others grounded (size ▸ Nat.le_max_right _ _)
          rw [List.append_assoc] at rest
          simp only [Queue.submitEach, answer, answerTwin]
          refine ⟨?_, more, Nat.le_trans above enough, fun taken => ?_, rest⟩
          · exact congrArg (fun filled => (filled.1, next :: filled.2)) equal
          · have reached := all taken
            rw [size] at reached
            rwa [List.length_cons, ← Nat.add_assoc, Nat.add_right_comm]

/-- Slots after others are cancelled, from the last to the first. -/
theorem cancelEach (slots before : List Slot) (abreast : Abreast ties armed run twin)
    (split : run.queue.slots = before ++ slots)
    (named : slots.map Slot.id = List.range' before.length slots.length)
    (fair : run.arrivals = [] ∨ ties.Fair (Queue.cancelEach rig slots run.rigState).2) :
    (Queue.cancelEach other slots twin.rigState).1 =
        (Queue.cancelEach rig slots run.rigState).1 ∧
      Abreast ties armed
        (run.withSlots (before ++ (Queue.cancelEach rig slots run.rigState).1)
          (Queue.cancelEach rig slots run.rigState).2)
        (twin.withSlots (before ++ (Queue.cancelEach rig slots run.rigState).1)
          (Queue.cancelEach other slots twin.rigState).2) := by
  have splitTwin := (congrArg Queue.slots abreast.alike.queue).trans split
  induction slots generalizing before with
  | nil =>
      refine ⟨rfl, ?_⟩
      rw [Queue.cancelEach, Queue.cancelEach, withSlots_self split, withSlots_self splitTwin]
      exact abreast
  | cons slot slots ih =>
      rw [List.map_cons, List.length_cons, List.range'_succ] at named
      obtain ⟨place, later⟩ := List.cons.inj named
      have resplit {first rest : List Slot} :
          first ++ slot :: rest = (first ++ [slot]) ++ rest := by
        rw [List.append_assoc]
        rfl
      have size : (before ++ [slot]).length = before.length + 1 := List.length_append
      have fairLast : run.arrivals = [] ∨ ties.Fair
          (slot.cancel rig (Queue.cancelEach rig slots run.rigState).2).2 := fair
      obtain ⟨same, rest⟩ := ih (before ++ [slot]) (split.trans resplit) (size ▸ later)
        (fairLast.imp_right tandem.fairBeforeCancelling) (splitTwin.trans resplit)
      rw [← resplit] at rest
      rcases answer : Queue.cancelEach rig slots run.rigState with ⟨others, state⟩
      rcases answerTwin : Queue.cancelEach other slots twin.rigState with ⟨othersTwin, stateTwin⟩
      rw [answer, answerTwin] at same rest
      rw [answer] at fairLast
      obtain rfl : othersTwin = others := same
      have between : (run.withSlots (before ++ slot :: othersTwin) state).queue.slots =
        before ++ slot :: othersTwin := rfl
      have betweenTwin : (twin.withSlots (before ++ slot :: othersTwin) stateTwin).queue.slots =
        before ++ slot :: othersTwin := rfl
      obtain ⟨equal, moved⟩ := rest.cancel tandem (slot?_between between) place fairLast
      rw [putSlot_between between, putSlot_between betweenTwin] at moved
      simp only [Queue.cancelEach, answer, answerTwin]
      exact ⟨congrArg (· :: othersTwin) equal, equal ▸ moved⟩

end Abreast

end Run

end UsbThroughput
