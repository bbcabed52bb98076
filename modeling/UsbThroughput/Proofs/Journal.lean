import Mathlib.Data.List.Induction
import UsbThroughput.Journal

/-!
# Histories

What each act on a journal adds to its history, and statements about every event of a history in
view of the events before it (`Journal.Throughout`). Two journals are twins if their states are
linked and their histories tell the same (`Journal.Twins`).
-/

namespace UsbThroughput

/-- Two answers are the same, and come with states that are linked. -/
def Answered {α σ τ : Type} (linked : σ → τ → Prop) (answer : α × σ) (twin : α × τ) : Prop :=
  twin.1 = answer.1 ∧ linked answer.2 twin.2

/-- What is answered alike is one value, with linked states beside it. -/
theorem Answered.split {α σ τ : Type} {linked : σ → τ → Prop} {answer : α × σ} {twin : α × τ}
    (answered : Answered linked answer twin) :
    ∃ value state stateTwin, answer = (value, state) ∧ twin = (value, stateTwin) ∧
      linked state stateTwin :=
  ⟨answer.1, answer.2, twin.2, rfl, Prod.ext answered.1 rfl, answered.2⟩

/-- A call that neither looks at nor changes what two states differ in. -/
theorem Answered.of_change {α σ δ : Type} {change : δ → σ → σ} {call : σ → α × σ}
    (unmoved : ∀ state value,
      call (change value state) = ((call state).1, change value (call state).2))
    {state twin : σ} (changed : ∃ value, twin = change value state) :
    Answered (fun state twin => ∃ value, twin = change value state) (call state) (call twin) := by
  obtain ⟨value, rfl⟩ := changed
  rw [unmoved]
  exact ⟨rfl, value, rfl⟩

namespace Journal

variable {ε σ α : Type}

/-- A call whose answer is known is written down with it. -/
theorem record_of_eq {act : σ → α × σ} {journal : Journal ε σ} {answer : α} {state : σ}
    (describe : α → ε) (called : act journal.state = (answer, state)) :
    journal.record describe act =
      (answer, { state, entries := (describe answer, state) :: journal.entries }) := by
  rw [record, called]

@[simp] theorem history_record (describe : α → ε) (act : σ → α × σ) (journal : Journal ε σ) :
    (journal.record describe act).2.history =
      journal.history ++ [describe (act journal.state).1] :=
  List.reverse_cons

@[simp] theorem history_recordChange (event : ε) (change : σ → σ) (journal : Journal ε σ) :
    (journal.recordChange event change).history = journal.history ++ [event] :=
  List.reverse_cons

/-- A relation of each event of a history with the events before it. -/
def Throughout (related : List ε → ε → Prop) (history : List ε) : Prop :=
  ∀ before event after, history = before ++ event :: after → related before event

variable {related : List ε → ε → Prop} {history : List ε}

/-- A history splits at each of its places. -/
theorem throughout_iff :
    Throughout related history ↔
      ∀ place : Fin history.length, related (history.take place) history[place] := by
  constructor
  · intro holds place
    refine holds _ _ (history.drop (place + 1)) ?_
    rw [Fin.getElem_fin, List.getElem_cons_drop, List.take_append_drop]
  · rintro holds before event after rfl
    have found := holds ⟨before.length, by simp⟩
    simpa using found

instance [∀ before event, Decidable (related before event)] :
    Decidable (Throughout related history) :=
  decidable_of_iff _ throughout_iff.symm

theorem throughout_nil : Throughout related [] := by
  intro before event after split
  exact (List.cons_ne_nil event after (List.append_eq_nil_iff.mp split.symm).2).elim

/-- What holds throughout a history goes on to hold if it holds of the next event. -/
theorem throughout_concat {event : ε} :
    Throughout related (history ++ [event]) ↔
      Throughout related history ∧ related history event := by
  constructor
  · intro holds
    refine ⟨?_, holds history event [] rfl⟩
    intro before earlier after split
    exact holds before earlier (after ++ [event]) (by rw [split, List.append_assoc]; rfl)
  · rintro ⟨holds, next⟩ before earlier after split
    rcases List.eq_nil_or_concat after with rfl | ⟨rest, last, rfl⟩
    · obtain ⟨rfl, same⟩ := List.append_inj' split rfl
      cases same
      exact next
    · rw [List.concat_eq_append, ← List.cons_append, ← List.append_assoc] at split
      obtain ⟨rfl, _⟩ := List.append_inj' split rfl
      exact holds before earlier rest rfl

/-- Events that are related to whatever comes before them. -/
theorem Throughout.append {events : List ε} (holds : Throughout related history)
    (free : ∀ event ∈ events, ∀ before, related before event) :
    Throughout related (history ++ events) := by
  induction events using List.reverseRecOn with
  | nil =>
      rw [List.append_nil]
      exact holds
  | append_singleton events event ih =>
      obtain ⟨first, last⟩ := List.forall_mem_append.mp free
      rw [← List.append_assoc, throughout_concat]
      exact ⟨ih first, last event (List.mem_singleton_self event) _⟩

/-- What holds throughout a history holds throughout what was said earlier. -/
theorem Throughout.of_isPrefix {earlier : List ε} (holds : Throughout related history)
    (before : earlier <+: history) : Throughout related earlier := by
  obtain ⟨rest, rfl⟩ := before
  intro first event after split
  exact holds first event (after ++ rest) (by rw [split, List.append_assoc]; rfl)

/-- Where histories grow step by step, every event that was not there from the beginning was
written by one of the steps. -/
theorem written_by_step {histories : Nat → List ε}
    (grows : ∀ count, histories count <+: histories (count + 1)) (count : Nat)
    {before after : List ε} {event : ε} (fresh : event ∉ histories 0)
    (split : histories count = before ++ event :: after) :
    ∃ step < count, ∃ first rest,
      before = histories step ++ first ∧
        histories (step + 1) = histories step ++ (first ++ event :: rest) := by
  induction count generalizing after with
  | zero => exact (fresh (split ▸ List.mem_append_right before List.mem_cons_self)).elim
  | succ count ih =>
      obtain ⟨events, grown⟩ := grows count
      have inStep (first : List ε) (earlier : before = histories count ++ first)
          (later : events = first ++ event :: after) :
          ∃ step < count + 1, ∃ first rest,
            before = histories step ++ first ∧
              histories (step + 1) = histories step ++ (first ++ event :: rest) :=
        ⟨count, Nat.lt_succ_self count, first, after, earlier, by rw [← grown, later]⟩
      rw [← grown] at split
      rcases List.append_eq_append_iff.mp split with
        ⟨first, earlier, later⟩ | ⟨first, earlier, later⟩
      · exact inStep first earlier later
      · cases first with
        | nil => exact inStep [] (by rw [earlier, List.append_nil, List.append_nil]) later.symm
        | cons other others =>
            obtain ⟨rfl, rfl⟩ := List.cons.inj later
            obtain ⟨step, among, found⟩ := ih earlier
            exact ⟨step, Nat.lt_succ_of_lt among, found⟩

/-! ## Two journals -/

/-- Two journals with states that are linked and histories that tell the same. -/
structure Twins {τ δ : Type} (linked : σ → τ → Prop) (tells : ε → Option δ) (journal : Journal ε σ)
    (twin : Journal ε τ) : Prop where
  link : linked journal.state twin.state
  same : twin.history.filterMap tells = journal.history.filterMap tells

namespace Twins

variable {τ δ : Type} {linked : σ → τ → Prop} {tells : ε → Option δ} {journal : Journal ε σ}
  {twin : Journal ε τ} (twins : Twins linked tells journal twin)

include twins

/-- A call with answers that tell the same. -/
theorem record {describe : α → ε} {act : σ → α × σ} {actTwin : τ → α × τ}
    (tell : tells (describe (actTwin twin.state).1) = tells (describe (act journal.state).1))
    (link : linked (act journal.state).2 (actTwin twin.state).2) :
    Twins linked tells (journal.record describe act).2 (twin.record describe actTwin).2 where
  link := link
  same := by
    have last : [describe (actTwin twin.state).1].filterMap tells =
        [describe (act journal.state).1].filterMap tells := by
      rw [List.filterMap_cons, List.filterMap_cons, tell]
    rw [history_record, history_record, List.filterMap_append, List.filterMap_append, twins.same,
      last]

/-- A call with the same answer. -/
theorem answered {describe : α → ε} {act : σ → α × σ} {actTwin : τ → α × τ}
    (both : Answered linked (act journal.state) (actTwin twin.state)) :
    Answered (Twins linked tells) (journal.record describe act) (twin.record describe actTwin) :=
  ⟨both.1, twins.record (congrArg (fun answer => tells (describe answer)) both.1) both.2⟩

/-- Two journals stay in step when neither writes anything down. -/
theorem answeredSilently {act : σ → α × σ} {actTwin : τ → α × τ}
    (both : Answered linked (act journal.state) (actTwin twin.state)) :
    Answered (Twins linked tells) (journal.silently act) (twin.silently actTwin) :=
  ⟨both.1, both.2, twins.same⟩

/-- Two journals stay in step when both write down the same change. -/
theorem recordChange {event : ε} {change : σ → σ} {changeTwin : τ → τ}
    (link : linked (change journal.state) (changeTwin twin.state)) :
    Twins linked tells (journal.recordChange event change)
      (twin.recordChange event changeTwin) where
  link := link
  same := by
    rw [history_recordChange, history_recordChange, List.filterMap_append, List.filterMap_append,
      twins.same]

/-- What tells nothing may be written down in one journal only. -/
theorem recordFirst {event : ε} {change : σ → σ} (silent : tells event = none)
    (link : linked (change journal.state) twin.state) :
    Twins linked tells (journal.recordChange event change) twin where
  link := link
  same := by
    rw [history_recordChange, List.filterMap_append, List.filterMap_cons_none silent, twins.same]
    exact (List.append_nil _).symm

/-- Two journals stay in step when only the second writes down something of which nothing is
told. -/
theorem recordSecond {event : ε} {change : τ → τ} (silent : tells event = none)
    (link : linked journal.state (change twin.state)) :
    Twins linked tells journal (twin.recordChange event change) where
  link := link
  same := by
    rw [history_recordChange, List.filterMap_append, List.filterMap_cons_none silent, twins.same]
    exact List.append_nil _

end Twins

end Journal

end UsbThroughput
