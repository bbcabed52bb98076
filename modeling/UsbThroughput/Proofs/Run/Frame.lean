import UsbThroughput.Proofs.Rig.History
import UsbThroughput.Proofs.Run.Course

/-!
# What stays as it is

No elementary change touches the settings, the direction, or what the slots are made with, and on
a rig that keeps a journal none takes anything back from the history.
-/

namespace UsbThroughput

/-- Slots stand in the queue at the places that their numbers name. -/
def Queue.Numbered (queue : Queue) : Prop := ∀ id slot, queue.slot? id = some slot → slot.id = id

namespace Run

variable {σ : Type} {rig : Rig σ} {scope : Scope} {run last : Run σ} {taken next : List Completion}

/-- Putting a slot of the same make in its place leaves all makes. -/
theorem makes_putSlot {id : Nat} {slot other : Slot} (held : run.queue.slot? id = some slot)
    (same : other.make = slot.make) :
    (run.putSlot id other).queue.slots.map Slot.make = run.queue.slots.map Slot.make := by
  obtain ⟨inside, found⟩ := List.getElem?_eq_some_iff.mp held
  change (run.queue.slots.set id other).map Slot.make = run.queue.slots.map Slot.make
  have among : id < (run.queue.slots.map Slot.make).length := by
    rw [List.length_map]
    exact inside
  have kept : other.make = (run.queue.slots.map Slot.make)[id] := by
    rw [List.getElem_map, found]
    exact same
  rw [List.map_set, kept, List.set_getElem_self]

/-- Taking up a completion leaves all makes. -/
theorem makes_receive (run : Run σ) (completion : Completion) :
    (run.receive completion).queue.slots.map Slot.make = run.queue.slots.map Slot.make := by
  rcases receive_cases run completion with ⟨_, same⟩ | ⟨slot, held, same⟩
  · rw [same]
  · rw [same]
    exact makes_putSlot held (Slot.make_complete slot _ _)

/-- The settings and the direction of a test are fixed. -/
theorem Move.settings_eq (move : Move rig scope run next last) :
    last.settings = run.settings ∧ last.direction = run.direction := by
  cases move with
  | take completion rest waiting =>
      rcases receive_cases { run with arrivals := rest } completion with
        ⟨_, same⟩ | ⟨_, _, same⟩
      · rw [same]
        exact ⟨rfl, rfl⟩
      · rw [same]
        exact ⟨rfl, rfl⟩
  | _ => exact ⟨rfl, rfl⟩

/-- What the slots are made with is fixed. -/
theorem Move.makes_eq (move : Move rig scope run next last) :
    last.queue.slots.map Slot.make = run.queue.slots.map Slot.make := by
  cases move with
  | take completion rest waiting => exact makes_receive { run with arrivals := rest } completion
  | submit id slot held _ => exact makes_putSlot held (Slot.make_submit rig slot _)
  | cancel id slot held _ _ => exact makes_putSlot held (Slot.make_requestCancel slot)
  | setAside id slot held _ => exact makes_putSlot held (Slot.make_setAside slot)
  | _ => rfl

/-- A path leaves the settings and the direction. -/
theorem Path.settings_eq (path : Path rig scope run taken last) :
    last.settings = run.settings ∧ last.direction = run.direction := by
  induction path with
  | refl => exact ⟨rfl, rfl⟩
  | step _ move ih => exact ⟨move.settings_eq.1.trans ih.1, move.settings_eq.2.trans ih.2⟩

/-- A path leaves the slots, but for their states. -/
theorem Path.makes_eq (path : Path rig scope run taken last) :
    last.queue.slots.map Slot.make = run.queue.slots.map Slot.make := by
  induction path with
  | refl => rfl
  | step _ move ih => exact move.makes_eq.trans ih

/-- What a run comes to has its settings and its direction. -/
theorem Reaches.settings_eq (reached : Reaches rig run taken last) :
    last.settings = run.settings ∧ last.direction = run.direction := by
  cases reached with
  | on path => exact path.settings_eq
  | stopped path _ _ => exact path.settings_eq

/-- What a run comes to has its slots, but for their states. -/
theorem Reaches.makes_eq (reached : Reaches rig run taken last) :
    last.queue.slots.map Slot.make = run.queue.slots.map Slot.make := by
  cases reached with
  | on path => exact path.makes_eq
  | stopped path _ _ => exact path.makes_eq

end Run

/-- Where the makes are the same, so are the slots but for their states. -/
theorem Queue.slot_of_makes {first second : Queue}
    (same : second.slots.map Slot.make = first.slots.map Slot.make) {id : Nat} {slot : Slot}
    (held : second.slot? id = some slot) :
    ∃ other, first.slot? id = some other ∧ other.make = slot.make := by
  have made : (second.slots.map Slot.make)[id]? = some slot.make := by
    rw [List.getElem?_map]
    exact congrArg (Option.map Slot.make) held
  rw [same, List.getElem?_map] at made
  exact Option.map_eq_some_iff.mp made

/-- Slots keep their places as long as they keep their makes. -/
theorem Queue.Numbered.of_makes {first second : Queue} (numbered : first.Numbered)
    (same : second.slots.map Slot.make = first.slots.map Slot.make) : second.Numbered := by
  intro id slot held
  obtain ⟨other, there, makes⟩ := slot_of_makes same held
  rw [← Slot.id_eq_of_make makes]
  exact numbered id other there

/-- Slots that stand at the places that their numbers name have the numbers from zero. -/
theorem Queue.Numbered.ids_eq {queue : Queue} (numbered : queue.Numbered) :
    queue.slots.map Slot.id = List.range queue.depth := by
  apply List.ext_getElem
  · rw [List.length_map, List.length_range]
    rfl
  · intro id among inside
    rw [List.length_map] at among
    rw [List.getElem_map, List.getElem_range]
    exact numbered id _ (List.getElem?_eq_getElem among)

/-- A new queue is numbered from zero on. -/
theorem Queue.numbered_ofSettings (settings : Settings) (direction : Direction) :
    (ofSettings settings direction).Numbered := by
  have inOrder (depth : Nat) (make : Nat → Slot) (named : ∀ place, (make place).id = place)
      (id : Nat) (slot : Slot) (held : ((List.range depth).map make)[id]? = some slot) :
      slot.id = id := by
    rw [List.getElem?_map] at held
    obtain ⟨place, found, rfl⟩ := Option.map_eq_some_iff.mp held
    obtain ⟨inside, rfl⟩ := List.getElem?_eq_some_iff.mp found
    rw [named, List.getElem_range]
  intro id slot held
  cases direction with
  | inbound => exact inOrder _ _ (fun _ => rfl) id slot held
  | outbound => exact inOrder _ _ (fun _ => rfl) id slot held

/-- A new queue has as many slots as the settings ask for. -/
theorem Queue.depth_ofSettings (settings : Settings) (direction : Direction) :
    (ofSettings settings direction).depth = settings.queueDepth direction := by
  cases direction with
  | inbound => exact (List.length_map ..).trans List.length_range
  | outbound => exact (List.length_map ..).trans List.length_range

namespace Run

variable {σ : Type} {rig : Rig σ} {scope : Scope} {run last : Run (Journal RigEvent σ)}
  {taken next : List Completion}

/-- The history of a run goes on from that of another, in the quiet scope by quiet events. -/
def Grows (scope : Scope) (run last : Run (Journal RigEvent σ)) : Prop :=
  ∃ events, last.rigState.history = run.rigState.history ++ events ∧
    (scope = .quiet → ∀ event ∈ events, event.isQuiet = true)

/-- A history that did not grow. -/
theorem Grows.of_same (same : last.rigState.history = run.rigState.history) :
    Grows scope run last :=
  ⟨[], same.trans (List.append_nil _).symm, fun _ => List.forall_mem_nil _⟩

/-- A history that grew by one event. -/
theorem Grows.of_event {event : RigEvent}
    (history : last.rigState.history = run.rigState.history ++ [event])
    (quiet : scope = .quiet → event.isQuiet = true) : Grows scope run last :=
  ⟨[event], history, fun muted => List.forall_mem_singleton.mpr (quiet muted)⟩

/-- Nothing is taken back from the history. What a quiet change adds to it is quiet. -/
theorem Move.grows (move : Move rig.journaled scope run next last) : Grows scope run last := by
  cases move with
  | note notice => exact .of_event (rig.history_note run.rigState notice) fun _ => rfl
  | now => exact .of_same rfl
  | write endpoint data timeout =>
      exact .of_event (rig.history_write run.rigState endpoint data timeout) fun _ => rfl
  | clearHalt endpoint _ loud =>
      subst loud
      exact .of_event (rig.history_clearHalt run.rigState endpoint) Scope.noConfusion
  | poll timeout loud =>
      subst loud
      exact .of_event (rig.history_poll run.rigState timeout) Scope.noConfusion
  | take completion rest waiting =>
      exact .of_same (congrArg Journal.history (rigState_receive _ completion))
  | submit id slot held free loud =>
      subst loud
      rcases slot.submit_cases rig.journaled run.rigState with
        ⟨_, same⟩ | ⟨_, _, same⟩ | ⟨_, _, _, same⟩
      · rw [same]
        exact .of_same rfl
      · rw [same]
        exact .of_event (rig.history_submit run.rigState slot.reset) Scope.noConfusion
      · rw [same]
        exact .of_event (rig.history_submit run.rigState slot.reset) Scope.noConfusion
  | cancel id slot held flying unasked =>
      exact .of_event (rig.history_cancel run.rigState slot.requestCancel) fun _ => rfl
  | setAside id slot held _ => exact .of_same rfl
  | tend => exact .of_same rfl

/-- Along a path the history grows, quietly in the quiet scope. -/
theorem Path.grows (path : Path rig.journaled scope run taken last) : Grows scope run last := by
  induction path with
  | refl => exact .of_same rfl
  | step _ move ih =>
      obtain ⟨earlier, grown, quiet⟩ := ih
      obtain ⟨later, same, still⟩ := move.grows
      refine ⟨earlier ++ later, ?_, fun muted => ?_⟩
      · rw [same, grown, List.append_assoc]
      · exact List.forall_mem_append.mpr ⟨quiet muted, still muted⟩

/-- A move keeps what was written down. -/
theorem Move.prefix_history (move : Move rig.journaled scope run next last) :
    run.rigState.history <+: last.rigState.history := by
  obtain ⟨events, same, _⟩ := move.grows
  exact ⟨events, same.symm⟩

/-- A path keeps what was written down. -/
theorem Path.prefix_history (path : Path rig.journaled scope run taken last) :
    run.rigState.history <+: last.rigState.history := by
  obtain ⟨events, same, _⟩ := path.grows
  exact ⟨events, same.symm⟩

/-! ## Completions on their way -/

/-- All that was handed over was taken up, or waits. -/
def Handed (taken : List Completion) (run : Run (Journal RigEvent σ)) : Prop :=
  RigEvent.delivered run.rigState.history = taken ++ run.arrivals

/-- What an event hands over waits. -/
theorem Handed.of_event (handed : run.Handed taken) {event : RigEvent}
    (history : last.rigState.history = run.rigState.history ++ [event])
    (arrivals : last.arrivals = run.arrivals ++ event.handedOver) : last.Handed taken := by
  rw [Handed, history, RigEvent.delivered_append, RigEvent.delivered_singleton, handed, arrivals,
    List.append_assoc]

/-- No completion is lost or made up by an elementary change. -/
theorem Move.handed {earlier : List Completion} (move : Move rig.journaled scope run next last)
    (handed : run.Handed earlier) : last.Handed (earlier ++ next) := by
  cases move with
  | note notice =>
      rw [List.append_nil]
      exact handed.of_event (rig.history_note run.rigState notice) (List.append_nil _).symm
  | now =>
      rw [List.append_nil]
      exact handed
  | write endpoint data timeout =>
      rw [List.append_nil]
      exact handed.of_event (rig.history_write run.rigState endpoint data timeout)
        (List.append_nil _).symm
  | clearHalt endpoint _ _ =>
      rw [List.append_nil]
      exact handed.of_event (rig.history_clearHalt run.rigState endpoint) (List.append_nil _).symm
  | poll timeout _ =>
      rw [List.append_nil]
      exact handed.of_event (rig.history_poll run.rigState timeout) rfl
  | take completion rest waiting =>
      rw [Handed, rigState_receive, arrivals_receive, handed, waiting, List.append_assoc]
      rfl
  | submit id slot held free _ =>
      rw [List.append_nil]
      rcases slot.submit_cases rig.journaled run.rigState with
        ⟨_, same⟩ | ⟨_, _, same⟩ | ⟨_, _, _, same⟩
      · rw [same]
        exact handed
      · rw [same]
        exact handed.of_event (rig.history_submit run.rigState slot.reset)
          (List.append_nil _).symm
      · rw [same]
        exact handed.of_event (rig.history_submit run.rigState slot.reset)
          (List.append_nil _).symm
  | cancel id slot held flying unasked =>
      rw [List.append_nil]
      exact handed.of_event (rig.history_cancel run.rigState slot.requestCancel)
        (List.append_nil _).symm
  | setAside id slot held _ =>
      rw [List.append_nil]
      exact handed
  | tend =>
      rw [List.append_nil]
      exact handed

/-- Along a path, what was handed over is taken up or waits. -/
theorem Path.handed {earlier : List Completion} (path : Path rig.journaled scope run next last)
    (handed : run.Handed earlier) : last.Handed (earlier ++ next) := by
  induction path with
  | refl =>
      rw [List.append_nil]
      exact handed
  | step _ move ih =>
      rw [← List.append_assoc]
      exact move.handed ih

/-- What was handed over is taken up or waits, wherever a run comes to. -/
theorem Reaches.handed {earlier : List Completion} (reached : Reaches rig.journaled run next last)
    (handed : run.Handed earlier) : last.Handed (earlier ++ next) := by
  cases reached with
  | on path => exact path.handed handed
  | stopped path _ _ =>
      exact (path.handed handed).of_event (rig.history_disconnect _) (List.append_nil _).symm

end Run

/-! ## Before the first step -/

namespace Benchmark

variable {σ : Type} (rig : Rig σ) (benchmark : Benchmark) (state : σ)

/-- Before the first step the device has only been opened. -/
theorem quiet_begin :
    ∀ event ∈ (benchmark.runAfter rig.journaled { state } 0).rigState.history,
      event.isQuiet = true := by
  change ∀ event ∈ (rig.journaled.note _ (benchmark.connect rig.journaled { state }).2).history, _
  rw [rig.history_note]
  unfold connect
  split
  · exact List.forall_mem_cons.mpr ⟨rfl, List.forall_mem_nil _⟩
  · exact List.forall_mem_cons.mpr ⟨rfl, List.forall_mem_cons.mpr ⟨rfl, List.forall_mem_nil _⟩⟩

/-- At the beginning nothing was handed over. -/
theorem handed_begin : (benchmark.runAfter rig.journaled { state } 0).Handed [] :=
  RigEvent.delivered_of_isQuiet (benchmark.quiet_begin rig state)

end Benchmark

end UsbThroughput
