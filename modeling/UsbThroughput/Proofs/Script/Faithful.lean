import UsbThroughput.Proofs.Rig.History
import UsbThroughput.Proofs.Run.Mirror
import UsbThroughput.Proofs.Script.Pending
import UsbThroughput.Script.Device

/-!
# Scripted devices are faithful

What a scripted host hands over by itself are transfers in line, and they are not in line any more
(`Host.inLine_handleEvents`). So a scripted device is faithful as long as the transfers that its
script lists are in line when they are handed over, each once
(`Benchmark.faithful_of_listsInLine`).
-/

namespace UsbThroughput

open Completion RigEvent

/-! ## Transfers in line -/

namespace Host

variable {ρ τ : Type} (dialect : Dialect ρ τ) {host : Host ρ τ}

/-- How many transfers in line are of a slot. -/
def inLine (host : Host ρ τ) (id : Nat) : Nat := (host.pending.map Prod.fst).count id

/-- What the next event call lists are transfers in line, each once. -/
def ListsInLine (host : Host ρ τ) : Prop :=
  ∀ deliveries ∈ (host.script.events.headD {}).deliveries,
    (deliveries.map Delivery.id).Nodup ∧ ∀ delivery ∈ deliveries, 0 < host.inLine delivery.id

instance (host : Host ρ τ) : Decidable host.ListsInLine :=
  inferInstanceAs (Decidable (∀ deliveries ∈ (_ : Option (List (Delivery τ))), _ ∧ _))

/-- The transfers whose cancellation is still to be acknowledged are in line. -/
structure Sensible (host : Host ρ τ) : Prop where
  distinct : host.cancelling.Nodup
  asked : ∀ id ∈ host.cancelling, 0 < host.inLine id
  silent : host.script.acknowledges = false → host.cancelling = []

private theorem inLine_pos {id : Nat} (pending : host.isPending id = true) :
    0 < host.inLine id := by
  obtain ⟨entry, member, same⟩ := List.any_eq_true.mp pending
  exact List.count_pos_iff.mpr (List.mem_map.mpr ⟨entry, member, eq_of_beq same⟩)

/-- A submission that is accepted puts one transfer in line, and one that is refused none. -/
private theorem submit_inLine (sensible : host.Sensible) (id length : Nat) :
    (host.submit dialect id length).2.Sensible ∧
      ∀ other, (host.submit dialect id length).2.inLine other = host.inLine other +
        if dialect.isAccepted (host.submit dialect id length).1 = true ∧ id = other then 1
        else 0 := by
  obtain ⟨rest, ⟨accepted, same⟩ | ⟨refused, same⟩⟩ := host.submit_cases dialect id length
  · have grown (other : Nat) : inLine { host with
        script := { host.script with submit := rest }
        pending := host.pending ++ [(id, length)] } other =
          host.inLine other + if id = other then 1 else 0 := by
      rw [inLine, List.map_append, List.count_append, List.map_singleton, List.count_singleton]
      simp only [beq_iff_eq]
      rfl
    rw [same, accepted]
    refine ⟨⟨sensible.distinct, fun other member => ?_, sensible.silent⟩, fun other => ?_⟩
    · rw [grown]
      exact Nat.lt_of_lt_of_le (sensible.asked other member) (Nat.le_add_right _ _)
    · rw [grown]
      simp only [true_and]
  · rw [same, refused]
    refine ⟨⟨sensible.distinct, sensible.asked, sensible.silent⟩, fun other => ?_⟩
    simp only [Bool.false_eq_true, false_and, if_false]
    rfl

/-- A cancellation puts nothing in line. -/
private theorem cancel_inLine (sensible : host.Sensible) (id : Nat) :
    (host.cancel dialect id).2.Sensible ∧
      ∀ other, (host.cancel dialect id).2.inLine other ≤ host.inLine other := by
  have fewer (other : Nat) : (host.cancel dialect id).2.inLine other ≤ host.inLine other :=
    ((host.cancel_frame dialect id).2.map Prod.fst).count_le other
  refine ⟨?_, fewer⟩
  unfold cancel
  rcases Script.next host.script.cancel with ⟨entry, rest⟩
  cases entry with
  | some result => exact ⟨sensible.distinct, sensible.asked, sensible.silent⟩
  | none =>
      dsimp only
      split
      · exact ⟨sensible.distinct, sensible.asked, sensible.silent⟩
      next pending =>
        split
        next silent =>
          -- Without acknowledgements nothing waits for one.
          have empty : host.cancelling = [] :=
            sensible.silent (by rwa [Bool.not_eq_true'] at silent)
          exact ⟨sensible.distinct, by rw [empty]; nofun, sensible.silent⟩
        next loud =>
          split
          · exact ⟨sensible.distinct, sensible.asked, sensible.silent⟩
          next fresh =>
            have here : host.isPending id = true := by
              rwa [Bool.not_eq_true', Bool.not_eq_false] at pending
            refine ⟨?_, ?_, fun silent => ?_⟩
            · refine List.nodup_append.mpr ⟨sensible.distinct, List.nodup_singleton id, ?_⟩
              rintro _ before _ last rfl
              rw [List.mem_singleton.mp last, ← List.contains_iff_mem] at before
              exact fresh before
            · exact List.forall_mem_append.mpr
                ⟨sensible.asked, List.forall_mem_singleton.mpr (inLine_pos here)⟩
            · exact absurd (Bool.not_eq_true' _ |>.mpr silent) loud

/-! ## What an event call hands over -/

/-- A listed transfer that is in line is taken out of it. -/
theorem inLine_retire (delivery : Delivery τ) (pending : 0 < host.inLine delivery.id) (id : Nat) :
    (if delivery.id = id then 1 else 0) + (host.retire delivery).inLine id = host.inLine id := by
  have erased : (host.retire delivery).pending.map Prod.fst =
      (host.pending.map Prod.fst).erase delivery.id := by
    rw [List.erase_eq_eraseP', List.eraseP_map]
    rfl
  rw [inLine, erased, List.count_erase]
  change 0 < (host.pending.map Prod.fst).count delivery.id at pending
  change _ = (host.pending.map Prod.fst).count id
  simp only [beq_iff_eq]
  split
  next same =>
    rw [same] at pending
    omega
  next => omega

/-- A host stays sensible when a transfer in line is retired. -/
theorem Sensible.retire (sensible : host.Sensible) (delivery : Delivery τ)
    (pending : 0 < host.inLine delivery.id) : (host.retire delivery).Sensible where
  distinct := sensible.distinct.filter _
  asked id member := by
    obtain ⟨before, other⟩ := List.mem_filter.mp member
    have different : delivery.id ≠ id := fun same => (bne_iff_ne.mp other) same.symm
    have still := host.inLine_retire delivery pending id
    rw [if_neg different, Nat.zero_add] at still
    rw [still]
    exact sensible.asked id before
  silent quiet := by
    have empty : host.cancelling = [] := sensible.silent quiet
    change host.cancelling.filter _ = []
    rw [empty]
    rfl

/-- Listed transfers that are in line, each once, are taken out of it. -/
theorem foldl_retire_inLine (deliveries : List (Delivery τ)) {host : Host ρ τ}
    (sensible : host.Sensible) (apart : (deliveries.map Delivery.id).Nodup)
    (pending : ∀ delivery ∈ deliveries, 0 < host.inLine delivery.id) :
    (deliveries.foldl retire host).Sensible ∧
      ∀ id, (deliveries.map Delivery.id).count id + (deliveries.foldl retire host).inLine id =
        host.inLine id := by
  induction deliveries generalizing host with
  | nil => exact ⟨sensible, fun id => Nat.zero_add _⟩
  | cons delivery rest ih =>
      obtain ⟨first, others⟩ := List.forall_mem_cons.mp pending
      rw [List.map_cons, List.nodup_cons] at apart
      have next := host.inLine_retire delivery first
      obtain ⟨kept, counted⟩ := ih (sensible.retire delivery first) apart.2 (by
        intro other member
        have different : delivery.id ≠ other.id := fun same =>
          apart.1 (same ▸ List.mem_map_of_mem member)
        have still := next other.id
        rw [if_neg different, Nat.zero_add] at still
        rw [still]
        exact others other member)
      refine ⟨kept, fun id => ?_⟩
      have rest := counted id
      have here := next id
      rw [List.map_cons, List.count_cons, List.foldl_cons]
      simp only [beq_iff_eq]
      omega

private theorem finishEach_inLine (entries : List (Nat × Nat)) (host : Host ρ τ) :
    (finishEach dialect entries host).1.map Delivery.id = entries.map Prod.fst ∧
      ∃ outcomes, (finishEach dialect entries host).2 =
        { host with script := { host.script with outcomes } } := by
  induction entries generalizing host with
  | nil => exact ⟨rfl, _, rfl⟩
  | cons entry rest ih =>
      obtain ⟨ids, outcomes, after⟩ := ih (host.finish dialect entry).2
      exact ⟨congrArg (entry.1 :: ·) ids, outcomes, after⟩

/-- Transfers that finish by themselves are taken out of the line. -/
theorem deliverInLine_inLine (sensible : host.Sensible) :
    (host.deliverInLine dialect).2.Sensible ∧
      ∀ id, ((host.deliverInLine dialect).1.map Delivery.id).count id +
        (host.deliverInLine dialect).2.inLine id ≤ host.inLine id := by
  unfold deliverInLine
  split
  next none =>
    obtain ⟨ids, outcomes, after⟩ := finishEach_inLine dialect
      (host.pending.take host.script.batch)
      { host with pending := host.pending.drop host.script.batch }
    dsimp only
    rw [ids, after]
    refine ⟨⟨sensible.distinct, ?_, sensible.silent⟩, fun id => ?_⟩
    · rw [List.isEmpty_iff.mp none]
      nofun
    · change _ + (List.map Prod.fst (List.drop _ _)).count id ≤ _
      rw [← List.count_append, ← List.map_append, List.take_append_drop]
      exact Nat.le_refl _
  · refine ⟨⟨.nil, nofun, fun _ => rfl⟩, fun id => ?_⟩
    rw [List.map_map]
    change (host.cancelling.map fun id => id).count id +
      ((host.pending.filter fun entry => !host.cancelling.contains entry.1).map Prod.fst).count id ≤
        host.inLine id
    rw [List.map_id']
    by_cases member : id ∈ host.cancelling
    · have none : ((host.pending.filter fun entry =>
          !host.cancelling.contains entry.1).map Prod.fst).count id = 0 := by
        refine List.count_eq_zero_of_not_mem fun left => ?_
        obtain ⟨entry, among, rfl⟩ := List.mem_map.mp left
        have other := (List.mem_filter.mp among).2
        rw [Bool.not_eq_true', List.contains_eq_mem, decide_eq_false_iff_not] at other
        exact other member
      rw [none, List.count_eq_one_of_mem sensible.distinct member]
      exact sensible.asked id member
    · rw [List.count_eq_zero_of_not_mem member, Nat.zero_add]
      exact (List.filter_sublist.map Prod.fst).count_le id

/-- **What an event call hands over is taken out of the line**, as long as what is listed is in
it. -/
theorem inLine_handleEvents (sensible : host.Sensible) (listed : host.ListsInLine)
    (timeout : Duration) :
    (host.handleEvents dialect timeout).2.Sensible ∧
      ∀ id, ((host.handleEvents dialect timeout).1.1.map Delivery.id).count id +
        (host.handleEvents dialect timeout).2.inLine id ≤ host.inLine id := by
  obtain ⟨clock, handles⟩ := host.handleEvents_eq dialect timeout
  rw [handles]
  split
  · exact ⟨⟨sensible.distinct, sensible.asked, sensible.silent⟩,
      fun id => Nat.le_of_eq (Nat.zero_add _)⟩
  · have called : Sensible { host with
        script := { host.script with events := host.script.events.tail }
        eventCalls := host.eventCalls + 1
        clock } := ⟨sensible.distinct, sensible.asked, sensible.silent⟩
    unfold Host.answer
    unfold ListsInLine at listed
    cases entry : (host.script.events.headD {}).deliveries with
    | none => exact deliverInLine_inLine dialect called
    | some deliveries =>
        obtain ⟨apart, pending⟩ := listed deliveries entry
        obtain ⟨kept, counted⟩ := foldl_retire_inLine deliveries called apart pending
        exact ⟨kept, fun id => Nat.le_of_eq (counted id)⟩

end Host

/-! ## Faithful devices -/

namespace ScriptedDevice

/-- The state that the last of some entries left behind, on a device that was in another one before
them. -/
def lastOf (device : ScriptedDevice) (entries : List (RigEvent × ScriptedDevice)) :
    ScriptedDevice :=
  (entries.getLast?.map Prod.snd).getD device

/-- A call for completions is made, after other entries, of a host that lists transfers in line. -/
def ListsInLine (device : ScriptedDevice) (before : List (RigEvent × ScriptedDevice)) :
    RigEvent × ScriptedDevice → Prop
  | (.polled _ _, _) => (device.lastOf before).host.ListsInLine
  | _ => True

instance (device : ScriptedDevice) (before : List (RigEvent × ScriptedDevice)) :
    (entry : RigEvent × ScriptedDevice) → Decidable (device.ListsInLine before entry)
  | (.polled _ _, _) => inferInstanceAs (Decidable (device.lastOf before).host.ListsInLine)
  | (.connected _ _, _) | (.submitted _ _, _) | (.cancelled _ _, _) | (.wrote _ _ _ _, _)
  | (.haltCleared _ _, _) | (.disconnected, _) | (.noted _, _) => .isTrue trivial

/-- A device that has handed over no more than it took, up to what is in line. -/
structure Owes (history : List RigEvent) (device : ScriptedDevice) : Prop where
  sensible : device.host.Sensible
  faithful : Faithful history
  balanced : ∀ id,
    countFor (delivered history) id + device.host.inLine id ≤ accepted history id

variable {history : List RigEvent} {device later : ScriptedDevice}

/-- An event leaves a device with what it owes, if it hands over no more than is in line. -/
theorem Owes.concat {event : RigEvent} (owes : Owes history device)
    (sensible : later.host.Sensible)
    (step : ∀ id, countFor event.handedOver id + later.host.inLine id ≤
      device.host.inLine id + if event.accepts id then 1 else 0) :
    Owes (history ++ [event]) later := by
  have balanced (id : Nat) : countFor (delivered (history ++ [event])) id + later.host.inLine id ≤
      accepted (history ++ [event]) id := by
    have before := owes.balanced id
    have now := step id
    rw [delivered_append, delivered_singleton, countFor_append, accepted_append,
      accepted_singleton]
    omega
  refine ⟨sensible, faithful_concat.mpr ⟨owes.faithful, fun id => ?_⟩, balanced⟩
  exact Nat.le_trans (Nat.le_add_right _ _) (balanced id)

/-- A call that hands nothing over and leaves the host as it is, but for answers and the time. -/
theorem Owes.call {event : RigEvent} (owes : Owes history device)
    (pending : later.host.pending = device.host.pending)
    (cancelling : later.host.cancelling = device.host.cancelling)
    (acknowledges : later.host.script.acknowledges = device.host.script.acknowledges)
    (empty : event.handedOver = []) : Owes (history ++ [event]) later := by
  have same (id : Nat) : later.host.inLine id = device.host.inLine id := by
    rw [Host.inLine, pending]
    rfl
  refine owes.concat ⟨cancelling ▸ owes.sensible.distinct, fun id member => ?_, fun quiet => ?_⟩
    fun id => ?_
  · rw [same]
    exact owes.sensible.asked id (cancelling ▸ member)
  · rw [cancelling]
    exact owes.sensible.silent (acknowledges ▸ quiet)
  · rw [empty, same]
    exact Nat.le_trans (Nat.le_of_eq (Nat.zero_add _)) (Nat.le_add_right _ _)

/-! ## Calls on a device -/

/-- As long as a device lists only transfers in line, it owes no completion, and it is as it was
left but for the time. -/
def Honest (device : ScriptedDevice) (journal : Journal RigEvent ScriptedDevice) : Prop :=
  Journal.Throughout device.ListsInLine journal.entries.reverse →
    Owes journal.history journal.state ∧
      ∃ clock, (device.lastOf journal.entries.reverse).host = { journal.state.host with clock }

/-- What a call that is written down has to do to keep a device honest. -/
theorem Honest.record {journal later : Journal RigEvent ScriptedDevice} {event : RigEvent}
    (honest : device.Honest journal)
    (entries : later.entries = (event, later.state) :: journal.entries)
    (step : Owes journal.history journal.state →
      ((∃ timeout answer, event = .polled timeout answer) → journal.state.host.ListsInLine) →
      Owes (journal.history ++ [event]) later.state) : device.Honest later := by
  intro listed
  have history : later.history = journal.history ++ [event] := by
    rw [Journal.history, entries]
    exact List.reverse_cons
  rw [entries, List.reverse_cons, Journal.throughout_concat] at listed
  obtain ⟨owes, clock, same⟩ := honest listed.1
  rw [history]
  refine ⟨step owes ?_, later.state.host.clock, ?_⟩
  · rintro ⟨timeout, answer, rfl⟩
    have inLine : (device.lastOf journal.entries.reverse).host.ListsInLine := listed.2
    rw [same] at inLine
    exact inLine
  · rw [entries, List.reverse_cons, lastOf, List.getLast?_concat]
    rfl

/-- **A scripted device stays honest** at every call. -/
private theorem keeps_honest (device : ScriptedDevice) : rig.journaled.Keeps device.Honest where
  connect target journal honest := by
    have same : (rig.connect target journal.state).2 = journal.state := by
      unfold rig
      dsimp only
      split <;> rfl
    refine honest.record rfl fun owes _ => ?_
    change Owes _ (rig.connect target journal.state).2
    rw [same]
    exact owes.call rfl rfl rfl rfl
  submit slot journal honest := honest.record rfl fun owes _ => by
    obtain ⟨sensible, grown⟩ := Host.submit_inLine .named owes.sensible slot.id slot.length
    refine owes.concat sensible fun id => ?_
    have taken : RigEvent.accepts id (.submitted slot (rig.submit slot journal.state).1) = true ↔
        Dialect.named.isAccepted (journal.state.host.submit .named slot.id slot.length).1 = true ∧
          slot.id = id := by
      change RigEvent.accepts id (.submitted slot
        (journal.state.host.submit .named slot.id slot.length).1) = true ↔ _
      cases (journal.state.host.submit .named slot.id slot.length).1 <;>
        simp [RigEvent.accepts, Dialect.named, Except.isOk, Except.toBool]
    refine Nat.le_of_eq ((Nat.zero_add _).trans ((grown id).trans ?_))
    exact congrArg _ (if_congr taken.symm rfl rfl)
  cancel slot journal honest := honest.record rfl fun owes _ => by
    obtain ⟨sensible, fewer⟩ := Host.cancel_inLine .named owes.sensible slot.id
    refine owes.concat sensible fun id => ?_
    exact Nat.le_trans (Nat.le_of_eq (Nat.zero_add _))
      (Nat.le_trans (fewer id) (Nat.le_add_right _ _))
  poll timeout journal honest := honest.record rfl fun owes listed => by
    obtain ⟨sensible, handed⟩ :=
      Host.inLine_handleEvents .named owes.sensible (listed ⟨_, _, rfl⟩) timeout
    refine owes.concat sensible fun id => ?_
    have counted : countFor (rig.poll timeout journal.state).1.delivered id =
        ((journal.state.host.handleEvents .named timeout).1.1.map Delivery.id).count id := by
      rw [countFor_eq_count]
      change (((journal.state.host.handleEvents .named timeout).1.1.map completionOf).map
        Completion.slot).count id = _
      rw [List.map_map]
      rfl
    exact Nat.le_trans (Nat.le_of_eq (congrArg (· + _) counted))
      (Nat.le_trans (handed id) (Nat.le_add_right _ _))
  write _ _ _ _ honest := honest.record rfl fun owes _ => owes.call rfl rfl rfl rfl
  clearHalt _ _ honest := honest.record rfl fun owes _ => owes.call rfl rfl rfl rfl
  disconnect _ honest := honest.record rfl fun owes _ => owes.call rfl rfl rfl rfl
  now journal honest listed := by
    obtain ⟨owes, clock, same⟩ := honest listed
    refine ⟨⟨⟨owes.sensible.distinct, owes.sensible.asked, owes.sensible.silent⟩, owes.faithful,
      owes.balanced⟩, clock, same.trans rfl⟩
  note _ _ honest := honest.record rfl fun owes _ => owes.call rfl rfl rfl rfl

/-- A script without answers to event calls lists nothing. -/
theorem listsInLine_of_unlisted {entries : List (RigEvent × ScriptedDevice)}
    (none : device.host.script.events = [])
    (unlisted : ∀ entry ∈ entries, entry.2.host.script.events = []) :
    Journal.Throughout device.ListsInLine entries := by
  rintro before ⟨event, after⟩ rest split
  have empty : (device.lastOf before).host.script.events = [] := by
    unfold lastOf
    cases last : before.getLast? with
    | none => exact none
    | some entry =>
        refine unlisted entry ?_
        rw [split]
        exact List.mem_append_left _ (List.mem_of_getLast? last)
  cases event with
  | polled timeout answer =>
      intro deliveries listed
      rw [empty] at listed
      contradiction
  | _ => trivial

end ScriptedDevice

/-- **A scripted device is faithful** if nothing is in line before the test, and if the transfers
that its script lists are in line when they are handed over, each once. -/
theorem Benchmark.faithful_of_listsInLine (benchmark : Benchmark) (limit : Nat)
    (device : ScriptedDevice) (unused : device.host.pending = [])
    (unasked : device.host.cancelling = [])
    (listed : Journal.Throughout device.ListsInLine (benchmark.run
      ScriptedDevice.rig.journaled limit { state := device }).2.entries.reverse) :
    Faithful (benchmark.run ScriptedDevice.rig.journaled limit { state := device }).2.history := by
  have begun : device.Honest { state := device } := by
    intro _
    refine ⟨⟨⟨unasked ▸ .nil, unasked ▸ nofun, fun _ => unasked⟩, fun earlier before id => ?_,
      fun id => ?_⟩, _, rfl⟩
    · rw [List.prefix_nil.mp before]
      exact Nat.le_refl 0
    · rw [Host.inLine, unused]
      exact Nat.le_refl 0
  exact (benchmark.keeps_run device.keeps_honest limit _ begun listed).1.faithful

end UsbThroughput
