import UsbThroughput.Proofs.Benchmark.Sustained
import UsbThroughput.Proofs.Session.Teardown
import UsbThroughput.Proofs.Stack.Visits

/-!
# The visits of a session

While its device is open, a session does nothing on the stack but work with the device, and knows
the transfers that it has allocated (`Session.AtWork`). So what a benchmark does on a stack is one
visit to a device at most, and visits that follow each other use different transfers
(`Session.Pays`).
-/

namespace UsbThroughput

open StackEvent

namespace Session

variable {β : Type} {before : List StackEvent} {first : Nat} {interface : UInt8}
  {session last : Session (Journal StackEvent β)}

/-- A session with an open device: what was done on the stack since is work with the device, and
the transfers are those that were allocated by it. -/
structure AtWork (before : List StackEvent) (first : Nat) (interface : UInt8)
    (session : Session (Journal StackEvent β)) : Prop where
  grown : ∃ work, session.stackState.history = before ++ work ∧
    (∀ event ∈ work, event.isCall = true → event.isWork = true) ∧
    (∀ number, Allocated work number → first ≤ number) ∧
    Bindings work session.transfers session.nextNumber
  first_le : first ≤ session.nextNumber
  interface_eq : session.interface = interface

/-- Work with the device that allocates nothing. -/
theorem AtWork.then_event (atWork : session.AtWork before first interface) {event : StackEvent}
    (grown : last.stackState.history = session.stackState.history ++ [event])
    (works : event.isCall = true → event.isWork = true) (none : event.allocation? = none)
    (transfers : last.transfers = session.transfers)
    (nextNumber : last.nextNumber = session.nextNumber)
    (same : last.interface = session.interface) : last.AtWork before first interface := by
  obtain ⟨work, history, each, fresh, bindings⟩ := atWork.grown
  have unallocated : ∀ number, ¬Allocated [event] number := by
    intro number allocated
    rw [allocated_singleton, none] at allocated
    contradiction
  refine ⟨⟨work ++ [event], ?_, ?_, fun number allocated => ?_, ?_⟩, ?_, ?_⟩
  · rw [grown, history, List.append_assoc]
  · exact List.forall_mem_append.mpr ⟨each, List.forall_mem_singleton.mpr works⟩
  · exact fresh number (((allocated_append ..).mp allocated).resolve_right (unallocated number))
  · rw [transfers, nextNumber]
    exact bindings.of_unallocated unallocated
  · exact nextNumber ▸ atWork.first_le
  · exact same.trans atWork.interface_eq

variable (stack : Stack β)

/-- A session stays at work when it obtains a transfer. -/
theorem AtWork.obtainTransfer (atWork : session.AtWork before first interface) (slot : Nat) :
    (session.obtainTransfer stack.journaled slot).2.AtWork before first interface ∧
      ∀ transfer, (session.obtainTransfer stack.journaled slot).1 = .ok transfer →
        transfer ∈ (session.obtainTransfer stack.journaled slot).2.transfers := by
  have written := stack.history_allocate session.stackState session.nextNumber
  rcases obtainTransfer_cases stack.journaled slot session with
    ⟨transfer, found, same⟩ | ⟨absent, failed, same⟩ | ⟨absent, allocated, same⟩
  · rw [same]
    refine ⟨atWork, ?_⟩
    rintro _ ⟨⟩
    exact (mem_of_transfer found).1
  · rw [failed] at written
    rw [same]
    exact ⟨atWork.then_event written (fun _ => rfl) rfl rfl rfl rfl, nofun⟩
  · rw [allocated] at written
    rw [same]
    obtain ⟨work, history, each, fresh, bindings⟩ := atWork.grown
    refine ⟨⟨⟨work ++ [.allocated session.nextNumber true], ?_, ?_, fun number among => ?_, ?_⟩,
      Nat.le_succ_of_le atWork.first_le, atWork.interface_eq⟩, ?_⟩
    · rw [written, history, List.append_assoc]
    · exact List.forall_mem_append.mpr ⟨each, List.forall_mem_singleton.mpr fun _ => rfl⟩
    · rcases (allocated_append ..).mp among with earlier | now
      · exact fresh number earlier
      · rw [allocated_singleton] at now
        exact Option.some.inj now ▸ atWork.first_le
    · exact bindings.allocate (slot_ne_of_transfer absent)
    · rintro _ ⟨⟩
      exact (mem_insertTransfer bindings.inOrder).mpr (Or.inl rfl)

/-- Transfers may be marked and unmarked. -/
theorem AtWork.map (atWork : session.AtWork before first interface) {change : Transfer → Transfer}
    (slots : ∀ transfer, (change transfer).slot = transfer.slot)
    (numbers : ∀ transfer, (change transfer).number = transfer.number)
    (history : last.stackState.history = session.stackState.history)
    (transfers : last.transfers = session.transfers.map change)
    (nextNumber : last.nextNumber = session.nextNumber)
    (same : last.interface = session.interface) : last.AtWork before first interface := by
  obtain ⟨work, grown, each, fresh, bindings⟩ := atWork.grown
  refine ⟨⟨work, history.trans grown, each, fresh, ?_⟩, nextNumber ▸ atWork.first_le,
    same.trans atWork.interface_eq⟩
  rw [transfers, nextNumber]
  exact bindings.map slots numbers

/-- A session stays at work when it submits a slot. -/
theorem AtWork.submit (atWork : session.AtWork before first interface) (slot : Slot) :
    (session.submit stack.journaled slot).2.AtWork before first interface := by
  obtain ⟨supplied, obtains⟩ := atWork.obtainTransfer stack slot.id
  rcases submit_cases stack.journaled slot session with
    ⟨_, same⟩ | ⟨_, _, same⟩ | ⟨transfer, obtained, found, ends⟩
  · rw [same]
    exact ⟨atWork.grown, atWork.first_le, atWork.interface_eq⟩
  · rw [same]
    exact supplied
  · have written := stack.history_submit obtained.stackState (request transfer slot)
    rw [found] at supplied obtains
    have submitted : AtWork before first interface { obtained with
        stackState :=
          (stack.journaled.submit (request transfer slot) obtained.stackState).2 } :=
      supplied.then_event written (fun _ => rfl) rfl rfl rfl rfl
    rcases ends with same | ⟨_, _, same⟩ | ⟨_, same⟩
    · rw [same]
      exact supplied
    · rw [same]
      exact submitted
    · obtain ⟨_, _, _, _, bindings⟩ := supplied.grown
      rw [same, insertTransfer_mark bindings.inOrder (obtains transfer rfl)]
      exact submitted.map (slot_mark transfer.slot) (number_mark transfer.slot) rfl rfl rfl rfl

/-- A session stays at work when it handles events. -/
theorem AtWork.handleEvents (atWork : session.AtWork before first interface)
    (timeout : Duration) :
    (session.handleEvents stack.journaled timeout).2.AtWork before first interface :=
  atWork.then_event (stack.history_handleEvents session.stackState _) (fun _ => rfl) rfl rfl rfl rfl

/-- A session stays at work when it hands over what waits. -/
theorem AtWork.takeArrivals (atWork : session.AtWork before first interface) :
    session.takeArrivals.2.AtWork before first interface :=
  atWork.map (slot_unmark session.arrivals) (number_unmark session.arrivals) rfl rfl rfl rfl

/-- **A session stays at work** until its device is closed. -/
theorem sustains_atWork (before : List StackEvent) (first : Nat) (interface : UInt8) :
    (Session.rig stack.journaled).Sustains (AtWork before first interface) where
  submit slot session atWork := atWork.submit stack slot
  cancel slot session atWork := by
    change (session.cancel stack.journaled slot).2.AtWork before first interface
    unfold cancel
    split
    · exact atWork
    next transfer _ =>
      split
      · exact atWork.then_event (stack.history_cancel session.stackState transfer.number)
          (fun _ => rfl) rfl rfl rfl rfl
      · exact atWork
  poll timeout session atWork := by
    change (session.poll stack.journaled timeout).2.AtWork before first interface
    have handled := atWork.handleEvents stack timeout
    rcases poll_cases stack.journaled timeout session with same | ⟨_, same⟩ | same
    · rw [same]
      exact atWork.takeArrivals
    · rw [same]
      exact handled
    · rw [same]
      exact handled.takeArrivals
  write endpoint data timeout session atWork := by
    change (session.write stack.journaled endpoint data timeout).2.AtWork before first interface
    rw [session_write]
    split
    · exact atWork
    · exact atWork.then_event (stack.history_write session.stackState endpoint data _)
        (fun _ => rfl) rfl rfl rfl rfl
  clearHalt endpoint session atWork :=
    atWork.then_event (stack.history_clearHalt session.stackState endpoint) (fun _ => rfl) rfl rfl
      rfl rfl
  now session atWork := ⟨atWork.grown, atWork.first_le, atWork.interface_eq⟩
  note notice session atWork :=
    atWork.then_event (stack.history_note session.stackState notice) (fun call => nomatch call) rfl
      rfl rfl rfl

/-! ## Closing the device -/

/-- Only the code zero is no error. -/
theorem code_of_ok {code : Int} (fine : UsbResult.ofCode code = .ok ()) : code = 0 := by
  unfold UsbResult.ofCode at fine
  split at fine
  next zero => exact zero
  · contradiction

/-- An error comes from a code other than zero. -/
theorem code_of_error {code : Int} {error : UsbError}
    (failed : UsbResult.ofCode code = .error error) : code ≠ 0 := by
  rintro rfl
  contradiction

/-- The interface is released once, or twice. -/
theorem calls_releaseInterface (session : Session (Journal StackEvent β)) :
    ∃ releases, Releases session.interface releases ∧
      calls (session.releaseInterface stack.journaled).stackState.history =
        calls session.stackState.history ++ releases := by
  have released := stack.history_release session.stackState session.interface
  have wrote := congrArg calls released
  rw [calls_concat_of_call _ rfl] at wrote
  unfold releaseInterface
  dsimp only
  split
  next fine =>
    rw [code_of_ok fine] at wrote
    exact ⟨_, .once, wrote⟩
  next error failed =>
    have again := congrArg calls (stack.history_release
      (stack.journaled.note (.releaseFailed session.interface error)
        (stack.journaled.release session.interface session.stackState).2) session.interface)
    rw [calls_concat_of_call _ rfl, stack.history_note, calls_concat_of_aside _ rfl, wrote,
      List.append_assoc] at again
    exact ⟨_, .twice _ _ (code_of_error failed), again⟩

/-- The transfers that are freed when the device is closed. -/
def idleNumbers (transfers : List Transfer) : List Nat :=
  (transfers.filter fun transfer => !transfer.inFlight).map Transfer.number

private theorem calls_farewells (transfers : List Transfer) :
    calls (transfers.map farewell) = (idleNumbers transfers).map .freed := by
  induction transfers with
  | nil => rfl
  | cons first rest ih =>
      rw [List.map_cons, ← List.singleton_append, calls_append, ih, idleNumbers, idleNumbers,
        farewell]
      cases flying : first.inFlight with
      | true => rw [List.filter_cons_of_neg (by rw [flying]; decide)]; rfl
      | false => rw [List.filter_cons_of_pos (by rw [flying]; decide)]; rfl

/-- **The calls from the opening of a device to its closing** are those of a visit. -/
theorem AtWork.visit (atWork : session.AtWork before first interface) (vendor product : UInt16) :
    ∃ visit, Visit ([.opened vendor product true, .claimed interface 0] ++ visit) ∧
      calls (session.disconnect stack.journaled).stackState.history = calls before ++ visit := by
  obtain ⟨work, grown, each, fresh, bindings⟩ := atWork.grown
  obtain ⟨releases, released, wrote⟩ := calls_releaseInterface stack
    { session with
      stackState := dropTransfers stack.journaled session.transfers session.stackState }
  refine ⟨calls work ++ (idleNumbers session.transfers).map .freed ++ releases ++ [.closed], ?_, ?_⟩
  · have visit := Visit.used vendor product interface (calls work) (idleNumbers session.transfers)
      releases (fun call member => ?_) (fun number member => ?_) ?_ ?_
    · simpa only [List.append_assoc] using visit
    · exact each call (List.mem_of_mem_filter member) (List.mem_filter.mp member).2
    · obtain ⟨transfer, among, rfl⟩ := List.mem_map.mp member
      rw [allocated_calls]
      exact bindings.present (List.mem_of_mem_filter among)
    · exact bindings.nodup.sublist (List.filter_sublist.map _)
    · exact atWork.interface_eq ▸ released
  · unfold disconnect
    dsimp only
    rw [stack.history_close, calls_concat_of_call _ rfl, wrote, history_dropTransfers, grown,
      calls_append, calls_append, calls_farewells]
    simp only [List.append_assoc]

private theorem nextNumber_disconnect (session : Session (Journal StackEvent β)) :
    (session.disconnect stack.journaled).nextNumber = session.nextNumber :=
  (untouched_releaseInterface stack { session with
    stackState := dropTransfers stack.journaled session.transfers session.stackState }).nextNumber

/-- When a device is closed, only transfers that were allocated since its opening are freed, and
none of them twice. -/
theorem AtWork.freedCount_disconnect (atWork : session.AtWork before first interface)
    (number : Nat) :
    freedCount (session.disconnect stack.journaled).stackState.history number ≤
      freedCount before number + if first ≤ number ∧ number < session.nextNumber then 1 else 0 := by
  obtain ⟨work, grown, each, fresh, bindings⟩ := atWork.grown
  obtain ⟨events, written, quiet⟩ := history_disconnect stack session
  rw [written, grown, freedCount_append, freedCount_append, freedCount_append,
    freedCount_of_works each, (quiet_counts quiet number).2.2.1, Nat.add_zero, Nat.add_zero]
  refine Nat.add_le_add_left ?_ _
  by_cases known : number ∈ session.transfers.map Transfer.number
  · obtain ⟨transfer, member, rfl⟩ := List.mem_map.mp known
    have within : first ≤ transfer.number ∧ transfer.number < session.nextNumber :=
      ⟨fresh _ (bindings.present member), bindings.below transfer member⟩
    rw [freedCount_farewells bindings.nodup member, if_pos within]
    split
    · exact Nat.zero_le _
    · exact Nat.le_refl _
  · rw [freedCount_farewells_of_notMem known]
    exact Nat.zero_le _

/-! ## One visit after the other -/

/-- What is done on the stack from one session to another is so many visits at most. The transfers
that they free were allocated by them. -/
structure Pays (most : Nat) (session last : Session (Journal StackEvent β)) : Prop where
  visits : ∃ visits : List (List StackEvent), visits.length ≤ most ∧
    (∀ visit ∈ visits, Visit visit) ∧
    calls last.stackState.history = calls session.stackState.history ++ visits.flatten
  frees : ∀ number, freedCount last.stackState.history number ≤
    freedCount session.stackState.history number +
      if session.nextNumber ≤ number ∧ number < last.nextNumber then 1 else 0
  nextNumber_le : session.nextNumber ≤ last.nextNumber

variable {middle : Session (Journal StackEvent β)} {most more : Nat}

theorem Pays.refl (most : Nat) (session : Session (Journal StackEvent β)) :
    session.Pays most session where
  visits := ⟨[], Nat.zero_le most, List.forall_mem_nil _, (List.append_nil _).symm⟩
  frees _ := Nat.le_add_right ..
  nextNumber_le := Nat.le_refl _

/-- An entry in the log or a pause is no visit. -/
theorem Pays.of_aside {event : StackEvent}
    (grown : last.stackState.history = session.stackState.history ++ [event])
    (aside : event.isCall = false) (same : last.nextNumber = session.nextNumber) :
    session.Pays 0 last where
  visits := ⟨[], Nat.le_refl 0, List.forall_mem_nil _, by
    rw [grown, calls_concat_of_aside _ aside, List.flatten_nil, List.append_nil]⟩
  frees number := by
    have none : freedCount [event] number = 0 :=
      freedCount_of_works (List.forall_mem_singleton.mpr fun call =>
        absurd (aside.symm.trans call) Bool.false_ne_true) number
    rw [grown, freedCount_append, none]
    exact Nat.le_add_right ..
  nextNumber_le := Nat.le_of_eq same.symm

/-- Writing a notice is no visit. -/
theorem pays_note (notice : Notice) : session.Pays 0 (session.note stack.journaled notice) :=
  .of_aside (stack.history_note session.stackState notice) rfl rfl

/-- One visit. -/
theorem Pays.of_visit {visit : List StackEvent} (pays : Visit visit)
    (grown : calls last.stackState.history = calls session.stackState.history ++ visit)
    (frees : ∀ number, freedCount last.stackState.history number ≤
      freedCount session.stackState.history number +
        if session.nextNumber ≤ number ∧ number < last.nextNumber then 1 else 0)
    (nextNumber_le : session.nextNumber ≤ last.nextNumber) : session.Pays 1 last where
  visits := ⟨[visit], Nat.le_refl 1, List.forall_mem_singleton.mpr pays, by
    rw [grown, List.flatten_singleton]⟩
  frees := frees
  nextNumber_le := nextNumber_le

/-- So many visits at most are no more than any higher number. -/
theorem Pays.mono (pays : session.Pays most last) (fewer : most ≤ more) :
    session.Pays more last where
  visits := pays.visits.imp fun _ ⟨few, rest⟩ => ⟨few.trans fewer, rest⟩
  frees := pays.frees
  nextNumber_le := pays.nextNumber_le

theorem Pays.trans (first : session.Pays most middle) (second : middle.Pays more last) :
    session.Pays (most + more) last where
  visits := by
    obtain ⟨visits, few, each, grown⟩ := first.visits
    obtain ⟨others, fewer, all, same⟩ := second.visits
    refine ⟨visits ++ others, ?_, List.forall_mem_append.mpr ⟨each, all⟩, ?_⟩
    · rw [List.length_append]
      exact Nat.add_le_add few fewer
    · rw [same, grown, List.flatten_append, List.append_assoc]
  frees number := by
    have before := first.frees number
    have after := second.frees number
    have order := first.nextNumber_le
    have later := second.nextNumber_le
    split at before <;> split at after <;> split <;> omega
  nextNumber_le := first.nextNumber_le.trans second.nextNumber_le

/-- **A device that cannot be opened is not kept open**, and one that is open is at work. -/
theorem connect_cases (target : Target) (session : Session (Journal StackEvent β)) :
    (∃ error, (session.connect stack.journaled target).1 = .error error ∧
      session.Pays 1 (session.connect stack.journaled target).2) ∨
    (session.connect stack.journaled target).1 = .ok () ∧
      (session.connect stack.journaled target).2.AtWork
        (session.stackState.history ++
          [.opened target.vendor target.product true, .claimed target.interface 0])
        session.nextNumber target.interface := by
  have opening := stack.history_openDevice session.stackState target.vendor target.product
  unfold connect
  rcases opened : stack.journaled.openDevice target.vendor target.product session.stackState with
    ⟨found, device⟩
  rw [opened] at opening
  cases found with
  | false =>
      refine Or.inl ⟨_, rfl, .of_visit (.notFound target.vendor target.product) ?_ ?_ ?_⟩
      · rw [opening, calls_concat_of_call _ rfl]
      · intro number
        rw [opening, freedCount_append]
        exact Nat.le_add_right ..
      · exact Nat.le_refl _
  | true =>
      have claiming := stack.history_claim device target.interface
      rw [opening, List.append_assoc] at claiming
      dsimp only
      split
      next cause failed =>
        refine Or.inl ⟨_, rfl, .of_visit (.notClaimed target.vendor target.product target.interface
          _ (code_of_error failed)) ?_ ?_ ?_⟩
        · rw [stack.history_close, claiming, calls_concat_of_call _ rfl, calls_append,
            List.append_assoc]
          rfl
        · intro number
          rw [stack.history_close, claiming, freedCount_append, freedCount_append]
          exact Nat.le_add_right ..
        · exact Nat.le_refl _
      next fine =>
        refine Or.inr ⟨rfl, ⟨⟨[.noted (.opened target.vendor target.product target.interface)],
          ?_, ?_, ?_, ?_⟩, Nat.le_refl _, rfl⟩⟩
        · change (stack.journaled.note _ _).history = _
          rw [stack.history_note, claiming, code_of_ok fine]
          rfl
        · exact List.forall_mem_singleton.mpr fun call => nomatch call
        · intro number allocated
          rw [allocated_singleton] at allocated
          contradiction
        · refine ⟨.nil, List.forall_mem_nil _, List.forall_mem_nil _, fun number => ?_⟩
          rw [allocated_singleton]
          exact ⟨nofun, fun ⟨_, member, _⟩ => absurd member List.not_mem_nil⟩

end Session

namespace Benchmark

variable {β : Type} (stack : Stack β) (benchmark : Benchmark) {limit : Nat}

/-- The same for a benchmark, which looks at its settings first. -/
theorem connect_cases (session : Session (Journal StackEvent β)) :
    (∃ error, (benchmark.connect (Session.rig stack.journaled) session).1 = .error error ∧
      session.Pays 1 (benchmark.connect (Session.rig stack.journaled) session).2) ∨
    (benchmark.connect (Session.rig stack.journaled) session).1 = .ok () ∧
      (benchmark.connect (Session.rig stack.journaled) session).2.AtWork
        (session.stackState.history ++
          [.opened benchmark.settings.target.vendor benchmark.settings.target.product true,
            .claimed benchmark.settings.target.interface 0])
        session.nextNumber benchmark.settings.target.interface := by
  cases valid : benchmark.settings.validate with
  | error error =>
      have same : benchmark.connect (Session.rig stack.journaled) session =
          (.error error, session) := by
        unfold connect
        rw [valid]
      rw [same]
      exact Or.inl ⟨error, rfl, .refl 1 session⟩
  | ok _ =>
      rw [connect_of_valid valid]
      exact Session.connect_cases stack benchmark.settings.target session

/-- **A benchmark pays one visit at most**, unless it is cut short. -/
theorem pays_run {session : Session (Journal StackEvent β)}
    (done : (benchmark.run (Session.rig stack.journaled) limit session).1.1 ≠ .unfinished) :
    session.Pays 1 (benchmark.run (Session.rig stack.journaled) limit session).2 := by
  by_cases idle : benchmark.phase = .idle
  · rcases benchmark.connect_cases stack session with ⟨error, refused, pays⟩ | ⟨connected, atWork⟩
    · rw [benchmark.run_of_refused _ idle refused]
      exact pays
    · rw [benchmark.run_of_connected _ idle connected] at done ⊢
      obtain ⟨parting, parted, closed⟩ := benchmark.parting_sustained
        (Session.sustains_atWork stack _ _ _) atWork (isOver_of_finished done)
      obtain ⟨visit, visited, calls⟩ := parted.visit stack benchmark.settings.target.vendor
        benchmark.settings.target.product
      have counted := Session.nextNumber_disconnect stack parting
      rw [calls_append, List.append_assoc] at calls
      rw [closed]
      refine .of_visit visited calls (fun number => ?_) (parted.first_le.trans counted.ge)
      have freed := parted.freedCount_disconnect stack number
      rw [freedCount_append, ← counted] at freed
      exact freed
  · unfold run
    rw [if_pos idle]
    exact .refl 1 session

end Benchmark

end UsbThroughput
