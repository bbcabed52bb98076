import UsbThroughput.Proofs.Script.Pending

/-!
# One script in two dialects

A script of return codes and status codes says the same in results and statuses (`Script.named`).
A host with a script of codes is echoed by one with the same script in the other dialect and with
the same transfers, at any time (`Host.Echo`). The two answer the calls of a test alike.
-/

namespace UsbThroughput

/-- A delivery with its status read. -/
def Delivery.named (delivery : Delivery Int) : Delivery TransferStatus where
  id := delivery.id
  status := .ofCode delivery.status
  length := delivery.length

/-- An end with its status read. -/
def Outcome.named (outcome : Outcome Int) : Outcome TransferStatus where
  status := .ofCode outcome.status
  length := outcome.length

/-- The answer to an event call with its codes read. -/
def EventEntry.named (entry : EventEntry Int Int) : EventEntry (UsbResult Unit) TransferStatus where
  deliveries := entry.deliveries.map (List.map Delivery.named)
  result := entry.result.map UsbResult.ofCode
  sleeps := entry.sleeps

/-- Listed answers with their codes read. -/
def namedAnswers (answers : List (Option Int)) : List (Option (UsbResult Unit)) :=
  answers.map (Option.map UsbResult.ofCode)

/-- A script of codes in results and statuses. -/
def Script.named (script : Script Int Int) : Script (UsbResult Unit) TransferStatus where
  submit := namedAnswers script.submit
  cancel := namedAnswers script.cancel
  clearHalt := namedAnswers script.clearHalt
  events := script.events.map EventEntry.named
  outcomes := script.outcomes.map (Option.map Outcome.named)
  usual := script.usual.map Outcome.named
  batch := script.batch
  quiet := script.quiet.map UsbResult.ofCode
  acknowledges := script.acknowledges
  maxEvents := script.maxEvents

/-- No answer is listed. -/
def Unlisted {α : Type} (answers : List (Option α)) : Prop := ∀ answer ∈ answers, answer = none

private theorem Script.next_map {α β : Type} (name : α → β) (entries : List (Option α)) :
    next (entries.map (Option.map name)) =
      ((next entries).1.map name, (next entries).2.map (Option.map name)) := by
  cases entries <;> rfl

/-- Where no answer is listed, none is next and none comes later. -/
theorem Unlisted.next {α : Type} {answers : List (Option α)} (unlisted : Unlisted answers) :
    (Script.next answers).1 = none ∧ Unlisted (Script.next answers).2 := by
  cases answers with
  | nil => exact ⟨rfl, unlisted⟩
  | cons answer rest => exact List.forall_mem_cons.mp unlisted

private theorem unlisted_of_named {answers : List (Option Int)}
    (unlisted : Unlisted (namedAnswers answers)) : Unlisted answers := by
  intro answer member
  have none := unlisted _ (List.mem_map_of_mem member)
  exact Option.map_eq_none_iff.mp none

/-- Both dialects accept the same answers. -/
theorem Dialect.isAccepted_ofCode (code : Int) :
    named.isAccepted (UsbResult.ofCode code) = coded.isAccepted code := by
  change (UsbResult.ofCode code).isOk = decide (code = 0)
  unfold UsbResult.ofCode
  split
  next success => exact (decide_eq_true success).symm
  next failure => exact (decide_eq_false failure).symm

private theorem UsbResult.getD_ofCode (answer : Option Int) (code : Int) :
    (answer.map ofCode).getD (ofCode code) = ofCode (answer.getD code) := by
  cases answer <;> rfl

namespace Host

/-- A host in the other dialect, with answers to cancellations of its own and at its own time. -/
def named (cancel : List (Option (UsbResult Unit))) (clock : Duration) (host : Host Int Int) :
    Host (UsbResult Unit) TransferStatus where
  script := { host.script.named with cancel }
  pending := host.pending
  cancelling := host.cancelling
  eventCalls := host.eventCalls
  clock

/-! ## Calls -/

section

variable (cancel : List (Option (UsbResult Unit))) (clock : Duration) (host : Host Int Int)

private theorem submit_named (id length : Nat) :
    (host.named cancel clock).submit .named id length =
      (UsbResult.ofCode (host.submit .coded id length).1,
        (host.submit .coded id length).2.named cancel clock) := by
  have next : Script.next (host.named cancel clock).script.submit = _ :=
    Script.next_map UsbResult.ofCode host.script.submit
  unfold submit
  rw [next]
  rcases Script.next host.script.submit with ⟨entry, rest⟩
  have answer : (entry.map UsbResult.ofCode).getD Dialect.named.accepted = _ :=
    UsbResult.getD_ofCode entry Dialect.coded.accepted
  dsimp only
  rw [answer, Dialect.isAccepted_ofCode]
  split <;> rfl

private theorem clearHalt_named :
    (host.named cancel clock).clearHalt .named =
      (UsbResult.ofCode (host.clearHalt .coded).1,
        (host.clearHalt .coded).2.named cancel clock) := by
  have next : Script.next (host.named cancel clock).script.clearHalt = _ :=
    Script.next_map UsbResult.ofCode host.script.clearHalt
  unfold clearHalt
  rw [next]
  exact congrArg (Prod.mk · _) (UsbResult.getD_ofCode _ Dialect.coded.accepted)

/-- Where the next listed answers agree, so do the answers to a cancellation. -/
theorem cancel_named (id : Nat)
    (same : (Script.next cancel).1 = (Script.next host.script.cancel).1.map UsbResult.ofCode) :
    (host.named cancel clock).cancel .named id =
      (UsbResult.ofCode (host.cancel .coded id).1,
        (host.cancel .coded id).2.named (Script.next cancel).2 clock) := by
  have own : Script.next (host.named cancel clock).script.cancel = Script.next cancel := rfl
  unfold Host.cancel
  rw [own]
  generalize Script.next cancel = answer at same ⊢
  generalize Script.next host.script.cancel = listed at same ⊢
  rcases answer with ⟨own, left⟩
  rcases listed with ⟨entry, rest⟩
  obtain rfl : own = entry.map UsbResult.ofCode := same
  cases entry with
  | some code => rfl
  | none =>
      have pending (id : Nat) : isPending { host.named cancel clock with
          script := { (host.named cancel clock).script with cancel := left } } id =
        isPending { host with script := { host.script with cancel := rest } } id := rfl
      dsimp only [Option.map_none]
      rw [pending]
      by_cases absent :
          (!isPending { host with script := { host.script with cancel := rest } } id) = true
      · rw [if_pos absent, if_pos absent]
        rfl
      · rw [if_neg absent, if_neg absent]
        by_cases silent : (!host.script.acknowledges) = true
        · rw [if_pos silent]
          exact (if_pos silent).trans rfl
        · rw [if_neg silent]
          refine (if_neg silent).trans ?_
          by_cases asked : host.cancelling.contains id = true
          · rw [if_pos asked]
            exact (if_pos asked).trans rfl
          · rw [if_neg asked]
            exact (if_neg asked).trans rfl

/-! ## Event calls -/

private theorem finish_named (entry : Nat × Nat) :
    (host.named cancel clock).finish .named entry =
      ((host.finish .coded entry).1.named, (host.finish .coded entry).2.named cancel clock) := by
  have next : Script.next (host.named cancel clock).script.outcomes = _ :=
    Script.next_map Outcome.named host.script.outcomes
  have usual : (host.named cancel clock).script.usual = host.script.usual.map Outcome.named := rfl
  unfold finish
  rw [next, usual]
  rcases Script.next host.script.outcomes with ⟨listed, rest⟩
  cases listed with
  | some outcome => rfl
  | none => cases host.script.usual <;> rfl

private theorem finishEach_named (entries : List (Nat × Nat)) :
    finishEach .named entries (host.named cancel clock) =
      ((finishEach .coded entries host).1.map Delivery.named,
        (finishEach .coded entries host).2.named cancel clock) := by
  induction entries generalizing host with
  | nil => rfl
  | cons entry rest ih =>
      simp only [finishEach, finish_named, ih]
      rfl

private theorem deliverInLine_named :
    (host.named cancel clock).deliverInLine .named =
      ((host.deliverInLine .coded).1.map Delivery.named,
        (host.deliverInLine .coded).2.named cancel clock) := by
  unfold deliverInLine
  by_cases none : host.cancelling.isEmpty = true
  · rw [if_pos none]
    refine (if_pos none).trans ?_
    exact finishEach_named cancel clock { host with pending := host.pending.drop host.script.batch }
      (host.pending.take host.script.batch)
  · rw [if_neg none]
    refine (if_neg none).trans ?_
    rw [List.map_map]
    rfl

private theorem foldl_retire_named (deliveries : List (Delivery Int)) :
    (deliveries.map Delivery.named).foldl retire (host.named cancel clock) =
      (deliveries.foldl retire host).named cancel clock := by
  induction deliveries generalizing host with
  | nil => rfl
  | cons delivery rest ih => exact ih (host.retire delivery)

/-- An event call answers the same in both dialects, and leaves the same host. -/
private theorem answer_named (entry : EventEntry Int Int) :
    (host.named cancel clock).answer .named entry.named =
      (((host.answer .coded entry).1.1.map Delivery.named,
        UsbResult.ofCode (host.answer .coded entry).1.2),
        (host.answer .coded entry).2.named cancel clock) := by
  unfold answer
  rcases entry with ⟨deliveries, result, sleeps⟩
  cases deliveries with
  | some deliveries =>
      have after := foldl_retire_named cancel clock host deliveries
      have code := UsbResult.getD_ofCode result Dialect.coded.accepted
      dsimp only [EventEntry.named, Option.map_some]
      rw [after]
      exact congrArg (fun code => ((deliveries.map Delivery.named, code), _)) code
  | none =>
      have inLine := deliverInLine_named cancel clock host
      have quiet : (host.named cancel clock).deliverInLine .named = _ := inLine
      dsimp only [EventEntry.named, Option.map_none]
      rw [quiet]
      dsimp only
      have left : ((host.deliverInLine .coded).2.named cancel clock).script.quiet =
        (host.deliverInLine .coded).2.script.quiet.map UsbResult.ofCode := rfl
      rw [left, List.isEmpty_map]
      have other := UsbResult.getD_ofCode (host.deliverInLine .coded).2.script.quiet
        Dialect.coded.other
      have same : (if (host.deliverInLine .coded).1.isEmpty = true then
            ((host.deliverInLine .coded).2.script.quiet.map UsbResult.ofCode).getD
              Dialect.named.other else Dialect.named.accepted) =
          UsbResult.ofCode (if (host.deliverInLine .coded).1.isEmpty = true then
            (host.deliverInLine .coded).2.script.quiet.getD Dialect.coded.other
            else Dialect.coded.accepted) := by
        split
        · exact other
        · rfl
      rw [same, UsbResult.getD_ofCode]

/-- Event calls are answered alike, however long they may wait. -/
theorem handleEvents_named (timeout span : Duration) :
    ∃ later, (host.named cancel clock).handleEvents .named timeout =
      (((host.handleEvents .coded span).1.1.map Delivery.named,
        UsbResult.ofCode (host.handleEvents .coded span).1.2),
        (host.handleEvents .coded span).2.named cancel later) := by
  obtain ⟨later, handles⟩ := (host.named cancel clock).handleEvents_eq .named timeout
  obtain ⟨time, also⟩ := host.handleEvents_eq .coded span
  have next : (host.named cancel clock).script.events.headD {} =
      (host.script.events.headD {}).named := by
    change (host.script.events.map EventEntry.named).headD {} = _
    cases host.script.events <;> rfl
  have rest : (host.named cancel clock).script.events.tail =
      host.script.events.tail.map EventEntry.named := List.map_tail.symm
  refine ⟨later, ?_⟩
  rw [handles, also, next, rest]
  by_cases spent : host.script.maxEvents < host.eventCalls + 1
  · rw [if_pos spent]
    exact (if_pos spent).trans rfl
  · rw [if_neg spent]
    refine (if_neg spent).trans ?_
    exact answer_named cancel later
      { host with
        script := { host.script with events := host.script.events.tail }
        eventCalls := host.eventCalls + 1
        clock := time } _

end

/-! ## Echoes -/

/-- A host that answers as another one, in the other dialect, with some answers to cancellations
left. -/
structure Echo (left : List (Option (UsbResult Unit))) (host : Host Int Int)
    (echo : Host (UsbResult Unit) TransferStatus) : Prop where
  named : ∃ clock, echo = host.named left clock
  answers : left = namedAnswers host.script.cancel ∨ Unlisted left ∧ Unlisted host.script.cancel

namespace Echo

variable {left : List (Option (UsbResult Unit))} {host : Host Int Int}
  {echo : Host (UsbResult Unit) TransferStatus} (echoes : Echo left host echo)

include echoes

theorem now : Echo left host.now.2 echo.now.2 := by
  obtain ⟨clock, same⟩ := echoes.named
  rw [same]
  exact ⟨⟨_, rfl⟩, echoes.answers⟩

/-- The times of the two are their own. -/
theorem nowTwin : Echo left host.now.2 echo := ⟨echoes.named, echoes.answers⟩

/-- An echo accepts what its original accepts. -/
theorem submit (id length : Nat) :
    (echo.submit .named id length).1 = UsbResult.ofCode (host.submit .coded id length).1 ∧
      Echo left (host.submit .coded id length).2 (echo.submit .named id length).2 := by
  obtain ⟨clock, same⟩ := echoes.named
  rw [same, submit_named]
  refine ⟨rfl, ⟨clock, rfl⟩, ?_⟩
  obtain ⟨rest, ⟨_, after⟩ | ⟨_, after⟩⟩ := host.submit_cases .coded id length
  · rw [after]
    exact echoes.answers
  · rw [after]
    exact echoes.answers

/-- An echo clears halts as its original does. -/
theorem clearHalt :
    (echo.clearHalt .named).1 = UsbResult.ofCode (host.clearHalt .coded).1 ∧
      Echo left (host.clearHalt .coded).2 (echo.clearHalt .named).2 := by
  obtain ⟨clock, same⟩ := echoes.named
  rw [same, clearHalt_named]
  exact ⟨rfl, ⟨clock, rfl⟩, echoes.answers⟩

/-- A transfer is cancelled on both. -/
theorem cancel (id : Nat) :
    (echo.cancel .named id).1 = UsbResult.ofCode (host.cancel .coded id).1 ∧
      Echo (Script.next left).2 (host.cancel .coded id).2 (echo.cancel .named id).2 := by
  obtain ⟨clock, same⟩ := echoes.named
  have rest : (host.cancel .coded id).2.script.cancel = (Script.next host.script.cancel).2 :=
    congrArg Script.cancel (host.cancel_frame .coded id).1
  have listed : (Script.next left).1 = (Script.next host.script.cancel).1.map UsbResult.ofCode ∧
      ((Script.next left).2 = namedAnswers (Script.next host.script.cancel).2 ∨
        Unlisted (Script.next left).2 ∧ Unlisted (Script.next host.script.cancel).2) := by
    rcases echoes.answers with equal | ⟨own, other⟩
    · have next : Script.next (namedAnswers host.script.cancel) = _ :=
        Script.next_map UsbResult.ofCode host.script.cancel
      rw [equal, next]
      exact ⟨rfl, Or.inl rfl⟩
    · rw [own.next.1, other.next.1]
      exact ⟨rfl, Or.inr ⟨own.next.2, other.next.2⟩⟩
  rw [same, cancel_named _ _ _ _ listed.1]
  exact ⟨rfl, ⟨clock, rfl⟩, rest ▸ listed.2⟩

/-- A transfer that is not in line is not found on the echo alone, if no answer is left. -/
theorem cancel_of_absent {id : Nat} (absent : ∀ entry ∈ host.pending, entry.1 ≠ id)
    (unlisted : Unlisted left) :
    (echo.cancel .named id).1 = .error .notFound ∧
      Echo (Script.next left).2 host (echo.cancel .named id).2 := by
  obtain ⟨clock, same⟩ := echoes.named
  have others : Unlisted host.script.cancel := by
    rcases echoes.answers with equal | ⟨_, other⟩
    · exact unlisted_of_named (equal ▸ unlisted)
    · exact other
  have gone : ∀ entry ∈ (host.named left clock).pending, entry.1 ≠ id := absent
  rw [same, Host.cancel_of_absent .named gone unlisted.next.1]
  exact ⟨rfl, ⟨clock, rfl⟩, Or.inr ⟨unlisted.next.2, others⟩⟩

/-- An event call is answered alike, however long it may wait. -/
theorem handleEvents {out : Nat → Bool} (holds : host.Holds out) (timeout span : Duration) :
    (echo.handleEvents .named timeout).1 =
        ((host.handleEvents .coded span).1.1.map Delivery.named,
          UsbResult.ofCode (host.handleEvents .coded span).1.2) ∧
      Echo left (host.handleEvents .coded span).2 (echo.handleEvents .named timeout).2 := by
  obtain ⟨clock, same⟩ := echoes.named
  obtain ⟨later, handles⟩ := handleEvents_named left clock host timeout span
  rw [same, handles]
  refine ⟨rfl, ⟨later, rfl⟩, ?_⟩
  rw [(holds.handleEvents .coded span).cancel]
  exact echoes.answers

end Echo

end Host

end UsbThroughput
