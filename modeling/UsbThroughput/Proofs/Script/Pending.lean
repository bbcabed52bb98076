import Mathlib.Data.List.Nodup
import Mathlib.Logic.Function.Basic
import UsbThroughput.Script.Host
import UsbThroughput.Settings

/-!
# What a scripted host holds

The transfers in line on a scripted host are those of slots that are out, one for each, as long as
such slots are not submitted again (`Host.Holds`). Those that an event call hands over are no
longer in line. If a script has words of 32 bits for lengths (`Script.Worded`), so has every
delivery.
-/

namespace UsbThroughput

/-- Whether a number is a signed word of 32 bits. -/
def IsWord (length : Int) : Prop :=
  -(UInt32.size / 2 : Int) ≤ length ∧ length < (UInt32.size / 2 : Int)

instance (length : Int) : Decidable (IsWord length) := inferInstanceAs (Decidable (_ ∧ _))

/-- A word is left as it is when it is wrapped around. -/
theorem IsWord.bmod_eq {length : Int} (word : IsWord length) :
    length.bmod UInt32.size = length :=
  Int.bmod_eq_of_le word.1 word.2

private theorem isWord_of_le {length : Nat} (short : length ≤ Settings.maxLength) :
    IsWord length := by
  constructor
  · exact Int.le_trans (by decide) (Int.natCast_nonneg length)
  · exact Int.lt_of_le_of_lt (Int.ofNat_le.mpr short) (by decide)

variable {ρ τ : Type}

/-- All lengths that a script tells are words. -/
structure Script.Worded (script : Script ρ τ) : Prop where
  deliveries : ∀ entry ∈ script.events, ∀ deliveries ∈ entry.deliveries,
    ∀ delivery ∈ deliveries, IsWord delivery.length
  outcomes : ∀ entry ∈ script.usual :: script.outcomes, ∀ outcome ∈ entry,
    ∀ length ∈ outcome.length, IsWord length

/-- What is listed later is listed. -/
theorem Script.mem_of_next {α : Type} {entries : List (Option α)} {entry : Option α}
    (member : entry ∈ (next entries).2) : entry ∈ entries := by
  cases entries with
  | nil => exact member
  | cons first rest => exact List.mem_cons_of_mem first member

/-- The next answer is a listed one. -/
theorem Script.next_mem {α : Type} {entries : List (Option α)} {value : α}
    (listed : (next entries).1 = some value) : some value ∈ entries := by
  cases entries with
  | nil => contradiction
  | cons first rest => exact List.mem_cons.mpr (Or.inl listed.symm)

namespace Host

variable (dialect : Dialect ρ τ) {host : Host ρ τ} {out : Nat → Bool}

/-- Every transfer in line is one of a slot that is out, and there is one for each. -/
structure Holds (out : Nat → Bool) (host : Host ρ τ) : Prop where
  worded : host.script.Worded
  short : ∀ entry ∈ host.pending, entry.2 ≤ Settings.maxLength
  apart : (host.pending.map Prod.fst).Nodup
  out : ∀ entry ∈ host.pending, out entry.1 = true

/-- What is left in line is still in order. -/
theorem Holds.of_sublist {last : Host ρ τ} {less : Nat → Bool} (holds : host.Holds out)
    (script : last.script.Worded) (fewer : last.pending.Sublist host.pending)
    (still : ∀ entry ∈ last.pending, out entry.1 = true → less entry.1 = true) :
    last.Holds less where
  worded := script
  short entry member := holds.short entry (fewer.subset member)
  apart := (fewer.map Prod.fst).nodup holds.apart
  out entry member := still entry member (holds.out entry (fewer.subset member))

/-! ## Submissions and cancellations -/

/-- A submission that is accepted joins the line, and one that is refused does not. -/
theorem submit_cases (id length : Nat) (host : Host ρ τ) :
    ∃ rest, (dialect.isAccepted (host.submit dialect id length).1 = true ∧
        (host.submit dialect id length).2 =
          { host with
            script := { host.script with submit := rest }
            pending := host.pending ++ [(id, length)] }) ∨
      dialect.isAccepted (host.submit dialect id length).1 = false ∧
        (host.submit dialect id length).2 =
          { host with script := { host.script with submit := rest } } := by
  unfold submit
  rcases Script.next host.script.submit with ⟨entry, rest⟩
  refine ⟨rest, ?_⟩
  cases accepted : dialect.isAccepted (entry.getD dialect.accepted) with
  | true => exact Or.inl ⟨rfl, if_pos accepted⟩
  | false => exact Or.inr ⟨rfl, if_neg (Bool.eq_false_iff.mp accepted)⟩

/-- The line stays in order when a slot that is not out is submitted. -/
theorem Holds.submit (holds : host.Holds out) {id length : Nat} (free : out id = false)
    (short : length ≤ Settings.maxLength) :
    (dialect.isAccepted (host.submit dialect id length).1 = true →
      (host.submit dialect id length).2.Holds (Function.update out id true)) ∧
    (dialect.isAccepted (host.submit dialect id length).1 = false →
      (host.submit dialect id length).2.Holds out) := by
  have others : ∀ entry ∈ host.pending, entry.1 ≠ id := by
    intro entry member same
    exact Bool.noConfusion (free.symm.trans (same ▸ holds.out entry member))
  obtain ⟨rest, ⟨accepted, same⟩ | ⟨refused, same⟩⟩ := host.submit_cases dialect id length
  · refine ⟨fun _ => ?_, fun refused => Bool.noConfusion (refused.symm.trans accepted)⟩
    rw [same]
    refine ⟨⟨holds.worded.deliveries, holds.worded.outcomes⟩, ?_, ?_, ?_⟩
    · exact List.forall_mem_append.mpr ⟨holds.short, List.forall_mem_singleton.mpr short⟩
    · rw [List.map_append]
      refine List.nodup_append.mpr ⟨holds.apart, List.nodup_singleton id, ?_⟩
      rintro _ before _ last rfl
      obtain ⟨entry, member, named⟩ := List.mem_map.mp before
      exact others entry member (named.trans (List.mem_singleton.mp last))
    · refine List.forall_mem_append.mpr ⟨fun entry member => ?_, ?_⟩
      · rw [Function.update_of_ne (others entry member)]
        exact holds.out entry member
      · exact List.forall_mem_singleton.mpr (Function.update_self id true out)
  · refine ⟨fun accepted => Bool.noConfusion (accepted.symm.trans refused), fun _ => ?_⟩
    rw [same]
    exact ⟨⟨holds.worded.deliveries, holds.worded.outcomes⟩, holds.short, holds.apart, holds.out⟩

/-- A cancellation changes nothing of a script but its answers, and of the line only which transfers
are in it. -/
theorem cancel_frame (id : Nat) (host : Host ρ τ) :
    (host.cancel dialect id).2.script =
        { host.script with cancel := (Script.next host.script.cancel).2 } ∧
      (host.cancel dialect id).2.pending.Sublist host.pending := by
  unfold cancel
  rcases Script.next host.script.cancel with ⟨entry, rest⟩
  cases entry with
  | some result => exact ⟨rfl, .refl _⟩
  | none =>
      dsimp only
      split
      · exact ⟨rfl, .refl _⟩
      · split
        · exact ⟨rfl, List.filter_sublist⟩
        · split <;> exact ⟨rfl, .refl _⟩

/-- The line stays in order when a transfer is cancelled. -/
theorem Holds.cancel (holds : host.Holds out) (id : Nat) :
    (host.cancel dialect id).2.Holds out := by
  obtain ⟨script, fewer⟩ := host.cancel_frame dialect id
  refine holds.of_sublist ?_ fewer fun _ _ still => still
  rw [script]
  exact ⟨holds.worded.deliveries, holds.worded.outcomes⟩

/-- A transfer that is not in line is not found, if no answer is listed. -/
theorem cancel_of_absent {id : Nat} (absent : ∀ entry ∈ host.pending, entry.1 ≠ id)
    (none : (Script.next host.script.cancel).1 = none) :
    host.cancel dialect id =
      (dialect.notFound,
        { host with
          script := { host.script with cancel := (Script.next host.script.cancel).2 } }) := by
  have missing : host.isPending id = false := by
    apply List.any_eq_false.mpr
    intro entry member same
    exact absent entry member (eq_of_beq same)
  unfold Host.cancel
  generalize Script.next host.script.cancel = answer at none ⊢
  rcases answer with ⟨entry, rest⟩
  cases none
  exact if_pos (by rw [Bool.not_eq_true']; exact missing)

/-! ## Event calls -/

/-- What becomes of a host when some of its transfers end. -/
structure Delivers (host : Host ρ τ) (deliveries : List (Delivery τ)) (last : Host ρ τ) : Prop where
  words : ∀ delivery ∈ deliveries, IsWord delivery.length
  worded : last.script.Worded
  cancel : last.script.cancel = host.script.cancel
  fewer : last.pending.Sublist host.pending
  gone : ∀ delivery ∈ deliveries, ∀ entry ∈ last.pending, entry.1 ≠ delivery.id

/-- A transfer ends with a length of its script, or with its own. -/
theorem word_finish (worded : host.script.Worded) {entry : Nat × Nat}
    (short : entry.2 ≤ Settings.maxLength) : IsWord (host.finish dialect entry).1.length := by
  have told : ∀ outcome ∈ (Script.next host.script.outcomes).1.or host.script.usual,
      ∀ length ∈ outcome.length, IsWord length := by
    intro outcome member
    rcases Option.or_eq_some_iff.mp member with listed | ⟨_, usual⟩
    · exact worded.outcomes _ (List.mem_cons_of_mem _ (Script.next_mem listed)) outcome rfl
    · exact worded.outcomes _ List.mem_cons_self outcome usual
  unfold finish
  dsimp only
  cases ends : (Script.next host.script.outcomes).1.or host.script.usual with
  | none => exact isWord_of_le short
  | some outcome =>
      cases length : outcome.length with
      | none =>
          rw [Option.getD_some, length]
          exact isWord_of_le short
      | some moved =>
          rw [Option.getD_some, length]
          exact told outcome ends moved length

private theorem worded_finish (worded : host.script.Worded) (entry : Nat × Nat) :
    (host.finish dialect entry).2.script.Worded where
  deliveries := worded.deliveries
  outcomes outcome member := worded.outcomes outcome
    (List.mem_cons.mpr ((List.mem_cons.mp member).imp_right Script.mem_of_next))

/-- Several transfers end one after the other. -/
theorem Delivers.finishEach (entries : List (Nat × Nat)) (host : Host ρ τ)
    (short : ∀ entry ∈ entries, entry.2 ≤ Settings.maxLength)
    (gone : ∀ entry ∈ entries, ∀ other ∈ host.pending, other.1 ≠ entry.1)
    (worded : host.script.Worded) :
    host.Delivers (finishEach dialect entries host).1 (finishEach dialect entries host).2 := by
  induction entries generalizing host with
  | nil => exact ⟨nofun, worded, rfl, .refl _, nofun⟩
  | cons entry rest ih =>
      obtain ⟨first, others⟩ := List.forall_mem_cons.mp short
      obtain ⟨firstGone, othersGone⟩ := List.forall_mem_cons.mp gone
      have delivers := ih (host.finish dialect entry).2 others othersGone
        (worded_finish dialect worded entry)
      have word := word_finish dialect worded first
      refine ⟨List.forall_mem_cons.mpr ⟨word, delivers.words⟩, delivers.worded, delivers.cancel,
        delivers.fewer, List.forall_mem_cons.mpr ⟨fun other member => ?_, delivers.gone⟩⟩
      exact firstGone other (delivers.fewer.subset member)

/-- What is in line is handed over as a whole. -/
theorem Holds.deliverInLine (holds : host.Holds out) :
    host.Delivers (host.deliverInLine dialect).1 (host.deliverInLine dialect).2 := by
  unfold Host.deliverInLine
  split
  · have split := List.take_append_drop host.script.batch host.pending
    have apart := holds.apart
    rw [← split, List.map_append, List.nodup_append] at apart
    have delivers := Delivers.finishEach dialect (host.pending.take host.script.batch)
      { host with pending := host.pending.drop host.script.batch }
      (fun entry member => holds.short entry (List.mem_of_mem_take member))
      (fun entry member other among same => apart.2.2 _ (List.mem_map_of_mem member) _
        (List.mem_map_of_mem among) same.symm)
      holds.worded
    exact ⟨delivers.words, delivers.worded, delivers.cancel,
      delivers.fewer.trans (List.drop_sublist _ _), delivers.gone⟩
  · refine ⟨?_, holds.worded, rfl, List.filter_sublist, ?_⟩
    · exact List.forall_mem_map.mpr fun _ _ => isWord_of_le (Nat.zero_le _)
    · refine List.forall_mem_map.mpr fun id asked entry member same => ?_
      have left := (List.mem_filter.mp member).2
      rw [Bool.not_eq_true', same, List.contains_eq_mem, decide_eq_false_iff_not] at left
      exact left asked

private theorem fst_ne_of_mem_eraseP {entries : List (Nat × Nat)} {id : Nat}
    (apart : (entries.map Prod.fst).Nodup) :
    ∀ entry ∈ entries.eraseP fun entry => entry.1 == id, entry.1 ≠ id := by
  induction entries with
  | nil => nofun
  | cons first rest ih =>
      rw [List.map_cons, List.nodup_cons] at apart
      by_cases named : first.1 = id
      · rw [List.eraseP_cons_of_pos (p := fun entry : Nat × Nat => entry.1 == id)
          (beq_iff_eq.mpr named)]
        intro entry member same
        exact apart.1 (List.mem_map.mpr ⟨entry, member, same.trans named.symm⟩)
      · rw [List.eraseP_cons_of_neg (p := fun entry : Nat × Nat => entry.1 == id)
          (by rwa [beq_iff_eq])]
        exact List.forall_mem_cons.mpr ⟨named, ih apart.2⟩

private theorem foldl_retire_frame (deliveries : List (Delivery τ)) {host : Host ρ τ}
    (apart : (host.pending.map Prod.fst).Nodup) :
    (deliveries.foldl retire host).script = host.script ∧
      (deliveries.foldl retire host).pending.Sublist host.pending ∧
      ∀ delivery ∈ deliveries, ∀ entry ∈ (deliveries.foldl retire host).pending,
        entry.1 ≠ delivery.id := by
  induction deliveries generalizing host with
  | nil => exact ⟨rfl, .refl _, nofun⟩
  | cons delivery rest ih =>
      have fewer : (host.retire delivery).pending.Sublist host.pending := List.eraseP_sublist
      obtain ⟨script, least, others⟩ := ih ((fewer.map Prod.fst).nodup apart)
      exact ⟨script, least.trans fewer, List.forall_mem_cons.mpr
        ⟨fun entry member => fst_ne_of_mem_eraseP apart entry (least.subset member), others⟩⟩

/-- The line stays in order through an event call, however it is answered. -/
theorem Holds.answer (holds : host.Holds out) (entry : EventEntry ρ τ)
    (words : ∀ deliveries ∈ entry.deliveries, ∀ delivery ∈ deliveries, IsWord delivery.length) :
    host.Delivers (host.answer dialect entry).1.1 (host.answer dialect entry).2 := by
  unfold Host.answer
  cases listed : entry.deliveries with
  | none => exact holds.deliverInLine dialect
  | some deliveries =>
      obtain ⟨script, fewer, gone⟩ := foldl_retire_frame deliveries holds.apart
      exact ⟨words deliveries listed, script.symm ▸ holds.worded, congrArg Script.cancel script,
        fewer, gone⟩

/-- An event call takes the next entry and a call of those that are left, and perhaps some time. -/
theorem handleEvents_eq (timeout : Duration) (host : Host ρ τ) :
    ∃ clock, host.handleEvents dialect timeout =
      if host.script.maxEvents < host.eventCalls + 1 then
        (([], dialect.other),
          { host with
            script := { host.script with events := host.script.events.tail }
            eventCalls := host.eventCalls + 1
            clock })
      else
        Host.answer dialect (host.script.events.headD {})
          { host with
            script := { host.script with events := host.script.events.tail }
            eventCalls := host.eventCalls + 1
            clock } := by
  have called (entry : EventEntry ρ τ) (host : Host ρ τ) :
      ∃ clock, (if entry.sleeps = true then host.sleep timeout else host) =
        { host with clock } := by
    split
    · exact ⟨_, rfl⟩
    · exact ⟨host.clock, rfl⟩
  unfold handleEvents
  cases host.script.events with
  | nil => exact ⟨_, rfl⟩
  | cons entry rest =>
      obtain ⟨clock, same⟩ := called entry
        { host with
          script := { host.script with events := rest }
          eventCalls := host.eventCalls + 1 }
      refine ⟨clock, ?_⟩
      dsimp only
      rw [same]
      rfl

/-- **What an event call hands over is no longer in line.** -/
theorem Holds.handleEvents (holds : host.Holds out) (timeout : Duration) :
    host.Delivers (host.handleEvents dialect timeout).1.1
      (host.handleEvents dialect timeout).2 := by
  obtain ⟨clock, handles⟩ := host.handleEvents_eq dialect timeout
  have worded : ({ host.script with events := host.script.events.tail } : Script ρ τ).Worded :=
    ⟨fun entry member => holds.worded.deliveries entry (List.mem_of_mem_tail member),
      holds.worded.outcomes⟩
  rw [handles]
  split
  · exact ⟨nofun, worded, rfl, .refl _, nofun⟩
  · have called : Holds out { host with
        script := { host.script with events := host.script.events.tail }
        eventCalls := host.eventCalls + 1
        clock } := ⟨worded, holds.short, holds.apart, holds.out⟩
    have delivers := called.answer dialect (host.script.events.headD {}) (by
      rcases listed : host.script.events with _ | ⟨entry, rest⟩
      · nofun
      · exact holds.worded.deliveries entry (listed ▸ List.mem_cons_self))
    exact ⟨delivers.words, delivers.worded, delivers.cancel, delivers.fewer, delivers.gone⟩

end Host

end UsbThroughput
