import Mathlib.Logic.Function.Basic
import UsbThroughput.Channel
import UsbThroughput.Proofs.Slot.Make
import UsbThroughput.Session

/-!
# Rigs in tandem

Two rigs are in tandem if they answer the calls of a run alike, as far as their states are tied
(`Rig.Tandem`). The first may hand over completions with an answer that the second keeps back, to
hand them over when it is asked again. The times that the rigs tell need not agree.
-/

namespace UsbThroughput

variable {σ τ : Type}

/-- A slot that a session can have a transfer for. -/
structure Slot.Fits (slot : Slot) : Prop where
  placed : slot.id < Session.maxSlots
  short : slot.length ≤ Settings.maxLength

/-- The transfers that are still out after some completions were handed over. -/
def Completion.stillOut (completions : List Completion) (out : Nat → Bool) (id : Nat) : Bool :=
  out id && !completions.any fun completion => completion.slot == id

/-- A slot that has a completion is not out any more. -/
theorem Completion.stillOut_of_mem {completions : List Completion} {out : Nat → Bool}
    {completion : Completion} (member : completion ∈ completions) :
    stillOut completions out completion.slot = false := by
  have named : (completions.any fun other => other.slot == completion.slot) = true :=
    List.any_eq_true.mpr ⟨completion, member, beq_self_eq_true _⟩
  rw [stillOut, named]
  exact Bool.and_false _

/-- A slot without a completion is out if it was before. -/
theorem Completion.stillOut_of_forall_ne {completions : List Completion} {out : Nat → Bool}
    {id : Nat} (absent : ∀ completion ∈ completions, completion.slot ≠ id) :
    stillOut completions out id = out id := by
  have none : (completions.any fun completion => completion.slot == id) = false :=
    List.any_eq_false.mpr fun completion member named => absent completion member (eq_of_beq named)
  rw [stillOut, none]
  exact Bool.and_true _

namespace Rig

/-- What ties the states of one rig to those of another. -/
structure Ties (σ τ : Type) where
  /-- The slots with smaller numbers than this were submitted before, and these transfers are
  out. -/
  Linked : Nat → (Nat → Bool) → σ → τ → Prop
  /-- The second rig has yet to hand over some completions. -/
  Holding : Nat → (Nat → Bool) → List Completion → σ → τ → Prop
  /-- The devices are closed. -/
  Parted : σ → τ → Prop
  /-- Nothing has happened so far on which the rigs need not agree. -/
  Fair : σ → Prop
  /-- A call for completions has failed and handed over some all the same. -/
  Spilled : σ → Prop

variable (ties : Ties σ τ)

/-- The answers of two rigs to a call for completions. -/
inductive Ties.Answers (armed : Nat) (out : Nat → Bool) : Polled × σ → Polled × τ → Prop where
  | together (answer : Polled) (state : σ) (twin : τ)
      (empty : ∀ error, answer.result = .error error → error ≠ .interrupted →
        answer.delivered = [])
      (linked : ties.Linked armed (Completion.stillOut answer.delivered out) state twin) :
      Answers armed out (answer, state) (answer, twin)
  | held (delivered : List Completion) (error : UsbError) (state : σ) (twin : τ)
      (spilled : error ≠ .interrupted → ties.Spilled state)
      (holding : ties.Holding armed (Completion.stillOut delivered out) delivered state twin) :
      Answers armed out (⟨delivered, .error error⟩, state) (⟨[], .error error⟩, twin)

/-- Two rigs that answer alike as long as their states are tied. -/
structure Ties.Tandem (rig : Rig σ) (other : Rig τ) : Prop where
  note : ∀ {armed out state twin}, ties.Linked armed out state twin →
    ∀ notice, ties.Linked armed out (rig.note notice state) twin
  noteTwin : ∀ {armed out state twin}, ties.Linked armed out state twin →
    ∀ notice, ties.Linked armed out state (other.note notice twin)
  now : ∀ {armed out state twin}, ties.Linked armed out state twin →
    ties.Linked armed out (rig.now state).2 (other.now twin).2
  write : ∀ {armed out state twin endpoint}, ties.Linked armed out state twin →
    Direction.ofAddress endpoint = .outbound → ∀ data timeout,
    ties.Linked armed out (rig.write endpoint data timeout state).2
      (other.write endpoint data timeout twin).2
  clearHalt : ∀ {armed out state twin}, ties.Linked armed out state twin → ∀ endpoint,
    (other.clearHalt endpoint twin).1 = (rig.clearHalt endpoint state).1 ∧
      ties.Linked armed out (rig.clearHalt endpoint state).2 (other.clearHalt endpoint twin).2
  /-- A slot is submitted in its turn, or again, while its transfer is not out. -/
  submit : ∀ {armed out state twin}, ties.Linked armed out state twin → ∀ slot : Slot,
    slot.Fits → slot.id ≤ armed → out slot.id = false →
    (other.submit slot twin).1 = (rig.submit slot state).1 ∧
      ((rig.submit slot state).1 = .ok () →
        ties.Linked (max armed (slot.id + 1)) (Function.update out slot.id true)
          (rig.submit slot state).2 (other.submit slot twin).2) ∧
      (∀ error, (rig.submit slot state).1 = .error error →
        ties.Linked (max armed (slot.id + 1)) out (rig.submit slot state).2
          (other.submit slot twin).2)
  /-- Only a transfer that is out is cancelled on both sides without further ado. -/
  cancel : ∀ {armed out state twin}, ties.Linked armed out state twin → ∀ slot : Slot,
    (out slot.id = true ∨ ties.Fair (rig.cancel slot state).2) →
    (other.cancel slot twin).1 = (rig.cancel slot state).1 ∧
      ties.Linked armed out (rig.cancel slot state).2 (other.cancel slot twin).2
  /-- The calls may wait for different times. -/
  poll : ∀ {armed out state twin}, ties.Linked armed out state twin → ∀ timeout later,
    ties.Fair (rig.poll timeout state).2 →
      ((rig.poll timeout state).1.delivered.map Completion.slot).Nodup ∧
      (∀ completion ∈ (rig.poll timeout state).1.delivered, out completion.slot = true) ∧
      ties.Answers armed out (rig.poll timeout state) (other.poll later twin)
  disconnect : ∀ {armed out state twin}, ties.Linked armed out state twin →
    ties.Parted (rig.disconnect state) (other.disconnect twin)
  nowOfHolding : ∀ {armed out delivered state twin},
    ties.Holding armed out delivered state twin →
    ties.Holding armed out delivered state (other.now twin).2
  /-- What was kept back is handed over at the next call. -/
  pollOfHolding : ∀ {armed out delivered state twin},
    ties.Holding armed out delivered state twin → ∀ timeout,
    (other.poll timeout twin).1 = ⟨delivered, .ok ()⟩ ∧
      ties.Linked armed out state (other.poll timeout twin).2
  fairBeforeNote : ∀ {notice state}, ties.Fair (rig.note notice state) → ties.Fair state
  fairBeforeNow : ∀ {state}, ties.Fair (rig.now state).2 → ties.Fair state
  fairBeforeCancel : ∀ {slot state}, ties.Fair (rig.cancel slot state).2 → ties.Fair state
  spilledNote : ∀ {state}, ties.Spilled state → ∀ notice, ties.Spilled (rig.note notice state)
  spilledNow : ∀ {state}, ties.Spilled state → ties.Spilled (rig.now state).2

end Rig

/-- A slot out of flight, or one that was asked for before, is not asked for. -/
theorem Slot.cancel_of_settled {rig : Rig σ} {slot : Slot}
    (settled : (slot.isSubmitted && !slot.cancelRequested) = false) {state : σ} :
    slot.cancel rig state = (slot, state) := by
  rw [cancel, settled]
  rfl

/-- A slot in flight that was not asked for yet is marked, and a refusal is only noted. -/
theorem Slot.cancel_of_asking {rig : Rig σ} {slot : Slot}
    (asks : (slot.isSubmitted && !slot.cancelRequested) = true) {state : σ} :
    slot.cancel rig state =
      (slot.requestCancel,
        match (rig.cancel slot.requestCancel state).1 with
        | .ok () => (rig.cancel slot.requestCancel state).2
        | .error error =>
            rig.note (.cancelFailed slot.id error) (rig.cancel slot.requestCancel state).2) := by
  rcases answer : rig.cancel slot.requestCancel state with ⟨result, after⟩
  rw [requestCancel] at answer
  unfold cancel
  rw [asks, if_pos rfl]
  dsimp only
  rw [answer]
  cases result <;> rfl

/-- Sending a command writes it, and notes it if that went wrong. -/
theorem Channel.state_send (rig : Rig σ) (channel : Channel) (command : Command) (state : σ) :
    let written := (rig.write channel.endpoint [command.byte] channel.timeout
      (rig.note (.sending command channel.endpoint) state)).2
    (channel.send rig command state).2 = written ∨
      ∃ notice, (channel.send rig command state).2 = rig.note notice written := by
  unfold send
  dsimp only
  split
  next same => exact Or.inl (congrArg Prod.snd same).symm
  next same => exact Or.inr ⟨.notAccepted command, congrArg _ (congrArg Prod.snd same).symm⟩
  next error _ same =>
    exact Or.inr ⟨.sendFailed command error, congrArg _ (congrArg Prod.snd same).symm⟩

namespace Rig.Ties.Tandem

variable {ties : Rig.Ties σ τ} {rig : Rig σ} {other : Rig τ} (tandem : ties.Tandem rig other)
  {armed : Nat} {out : Nat → Bool} {state : σ} {twin : τ}

include tandem

/-- A command that is sent may fare differently, which is only noted. -/
theorem send (linked : ties.Linked armed out state twin) (channel : Channel) (command : Command)
    (outward : Direction.ofAddress channel.endpoint = .outbound) :
    ties.Linked armed out (channel.send rig command state).2
      (channel.send other command twin).2 := by
  have noted := tandem.noteTwin (tandem.note linked (.sending command channel.endpoint))
    (.sending command channel.endpoint)
  have written := tandem.write noted outward [command.byte] channel.timeout
  rcases channel.state_send rig command state with same | ⟨notice, same⟩ <;>
    rcases channel.state_send other command twin with also | ⟨later, also⟩ <;>
    rw [same, also]
  · exact written
  · exact tandem.noteTwin written later
  · exact tandem.note written notice
  · exact tandem.noteTwin (tandem.note written notice) later

/-- The stop command is sent by both or by neither. -/
theorem stop (linked : ties.Linked armed out state twin) (channel : Channel)
    (outward : Direction.ofAddress channel.endpoint = .outbound) :
    (channel.stop other twin).1.2 = (channel.stop rig state).1.2 ∧
      ties.Linked armed out (channel.stop rig state).2 (channel.stop other twin).2 := by
  unfold Channel.stop
  split
  · exact ⟨rfl, linked⟩
  · exact ⟨rfl, tandem.send linked { channel with stopSent := true } .stop outward⟩

/-- Slots are abandoned with a notice for each. -/
theorem abandonEach (linked : ties.Linked armed out state twin) (slots : List Slot) :
    ties.Linked armed out (Queue.abandonEach rig slots state).2
      (Queue.abandonEach other slots twin).2 := by
  induction slots generalizing state twin with
  | nil => exact linked
  | cons slot rest ih =>
      unfold Queue.abandonEach
      cases slot.isSubmitted with
      | true => exact ih (tandem.noteTwin (tandem.note linked _) _)
      | false => exact ih linked

/-- What is fair after a slot was cancelled was so right after the call, and before. -/
theorem fairBeforeCancelling {slot : Slot} (fair : ties.Fair (slot.cancel rig state).2) :
    ties.Fair state := by
  rcases slot.cancel_cases rig state with ⟨_, same⟩ | ⟨_, _, _, same⟩ | ⟨_, _, _, _, same⟩
  · rwa [same] at fair
  · rw [same] at fair
    exact tandem.fairBeforeCancel fair
  · rw [same] at fair
    exact tandem.fairBeforeCancel (tandem.fairBeforeNote fair)

end Rig.Ties.Tandem

end UsbThroughput
