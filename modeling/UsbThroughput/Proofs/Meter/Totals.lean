import Mathlib.Algebra.BigOperators.Group.List.Basic
import Mathlib.Algebra.GroupWithZero.Nat
import UsbThroughput.Proofs.Meter.Acts

/-!
# The totals of a meter

The totals of a meter are read off what was done to it: the completed transfers before the first
failure are summed up and counted, and the first failure is kept (`Meter.expected?`). Neither the
readings of the clock nor the order of the transfers make a difference.
-/

namespace UsbThroughput.Meter

/-- The bytes of the completed transfers before the first failure. -/
def counted (acts : List Act) : List Nat :=
  (acts.takeWhile fun act => act.failure?.isNone).filterMap Act.bytes?

/-- The first failure. -/
def firstFailure? (acts : List Act) : Option Failure := acts.findSome? Act.failure?

/-- Whether a meter has no room for what is to be counted. -/
def Exceeds (acts : List Act) : Prop :=
  capacity < (counted acts).sum ∨ capacity < (counted acts).length

instance (acts : List Act) : Decidable (Exceeds acts) :=
  inferInstanceAs (Decidable (_ ∨ _))

/-- All of a meter but its times. -/
structure Totals where
  target : Nat
  bytesTotal : Nat
  completions : Nat
  failure : Option Failure
  terminated : Bool
  deriving DecidableEq, Repr

/-- The totals that a meter shows. -/
def totals (meter : Meter) : Totals where
  target := meter.target
  bytesTotal := meter.bytesTotal
  completions := meter.completions
  failure := meter.failure
  terminated := meter.terminated

/-- **What a meter is to show** after acts done in order, if there is room. -/
def expected? (target : Nat) (acts : List Act) : Option Totals :=
  if Exceeds acts then none
  else some
    { target
      bytesTotal := (counted acts).sum
      completions := (counted acts).length
      failure := firstFailure? acts
      terminated := target < (counted acts).sum || (firstFailure? acts).isSome }

/-! ## One more act -/

private theorem firstFailure?_concat (acts : List Act) (act : Act) :
    firstFailure? (acts ++ [act]) = (firstFailure? acts).or act.failure? := by
  simp [firstFailure?, List.findSome?_append]

private theorem counted_cons {act : Act} (fine : act.failure? = none) (rest : List Act) :
    counted (act :: rest) = act.bytes?.toList ++ counted rest := by
  cases amount : act.bytes? <;> simp [counted, fine, amount]

/-- A transfer counts unless there was a failure before it. -/
theorem counted_concat (acts : List Act) (act : Act) :
    counted (acts ++ [act]) =
      if (firstFailure? acts).isSome then counted acts else counted acts ++ act.bytes?.toList := by
  induction acts with
  | nil => cases act <;> rfl
  | cons first rest ih =>
      cases failed : first.failure? with
      | some failure => simp [counted, firstFailure?, failed]
      | none =>
          have same : firstFailure? (first :: rest) = firstFailure? rest := by
            simp [firstFailure?, failed]
          rw [List.cons_append, counted_cons failed, counted_cons failed, same, ih]
          split <;> simp

/-- What exceeds the capacity is not taken back. -/
theorem Exceeds.concat {acts : List Act} (exceeds : Exceeds acts) (act : Act) :
    Exceeds (acts ++ [act]) := by
  unfold Exceeds at *
  rw [counted_concat]
  split
  · exact exceeds
  · rw [List.sum_append, List.length_append]
    omega

/-- The meter has added up what was done to it. -/
structure Shows (target : Nat) (acts : List Act) (meter : Meter) : Prop where
  target_eq : meter.target = target
  bytesTotal_eq : meter.bytesTotal = (counted acts).sum
  completions_eq : meter.completions = (counted acts).length
  failure_eq : meter.failure = firstFailure? acts

variable {target : Nat} {acts : List Act} {meter other : Meter} {act : Act}

/-- Each act is added to what the meter shows. -/
theorem Shows.concat (shown : meter.Shows target acts) (effect : meter.Effect act other) :
    other.Shows target (acts ++ [act]) := by
  obtain ⟨aim, total, number, failure⟩ := shown
  have count := counted_concat acts act
  have first := firstFailure?_concat acts act
  rw [← failure] at count first
  cases effect with
  | kept started idle =>
      have same : counted (acts ++ [act]) = counted acts := by
        rcases idle with failed | ⟨nothing, _⟩
        · rw [count, if_pos failed]
        · rw [count, nothing, Option.toList_none, List.append_nil, ite_self]
      refine ⟨aim, by rw [same, total], by rw [same, number], ?_⟩
      rcases idle with failed | ⟨_, nothing⟩
      · rw [first, Option.or_of_isSome failed]
      · rw [first, nothing, Option.or_none]
  | counted now bytes finished fine room timed =>
      have longer : counted (acts ++ [.record now bytes]) = counted acts ++ [bytes] := by
        simp [count, fine, Act.bytes?]
      constructor
      · exact aim
      · simp [longer, total]
      · simp [longer, number]
      · simp [first, fine, Act.failure?]
  | failed now failure fine =>
      have same : counted (acts ++ [.fail now failure]) = counted acts := by
        simp [count, fine, Act.bytes?]
      refine ⟨aim, by rw [same, total], by rw [same, number], ?_⟩
      simp [first, fine, Act.failure?]

/-- A meter that shows what was done to it has room for one more act unless the counts exceed its
capacity with that act. -/
theorem Shows.full_iff (shown : meter.Shows target acts) (room : ¬ Exceeds acts) :
    Exceeds (acts ++ [act]) ↔ act.perform? meter = none := by
  rw [perform?_eq_none_iff]
  obtain ⟨_, total, number, failure⟩ := shown
  unfold Exceeds Full at *
  rw [counted_concat, ← failure, total, number]
  cases meter.failure with
  | some failure => simpa using room
  | none =>
      cases amount : act.bytes? with
      | none => simpa using room
      | some bytes => simp

/-! ## Any number of acts -/

/-- **There is room for acts exactly when the counts fit**, and then they are what the meter
shows. -/
theorem shows_after? (target : Nat) (acts : List Act) :
    (Exceeds acts ∧ after? acts { target } = none) ∨
      ¬ Exceeds acts ∧ ∃ meter, after? acts { target } = some meter ∧ meter.Shows target acts := by
  induction acts using List.reverseRecOn with
  | nil =>
      refine Or.inr ⟨?_, { target }, rfl, rfl, rfl, rfl, rfl⟩
      simp [Exceeds, counted]
  | append_singleton acts act ih =>
      rw [after?_concat]
      rcases ih with ⟨exceeds, none⟩ | ⟨room, meter, done, shown⟩
      · exact Or.inl ⟨exceeds.concat act, by rw [none, Option.bind_none]⟩
      · rw [done, Option.bind_some, shown.full_iff room]
        cases performed : act.perform? meter with
        | none => exact Or.inl ⟨rfl, rfl⟩
        | some other =>
            refine Or.inr ⟨Option.some_ne_none other, other, rfl, ?_⟩
            exact shown.concat (effect_of_perform? performed)

private theorem Shows.totals_eq (shown : meter.Shows target acts) (room : ¬ Exceeds acts) :
    expected? target acts = some meter.totals := by
  obtain ⟨rfl, total, number, failure⟩ := shown
  rw [expected?, if_neg room, ← total, ← number, ← failure]
  rfl

/-- A meter ends with the totals that are expected of the acts, or with none where they exceed the
capacity. -/
private theorem totals_after? (target : Nat) (acts : List Act) :
    (after? acts { target }).map totals = expected? target acts := by
  rcases shows_after? target acts with ⟨exceeds, none⟩ | ⟨room, meter, done, shown⟩
  · rw [none, expected?, if_pos exceeds]
    rfl
  · rw [done, shown.totals_eq room]
    rfl

/-- The report is the first failure, or else what was counted. -/
theorem finish_after? (done : after? acts { target } = some meter) (now : Duration)
    (direction : Direction) :
    meter.finish now direction =
      match firstFailure? acts with
      | some failure => .error failure
      | none =>
          .ok
            { direction
              bytesTotal := (counted acts).sum
              completions := (counted acts).length
              elapsed := meter.elapsed now } := by
  rcases shows_after? target acts with ⟨_, none⟩ | ⟨_, same, there, shown⟩
  · rw [none] at done
    contradiction
  · cases done.symm.trans there
    have failure := shown.failure_eq
    cases first : firstFailure? acts with
    | some failed => simp [finish, failure, first]
    | none => simp [finish, failure, first, shown.bytesTotal_eq, shown.completions_eq]

/-- What a meter is to show does not depend on the order of the transfers. -/
theorem expected?_perm {others : List Act} (target : Nat)
    (same : firstFailure? others = firstFailure? acts)
    (reordered : (counted others).Perm (counted acts)) :
    expected? target others = expected? target acts := by
  have sums := reordered.sum_eq
  have lengths := reordered.length_eq
  have exceeds : Exceeds others ↔ Exceeds acts := by rw [Exceeds, Exceeds, sums, lengths]
  by_cases room : Exceeds acts <;> simp [expected?, exceeds, room, sums, lengths, same]

/-- **A meter shows the fold of what was done to it.** There is no meter afterwards exactly when
the sum or the number of the transfers before the first failure exceeds the capacity. Else the
meter shows them with the first failure, and it has terminated exactly when the sum exceeds the
target or there was a failure, which stays so whatever is done next. The report shows the same and
leaves the meter alone. The order of the transfers before the first failure is immaterial. -/
theorem totals_eq_fold (target : Nat) (acts : List Act) :
    (after? acts { target }).map totals = expected? target acts ∧
      (∀ meter, after? acts { target } = some meter →
        (∀ rest last, meter.terminated = true → after? rest meter = some last →
          last.terminated = true) ∧
        ∀ now direction,
          after? (acts ++ [.finish now direction]) { target } = some meter ∧
          meter.finish now direction =
            match firstFailure? acts with
            | some failure => .error failure
            | none =>
                .ok
                  { direction
                    bytesTotal := (counted acts).sum
                    completions := (counted acts).length
                    elapsed := meter.elapsed now }) ∧
      ∀ others, firstFailure? others = firstFailure? acts →
        (counted others).Perm (counted acts) →
          (after? others { target }).map totals = (after? acts { target }).map totals := by
  refine ⟨totals_after? target acts, fun meter done => ⟨?_, ?_⟩, ?_⟩
  · intro rest last decided continued
    exact terminated_after? decided continued
  · intro now direction
    refine ⟨?_, finish_after? done now direction⟩
    rw [after?_concat, done]
    rfl
  · intro others same reordered
    rw [totals_after?, totals_after?, expected?_perm target same reordered]

/-- Two transfers exceed the target before a failure, in either order. What comes after the failure
does not count. Two transfers that together exceed the capacity are too much, in either order. -/
theorem totals_eq_fold_reordered :
    let acts : List Act :=
      [.start ⟨3⟩, .record ⟨5⟩ 8, .record ⟨7⟩ 5, .fail ⟨9⟩ .overflow, .record ⟨11⟩ 3]
    let others : List Act := [.record ⟨5⟩ 5, .record ⟨6⟩ 8, .fail ⟨6⟩ .overflow]
    (∃ meter last, after? acts { target := 10 } = some meter ∧
      meter.finish ⟨13⟩ .inbound = .error .overflow ∧
        after? [.record ⟨13⟩ 1, .fail ⟨15⟩ .stalled] meter = some last ∧
          last.terminated = true) ∧
      (after? others { target := 10 }).map totals = some ⟨10, 13, 2, some .overflow, true⟩ ∧
      (after? [.record ⟨1⟩ capacity, .record ⟨2⟩ 1] { target := capacity }).map totals =
        (after? [.record ⟨1⟩ 1, .record ⟨2⟩ capacity] { target := capacity }).map totals ∧
      after? [.record ⟨1⟩ 1, .record ⟨2⟩ capacity] { target := capacity } = none := by
  intro acts others
  obtain ⟨shown, whole, reordered⟩ := totals_eq_fold 10 acts
  obtain ⟨_, _, limit⟩ := totals_eq_fold capacity [.record ⟨1⟩ 1, .record ⟨2⟩ capacity]
  have done : after? acts { target := 10 } =
      some ⟨10, 13, 2, some ⟨3⟩, some ⟨7⟩, some .overflow⟩ := by decide +kernel
  obtain ⟨final, report⟩ := whole _ done
  refine ⟨⟨_, _, done, (report ⟨13⟩ .inbound).2, rfl, ?_⟩, ?_, limit _ ?_ ?_, ?_⟩
  · exact final [.record ⟨13⟩ 1, .fail ⟨15⟩ .stalled] _ (by decide) rfl
  · rw [reordered others (by decide) (by decide), shown]
    decide +kernel
  · decide
  · decide
  · decide +kernel

end UsbThroughput.Meter
