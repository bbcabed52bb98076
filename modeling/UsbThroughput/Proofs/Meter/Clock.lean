import UsbThroughput.Proofs.Meter.Acts

/-!
# The clock of a meter

A meter keeps the reading of the clock at its first start (`Meter.firstStart?`), and the reading at
the act that brings the decision (`Meter.Brings`). The time that it shows runs from the one to the
other, and stands still once the decision has fallen (`Meter.clock_freezes`).
-/

namespace UsbThroughput

/-- Readings of a clock that does not go back. -/
def Duration.Chronological (readings : List Duration) : Prop :=
  readings.Pairwise fun earlier later => earlier.nanoseconds ≤ later.nanoseconds

instance (readings : List Duration) : Decidable (Duration.Chronological readings) :=
  inferInstanceAs (Decidable (List.Pairwise _ readings))

/-- The time since an earlier reading leads back from it to the later one. -/
theorem Duration.add_since {earlier later : Duration}
    (inOrder : earlier.nanoseconds ≤ later.nanoseconds) :
    earlier.add (later.since earlier) = later :=
  congrArg Duration.mk (Nat.add_sub_cancel' inOrder)

theorem Duration.add_left_cancel {earlier first second : Duration}
    (same : earlier.add first = earlier.add second) : first = second :=
  congrArg Duration.mk (Nat.add_left_cancel (congrArg nanoseconds same))

namespace Meter

open Duration

namespace Act

/-- The reading of the clock at the time of an act. -/
def now : Act → Duration
  | start now | record now _ | fail now _ | finish now _ => now

/-- The reading with which an act starts the clock. -/
def start? : Act → Option Duration
  | start now => some now
  | _ => none

private theorem now_of_start? {act : Act} {started : Duration}
    (starts : act.start? = some started) : act.now = started := by
  cases act <;> cases starts
  rfl

end Act

/-- The reading at the first start. -/
def firstStart? (acts : List Act) : Option Duration := acts.findSome? Act.start?

/-- **The act that brings the decision**: with the acts before it the meter goes on, and with it the
meter has terminated. -/
structure Brings (target : Nat) (before : List Act) (act : Act) : Prop where
  going : ∃ meter, after? before { target } = some meter ∧ meter.terminated = false
  decided : ∃ meter, after? (before ++ [act]) { target } = some meter ∧ meter.terminated = true

private theorem firstStart?_append (first second : List Act) :
    firstStart? (first ++ second) = (firstStart? first).or (firstStart? second) :=
  List.findSome?_append

/-- The first start is one of the readings. -/
theorem mem_of_firstStart? {acts : List Act} {started : Duration}
    (first : firstStart? acts = some started) : started ∈ acts.map Act.now := by
  obtain ⟨act, member, starts⟩ := List.exists_of_findSome?_eq_some first
  exact List.mem_map.mpr ⟨act, member, Act.now_of_start? starts⟩

/-! ## One act -/

variable {target : Nat} {acts before rest more : List Act} {meter other last : Meter} {act : Act}

private theorem started_record? {now : Duration} {bytes : Nat}
    (recorded : meter.record? now bytes = some other) : other.started = meter.started := by
  unfold record? at recorded
  split at recorded
  · cases recorded
    rfl
  · split at recorded
    · contradiction
    · dsimp only at recorded
      split at recorded <;> cases recorded <;> rfl

/-- An act starts the clock, unless it runs already. -/
theorem started_perform? (performed : act.perform? meter = some other) :
    other.started = meter.started.or act.start? := by
  cases act with
  | start now =>
      cases performed
      rfl
  | record now bytes => exact (started_record? performed).trans (Option.or_none ..).symm
  | fail now failure =>
      cases performed
      refine Eq.trans ?_ (Option.or_none ..).symm
      unfold fail
      split <;> rfl
  | finish now direction =>
      cases performed
      exact (Option.or_none ..).symm

/-- Once the decision has fallen, its time does not move. -/
theorem finished_of_terminated (timed : meter.Timed) (decided : meter.terminated = true)
    (performed : act.perform? meter = some other) : other.finished = meter.finished := by
  obtain ⟨frozen, set⟩ := Option.isSome_iff_exists.mp (timed.trans decided)
  cases effect_of_perform? performed with
  | kept started idle => rfl
  | counted now bytes finished fine room reading =>
      rw [reading, set, Option.some_or, ite_self]
  | failed now failure fine =>
      change meter.finished.or (some now) = meter.finished
      rw [set, Option.some_or]

private theorem finished_of_going (timed : meter.Timed) (going : meter.terminated = false) :
    meter.finished = none :=
  Option.not_isSome_iff_eq_none.mp (Bool.eq_false_iff.mp (timed.trans going))

/-- The act that brings the decision sets its time. -/
theorem finished_of_decided (timed : meter.Timed) (going : meter.terminated = false)
    (performed : act.perform? meter = some other) (decided : other.terminated = true) :
    other.finished = some act.now := by
  have unset := finished_of_going timed going
  cases effect_of_perform? performed with
  | kept started idle =>
      have still : meter.terminated = true := decided
      rw [going] at still
      contradiction
  | counted now bytes finished fine room reading =>
      have past : meter.target < meter.bytesTotal + bytes := by
        simpa [terminated, fine] using decided
      rw [reading, if_pos past, unset, Option.none_or]
      rfl
  | failed now failure fine =>
      change meter.finished.or (some now) = some now
      rw [unset, Option.none_or]

/-! ## Any number of acts -/

/-- The clock was started by the first start, and only once. -/
private theorem started_after? (done : after? acts meter = some last) :
    last.started = meter.started.or (firstStart? acts) := by
  induction acts using List.reverseRecOn generalizing last with
  | nil =>
      cases done
      exact Option.or_none.symm
  | append_singleton acts act ih =>
      rw [after?_concat] at done
      obtain ⟨between, earlier, performed⟩ := Option.bind_eq_some_iff.mp done
      rw [started_perform? performed, ih earlier, firstStart?_append, Option.or_assoc]
      cases act <;> rfl

/-- The moment of the decision is never moved. -/
private theorem finished_after? (timed : meter.Timed) (decided : meter.terminated = true)
    (done : after? acts meter = some last) : last.finished = meter.finished := by
  have frozen := after?_induction
    (fun other => other.Timed ∧ other.terminated = true ∧ other.finished = meter.finished)
    ⟨timed, decided, rfl⟩
    (fun ⟨timed, decided, frozen⟩ performed =>
      ⟨timed.perform performed, terminated_perform? decided performed,
        (finished_of_terminated timed decided performed).trans frozen⟩)
    done
  exact frozen.2.2

/-- **A meter that has terminated was brought to it by one of its acts.** -/
theorem exists_brings (done : after? acts { target } = some meter)
    (decided : meter.terminated = true) :
    ∃ before act rest, acts = before ++ act :: rest ∧ Brings target before act := by
  induction acts using List.reverseRecOn generalizing meter with
  | nil =>
      cases done
      exact absurd decided (by simp [terminated])
  | append_singleton acts act ih =>
      have whole := done
      rw [after?_concat] at done
      obtain ⟨between, earlier, performed⟩ := Option.bind_eq_some_iff.mp done
      cases sooner : between.terminated with
      | true =>
          obtain ⟨before, first, rest, rfl, brings⟩ := ih earlier sooner
          exact ⟨before, first, rest ++ [act], by rw [List.append_assoc]; rfl, brings⟩
      | false =>
          exact ⟨acts, act, [], rfl, ⟨between, earlier, sooner⟩, meter, whole, decided⟩

/-- The time of the decision is that of the act that brought it, whatever came afterwards. -/
theorem Brings.finished_eq (brings : Brings target before act)
    (done : after? (before ++ act :: rest) { target } = some meter) :
    meter.terminated = true ∧ meter.finished = some act.now := by
  obtain ⟨between, earlier, going⟩ := brings.going
  obtain ⟨first, there, decided⟩ := brings.decided
  have performed : act.perform? between = some first := by
    rwa [after?_concat, earlier, Option.bind_some] at there
  rw [List.append_cons, after?_append, there, Option.bind_some] at done
  have timed : between.Timed := (timed_new target).after earlier
  rw [finished_after? (timed.perform performed) decided done]
  exact ⟨terminated_after? decided done, finished_of_decided timed going performed decided⟩

/-! ## The time that is shown -/

private theorem elapsed_of_unstarted (unstarted : meter.started = none) (now : Duration) :
    meter.elapsed now = .zero := by
  rw [elapsed, unstarted]

private theorem elapsed_of_started {started : Duration} (running : meter.started = some started)
    (now : Duration) : meter.elapsed now = (meter.finished.getD now).since started := by
  rw [elapsed, running]

/-- A start that came no sooner than the decision does not count. -/
theorem elapsed_of_late {started finished : Duration} (late : meter.started = some started)
    (frozen : meter.finished = some finished)
    (inOrder : finished.nanoseconds ≤ started.nanoseconds) (now : Duration) :
    meter.elapsed now = .zero := by
  rw [elapsed_of_started late, frozen, Option.getD_some, since, Nat.sub_eq_zero_of_le inOrder]
  rfl

/-- Once the decision has fallen, the time is that from the first start to the act that brought it,
or none if there was no start before. -/
theorem Brings.elapsed_eq (brings : Brings target before act)
    (done : after? (before ++ act :: rest) { target } = some meter)
    (inOrder : Chronological ((before ++ act :: rest).map Act.now)) (now : Duration) :
    match firstStart? before with
    | some started => started.add (meter.elapsed now) = act.now
    | none => meter.elapsed now = .zero := by
  have frozen := (brings.finished_eq done).2
  have running := started_after? done
  rw [firstStart?_append, Option.none_or] at running
  rw [List.map_append, List.map_cons, Chronological, List.pairwise_append,
    List.pairwise_cons] at inOrder
  obtain ⟨_, ⟨upwards, _⟩, across⟩ := inOrder
  cases first : firstStart? before with
  | some started =>
      rw [first, Option.some_or] at running
      rw [elapsed_of_started running, frozen, Option.getD_some]
      exact add_since (across started (mem_of_firstStart? first) act.now List.mem_cons_self)
  | none =>
      rw [first, Option.none_or] at running
      dsimp only
      cases late : firstStart? (act :: rest) with
      | none => exact elapsed_of_unstarted (running.trans late) now
      | some started =>
          refine elapsed_of_late (running.trans late) frozen ?_ now
          rcases List.mem_cons.mp (mem_of_firstStart? late) with same | among
          · exact Nat.le_of_eq (congrArg nanoseconds same.symm)
          · exact upwards started among

/-- While the test goes on, the time runs with the clock. -/
theorem elapsed_of_going {started now : Duration} (timed : meter.Timed)
    (going : meter.terminated = false) (running : meter.started = some started) :
    meter.elapsed now = now.since started := by
  rw [elapsed_of_started running, finished_of_going timed going, Option.getD_none]

/-- The time has grown by as much as the clock has moved on. -/
theorem elapsed_after? {started now later : Duration} (timed : meter.Timed)
    (running : meter.started = some started) (done : after? more meter = some last)
    (going : last.terminated = false) (since : started.nanoseconds ≤ now.nanoseconds)
    (inOrder : now.nanoseconds ≤ later.nanoseconds) :
    started.add (meter.elapsed now) = now ∧
      last.elapsed later = (meter.elapsed now).add (later.since now) := by
  have before : meter.terminated = false := Bool.eq_false_iff.mpr fun decided => by
    rw [terminated_after? decided done] at going
    contradiction
  have still : last.started = some started := by
    rw [started_after? done, running, Option.some_or]
  rw [elapsed_of_going timed before running, elapsed_of_going (timed.after done) going still]
  refine ⟨add_since since, congrArg Duration.mk ?_⟩
  dsimp only [Duration.since]
  omega

/-- **The clock of a meter freezes at the decision.** Whatever is done to a meter, as long as the
clock does not go back: the time of the decision is set just if the meter has terminated, by the act
that brought it to that, and does not move any more. The meter shows no time before its first start.
From then on the time runs with the clock, whether or not there are more starts, and from the
decision on it is always that from the first start to the act that brought the decision. If there
was no start before, it stays none, even if one follows. -/
theorem clock_freezes (target : Nat) (acts more : List Act) (now later : Duration)
    (done : after? acts { target } = some meter) (continued : after? more meter = some last)
    (inOrder : Chronological (acts.map Act.now ++ now :: (more.map Act.now ++ [later]))) :
    meter.finished.isSome = meter.terminated ∧
    (meter.terminated = true ↔
      ∃ before act rest, acts = before ++ act :: rest ∧ Brings target before act) ∧
    (firstStart? acts = none → meter.elapsed now = .zero) ∧
    (∀ started, firstStart? acts = some started → last.terminated = false →
      started.add (meter.elapsed now) = now ∧
        last.elapsed later = (meter.elapsed now).add (later.since now)) ∧
    ∀ before act rest, acts = before ++ act :: rest → Brings target before act →
      meter.finished = some act.now ∧ last.finished = some act.now ∧
      last.elapsed later = meter.elapsed now ∧
      match firstStart? before with
      | some started => started.add (meter.elapsed now) = act.now
      | none => meter.elapsed now = .zero := by
  have timed : meter.Timed := (timed_new target).after done
  have started := started_after? done
  rw [Option.none_or] at started
  refine ⟨timed, ⟨exists_brings done, ?_⟩, ?_, ?_, ?_⟩
  · rintro ⟨before, act, rest, rfl, brings⟩
    exact (brings.finished_eq done).1
  · intro unstarted
    exact elapsed_of_unstarted (started.trans unstarted) now
  · intro first running going
    rw [Chronological, List.pairwise_append, List.pairwise_cons] at inOrder
    obtain ⟨_, ⟨upwards, _⟩, across⟩ := inOrder
    refine elapsed_after? timed (started.trans running) continued going ?_ ?_
    · exact across first (mem_of_firstStart? running) now List.mem_cons_self
    · exact upwards later (List.mem_append_right _ (List.mem_singleton_self later))
  · rintro before act rest rfl brings
    have frozen := (brings.finished_eq done).2
    have whole : after? (before ++ act :: (rest ++ more)) { target } = some last := by
      rw [← List.cons_append, ← List.append_assoc, after?_append, done]
      exact continued
    have sooner := brings.elapsed_eq done (inOrder.sublist (List.sublist_append_left ..)) now
    have readings : ((before ++ act :: (rest ++ more)).map Act.now).Sublist
        ((before ++ act :: rest).map Act.now ++ now :: (more.map Act.now ++ [later])) := by
      rw [← List.cons_append, ← List.append_assoc, List.map_append]
      exact (List.Sublist.refl _).append ((List.sublist_append_left ..).cons now)
    have final := brings.elapsed_eq whole (inOrder.sublist readings) later
    refine ⟨frozen, (brings.finished_eq whole).2, ?_, sooner⟩
    cases first : firstStart? before with
    | some started =>
        rw [first] at sooner final
        exact add_left_cancel (final.trans sooner.symm)
    | none =>
        rw [first] at sooner final
        exact final.trans sooner.symm

/-- A test that was started at 3 is decided at 9, and shows 6 ever after. One that is started only
after its decision shows nothing. -/
theorem clock_freezes_late :
    let acts : List Act := [.start ⟨3⟩, .record ⟨5⟩ 8, .start ⟨6⟩, .record ⟨9⟩ 5]
    let late : List Act := [.record ⟨5⟩ 11, .start ⟨7⟩]
    let more : List Act := [.fail ⟨11⟩ .overflow, .start ⟨12⟩, .record ⟨12⟩ 1]
    (∃ meter last, after? acts { target := 10 } = some meter ∧ after? more meter = some last ∧
      meter.finished = some ⟨9⟩ ∧ last.finished = some ⟨9⟩ ∧
      last.elapsed ⟨20⟩ = meter.elapsed ⟨10⟩ ∧ add ⟨3⟩ (meter.elapsed ⟨10⟩) = ⟨9⟩) ∧
    ∃ meter last, after? late { target := 10 } = some meter ∧ after? more meter = some last ∧
      last.finished = some ⟨5⟩ ∧ last.elapsed ⟨20⟩ = meter.elapsed ⟨10⟩ ∧
      meter.elapsed ⟨10⟩ = .zero := by
  intro acts late more
  have done : after? acts { target := 10 } =
      some ⟨10, 13, 2, some ⟨3⟩, some ⟨9⟩, none⟩ := by decide +kernel
  have doneLate : after? late { target := 10 } =
      some ⟨10, 11, 1, some ⟨7⟩, some ⟨5⟩, none⟩ := by decide +kernel
  have continued : after? more ⟨10, 13, 2, some ⟨3⟩, some ⟨9⟩, none⟩ =
      some ⟨10, 13, 2, some ⟨3⟩, some ⟨9⟩, some .overflow⟩ := by decide +kernel
  have continuedLate : after? more ⟨10, 11, 1, some ⟨7⟩, some ⟨5⟩, none⟩ =
      some ⟨10, 11, 1, some ⟨7⟩, some ⟨5⟩, some .overflow⟩ := by decide +kernel
  have brings : Brings 10 (acts.take 3) (.record ⟨9⟩ 5) :=
    ⟨⟨⟨10, 8, 1, some ⟨3⟩, none, none⟩, by decide +kernel, by decide⟩, _, done, by decide⟩
  have bringsLate : Brings 10 [] (.record ⟨5⟩ 11) :=
    ⟨⟨_, rfl, by decide⟩, ⟨10, 11, 1, none, some ⟨5⟩, none⟩, by decide +kernel, by decide⟩
  obtain ⟨_, _, _, _, decided⟩ :=
    clock_freezes 10 acts more ⟨10⟩ ⟨20⟩ done continued (by decide +kernel)
  obtain ⟨_, _, _, _, decidedLate⟩ :=
    clock_freezes 10 late more ⟨10⟩ ⟨20⟩ doneLate continuedLate (by decide +kernel)
  obtain ⟨frozen, still, same, time⟩ := decided (acts.take 3) _ [] rfl brings
  obtain ⟨_, stillLate, sameLate, none⟩ := decidedLate [] _ [.start ⟨7⟩] rfl bringsLate
  exact ⟨⟨_, _, done, continued, frozen, still, same, time⟩,
    _, _, doneLate, continuedLate, stillLate, sameLate, none⟩

end Meter

end UsbThroughput
