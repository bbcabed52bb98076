import UsbThroughput.Proofs.Benchmark.Trial
import UsbThroughput.Proofs.Program.Brackets

/-!
# The exit status

The exit status of the program is that of the first thing that fails: the start of the stack, the
test of inbound transfers or the test of outbound transfers (`Program.status_eq_first_failure`). The
second test begins only after the first came to its report and its device was closed, so that the
commands that the program writes are those of one test followed by those of the other.
-/

namespace UsbThroughput

open StackEvent

namespace StackEvent

/-- Whether an event is the search for a device. -/
def isOpening : StackEvent → Bool
  | opened _ _ _ => true
  | _ => false

/-- A visit begins with the search for the device, and there is no other. -/
theorem Visit.opens_first {visit : List StackEvent} (visited : Visit visit) :
    ∃ first rest, visit = first :: rest ∧ ∀ call ∈ rest, call.isOpening = false := by
  cases visited with
  | notFound vendor product => exact ⟨_, _, rfl, List.forall_mem_nil _⟩
  | notClaimed vendor product interface code failed => exact ⟨_, _, rfl, by simp [isOpening]⟩
  | used vendor product interface work numbers releases works own apart released =>
      refine ⟨_, _, rfl, ?_⟩
      have working : ∀ call ∈ work, call.isOpening = false := by
        intro call member
        have kind := works call member
        cases call <;> first | rfl | contradiction
      have releasing : ∀ call ∈ releases, call.isOpening = false := by
        cases released <;> simp [isOpening]
      intro call member
      simp only [List.append_eq, List.mem_append, List.mem_cons, List.mem_map, List.not_mem_nil,
        or_false] at member
      rcases member with ((((rfl | among) | ⟨_, _, rfl⟩) | among) | rfl)
      · rfl
      · exact working call among
      · rfl
      · exact releasing call among
      · rfl

/-- The search for a device begins a visit, or comes later. -/
theorem place_of_opening {visit rest earlier later : List StackEvent} {call : StackEvent}
    (visited : visit = [] ∨ Visit visit) (opening : call.isOpening = true)
    (split : visit ++ rest = earlier ++ call :: later) :
    visit ≠ [] ∧ earlier = [] ∨
      ∃ more, earlier = visit ++ more ∧ rest = more ++ call :: later := by
  rcases List.append_eq_append_iff.mp split with ⟨more, past, same⟩ | ⟨among, within, same⟩
  · exact Or.inr ⟨more, past, same⟩
  · cases among with
    | nil =>
        rw [List.append_nil] at within
        exact Or.inr ⟨[], by rw [List.append_nil, within], same.symm⟩
    | cons head tail =>
        obtain ⟨rfl, _⟩ := List.cons_eq_cons.mp same
        left
        rcases visited with rfl | visited
        · simp at within
        · obtain ⟨first, others, rfl, none⟩ := visited.opens_first
          refine ⟨List.cons_ne_nil _ _, ?_⟩
          cases earlier with
          | nil => rfl
          | cons _ earlier =>
              obtain ⟨_, rfl⟩ := List.cons_eq_cons.mp within
              have other := none call (by simp)
              rw [opening] at other
              contradiction

end StackEvent

namespace Program

variable {β : Type} (stack : Stack β) (limit : Nat) (settings : Settings)

/-- The trial of one direction, as the program makes it. -/
def trial (direction : Direction) (session : Session (Journal StackEvent β)) : Trial β where
  stack
  limit
  settings
  direction
  session := session.note stack.journaled (.testing direction)

section

variable {stack limit settings} {direction : Direction} {session : Session (Journal StackEvent β)}

private theorem run_eq_trial :
    ({ settings, direction : Benchmark }.run (Session.rig stack.journaled) limit
      (session.note stack.journaled (.testing direction))) =
        ((trial stack limit settings direction session).ran.1,
          (trial stack limit settings direction session).last) :=
  Benchmark.viewed_run (Session.rig stack.journaled).mirrors_journaled _ limit
    { state := session.note stack.journaled (.testing direction) }

variable (stack) in
/-- A test answers just if its trial finishes, by the result of the trial. A failure is noted. -/
theorem test_cases :
    (∃ report,
      (trial stack limit settings direction session).ran.1.1 = .finished (.ok report) ∧
      test stack.journaled limit settings direction session =
        (some none, (trial stack limit settings direction session).last)) ∨
    (∃ error notice,
      (trial stack limit settings direction session).ran.1.1 = .finished (.error error) ∧
      test stack.journaled limit settings direction session =
        (some (some error.exitCode),
          (trial stack limit settings direction session).last.note stack.journaled notice)) ∨
    (test stack.journaled limit settings direction session).1 = none ∧
      ∀ result, (trial stack limit settings direction session).ran.1.1 ≠ .finished result := by
  unfold test
  dsimp only
  rw [run_eq_trial]
  rcases (trial stack limit settings direction session).ran.1 with ⟨conclusion, after⟩
  cases conclusion with
  | finished result =>
      cases result with
      | ok report => exact Or.inl ⟨report, rfl, rfl⟩
      | error error => exact Or.inr (Or.inl ⟨error, _, rfl, rfl⟩)
  | broken fault => exact Or.inr (Or.inr ⟨rfl, nofun⟩)
  | unfinished => exact Or.inr (Or.inr ⟨rfl, nofun⟩)

/-- What a test that answers has done from one session to another. -/
structure Tested (trial : Trial β) (answer : Option UInt8)
    (session last : Session (Journal StackEvent β)) : Prop where
  status_eq : trial.status? = answer
  reported_iff : trial.Reported ↔ answer = none
  output_eq : output last.stackState.history =
    output session.stackState.history ++ trial.commands.map Command.byte
  visits : ∃ visit, (visit = [] ∨ Visit visit) ∧
    calls last.stackState.history = calls session.stackState.history ++ visit
  last_eq : answer = none → last = trial.last
  closed : answer = none → ∃ before, last.stackState.history = before ++ [.closed]

/-- **What a test comes to**, seen from the program: its answer, its calls and what it writes. -/
theorem tested {answer : Option UInt8}
    (answered : (test stack.journaled limit settings direction session).1 = some answer) :
    Tested (trial stack limit settings direction session) answer session
      (test stack.journaled limit settings direction session).2 := by
  have visits : ∃ visit, (visit = [] ∨ Visit visit) ∧
      calls (test stack.journaled limit settings direction session).2.stackState.history =
        calls session.stackState.history ++ visit := by
    obtain ⟨visits, few, each, grown⟩ :=
      (pays_test stack (ends_of_test stack.journaled answered)).visits
    match visits with
    | [] => exact ⟨[], Or.inl rfl, grown⟩
    | [visit] =>
        rw [List.flatten_singleton] at grown
        exact ⟨visit, Or.inr (each visit List.mem_cons_self), grown⟩
    | _ :: _ :: _ => simp at few
  have output_eq {result : Except TestError Report}
      (finished : (trial stack limit settings direction session).ran.1.1 = .finished result) :
      output (trial stack limit settings direction session).last.stackState.history =
        output session.stackState.history ++
          (trial stack limit settings direction session).commands.map Command.byte := by
    rw [Trial.output_of_finished finished]
    exact congrArg (· ++ _) (Session.unaddressed_note stack (.testing direction) session).plainly.output_eq
  rcases test_cases stack with
    ⟨report, finished, same⟩ | ⟨error, notice, finished, same⟩ | ⟨none, _⟩
  · obtain ⟨status, reported⟩ := Trial.status_of_finished finished
    rw [same] at answered visits ⊢
    cases answered
    have opened := Trial.opened_of_reported (reported.mpr status)
    exact
      { status_eq := status
        reported_iff := reported.trans (by rw [status]; rfl)
        output_eq := output_eq finished
        visits
        last_eq := fun _ => rfl
        closed := fun _ => Trial.closed_of_finished opened finished }
  · obtain ⟨status, reported⟩ := Trial.status_of_finished finished
    rw [same] at answered visits ⊢
    cases answered
    exact
      { status_eq := status
        reported_iff := reported.trans (by rw [status]; rfl)
        output_eq := (Session.unaddressed_note ..).plainly.output_eq.trans (output_eq finished)
        visits
        last_eq := nofun
        closed := nofun }
  · rw [none] at answered
    contradiction

variable {last : Session (Journal StackEvent β)}

/-- After a test that failed no other is made. -/
private theorem tests_of_failed {code : UInt8}
    (first : test stack.journaled limit settings .inbound session = (some (some code), last)) :
    tests stack.journaled limit settings session = (some code, last) := by
  unfold tests
  rw [first]

/-- After a test that passed, the other one is made. -/
private theorem tests_of_passed
    (first : test stack.journaled limit settings .inbound session = (some none, last)) :
    tests stack.journaled limit settings session =
      ((test stack.journaled limit settings .outbound (pause stack.journaled last)).1.map
          fun code => code.getD success,
        (test stack.journaled limit settings .outbound (pause stack.journaled last)).2) := by
  unfold tests
  rw [first]
  dsimp only
  unfold pause
  rcases test stack.journaled limit settings .outbound _ with ⟨answer, final⟩
  cases answer <;> rfl

private theorem tests_of_unanswered
    (first : test stack.journaled limit settings .inbound session = (none, last)) :
    tests stack.journaled limit settings session = (none, last) := by
  unfold tests
  rw [first]

end

/-- The exit status of two trials, one after the other. -/
def statusOf (inbound outbound : Trial β) : UInt8 :=
  (inbound.status?.or outbound.status?).getD success

/-- The commands of two trials. The second is made only if the first came to its report. -/
def commandsOf (inbound outbound : Trial β) : List Command :=
  inbound.commands ++ if inbound.Reported then outbound.commands else []

/-- What the tests have done from one session to another. -/
structure Course (inbound outbound : Trial β) (code : UInt8)
    (session last : Session (Journal StackEvent β)) : Prop where
  code_eq : code = statusOf inbound outbound
  success_iff : code = success ↔ inbound.Reported ∧ outbound.Reported
  output_eq : output last.stackState.history =
    output session.stackState.history ++ (commandsOf inbound outbound).map Command.byte
  visits : ∃ first second, (first = [] ∨ Visit first) ∧ (second = [] ∨ Visit second) ∧
    calls last.stackState.history = calls session.stackState.history ++ first ++ second ∧
    (second ≠ [] → inbound.Reported ∧
      calls inbound.last.stackState.history = calls session.stackState.history ++ first ∧
      (calls inbound.last.stackState.history).getLast? = some .closed)

section

variable {inbound outbound : Trial β} {session last : Session (Journal StackEvent β)}

private theorem calls_pause (session : Session (Journal StackEvent β)) :
    calls (pause stack.journaled session).stackState.history =
      calls session.stackState.history :=
  (congrArg calls (stack.history_sleep session.stackState Settings.testInterval)).trans
    (calls_concat_of_aside _ rfl)

private theorem output_pause (session : Session (Journal StackEvent β)) :
    output (pause stack.journaled session).stackState.history =
      output session.stackState.history := by
  simp [pause, stack.history_sleep, written]

/-- If the first test fails, there is no second. -/
theorem Course.of_failed {code : UInt8} (first : Tested inbound (some code) session last)
    (outbound : Trial β) : Course inbound outbound code session last := by
  have unreported : ¬inbound.Reported := by
    rw [first.reported_iff]
    exact nofun
  obtain ⟨visit, visited, grown⟩ := first.visits
  refine ⟨?_, ?_, ?_, visit, [], visited, Or.inl rfl, ?_, fun absent => (absent rfl).elim⟩
  · rw [statusOf, first.status_eq]
    rfl
  · exact ⟨fun zero => (Trial.ne_zero_of_status first.status_eq zero).elim,
      fun both => (unreported both.1).elim⟩
  · rw [commandsOf, if_neg unreported, List.append_nil, first.output_eq]
  · rw [grown, List.append_nil]

/-- If the first test passes, the second decides. -/
theorem Course.of_passed {answer : Option UInt8} (first : Tested inbound none session inbound.last)
    (second : Tested outbound answer (pause stack.journaled inbound.last) last) :
    Course inbound outbound (answer.getD success) session last := by
  have reported := first.reported_iff.mpr rfl
  obtain ⟨before, closed⟩ := first.closed rfl
  obtain ⟨visit, visited, grown⟩ := first.visits
  obtain ⟨next, follows, grows⟩ := second.visits
  refine ⟨?_, ?_, ?_, visit, next, visited, follows, ?_, fun _ => ⟨reported, grown, ?_⟩⟩
  · rw [statusOf, first.status_eq, second.status_eq]
    rfl
  · rw [second.reported_iff]
    cases answer with
    | none => exact ⟨fun _ => ⟨reported, rfl⟩, fun _ => rfl⟩
    | some status =>
        exact ⟨fun zero => (Trial.ne_zero_of_status second.status_eq zero).elim, nofun⟩
  · rw [second.output_eq, output_pause, first.output_eq, commandsOf, if_pos reported,
      List.map_append, List.append_assoc]
  · rw [grows, calls_pause, grown]
  · rw [closed, calls_concat_of_call _ rfl, List.getLast?_concat]

/-- **One test after the other.** -/
theorem course_of_tests {code : UInt8}
    (answered : (tests stack.journaled limit settings session).1 = some code) :
    Course (trial stack limit settings .inbound session)
      (trial stack limit settings .outbound
        (pause stack.journaled (trial stack limit settings .inbound session).last))
      code session (tests stack.journaled limit settings session).2 := by
  rcases first : test stack.journaled limit settings .inbound session with ⟨result, last⟩
  match result with
  | none =>
      rw [tests_of_unanswered first] at answered
      contradiction
  | some (some status) =>
      rw [tests_of_failed first] at answered ⊢
      cases answered
      have inbound := tested (congrArg Prod.fst first)
      rw [first] at inbound
      exact .of_failed inbound _
  | some none =>
      rw [tests_of_passed first] at answered ⊢
      have inbound := tested (congrArg Prod.fst first)
      rw [first] at inbound
      obtain rfl := inbound.last_eq rfl
      obtain ⟨answer, answers, rfl⟩ := Option.map_eq_some_iff.mp answered
      exact .of_passed stack inbound (tested answers)

/-- **A device is searched for** first of all, or when the first test has come to its report and its
device was closed. -/
theorem Course.place_of_opening {code : UInt8}
    (course : Course inbound outbound code session last) {first call : StackEvent}
    {earlier later : List StackEvent}
    (begun : calls session.stackState.history = [first]) (other : first.isOpening = false)
    (opening : call.isOpening = true)
    (split : calls last.stackState.history ++ [.exited] = earlier ++ call :: later) :
    earlier = [first] ∨
      inbound.Reported ∧ earlier = calls inbound.last.stackState.history ∧
        earlier.getLast? = some .closed := by
  obtain ⟨visit, next, visited, follows, grown, second⟩ := course.visits
  rw [begun] at grown second
  rw [grown, List.append_assoc, List.append_assoc, List.singleton_append] at split
  cases earlier with
  | nil =>
      obtain ⟨rfl, _⟩ := List.cons_eq_cons.mp split
      rw [opening] at other
      contradiction
  | cons head earlier =>
      obtain ⟨rfl, visits⟩ := List.cons_eq_cons.mp split
      rcases StackEvent.place_of_opening visited opening visits with
        ⟨_, rfl⟩ | ⟨more, rfl, after⟩
      · exact Or.inl rfl
      · rcases StackEvent.place_of_opening follows opening after with
          ⟨present, rfl⟩ | ⟨others, rfl, rest⟩
        · obtain ⟨reported, before, closed⟩ := second present
          rw [before] at closed
          rw [before, List.append_nil]
          exact Or.inr ⟨reported, rfl, closed⟩
        · -- Only the end of the use of the stack is left.
          cases others with
          | nil =>
              obtain ⟨rfl, _⟩ := List.cons_eq_cons.mp rest
              contradiction
          | cons _ others => simp at rest

end

/-- If tests that come to their ends do not answer, more completions were handed over in one of
them than can be counted. -/
theorem le_handed_of_tests {session : Session (Journal StackEvent β)}
    (fits : ∀ direction, settings.dataSize + settings.transferLength direction ≤ Meter.capacity)
    (first : Ends stack.journaled limit settings .inbound session)
    (second : ∀ last, test stack.journaled limit settings .inbound session = (some none, last) →
      Ends stack.journaled limit settings .outbound (pause stack.journaled last))
    (unanswered : (tests stack.journaled limit settings session).1 = none) :
    UInt64.size ≤ (trial stack limit settings .inbound session).handed ∨
      UInt64.size ≤ (trial stack limit settings .outbound
        (pause stack.journaled (trial stack limit settings .inbound session).last)).handed := by
  have overflows {direction : Direction} {session : Session (Journal StackEvent β)}
      (ends : Ends stack.journaled limit settings direction session)
      (unfinished : ∀ result,
        (trial stack limit settings direction session).ran.1.1 ≠ .finished result) :
      UInt64.size ≤ (trial stack limit settings direction session).handed := by
    unfold Ends at ends
    rw [run_eq_trial] at ends
    cases conclusion : (trial stack limit settings direction session).ran.1.1 with
    | finished result => exact (unfinished result conclusion).elim
    | broken fault => exact Trial.le_handed_of_broken (fits direction) conclusion
    | unfinished => exact (ends conclusion).elim
  rcases test_cases stack with
    ⟨_, _, same⟩ | ⟨_, _, _, same⟩ | ⟨_, unfinished⟩
  · right
    have ends := second _ same
    rw [tests_of_passed same, Option.map_eq_none_iff] at unanswered
    rcases test_cases stack with
      ⟨_, _, next⟩ | ⟨_, _, _, next⟩ | ⟨_, unfinished⟩
    · rw [next] at unanswered
      contradiction
    · rw [next] at unanswered
      contradiction
    · exact overflows ends unfinished
  · rw [tests_of_failed same] at unanswered
    contradiction
  · exact Or.inl (overflows first unfinished)

/-- The start of the stack, after the announcements of the program. -/
def context (state : β) : UsbResult Unit × Session (Journal StackEvent β) :=
  (announce stack.journaled settings { stackState := { state } }).start stack.journaled

/-- What the program has done when its tests begin. -/
theorem history_context (state : β) :
    ∃ code, UsbResult.ofCode code = (context stack settings state).1 ∧
      output (context stack settings state).2.stackState.history = [] ∧
      calls (context stack settings state).2.stackState.history = [.started code] :=
  ⟨_, rfl, rfl, rfl⟩

private theorem run_of_context {state : β} (available : (context stack settings state).1 = .ok ()) :
    run stack.journaled limit settings { stackState := { state } } =
      ((tests stack.journaled limit settings (context stack settings state).2).1,
        (tests stack.journaled limit settings (context stack settings state).2).2.exit
          stack.journaled) :=
  run_of_started stack.journaled (Prod.ext available rfl)

/-- **The first failure decides about the exit status.** A program that comes to its end succeeds
just if it has started its stack and both tests have come to their reports. If the stack cannot be
started, the status is that of a failed setup, no device is searched for and nothing is written.
Otherwise the status is that of the first test that fails: of its setup, or of the class of its
first fatal event. The second test searches for its device only when the first has come to its
report and closed its device, which was the last call. All that is written are the commands of the
tests that were made: for each whose setup went well the start command, if its queue was fully
armed, and the stop command. With a scripted stack the program comes to its end, unless more
completions are handed over in a test than a word of 64 bits counts. -/
theorem status_eq_first_failure (settings : Settings) :
    (∀ {β : Type} (stack : Stack β) (state : β) (limit : Nat) (code : UInt8),
      let begun := context stack settings state
      let inbound := trial stack limit settings .inbound begun.2
      let outbound := trial stack limit settings .outbound (pause stack.journaled inbound.last)
      let ran := run stack.journaled limit settings { stackState := { state } }
      let history := ran.2.stackState.history
      ran.1 = some code →
        (code = success ↔ begun.1 = .ok () ∧ inbound.Reported ∧ outbound.Reported) ∧
        (∀ error, begun.1 = .error error →
          code = Failure.error.exitCode ∧ output history = [] ∧
            ∀ call ∈ calls history, call.isOpening = false) ∧
        (begun.1 = .ok () →
          code = statusOf inbound outbound ∧
          output history = (commandsOf inbound outbound).map Command.byte ∧
          ∀ earlier vendor product found later,
            calls history = earlier ++ .opened vendor product found :: later →
              earlier = [.started 0] ∨
                inbound.Reported ∧ earlier = calls inbound.last.stackState.history ∧
                  earlier.getLast? = some .closed)) ∧
    ∀ script : ScriptedStack,
      (∀ direction, settings.dataSize + settings.transferLength direction ≤ Meter.capacity) →
      ∃ enough, ∀ limit ≥ enough,
        let begun := context ScriptedStack.calls settings script
        let inbound := trial ScriptedStack.calls limit settings .inbound begun.2
        let outbound := trial ScriptedStack.calls limit settings .outbound
          (pause ScriptedStack.calls.journaled inbound.last)
        let ran :=
          run ScriptedStack.calls.journaled limit settings { stackState := { state := script } }
        (∃ code, ran.1 = some code) ∨
          UInt64.size ≤ inbound.handed ∨ UInt64.size ≤ outbound.handed := by
  constructor
  · intro β stack state limit code begun inbound outbound ran history answered
    obtain ⟨answer, reply, silent, started⟩ := history_context stack settings state
    cases ready : begun.1 with
    | error error =>
        have unavailable : ran = _ := run_of_unavailable stack.journaled (Prod.ext ready rfl)
        rw [unavailable] at answered
        cases answered
        have noted : history = begun.2.stackState.history ++ [.noted (.noContext error)] :=
          (congrArg (fun ran => ran.2.stackState.history) unavailable).trans
            (stack.history_note ..)
        refine ⟨⟨nofun, nofun⟩, fun _ _ => ⟨rfl, ?_, ?_⟩, nofun⟩
        · rw [noted, output_append, silent]
          rfl
        · rw [noted, calls_concat_of_aside _ rfl, started]
          exact List.forall_mem_singleton.mpr rfl
    | ok _ =>
        have available : ran = _ := run_of_context stack limit settings ready
        rw [available] at answered
        have course : Course inbound outbound code begun.2 _ :=
          course_of_tests stack limit settings answered
        have exited : history = _ :=
          (congrArg (fun ran => ran.2.stackState.history) available).trans (stack.history_exit _)
        obtain rfl := Session.code_of_ok (reply.trans ready)
        refine ⟨?_, nofun, fun _ => ⟨course.code_eq, ?_, ?_⟩⟩
        · rw [course.success_iff]
          exact ⟨fun both => ⟨rfl, both⟩, fun all => all.2⟩
        · rw [exited, output_append, course.output_eq, silent]
          exact List.append_nil _
        · intro earlier vendor product found later split
          rw [exited, calls_concat_of_call _ rfl] at split
          exact course.place_of_opening started rfl rfl split
  · intro script fits
    obtain ⟨enough, ends⟩ :=
      ends_of_script settings (context ScriptedStack.calls settings script).2
    refine ⟨enough, fun limit above => ?_⟩
    intro begun inbound outbound ran
    cases answer : ran.1 with
    | some code => exact Or.inl ⟨code, rfl⟩
    | none =>
        right
        cases ready : begun.1 with
        | error error =>
            have unavailable : ran = _ :=
              run_of_unavailable ScriptedStack.calls.journaled (Prod.ext ready rfl)
            rw [unavailable] at answer
            contradiction
        | ok _ =>
            have available : ran = _ := run_of_context ScriptedStack.calls limit settings ready
            rw [available] at answer
            exact le_handed_of_tests _ limit settings fits (ends limit above).1
              (ends limit above).2 answer

/-- A stack on which the fourth transfer moves more bytes than were asked for. -/
def flooding : ScriptedStack where
  host := { script := { outcomes := [none, none, none, some { status := 6 }] } }

/-- The outbound test fails, after both tests have sent their commands. The usual settings leave
room for the totals, so that every script brings the program to its end with them. -/
theorem status_eq_first_failure_flooding :
    let settings : Settings := { Benchmark.small.settings with outboundLength := 8 }
    let begun := context ScriptedStack.calls settings flooding
    let inbound := trial ScriptedStack.calls 30 settings .inbound begun.2
    let outbound := trial ScriptedStack.calls 30 settings .outbound
      (pause ScriptedStack.calls.journaled inbound.last)
    let ran := run ScriptedStack.calls.journaled 30 settings { stackState := { state := flooding } }
    (ran.1 = some 6 ∧ statusOf inbound outbound = 6 ∧
      ¬(inbound.Reported ∧ outbound.Reported) ∧
      (commandsOf inbound outbound).map Command.byte = [0x23, 0x01, 0x42, 0x01]) ∧
    ∀ script, ∃ enough, ∀ limit ≥ enough,
      let begun := context ScriptedStack.calls {} script
      let inbound := trial ScriptedStack.calls limit {} .inbound begun.2
      let outbound := trial ScriptedStack.calls limit {} .outbound
        (pause ScriptedStack.calls.journaled inbound.last)
      (∃ code, (run ScriptedStack.calls.journaled limit {}
          { stackState := { state := script } }).1 = some code) ∨
        UInt64.size ≤ inbound.handed ∨ UInt64.size ≤ outbound.handed := by
  intro settings begun inbound outbound ran
  have answered : ran.1 = some 6 := by decide +kernel
  have ready : begun.1 = .ok () := by decide +kernel
  have written : output ran.2.stackState.history = [0x23, 0x01, 0x42, 0x01] := by decide +kernel
  obtain ⟨succeeds, _, decided⟩ :=
    (status_eq_first_failure settings).1 ScriptedStack.calls flooding 30 6 answered
  obtain ⟨code, commands, _⟩ := decided ready
  refine ⟨⟨answered, code.symm, fun both => ?_, commands.symm.trans written⟩, fun script => ?_⟩
  · exact absurd (succeeds.mpr ⟨ready, both⟩) (by decide)
  · exact (status_eq_first_failure {}).2 script fun direction => by cases direction <;> decide

end Program

end UsbThroughput
