import UsbThroughput.Program
import UsbThroughput.Proofs.Script.Limit
import UsbThroughput.Proofs.Session.Visits

/-!
# What the program opens it closes

The program starts the stack first and ends its use last, and in between it pays a visit to the
device for each of its tests (`Program.closes_all`). On a scripted stack it comes to its end with
that whatever the script says, also when a test is broken off.
-/

namespace UsbThroughput

open StackEvent

/-- A script brings a benchmark on a session to its end. More steps make no difference then. -/
theorem Benchmark.settles_of_script (benchmark : Benchmark) (session : ScriptedSession) :
    ∃ enough, ∀ limit ≥ enough,
      (benchmark.run (Session.rig ScriptedStack.calls.journaled) limit session).1.1 ≠
          .unfinished ∧
        benchmark.run (Session.rig ScriptedStack.calls.journaled) limit session =
          benchmark.run (Session.rig ScriptedStack.calls.journaled) enough session := by
  let rig := Session.rig ScriptedStack.calls.journaled
  obtain ⟨enough, ends⟩ := benchmark.ends_of_spends Session.spends session
  refine ⟨enough, fun limit above => ?_⟩
  by_cases idle : benchmark.phase = .idle
  · cases connected : (benchmark.connect rig session).1 with
    | error error =>
        rw [benchmark.run_of_refused rig idle connected,
          benchmark.run_of_refused rig idle connected]
        exact ⟨nofun, rfl⟩
    | ok _ =>
        rw [benchmark.run_of_connected rig idle connected,
          benchmark.run_of_connected rig idle connected,
          benchmark.runAfter_of_isOver rig (ends enough (Nat.le_refl _)) above]
        exact ⟨finished_of_isOver benchmark (ends enough (Nat.le_refl _)), rfl⟩
  · unfold run
    rw [if_pos idle, if_pos idle]
    exact ⟨nofun, rfl⟩

namespace Program

section

variable {β : Type} (stack : Stack β) {limit : Nat} {settings : Settings} {direction : Direction}

/-- Whether the test of a direction comes to its end within a limit. -/
def Ends (limit : Nat) (settings : Settings) (direction : Direction) (session : Session β) :
    Prop :=
  ({ settings, direction : Benchmark }.run (Session.rig stack) limit
    (session.note stack (.testing direction))).1.1 ≠ .unfinished

/-- A test that answers has come to its end. -/
theorem ends_of_test {session : Session β} {answer : Option UInt8}
    (answered : (test stack limit settings direction session).1 = some answer) :
    Ends stack limit settings direction session := by
  intro unfinished
  unfold test at answered
  dsimp only at answered
  rcases ran : ({ settings, direction : Benchmark }.run (Session.rig stack) limit
    (session.note stack (.testing direction))) with ⟨⟨conclusion, after⟩, last⟩
  rw [ran] at unfinished answered
  cases unfinished
  contradiction

/-- The pause between two tests. -/
def pause (session : Session β) : Session β :=
  { session with stackState := stack.sleep Settings.testInterval session.stackState }

/-- If the tests answer, those that were made have come to their ends. -/
theorem ends_of_tests {session : Session β} {code : UInt8}
    (answered : (tests stack limit settings session).1 = some code) :
    Ends stack limit settings .inbound session ∧
      ∀ last, test stack limit settings .inbound session = (some none, last) →
        Ends stack limit settings .outbound (pause stack last) := by
  unfold tests at answered
  rcases tested : test stack limit settings .inbound session with ⟨answer, last⟩
  rw [tested] at answered
  cases answer with
  | none => contradiction
  | some code =>
      refine ⟨ends_of_test stack (congrArg Prod.fst tested), ?_⟩
      rintro _ ⟨⟩
      dsimp only at answered
      split at answered
      next next => exact ends_of_test stack (congrArg Prod.fst next)
      next => contradiction

variable {session : Session (Journal StackEvent β)}

/-- A test is one visit at most. -/
theorem pays_test (ends : Ends stack.journaled limit settings direction session) :
    session.Pays 1 (test stack.journaled limit settings direction session).2 := by
  have pays := (Session.pays_note stack (.testing direction)).trans
    ({ settings, direction : Benchmark }.pays_run stack ends)
  unfold test
  rcases ran : ({ settings, direction : Benchmark }.run (Session.rig stack.journaled) limit
    (session.note stack.journaled (.testing direction))) with ⟨⟨conclusion, after⟩, last⟩
  rw [ran] at pays
  dsimp only
  rw [ran]
  cases conclusion with
  | finished result =>
      cases result with
      | ok report => exact pays
      | error error => exact pays.trans (Session.pays_note stack _)
  | broken fault => exact pays
  | unfinished => exact pays

/-- **The tests pay two visits at most.** -/
theorem pays_tests (first : Ends stack.journaled limit settings .inbound session)
    (second : ∀ last, test stack.journaled limit settings .inbound session = (some none, last) →
      Ends stack.journaled limit settings .outbound (pause stack.journaled last)) :
    session.Pays 2 (tests stack.journaled limit settings session).2 := by
  have inbound := pays_test stack first
  unfold tests
  rcases tested : test stack.journaled limit settings .inbound session with ⟨answer, last⟩
  rw [tested] at inbound
  match answer with
  | none => exact inbound.mono (Nat.le_succ 1)
  | some (some code) => exact inbound.mono (Nat.le_succ 1)
  | some none =>
      have paused : last.Pays 0 (pause stack.journaled last) :=
        .of_aside (stack.history_sleep last.stackState Settings.testInterval) rfl rfl
      have both := (inbound.trans paused).trans (pays_test stack (second last tested))
      dsimp only
      unfold pause at both
      split
      next tested => rw [tested] at both; exact both
      next tested => rw [tested] at both; exact both

/-- Without a context the program ends at once. -/
theorem run_of_unavailable {session opened : Session β} {error : UsbError}
    (started : (announce stack settings session).start stack = (.error error, opened)) :
    run stack limit settings session =
      (some Failure.error.exitCode, opened.note stack (.noContext error)) := by
  unfold run
  dsimp only
  rw [started]

/-- With a context the program makes its tests and leaves. -/
theorem run_of_started {session opened : Session β}
    (started : (announce stack settings session).start stack = (.ok (), opened)) :
    run stack limit settings session =
      ((tests stack limit settings opened).1,
        (tests stack limit settings opened).2.exit stack) := by
  unfold run
  dsimp only
  rw [started]

/-- A program that starts its stack, pays visits and ends its use of the stack. -/
theorem bracketed_run {state : β}
    (pays : ∀ opened, (announce stack.journaled settings { stackState := { state } }).start
        stack.journaled = (.ok (), opened) →
      opened.Pays 2 (tests stack.journaled limit settings opened).2) :
    Bracketed 2 (calls (run stack.journaled limit settings
        { stackState := { state } }).2.stackState.history) ∧
      ∀ number, freedCount (run stack.journaled limit settings
        { stackState := { state } }).2.stackState.history number ≤ 1 := by
  have announced : Session.Pays 0 { stackState := { state } }
      (announce stack.journaled settings { stackState := { state } }) :=
    ((Session.pays_note stack _).trans (Session.pays_note stack _)).trans
      (Session.pays_note stack _)
  obtain ⟨visits, few, _, silent⟩ := announced.visits
  obtain rfl := List.eq_nil_of_length_eq_zero (Nat.le_zero.mp few)
  rcases started : (announce stack.journaled settings { stackState := { state } }).start
    stack.journaled with ⟨result, opened⟩
  obtain ⟨code, failed, written⟩ : ∃ code, UsbResult.ofCode code = result ∧
      opened.stackState.history =
        (announce stack.journaled settings { stackState := { state } }).stackState.history ++
          [.started code] := by
    obtain ⟨result_eq, rfl⟩ := Prod.mk.inj started
    exact ⟨_, result_eq, stack.history_start _⟩
  have called : calls opened.stackState.history = [.started code] := by
    rw [written, calls_concat_of_call _ rfl, silent]
    rfl
  have unfreed (number : Nat) : freedCount opened.stackState.history number = 0 := by
    have bound := announced.frees number
    rw [if_neg fun within => Nat.not_lt_zero number within.2] at bound
    rw [written, freedCount_append, Nat.eq_zero_of_le_zero bound]
    rfl
  cases result with
  | error error =>
      rw [run_of_unavailable stack.journaled started]
      have noted := stack.history_note opened.stackState (.noContext error)
      refine ⟨?_, fun number => ?_⟩
      · change Bracketed 2 (calls (stack.journaled.note _ _).history)
        rw [noted, calls_concat_of_aside _ rfl, called]
        exact .unavailable _ (Session.code_of_error failed)
      · change freedCount (stack.journaled.note _ _).history number ≤ 1
        rw [noted, freedCount_append, unfreed]
        exact Nat.zero_le 1
  | ok _ =>
      rw [run_of_started stack.journaled started]
      obtain ⟨visits, few, each, grown⟩ := (pays opened started).visits
      have exited := stack.history_exit (tests stack.journaled limit settings opened).2.stackState
      refine ⟨?_, fun number => ?_⟩
      · change Bracketed 2 (calls (stack.journaled.exit _).history)
        rw [exited, calls_concat_of_call _ rfl, grown, called, Session.code_of_ok failed]
        exact .between visits few each
      · have frees := (pays opened started).frees number
        change freedCount (stack.journaled.exit _).history number ≤ 1
        rw [exited, freedCount_append]
        rw [unfreed] at frees
        refine frees.trans ?_
        split
        · exact Nat.le_refl 1
        · exact Nat.zero_le 1

end

/-- A script brings both tests to their ends. -/
theorem ends_of_script (settings : Settings) (session : ScriptedSession) :
    ∃ enough, ∀ limit ≥ enough,
      Ends ScriptedStack.calls.journaled limit settings .inbound session ∧
        ∀ last, test ScriptedStack.calls.journaled limit settings .inbound session =
            (some none, last) →
          Ends ScriptedStack.calls.journaled limit settings .outbound
            (pause ScriptedStack.calls.journaled last) := by
  obtain ⟨enough, settles⟩ := ({ settings, direction := .inbound } : Benchmark).settles_of_script
    (session.note ScriptedStack.calls.journaled (.testing .inbound))
  -- The second test begins where the first one has ended, which is the same for all limits.
  obtain ⟨more, settlesNext⟩ := ({ settings, direction := .outbound } : Benchmark).settles_of_script
    ((pause ScriptedStack.calls.journaled
      (test ScriptedStack.calls.journaled enough settings .inbound session).2).note
        ScriptedStack.calls.journaled (.testing .outbound))
  refine ⟨max enough more, fun limit above => ?_⟩
  obtain ⟨ends, same⟩ := settles limit (Nat.le_trans (Nat.le_max_left _ _) above)
  refine ⟨ends, fun last tested => ?_⟩
  have settled : test ScriptedStack.calls.journaled limit settings .inbound session =
      test ScriptedStack.calls.journaled enough settings .inbound session := by
    unfold test
    dsimp only
    rw [same]
  rw [settled] at tested
  rw [tested] at settlesNext
  exact (settlesNext limit (Nat.le_trans (Nat.le_max_right _ _) above)).1

/-- **What is opened is closed.** A program that comes to its end starts its stack first. If that
fails, it makes no other call; otherwise the end of its use of the stack is its last call, and
between the two it pays at most two visits to devices, one after the other. A visit opens a device
and closes it; if the claim of the interface fails, there is no call in between. Otherwise the
interface is released once, or twice if that fails at first, just before the device is closed.
Transfers are freed after all work with the device and before the release, those of this visit
only, and none is freed twice. On a scripted stack the program always comes to its end. -/
theorem closes_all (settings : Settings) :
    (∀ {β : Type} (stack : Stack β) (state : β) (limit : Nat) (code : UInt8),
      let ran := run stack.journaled limit settings { stackState := { state } }
      ran.1 = some code →
        Bracketed 2 (calls ran.2.stackState.history) ∧
          ∀ number, freedCount ran.2.stackState.history number ≤ 1) ∧
    ∀ stack : ScriptedStack, ∃ enough, ∀ limit ≥ enough,
      let ran :=
        run ScriptedStack.calls.journaled limit settings { stackState := { state := stack } }
      Bracketed 2 (calls ran.2.stackState.history) ∧
        ∀ number, freedCount ran.2.stackState.history number ≤ 1 := by
  constructor
  · intro β stack state limit code ran answered
    refine bracketed_run stack fun opened started => ?_
    rw [show ran = _ from run_of_started stack.journaled started] at answered
    obtain ⟨first, second⟩ := ends_of_tests stack.journaled answered
    exact pays_tests stack first second
  · intro stack
    obtain ⟨enough, ends⟩ := ends_of_script settings
      ((announce ScriptedStack.calls.journaled settings
        { stackState := { state := stack } }).start ScriptedStack.calls.journaled).2
    refine ⟨enough, fun limit above => bracketed_run ScriptedStack.calls fun opened started => ?_⟩
    rw [started] at ends
    exact pays_tests ScriptedStack.calls (ends limit above).1 (ends limit above).2

/-- A stack on which the interface cannot be released at first, nor claimed for the second time. -/
def occupied : ScriptedStack where
  host := { script := {} }
  claim := [none, some (-6)]
  release := [some (-5)]

/-- Two visits, of which the second ends at the claim of the interface. -/
theorem closes_all_occupied :
    let ran := run ScriptedStack.calls.journaled 20 Benchmark.small.settings
      { stackState := { state := occupied } }
    ran.1 = some 1 ∧
      (calls ran.2.stackState.history).filter (fun call => !call.isWork) =
        [.started 0, .opened 0x16d0 0x0f3b true, .claimed 0 0, .freed 0, .freed 1,
          .released 0 (-5), .released 0 0, .closed, .opened 0x16d0 0x0f3b true, .claimed 0 (-6),
          .closed, .exited] ∧
      Bracketed 2 (calls ran.2.stackState.history) ∧
      ∀ number, freedCount ran.2.stackState.history number ≤ 1 := by
  intro ran
  have answered : ran.1 = some 1 := by decide +kernel
  obtain ⟨bracketed, once⟩ :=
    (closes_all Benchmark.small.settings).1 ScriptedStack.calls occupied 20 1 answered
  exact ⟨answered, by decide +kernel, bracketed, once⟩

end Program

end UsbThroughput
