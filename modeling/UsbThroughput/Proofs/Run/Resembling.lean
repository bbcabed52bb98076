import UsbThroughput.Proofs.Rig.Calls
import UsbThroughput.Proofs.Run.Mirror

/-!
# Rigs that differ in their answers to writes

Two rigs may answer alike but for writes (`Rig.Resembles`). Then they are two views of one rig
(`Rig.paired`), which takes every command and notes on each side by itself what came of it there.
So a benchmark goes the same way on both (`Benchmark.resembles_runAfter`), and makes the same calls
(`Rig.Resembles.journaled`).
-/

namespace UsbThroughput

variable {σ τ : Type}

/-- What an event tells, but for the log and the answers to writes. -/
def RigEvent.unanswered? : RigEvent → Option RigEvent
  | noted _ => none
  | wrote endpoint data timeout _ => some (wrote endpoint data timeout (.ok 0))
  | event => some event

/-- **The rigs answer alike but for writes.** On states that are linked, all calls but writes have
the same answers, and all calls lead to states that are linked again. What is noted on one of them
makes no difference. -/
structure Rig.Resembles (rig : Rig σ) (other : Rig τ) (linked : σ → τ → Prop) : Prop where
  connect : ∀ target {state twin}, linked state twin →
    Answered linked (rig.connect target state) (other.connect target twin)
  submit : ∀ slot {state twin}, linked state twin →
    Answered linked (rig.submit slot state) (other.submit slot twin)
  cancel : ∀ slot {state twin}, linked state twin →
    Answered linked (rig.cancel slot state) (other.cancel slot twin)
  poll : ∀ timeout {state twin}, linked state twin →
    Answered linked (rig.poll timeout state) (other.poll timeout twin)
  write : ∀ endpoint data timeout {state twin}, linked state twin →
    linked (rig.write endpoint data timeout state).2 (other.write endpoint data timeout twin).2
  clearHalt : ∀ endpoint {state twin}, linked state twin →
    Answered linked (rig.clearHalt endpoint state) (other.clearHalt endpoint twin)
  disconnect : ∀ {state twin}, linked state twin →
    linked (rig.disconnect state) (other.disconnect twin)
  now : ∀ {state twin}, linked state twin → Answered linked (rig.now state) (other.now twin)
  note : ∀ notice {state twin}, linked state twin → linked (rig.note notice state) twin
  noteTwin : ∀ notice {state twin}, linked state twin → linked state (other.note notice twin)

/-! ## Two views of one rig -/

/-- Notes what came of writing a command. -/
def Channel.noteOutcome (rig : Rig σ) (command : Command) (result : UsbResult Nat) (state : σ) :
    σ :=
  match result with
  | .ok 1 => state
  | .ok _ => rig.note (.notAccepted command) state
  | .error error => rig.note (.sendFailed command error) state

/-- Writes bytes and notes what came of it, if they are a command. -/
def Rig.writeNoting (rig : Rig σ) (endpoint : UInt8) (data : List UInt8) (timeout : Duration)
    (state : σ) : σ :=
  let answer := rig.write endpoint data timeout state
  match data.head?.bind Command.ofByte? with
  | some command => Channel.noteOutcome rig command answer.1 answer.2
  | none => answer.2

private theorem Channel.send_eq (rig : Rig σ) (channel : Channel) (command : Command) (state : σ) :
    (channel.send rig command state).2 =
      rig.writeNoting channel.endpoint [command.byte] channel.timeout
        (rig.note (.sending command channel.endpoint) state) := by
  have decoded : [command.byte].head?.bind Command.ofByte? = some command :=
    Command.ofByte?_byte command
  unfold send Rig.writeNoting
  rw [decoded]
  dsimp only
  rcases rig.write channel.endpoint [command.byte] channel.timeout
    (rig.note (.sending command channel.endpoint) state) with ⟨result, after⟩
  match result with
  | .ok 1 => rfl
  | .ok 0 => rfl
  | .ok (_ + 2) => rfl
  | .error error => rfl

namespace Rig

variable {rig : Rig σ} {other : Rig τ} {linked : σ → τ → Prop}
  (resembles : rig.Resembles other linked)

include resembles

/-- What comes of a command is noted on both sides. -/
theorem Resembles.noteOutcome (command : Command) (result : UsbResult Nat) {state : σ} {twin : τ}
    (link : linked state twin) : linked (Channel.noteOutcome rig command result state) twin := by
  unfold Channel.noteOutcome
  split
  · exact link
  · exact resembles.note _ link
  · exact resembles.note _ link

private theorem Resembles.noteOutcomeTwin (command : Command) (result : UsbResult Nat) {state : σ}
    {twin : τ} (link : linked state twin) :
    linked state (Channel.noteOutcome other command result twin) := by
  unfold Channel.noteOutcome
  split
  · exact link
  · exact resembles.noteTwin _ link
  · exact resembles.noteTwin _ link

/-- A command is written and noted on both sides, whatever the answers are. -/
theorem Resembles.writeNoting (endpoint : UInt8) (data : List UInt8) (timeout : Duration)
    {state : σ} {twin : τ} (link : linked state twin) :
    linked (rig.writeNoting endpoint data timeout state)
      (other.writeNoting endpoint data timeout twin) := by
  have written := resembles.write endpoint data timeout link
  unfold Rig.writeNoting
  dsimp only
  split
  · exact resembles.noteOutcomeTwin _ _ (resembles.noteOutcome _ _ written)
  · exact written

/-- The rig of which two rigs that answer alike but for writes are views. It takes every write. -/
def paired : Rig { pair : σ × τ // linked pair.1 pair.2 } where
  connect target pair :=
    ((rig.connect target pair.1.1).1, ⟨(_, _), (resembles.connect target pair.2).2⟩)
  submit slot pair := ((rig.submit slot pair.1.1).1, ⟨(_, _), (resembles.submit slot pair.2).2⟩)
  cancel slot pair := ((rig.cancel slot pair.1.1).1, ⟨(_, _), (resembles.cancel slot pair.2).2⟩)
  poll timeout pair :=
    ((rig.poll timeout pair.1.1).1, ⟨(_, _), (resembles.poll timeout pair.2).2⟩)
  write endpoint data timeout pair :=
    (.ok 1, ⟨(_, _), resembles.writeNoting endpoint data timeout pair.2⟩)
  clearHalt endpoint pair :=
    ((rig.clearHalt endpoint pair.1.1).1, ⟨(_, _), (resembles.clearHalt endpoint pair.2).2⟩)
  disconnect pair := ⟨(_, _), resembles.disconnect pair.2⟩
  now pair := ((rig.now pair.1.1).1, ⟨(_, _), (resembles.now pair.2).2⟩)
  note notice pair := ⟨(_, _), resembles.noteTwin notice (resembles.note notice pair.2)⟩

/-- A pair of rigs is mirrored by the first of them. -/
theorem mirrors_paired_first : (paired resembles).Mirrors rig fun pair => pair.1.1 where
  connect _ _ := rfl
  submit _ _ := rfl
  cancel _ _ := rfl
  poll _ _ := rfl
  send channel command pair := channel.send_eq rig command pair.1.1
  clearHalt _ _ := rfl
  disconnect _ := rfl
  now _ := rfl
  note _ _ := rfl

/-- A pair of rigs is mirrored by the second of them. -/
theorem mirrors_paired_second : (paired resembles).Mirrors other fun pair => pair.1.2 where
  connect target pair := Prod.ext (resembles.connect target pair.2).1 rfl
  submit slot pair := Prod.ext (resembles.submit slot pair.2).1 rfl
  cancel slot pair := Prod.ext (resembles.cancel slot pair.2).1 rfl
  poll timeout pair := Prod.ext (resembles.poll timeout pair.2).1 rfl
  send channel command pair := channel.send_eq other command pair.1.2
  clearHalt endpoint pair := Prod.ext (resembles.clearHalt endpoint pair.2).1 rfl
  disconnect _ := rfl
  now pair := Prod.ext (resembles.now pair.2).1 rfl
  note _ _ := rfl

/-- With journals, the calls are linked as well, but for the answers to writes. -/
theorem Resembles.journaled :
    rig.journaled.Resembles other.journaled (Journal.Twins linked RigEvent.unanswered?) where
  connect target _ _ twins := twins.answered (resembles.connect target twins.link)
  submit slot _ _ twins := twins.answered (resembles.submit slot twins.link)
  cancel slot _ _ twins := twins.answered (resembles.cancel slot twins.link)
  poll timeout _ _ twins := twins.answered (resembles.poll timeout twins.link)
  write endpoint data timeout _ _ twins :=
    twins.record rfl (resembles.write endpoint data timeout twins.link)
  clearHalt endpoint _ _ twins := twins.answered (resembles.clearHalt endpoint twins.link)
  disconnect twins := twins.recordChange (resembles.disconnect twins.link)
  now twins := twins.answeredSilently (resembles.now twins.link)
  note notice _ _ twins := twins.recordFirst rfl (resembles.note notice twins.link)
  noteTwin notice _ _ twins := twins.recordSecond rfl (resembles.noteTwin notice twins.link)

end Rig

namespace Benchmark

variable {rig : Rig σ} {other : Rig τ} {linked : σ → τ → Prop}

/-- **Two runs are two views of one.** -/
theorem resembles_runAfter (resembles : rig.Resembles other linked) (benchmark : Benchmark)
    {state : σ} {twin : τ} (link : linked state twin) (count : Nat) :
    ∃ run : Run { pair : σ × τ // linked pair.1 pair.2 },
      benchmark.runAfter rig state count = run.mapRig (fun pair => pair.1.1) ∧
        benchmark.runAfter other twin count = run.mapRig fun pair => pair.1.2 := by
  let pair : { pair : σ × τ // linked pair.1 pair.2 } := ⟨(state, twin), link⟩
  refine ⟨benchmark.runAfter (Rig.paired resembles) pair count, ?_, ?_⟩
  · exact benchmark.mapRig_runAfter (Rig.mirrors_paired_first resembles) pair count
  · exact benchmark.mapRig_runAfter (Rig.mirrors_paired_second resembles) pair count

/-- Two benchmarks come to the same conclusion, with states that are linked. -/
theorem resembles_run (resembles : rig.Resembles other linked) (benchmark : Benchmark)
    {state : σ} {twin : τ} (link : linked state twin) (limit : Nat) :
    Answered linked (benchmark.run rig limit state) (benchmark.run other limit twin) := by
  let pair : { pair : σ × τ // linked pair.1 pair.2 } := ⟨(state, twin), link⟩
  have first := benchmark.viewed_run (Rig.mirrors_paired_first resembles) limit pair
  have second := benchmark.viewed_run (Rig.mirrors_paired_second resembles) limit pair
  rw [show benchmark.run rig limit state = _ from first,
    show benchmark.run other limit twin = _ from second]
  exact ⟨rfl, (benchmark.run (Rig.paired resembles) limit pair).2.2⟩

end Benchmark

end UsbThroughput
