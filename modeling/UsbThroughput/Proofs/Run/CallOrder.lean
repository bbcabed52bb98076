import UsbThroughput.Proofs.Run.Recovery

/-!
# The order of calls

The slots are submitted once and the start command is sent; then the test is kept going until it is
decided; then it winds up, the stop command is sent and the device is closed. `Run.CallOrder` says
what the calls so far are at each stage of a run, and every step keeps to it. Once the test is
decided no call takes it further, and the call that decides it is the last of its step.
-/

namespace UsbThroughput

open RigEvent

namespace RigEvent

/-- Whether a call asks for completions. -/
def isPoll : RigEvent → Bool
  | polled _ _ => true
  | _ => false

/-- Whether a call keeps a test going: a submission, a cancellation, the clearing of a halt, or the
question for completions. -/
def isUpkeep : RigEvent → Bool
  | submitted _ _ | cancelled _ _ | haltCleared _ _ | polled _ _ => true
  | _ => false

/-- Whether a call takes a test further: a submission, the clearing of a halt, or the start
command. -/
def furthers (direction : Direction) : RigEvent → Bool
  | submitted _ _ | haltCleared _ _ => true
  | wrote _ data _ _ => data = [(Command.start direction).byte]
  | _ => false

/-- Submissions are upkeep. -/
theorem isUpkeep_of_isSubmission {call : RigEvent} (submission : call.isSubmission = true) :
    call.isUpkeep = true := by
  cases call <;> first | rfl | contradiction

/-- Cancellations are upkeep. -/
theorem isUpkeep_of_isCancellation {call : RigEvent} (cancellation : call.isCancellation = true) :
    call.isUpkeep = true := by
  cases call <;> first | rfl | contradiction

private theorem furthers_of_isCancellation {call : RigEvent}
    (cancellation : call.isCancellation = true)
    (direction : Direction) : call.furthers direction = false := by
  cases call <;> first | rfl | contradiction

end RigEvent

/-- A submission that was refused is the last one, and what it comes to is the failure of the
answer. -/
theorem Fills.last_of_refused {slots next : List Slot} {calls : List RigEvent}
    {error : SubmissionError} (fills : Fills slots calls next (some error)) :
    ∃ earlier call, calls = earlier ++ [call] ∧ call.fatal? = some error.failure := by
  generalize refused : some error = refusal at fills
  induction fills with
  | done => contradiction
  | refused slot rest cause =>
      cases refused
      exact ⟨[], _, rfl, rfl⟩
  | taken slot _ ih =>
      obtain ⟨earlier, call, calls_eq, fatal⟩ := ih refused
      exact ⟨_ :: earlier, call, congrArg _ calls_eq, fatal⟩

/-- Whether a stage lies between the start of a test and its winding up. -/
def Stage.isGoing : Stage → Bool
  | waiting | handling | cancelling => true
  | _ => false

/-- Whether a stage belongs to the winding up of a test, before the device is closed. -/
def Stage.isWinding : Stage → Bool
  | draining _ | settling _ | abandoning | closing => true
  | _ => false

namespace Run

variable {σ : Type} {settings : Settings} {direction : Direction}

/-- How a test begins: its slots are submitted from slot zero on, all of them or up to the first
that is refused. -/
structure Arms (settings : Settings) (direction : Direction) (refusal : Option SubmissionError)
    (armed : List RigEvent) : Prop where
  fills : ∃ slots, Fills (Queue.ofSettings settings direction).slots armed slots refusal
  inOrder : armed.map submittedId? = (List.range armed.length).map some
  whole : refusal = none → armed.length = settings.queueDepth direction

/-- The start command is sent once, unless a slot was refused. -/
def Starts (settings : Settings) (direction : Direction) (started : List RigEvent) :
    Option SubmissionError → Prop
  | none => ∃ answer, started =
      [.wrote settings.commandEndpoint [(Command.start direction).byte] settings.commandTimeout
        answer]
  | some _ => started = []

/-- The stop command, and the end of the connection. -/
def farewell (settings : Settings) (answer : UsbResult Nat) : List RigEvent :=
  [.wrote settings.commandEndpoint [Command.stop.byte] settings.commandTimeout answer,
    .disconnected]

/-- **The calls so far**, at each stage of a run. -/
inductive CallOrder (settings : Settings) (direction : Direction) (run : Run σ) :
    List RigEvent → Prop where
  | opened (filling : run.stage = .filling) : CallOrder settings direction run []
  | armed {armed : List RigEvent} {refusal : Option SubmissionError}
      (starting : run.stage = .starting) (arms : Arms settings direction refusal armed)
      (decided : run.meter.terminated = refusal.isSome) : CallOrder settings direction run armed
  | going {armed started upkeep : List RigEvent} {refusal : Option SubmissionError}
      (going : run.stage.isGoing = true) (arms : Arms settings direction refusal armed)
      (starts : Starts settings direction started refusal)
      (keeps : ∀ call ∈ upkeep, call.isUpkeep = true) :
      CallOrder settings direction run (armed ++ started ++ upkeep)
  | winding {armed started upkeep recalled awaited : List RigEvent}
      {refusal : Option SubmissionError} (winding : run.stage.isWinding = true)
      (arms : Arms settings direction refusal armed)
      (starts : Starts settings direction started refusal)
      (keeps : ∀ call ∈ upkeep, call.isUpkeep = true)
      (recalls : ∀ call ∈ recalled, call.isCancellation = true)
      (awaits : ∀ call ∈ awaited, call.isPoll = true) :
      CallOrder settings direction run (armed ++ started ++ upkeep ++ recalled ++ awaited)
  | closed {armed started upkeep recalled awaited : List RigEvent}
      {refusal : Option SubmissionError} {verdict : Except Failure Report} {answer : UsbResult Nat}
      (ended : run.stage = .ended verdict) (arms : Arms settings direction refusal armed)
      (starts : Starts settings direction started refusal)
      (keeps : ∀ call ∈ upkeep, call.isUpkeep = true)
      (recalls : ∀ call ∈ recalled, call.isCancellation = true)
      (awaits : ∀ call ∈ awaited, call.isPoll = true) :
      CallOrder settings direction run
        (armed ++ started ++ upkeep ++ recalled ++ awaited ++ farewell settings answer)
  | broken {calls : List RigEvent} {fault : Fault} (broken : run.stage = .broken fault) :
      CallOrder settings direction run calls

/-- A run is as its settings ask for. -/
structure Equipped (settings : Settings) (direction : Direction) (run : Run σ) : Prop where
  settings_eq : run.settings = settings
  direction_eq : run.direction = direction
  queue_eq : run.stage = .filling → run.queue = Queue.ofSettings settings direction
  channel_eq : run.stage.isOver = false →
    run.channel = { endpoint := settings.commandEndpoint, timeout := settings.commandTimeout }

variable {run last : Run σ} {calls before : List RigEvent}

namespace CallOrder

/-- A run that has just begun has made no call. -/
theorem of_filling (order : run.CallOrder settings direction calls)
    (filling : run.stage = .filling) : calls = [] := by
  cases order with
  | opened => rfl
  | armed stage | closed stage | broken stage => exact Stage.noConfusion (filling.symm.trans stage)
  | going stage | winding stage =>
      rw [filling] at stage
      contradiction

/-- Before the start command a run has only submitted its queue. -/
theorem of_starting (order : run.CallOrder settings direction calls)
    (starting : run.stage = .starting) :
    ∃ refusal, Arms settings direction refusal calls ∧
      run.meter.terminated = refusal.isSome := by
  cases order with
  | armed _ arms decided => exact ⟨_, arms, decided⟩
  | opened stage | closed stage | broken stage =>
      exact Stage.noConfusion (starting.symm.trans stage)
  | going stage | winding stage =>
      rw [starting] at stage
      contradiction

/-- While it goes on, a run has submitted its queue, sent the start command if that went well, and
kept the queue up. -/
private theorem of_going (order : run.CallOrder settings direction calls)
    (going : run.stage.isGoing = true) :
    ∃ refusal armed started upkeep, calls = armed ++ started ++ upkeep ∧
      Arms settings direction refusal armed ∧ Starts settings direction started refusal ∧
      ∀ call ∈ upkeep, call.isUpkeep = true := by
  cases order with
  | going _ arms starts keeps => exact ⟨_, _, _, _, rfl, arms, starts, keeps⟩
  | winding stage =>
      cases same : run.stage <;> rw [same] at going stage <;> contradiction
  | opened stage | armed stage | closed stage | broken stage =>
      rw [stage] at going
      contradiction

/-- A run that winds up has cancelled what was in flight and waited for it. -/
private theorem of_winding (order : run.CallOrder settings direction calls)
    (winding : run.stage.isWinding = true) :
    ∃ refusal armed started upkeep recalled awaited,
      calls = armed ++ started ++ upkeep ++ recalled ++ awaited ∧
      Arms settings direction refusal armed ∧ Starts settings direction started refusal ∧
      (∀ call ∈ upkeep, call.isUpkeep = true) ∧
      (∀ call ∈ recalled, call.isCancellation = true) ∧
      ∀ call ∈ awaited, call.isPoll = true := by
  cases order with
  | winding _ arms starts keeps recalls awaits =>
      exact ⟨_, _, _, _, _, _, rfl, arms, starts, keeps, recalls, awaits⟩
  | going stage =>
      cases same : run.stage <;> rw [same] at winding stage <;> contradiction
  | opened stage | armed stage | closed stage | broken stage =>
      rw [stage] at winding
      contradiction

/-- A run that has ended has made all its calls, with the farewell as the last. -/
theorem of_ended {verdict : Except Failure Report}
    (order : run.CallOrder settings direction calls) (ended : run.stage = .ended verdict) :
    ∃ refusal armed started upkeep recalled awaited answer,
      calls = armed ++ started ++ upkeep ++ recalled ++ awaited ++ farewell settings answer ∧
      Arms settings direction refusal armed ∧ Starts settings direction started refusal ∧
      (∀ call ∈ upkeep, call.isUpkeep = true) ∧
      (∀ call ∈ recalled, call.isCancellation = true) ∧
      ∀ call ∈ awaited, call.isPoll = true := by
  cases order with
  | closed _ arms starts keeps recalls awaits =>
      exact ⟨_, _, _, _, _, _, _, rfl, arms, starts, keeps, recalls, awaits⟩
  | opened stage | armed stage | broken stage => exact Stage.noConfusion (ended.symm.trans stage)
  | going stage | winding stage =>
      rw [ended] at stage
      contradiction

/-- A test that has just been started, unless it was not. -/
theorem launched {armed started : List RigEvent} {refusal : Option SubmissionError}
    (going : run.stage.isGoing = true) (arms : Arms settings direction refusal armed)
    (starts : Starts settings direction started refusal) :
    run.CallOrder settings direction (armed ++ started) := by
  have nothing := CallOrder.going going arms starts (List.forall_mem_nil _)
  rwa [List.append_nil] at nothing

/-- A test that is kept going. -/
theorem upkeep (order : run.CallOrder settings direction before)
    (going : run.stage.isGoing = true) (still : last.stage.isGoing = true)
    (keeps : ∀ call ∈ calls, call.isUpkeep = true) :
    last.CallOrder settings direction (before ++ calls) := by
  obtain ⟨refusal, armed, started, upkeep, rfl, arms, starts, kept⟩ := order.of_going going
  rw [List.append_assoc]
  exact .going still arms starts (List.forall_mem_append.mpr ⟨kept, keeps⟩)

/-- A test that begins to wind up. -/
theorem windUp (order : run.CallOrder settings direction before)
    (going : run.stage.isGoing = true) (winding : last.stage.isWinding = true)
    (recalls : ∀ call ∈ calls, call.isCancellation = true) :
    last.CallOrder settings direction (before ++ calls) := by
  obtain ⟨refusal, armed, started, upkeep, rfl, arms, starts, kept⟩ := order.of_going going
  have nothing := CallOrder.winding winding arms starts kept recalls (List.forall_mem_nil _)
  rwa [List.append_nil] at nothing

/-- A test that winds up. -/
theorem await (order : run.CallOrder settings direction before)
    (winding : run.stage.isWinding = true) (still : last.stage.isWinding = true)
    (awaits : ∀ call ∈ calls, call.isPoll = true) :
    last.CallOrder settings direction (before ++ calls) := by
  obtain ⟨refusal, armed, started, upkeep, recalled, awaited, rfl, arms, starts, kept, recalls,
    waited⟩ := order.of_winding winding
  rw [List.append_assoc]
  exact .winding still arms starts kept recalls (List.forall_mem_append.mpr ⟨waited, awaits⟩)

end CallOrder

/-! ## What a step keeps -/

/-- A reaction leaves the command channel alone. -/
theorem Reaction.channel {completion : Completion}
    (reaction : run.Reaction completion calls last) : last.channel = run.channel := by
  cases reaction <;> rfl

/-- Only the last step changes the command channel. -/
theorem Advance.channel (advance : run.Advance calls last)
    (unfinished : last.stage.isOver = false) :
    last.channel = run.channel := by
  cases advance with
  | handled completion rest calls handling waiting reaction =>
      exact reaction.channel.trans (channel_receive { run with arrivals := rest } completion)
  | settled state deadline completion rest =>
      exact channel_receive { run with arrivals := rest } completion
  | closed => contradiction
  | _ => rfl

/-- A reaction goes on with the batch, or breaks off the run. -/
theorem Reaction.stage {completion : Completion} (reaction : run.Reaction completion calls last)
    (handling : run.stage = .handling) :
    (last.stage = .handling ∧ ∀ call ∈ calls, call.isUpkeep = true) ∨
      last.stage = .broken .countOverflow := by
  cases reaction with
  | passed | failed | counted => exact Or.inl ⟨handling, List.forall_mem_nil _⟩
  | overflowed => exact Or.inr rfl
  | resubmitted state now later slot next meter calls refusal _ _ _ _ _ _ fills =>
      exact Or.inl ⟨rfl, fun call member =>
        isUpkeep_of_isSubmission (fills.isSubmission call member)⟩
  | begun state maxAttempts slot calls _ _ _ _ _ _ cancels =>
      refine Or.inl ⟨handling, fun call member => ?_⟩
      exact isUpkeep_of_isCancellation (cancels.isCancellation call member)

/-- **A step keeps to the order of calls.** -/
theorem Advance.callOrder (advance : run.Advance calls last)
    (equipped : run.Equipped settings direction) (staged : run.Staged)
    (order : run.CallOrder settings direction before) :
    last.CallOrder settings direction (before ++ calls) := by
  cases advance with
  | stayed => rwa [List.append_nil]
  | filled state now later slots calls refusal filling empty fills =>
      rw [order.of_filling filling]
      rw [equipped.queue_eq filling] at fills
      obtain ⟨inOrder, _, whole⟩ := fills.inOrder (Queue.numbered_ofSettings _ _)
      refine .armed rfl ⟨⟨slots, fills⟩, inOrder, fun all => ?_⟩ ?_
      · rw [List.nil_append, whole all, Queue.depth_ofSettings]
      · rw [Meter.terminated_failOn, staged.fresh filling, Option.isSome_map]
        rfl
  | started state result starting going =>
      obtain ⟨refusal, arms, decided⟩ := order.of_starting starting
      rw [going] at decided
      cases refusal with
      | some error => contradiction
      | none =>
          have sent : Starts settings direction
              [.wrote run.channel.endpoint [(Command.start run.direction).byte]
                run.channel.timeout result] none := by
            rw [equipped.channel_eq (starting ▸ rfl), equipped.direction_eq]
            exact ⟨result, rfl⟩
          exact .launched rfl arms sent
  | notStarted state starting terminated =>
      obtain ⟨refusal, arms, decided⟩ := order.of_starting starting
      rw [terminated] at decided
      cases refusal with
      | none => contradiction
      | some error => exact .launched rfl arms rfl
  | decided waiting => exact order.upkeep (waiting ▸ rfl) rfl (List.forall_mem_nil _)
  | starved state now waiting => exact order.upkeep (waiting ▸ rfl) rfl (List.forall_mem_nil _)
  | recovered state later slots calls refusal waiting going empty halted fills =>
      refine order.upkeep (waiting ▸ rfl) rfl (List.forall_mem_cons.mpr ⟨rfl, ?_⟩)
      exact fun call member => isUpkeep_of_isSubmission (fills.isSubmission call member)
  | stuck state now error waiting =>
      have still : run.stage.isGoing = true := waiting ▸ rfl
      exact order.upkeep still still (List.forall_mem_singleton.mpr rfl)
  | polled state now answer waiting =>
      refine order.upkeep (waiting ▸ rfl) ?_ (List.forall_mem_singleton.mpr rfl)
      dsimp only
      split <;> rfl
  | finished handling => exact order.upkeep (handling ▸ rfl) rfl (List.forall_mem_nil _)
  | handled completion rest calls handling waiting reaction =>
      have received : ({ run with arrivals := rest }.receive completion).stage = .handling :=
        (stage_receive _ completion).trans handling
      rcases reaction.stage received with ⟨still, keeps⟩ | broken
      · exact order.upkeep (handling ▸ rfl) (still ▸ rfl) keeps
      · exact .broken broken
  | recalled state deadline calls cancelling cancels =>
      exact order.windUp (cancelling ▸ rfl) rfl cancels.isCancellation
  | drained state deadline draining =>
      exact order.await (draining ▸ rfl) rfl (List.forall_mem_nil _)
  | awaited state deadline timeout answer draining =>
      refine order.await (draining ▸ rfl) ?_ (List.forall_mem_singleton.mpr rfl)
      dsimp only
      split <;> rfl
  | resumed deadline settling => exact order.await (settling ▸ rfl) rfl (List.forall_mem_nil _)
  | settled state deadline completion rest settling =>
      refine order.await (settling ▸ rfl) ?_ (List.forall_mem_nil _)
      exact (congrArg Stage.isWinding
        ((stage_receive { run with arrivals := rest } completion).trans settling)).trans rfl
  | abandoned state abandoning => exact order.await (abandoning ▸ rfl) rfl (List.forall_mem_nil _)
  | closed state now result closing =>
      obtain ⟨refusal, armed, started, upkeep, recalled, awaited, rfl, arms, starts, kept, recalls,
        waited⟩ := order.of_winding (closing ▸ rfl)
      rw [equipped.channel_eq (closing ▸ rfl)]
      exact .closed rfl arms starts kept recalls waited

/-! ## After the decision -/

/-- Once the test is decided, no call takes it further. -/
theorem Advance.unfurthered (advance : run.Advance calls last) (staged : run.Staged)
    (terminated : run.meter.terminated = true) :
    ∀ call ∈ calls, call.furthers run.direction = false := by
  have late {statement : Prop} (going : run.meter.terminated = false) : statement :=
    Bool.noConfusion (terminated.symm.trans going)
  cases advance with
  | filled state now later slots calls refusal filling empty fills =>
      rw [staged.fresh filling] at terminated
      contradiction
  | started state result starting going => exact late going
  | recovered state later slots calls refusal waiting going => exact late going
  | stuck state now error waiting going => exact late going
  | polled state now answer waiting going => exact late going
  | handled completion rest calls handling waiting reaction =>
      have decided : ({ run with arrivals := rest }.receive completion).meter.terminated = true :=
        (congrArg Meter.terminated (meter_receive _ completion)).trans terminated
      cases reaction with
      | passed => exact List.forall_mem_nil _
      | failed state now failure going => exact Bool.noConfusion (decided.symm.trans going)
      | counted => exact List.forall_mem_nil _
      | resubmitted state now later slot next meter calls refusal going =>
          exact Bool.noConfusion (decided.symm.trans going)
      | overflowed state going => exact Bool.noConfusion (decided.symm.trans going)
      | begun state maxAttempts slot calls going =>
          exact Bool.noConfusion (decided.symm.trans going)
  | recalled state deadline calls cancelling cancels =>
      exact fun call member => furthers_of_isCancellation (cancels.isCancellation call member) _
  | awaited => exact List.forall_mem_singleton.mpr rfl
  | closed state now result closing =>
      have parting : ∀ direction, Command.stop.byte ≠ (Command.start direction).byte := by
        intro direction
        cases direction <;> decide
      split
      · exact List.forall_mem_singleton.mpr rfl
      · refine List.forall_mem_cons.mpr ⟨decide_eq_false fun same => ?_,
          List.forall_mem_singleton.mpr rfl⟩
        exact parting run.direction (List.cons.inj same).1
  | _ => exact List.forall_mem_nil _

/-- The decision comes after the calls of its step: there are none, or the answer of the last one
is the failure that decides. -/
def DecidedBy (calls : List RigEvent) (last : Run σ) : Prop :=
  calls = [] ∨ ∃ earlier call failure, calls = earlier ++ [call] ∧ call.fatal? = some failure ∧
    last.meter.failure = some failure

/-- A submission that decides the test is the last, and was refused. -/
theorem DecidedBy.of_fills {slots next : List Slot} {refusal : Option SubmissionError}
    {meter : Meter} {now : Duration} (prior : List RigEvent)
    (fills : Fills slots calls next refusal) (going : meter.terminated = false)
    (meter_eq : last.meter = meter.failOn now (refusal.map SubmissionError.failure))
    (terminated : last.meter.terminated = true) : DecidedBy (prior ++ calls) last := by
  rw [meter_eq, Meter.terminated_failOn, going, Bool.false_or, Option.isSome_map] at terminated
  obtain ⟨error, rfl⟩ := Option.isSome_iff_exists.mp terminated
  obtain ⟨earlier, call, rfl, fatal⟩ := fills.last_of_refused
  refine Or.inr ⟨prior ++ earlier, call, error.failure, (List.append_assoc ..).symm, fatal, ?_⟩
  rw [meter_eq, Meter.failure_failOn, (Meter.le_of_going going).2]
  rfl

/-- **The calls of the step that decides the test** come before the decision. -/
theorem Advance.decidedBy (advance : run.Advance calls last) (going : run.meter.terminated = false)
    (terminated : last.meter.terminated = true) : DecidedBy calls last := by
  have unfailed := (Meter.le_of_going going).2
  have same {statement : Prop} (meter : last.meter = run.meter) : statement := by
    rw [meter, going] at terminated
    contradiction
  cases advance with
  | filled state now later slots calls refusal filling empty fills =>
      have fresh : (run.meter.start now).terminated = false := going
      exact .of_fills [] fills fresh rfl terminated
  | recovered state later slots calls refusal waiting _ empty halted fills =>
      exact .of_fills [_] fills going rfl terminated
  | started => exact same rfl
  | stuck state now error =>
      refine Or.inr ⟨[], _, _, rfl, rfl, ?_⟩
      exact (Meter.failure_fail now .stalled run.meter).trans (unfailed ▸ rfl)
  | polled state now answer =>
      have failed := terminated
      rw [Meter.terminated_failOn, going, Bool.false_or] at failed
      obtain ⟨failure, fatal⟩ := Option.isSome_iff_exists.mp failed
      refine Or.inr ⟨[], _, failure, rfl, fatal, ?_⟩
      exact (Meter.failure_failOn now _ run.meter).trans (by rw [unfailed, fatal]; rfl)
  | handled completion rest calls handling waiting reaction =>
      have received := meter_receive { run with arrivals := rest } completion
      cases reaction with
      | passed | failed | counted => exact Or.inl rfl
      | resubmitted state now later slot next meter calls refusal _ _ _ _ unfinished _ fills =>
          exact .of_fills [] fills unfinished rfl terminated
      | overflowed => exact same received
      | begun => exact same received
  | recalled => exact same rfl
  | awaited => exact same rfl
  | closed => exact same rfl
  | _ => exact Or.inl rfl

end Run

end UsbThroughput
