import UsbThroughput.Proofs.Run.Termination
import UsbThroughput.Proofs.Session.Scripted

/-!
# The limit of a script

A script answers only so many event calls; all later ones fail. So a benchmark on a scripted device
comes to its end, and so does one on a session of a scripted stack, which hands over completions at
most twice for each event call (`Host.callsLeft`, `Session.pollsLeft`).
-/

namespace UsbThroughput

namespace Host

variable {ρ τ : Type} (dialect : Dialect ρ τ)

/-- How many event calls a script will still answer. -/
def callsLeft (host : Host ρ τ) : Nat := host.script.maxEvents - host.eventCalls

private theorem callsLeft_submit (id length : Nat) (host : Host ρ τ) :
    (host.submit dialect id length).2.callsLeft = host.callsLeft := by
  unfold submit
  dsimp only
  split <;> rfl

private theorem callsLeft_cancel (id : Nat) (host : Host ρ τ) :
    (host.cancel dialect id).2.callsLeft = host.callsLeft := by
  unfold cancel
  dsimp only
  split
  · rfl
  · split
    · rfl
    · split
      · rfl
      · split <;> rfl

private theorem callsLeft_finishEach (entries : List (Nat × Nat)) (host : Host ρ τ) :
    (finishEach dialect entries host).2.callsLeft = host.callsLeft := by
  induction entries generalizing host with
  | nil => rfl
  | cons entry rest ih => exact ih (host.finish dialect entry).2

private theorem callsLeft_answer (entry : EventEntry ρ τ) (host : Host ρ τ) :
    (host.answer dialect entry).2.callsLeft = host.callsLeft := by
  unfold answer
  cases entry.deliveries with
  | some deliveries =>
      dsimp only
      induction deliveries generalizing host with
      | nil => rfl
      | cons delivery rest ih => exact ih (host.retire delivery)
  | none =>
      change (host.deliverInLine dialect).2.callsLeft = _
      unfold deliverInLine
      split
      · exact callsLeft_finishEach dialect _ _
      · rfl

/-- An event call takes one of those that are left, or fails. -/
theorem callsLeft_handleEvents (timeout : Duration) (host : Host ρ τ) :
    (host.handleEvents dialect timeout).2.callsLeft + 1 = host.callsLeft ∨
      (host.handleEvents dialect timeout).1 = ([], dialect.other) ∧
        (host.handleEvents dialect timeout).2.callsLeft ≤ host.callsLeft := by
  obtain ⟨clock, handles⟩ := host.handleEvents_eq dialect timeout
  rw [handles]
  split
  next spent => exact Or.inr ⟨rfl, Nat.sub_le_sub_left (Nat.le_succ _) _⟩
  next within =>
    left
    rw [callsLeft_answer]
    change host.script.maxEvents - (host.eventCalls + 1) + 1 =
      host.script.maxEvents - host.eventCalls
    omega

end Host

/-- A scripted device hands over completions at most once for each event call. -/
theorem ScriptedDevice.spends : ScriptedDevice.rig.Spends fun device => device.host.callsLeft where
  connect target device := by
    have same : (ScriptedDevice.rig.connect target device).2 = device := by
      unfold rig
      dsimp only
      split <;> rfl
    rw [same]
  submit slot device := Nat.le_of_eq (Host.callsLeft_submit ..)
  cancel slot device := Nat.le_of_eq (Host.callsLeft_cancel ..)
  poll timeout device := by
    change (if RigEvent.goesOn (.polled timeout ⟨(device.host.handleEvents .named timeout).1.1.map
      completionOf, (device.host.handleEvents .named timeout).1.2⟩) then 1 else 0) +
        (device.host.handleEvents .named timeout).2.callsLeft ≤ device.host.callsLeft
    rcases device.host.callsLeft_handleEvents .named timeout with fewer | ⟨failed, fewer⟩
    · split <;> omega
    · rw [failed]
      exact Nat.le_trans (Nat.le_of_eq (Nat.zero_add _)) fewer
  write _ _ _ _ := Nat.le_refl _
  clearHalt _ _ := Nat.le_refl _
  disconnect _ := Nat.le_refl _
  now _ := Nat.le_refl _
  note _ _ := Nat.le_refl _

namespace Session

/-- How often a session can still hand over completions at most: twice for each event call, and
once more if some wait. -/
def pollsLeft (session : ScriptedSession) : Nat :=
  2 * session.host.callsLeft + if session.arrivals = [] then 0 else 1

private theorem pollsLeft_le {session last : ScriptedSession}
    (calls : last.host.callsLeft ≤ session.host.callsLeft)
    (arrivals : last.arrivals = session.arrivals ∨ last.arrivals = []) :
    last.pollsLeft ≤ session.pollsLeft := by
  unfold pollsLeft
  rcases arrivals with same | empty
  · rw [same]
    omega
  · rw [empty, if_pos rfl]
    omega

/-- A submission takes up no event call. -/
private theorem callsLeft_submit (slot : Slot) (session : ScriptedSession) :
    (session.submit ScriptedStack.calls.journaled slot).2.host.callsLeft =
        session.host.callsLeft ∧
      (session.submit ScriptedStack.calls.journaled slot).2.arrivals = session.arrivals := by
  have obtained : (session.obtainTransfer ScriptedStack.calls.journaled slot.id).2.host =
        session.host ∧
      (session.obtainTransfer ScriptedStack.calls.journaled slot.id).2.arrivals =
        session.arrivals := by
    rcases obtainTransfer_cases ScriptedStack.calls.journaled slot.id session with
      ⟨_, _, same⟩ | ⟨_, _, same⟩ | ⟨_, _, same⟩ <;>
      rw [same] <;> exact ⟨rfl, rfl⟩
  rcases submit_cases ScriptedStack.calls.journaled slot session with
    ⟨_, same⟩ | ⟨_, _, same⟩ | ⟨transfer, first, found, ends⟩
  · rw [same]
    exact ⟨rfl, rfl⟩
  · rw [same, obtained.1, obtained.2]
    exact ⟨rfl, rfl⟩
  · rw [found] at obtained
    have submitted : ((ScriptedStack.calls.journaled.submit (request transfer slot)
        first.stackState).2.state.host).callsLeft = session.host.callsLeft := by
      rw [← obtained.1]
      exact Host.callsLeft_submit ..
    rcases ends with same | ⟨_, _, same⟩ | ⟨_, same⟩
    · rw [same]
      exact ⟨congrArg Host.callsLeft obtained.1, obtained.2⟩
    · rw [same]
      exact ⟨submitted, obtained.2⟩
    · rw [same]
      exact ⟨submitted, obtained.2⟩

/-- Handing completions over takes away the one call for which they waited. -/
theorem pollsLeft_poll (timeout : Duration) (session : ScriptedSession) :
    (if RigEvent.goesOn (.polled timeout (session.poll ScriptedStack.calls.journaled timeout).1)
        then 1 else 0) + (session.poll ScriptedStack.calls.journaled timeout).2.pollsLeft ≤
      session.pollsLeft := by
  have taken (waiting : ScriptedSession) :
      waiting.takeArrivals.2.pollsLeft = 2 * waiting.host.callsLeft := rfl
  have most (waiting : ScriptedSession) :
      waiting.pollsLeft ≤ 2 * waiting.host.callsLeft + 1 := by
    unfold pollsLeft
    split <;> omega
  by_cases empty : session.arrivals = []
  · rw [poll_of_empty _ _ empty]
    have begun : session.pollsLeft = 2 * session.host.callsLeft := by
      rw [pollsLeft, empty, if_pos rfl]
      rfl
    have calls := session.host.callsLeft_handleEvents .coded (ScriptedStack.span (waitTime timeout))
    have left : (session.handleEvents ScriptedStack.calls.journaled timeout).2.host =
      (session.host.handleEvents .coded (ScriptedStack.span (waitTime timeout))).2 := rfl
    have code : (session.handleEvents ScriptedStack.calls.journaled timeout).1 = UsbResult.ofCode
      (session.host.handleEvents .coded (ScriptedStack.span (waitTime timeout))).1.2 := rfl
    have arrivals : (session.handleEvents ScriptedStack.calls.journaled timeout).2.arrivals =
      session.arrivals ++ ((session.host.handleEvents .coded
        (ScriptedStack.span (waitTime timeout))).1.1.map ScriptedStack.callbackOf).filterMap
          session.completionOf? := rfl
    rw [← left] at calls
    rw [begun]
    rcases handled : session.handleEvents ScriptedStack.calls.journaled timeout with
      ⟨result, after⟩
    rw [handled] at calls code arrivals
    rcases calls with fewer | ⟨failed, fewer⟩
    · cases result with
      | error error =>
          have kept := most after
          dsimp only at fewer ⊢
          split <;> omega
      | ok _ =>
          have kept := taken after
          dsimp only at fewer ⊢
          split <;> omega
    · rw [failed] at code arrivals
      obtain rfl : result = .error .other := code
      have still : after.pollsLeft = 2 * after.host.callsLeft := by
        have none : after.arrivals = [] := arrivals.trans (by rw [empty]; rfl)
        rw [pollsLeft, none, if_pos rfl]
        rfl
      dsimp only at fewer ⊢
      rw [still]
      exact Nat.le_trans (Nat.le_of_eq (Nat.zero_add _)) (Nat.mul_le_mul_left 2 fewer)
  · have begun : session.pollsLeft = 2 * session.host.callsLeft + 1 := by
      rw [pollsLeft, if_neg empty]
    rw [poll_of_waiting _ _ empty, begun, taken]
    split <;> omega

private theorem host_connect (target : Target) (session : ScriptedSession) :
    (session.connect ScriptedStack.calls.journaled target).2.host = session.host ∧
      ((session.connect ScriptedStack.calls.journaled target).2.arrivals = session.arrivals ∨
        (session.connect ScriptedStack.calls.journaled target).2.arrivals = []) := by
  unfold Session.connect
  rcases opened : ScriptedStack.calls.journaled.openDevice target.vendor target.product
    session.stackState with ⟨found, first⟩
  have same : first.state.host = session.host :=
    (congrArg (fun answer => answer.2.state.host) opened).symm
  cases found with
  | false => exact ⟨same, Or.inl rfl⟩
  | true =>
      dsimp only
      split
      · exact ⟨same, Or.inl rfl⟩
      · exact ⟨same, Or.inr rfl⟩

private theorem host_disconnect (session : ScriptedSession) :
    (session.disconnect ScriptedStack.calls.journaled).host = session.host := by
  have dropped (transfers : List Transfer) (journal : Journal StackEvent ScriptedStack) :
      (dropTransfers ScriptedStack.calls.journaled transfers journal).state.host =
        journal.state.host := by
    induction transfers generalizing journal with
    | nil => rfl
    | cons first rest ih =>
        rw [dropTransfers, ih]
        split <;> rfl
  have released (session : ScriptedSession) :
      (session.releaseInterface ScriptedStack.calls.journaled).host = session.host := by
    unfold releaseInterface
    dsimp only
    split <;> rfl
  exact (released _).trans (dropped session.transfers session.stackState)

/-- **A scripted stack spends event calls**: each that goes well takes one of those that its script
allows. -/
theorem spends : (Session.rig ScriptedStack.calls.journaled).Spends pollsLeft where
  connect target session := by
    obtain ⟨host, arrivals⟩ := host_connect target session
    exact pollsLeft_le (Nat.le_of_eq (congrArg Host.callsLeft host)) arrivals
  submit slot session := by
    obtain ⟨calls, arrivals⟩ := callsLeft_submit slot session
    exact pollsLeft_le (Nat.le_of_eq calls) (Or.inl arrivals)
  cancel slot session := by
    change (session.cancel ScriptedStack.calls.journaled slot).2.pollsLeft ≤ _
    unfold Session.cancel
    split
    · exact Nat.le_refl _
    · split
      · exact pollsLeft_le (Nat.le_of_eq (Host.callsLeft_cancel ..)) (Or.inl rfl)
      · exact Nat.le_refl _
  poll timeout session := pollsLeft_poll timeout session
  write endpoint data timeout session := by
    change (session.write ScriptedStack.calls.journaled endpoint data timeout).2.pollsLeft ≤ _
    rw [session_write]
    split
    · exact Nat.le_refl _
    · exact pollsLeft_le (Nat.le_refl _) (Or.inl rfl)
  clearHalt endpoint session := pollsLeft_le (Nat.le_refl _) (Or.inl rfl)
  disconnect session :=
    pollsLeft_le (Nat.le_of_eq (congrArg Host.callsLeft (host_disconnect session))) (Or.inr rfl)
  now session := pollsLeft_le (Nat.le_refl _) (Or.inl rfl)
  note notice session := pollsLeft_le (Nat.le_refl _) (Or.inl rfl)

end Session

end UsbThroughput
