import UsbThroughput.Script.Basic

/-!
# Scripted hosts

The transfers that a scripted device holds, and how a script answers the calls that concern them.
The clock of a scripted host moves by one nanosecond at each reading, so that no two readings are
equal, and by the time that calls sleep.
-/

namespace UsbThroughput

/-- A script with the transfers in line, those being cancelled, and the clock. -/
structure Host (ρ τ : Type) where
  script : Script ρ τ
  /-- The accepted transfers with their lengths, in the order of their submission. -/
  pending : List (Nat × Nat) := []
  /-- The transfers whose cancellation is still to be acknowledged. -/
  cancelling : List Nat := []
  eventCalls : Nat := 0
  clock : Duration := .zero
  deriving DecidableEq, Repr

namespace Host

variable {ρ τ : Type} (dialect : Dialect ρ τ)

/-- Reads the clock. -/
def now (host : Host ρ τ) : Duration × Host ρ τ :=
  (host.clock, { host with clock := host.clock.add ⟨1⟩ })

/-- What a sleep takes beyond the time that was asked for. -/
def oversleep : Duration := .ofMicroseconds 50

/-- Lets a time pass. -/
def sleep (span : Duration) (host : Host ρ τ) : Host ρ τ :=
  { host with clock := (host.clock.add span).add oversleep }

/-- Accepts a transfer, or refuses it. -/
def submit (id length : Nat) (host : Host ρ τ) : ρ × Host ρ τ :=
  let (entry, rest) := Script.next host.script.submit
  let host := { host with script.submit := rest }
  let result := entry.getD dialect.accepted
  (result,
    if dialect.isAccepted result then { host with pending := host.pending ++ [(id, length)] }
    else host)

/-- Whether a transfer is in line. -/
def isPending (host : Host ρ τ) (id : Nat) : Bool := host.pending.any fun entry => entry.1 == id

/-- Cancels a transfer. If the script does not acknowledge cancellations, the transfer is never
heard of again. -/
def cancel (id : Nat) (host : Host ρ τ) : ρ × Host ρ τ :=
  let (entry, rest) := Script.next host.script.cancel
  let host := { host with script.cancel := rest }
  match entry with
  | some result => (result, host)
  | none =>
      if !host.isPending id then (dialect.notFound, host)
      else if !host.script.acknowledges then
        (dialect.accepted,
          { host with pending := host.pending.filter fun entry => entry.1 != id })
      else if host.cancelling.contains id then (dialect.accepted, host)
      else (dialect.accepted, { host with cancelling := host.cancelling ++ [id] })

/-- Clears a halt, or fails to. -/
def clearHalt (host : Host ρ τ) : ρ × Host ρ τ :=
  let (entry, rest) := Script.next host.script.clearHalt
  (entry.getD dialect.accepted, { host with script.clearHalt := rest })

/-- The end of a transfer in line. -/
def finish (entry : Nat × Nat) (host : Host ρ τ) : Delivery τ × Host ρ τ :=
  let (listed, rest) := Script.next host.script.outcomes
  let outcome := (listed.or host.script.usual).getD { status := dialect.completed }
  ({ id := entry.1, status := outcome.status, length := outcome.length.getD entry.2 },
    { host with script.outcomes := rest })

/-- The ends of several transfers in line, one after the other. -/
def finishEach : List (Nat × Nat) → Host ρ τ → List (Delivery τ) × Host ρ τ
  | [], host => ([], host)
  | entry :: rest, host =>
      let (delivery, host) := host.finish dialect entry
      let (deliveries, host) := finishEach rest host
      (delivery :: deliveries, host)

/-- Lets transfers finish by themselves: those being cancelled, or else some of those in line. -/
def deliverInLine (host : Host ρ τ) : List (Delivery τ) × Host ρ τ :=
  if host.cancelling.isEmpty then
    let count := host.script.batch
    finishEach dialect (host.pending.take count)
      { host with pending := host.pending.drop count }
  else
    (host.cancelling.map fun id => { id, status := dialect.cancelled, length := 0 },
      { host with
        pending := host.pending.filter fun entry => !host.cancelling.contains entry.1
        cancelling := [] })

/-- Takes a listed transfer out of the line. -/
def retire (host : Host ρ τ) (delivery : Delivery τ) : Host ρ τ :=
  { host with
    pending := host.pending.eraseP fun entry => entry.1 == delivery.id
    cancelling := host.cancelling.filter (· != delivery.id) }

/-- The answer of an event call within the limit. -/
def answer (entry : EventEntry ρ τ) (host : Host ρ τ) : (List (Delivery τ) × ρ) × Host ρ τ :=
  match entry.deliveries with
  | some deliveries =>
      ((deliveries, entry.result.getD dialect.accepted), deliveries.foldl retire host)
  | none =>
      let (deliveries, host) := host.deliverInLine dialect
      let usual :=
        if deliveries.isEmpty then host.script.quiet.getD dialect.other else dialect.accepted
      ((deliveries, entry.result.getD usual), host)

/-- Answers an event call. -/
def handleEvents (timeout : Duration) (host : Host ρ τ) : (List (Delivery τ) × ρ) × Host ρ τ :=
  let (entry, rest) :=
    match host.script.events with
    | [] => (({} : EventEntry ρ τ), [])
    | entry :: rest => (entry, rest)
  let host := { host with script.events := rest, eventCalls := host.eventCalls + 1 }
  let host := if entry.sleeps then host.sleep timeout else host
  if host.script.maxEvents < host.eventCalls then (([], dialect.other), host)
  else host.answer dialect entry

/-- At least as many transfers as one event call of the script hands over to a queue of `depth`
slots. -/
def maxDeliveries (host : Host ρ τ) (depth : Nat) : Nat :=
  host.script.events.foldl
    (fun most entry => max most ((entry.deliveries.map List.length).getD 0))
    (host.script.batch + depth)

/-- Enough steps for a run on a scripted device. Every event call beyond the limit of the script
fails, so there are at most two more of them, and from one event call to the next a run takes one
step for each completion and a few others. -/
def stepLimit (host : Host ρ τ) (depth : Nat) : Nat :=
  (host.script.maxEvents + 4) * (host.maxDeliveries depth + 8)

end Host

end UsbThroughput
