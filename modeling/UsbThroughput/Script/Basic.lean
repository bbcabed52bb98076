import UsbThroughput.Rig
import UsbThroughput.Stack

/-!
# Scripts

A script lists the answers of a device that exists only on paper, call by call, with rules for the
calls that it does not list. Scripts come in two dialects: answers are results and statuses for a
rig, and return codes for a stack.
-/

namespace UsbThroughput

/-- How the answers of a script are written: `ρ` is the type of results, `τ` that of statuses. -/
structure Dialect (ρ τ : Type) where
  accepted : ρ
  notFound : ρ
  other : ρ
  isAccepted : ρ → Bool
  completed : τ
  cancelled : τ

namespace Dialect

/-- Answers as results and statuses. -/
def named : Dialect (UsbResult Unit) TransferStatus where
  accepted := .ok ()
  notFound := .error .notFound
  other := .error .other
  isAccepted result := result.isOk
  completed := .completed
  cancelled := .cancelled

/-- Answers as return codes and status codes. -/
def coded : Dialect Int Int where
  accepted := 0
  notFound := -5
  other := -99
  isAccepted code := code = 0
  completed := 0
  cancelled := 3

end Dialect

/-- A finished transfer of a script. -/
structure Delivery (τ : Type) where
  id : Nat
  status : τ
  length : Int
  deriving DecidableEq, Repr

/-- How the next transfer in line ends. Without a length it moves all its bytes. -/
structure Outcome (τ : Type) where
  status : τ
  length : Option Int := none
  deriving DecidableEq, Repr

/-- The answer to one event call. -/
structure EventEntry (ρ τ : Type) where
  /-- The transfers that finish. Without a list the transfers in line finish by themselves. -/
  deliveries : Option (List (Delivery τ)) := none
  result : Option ρ := none
  /-- Whether the call waits for its whole timeout. -/
  sleeps : Bool := false
  deriving DecidableEq, Repr

/-- The answers that are still to be given. Each list is used up from the front, one entry a
call. -/
structure Script (ρ τ : Type) where
  submit : List (Option ρ) := []
  cancel : List (Option ρ) := []
  clearHalt : List (Option ρ) := []
  events : List (EventEntry ρ τ) := []
  /-- The ends of the transfers in line. -/
  outcomes : List (Option (Outcome τ)) := []
  /-- The end of a transfer in line for which there is no other. -/
  usual : Option (Outcome τ) := none
  /-- How many transfers in line finish in one call. -/
  batch : Nat := 1
  /-- The result of a call in which nothing finishes by itself. -/
  quiet : Option ρ := none
  /-- Whether a cancelled transfer finishes. -/
  acknowledges : Bool := true
  /-- Later event calls fail. -/
  maxEvents : Nat := 3000
  deriving DecidableEq, Repr

/-- Takes the next entry of a list, if there is one. -/
def Script.next {α : Type} : List (Option α) → Option α × List (Option α)
  | [] => (none, [])
  | entry :: rest => (entry, rest)

end UsbThroughput
