/-!
# Journals

A state that remembers what was done to it. Each entry is an event together with the state that
the event left behind.
-/

namespace UsbThroughput

/-- A state and its history, the latest event first. -/
structure Journal (ε σ : Type) where
  state : σ
  entries : List (ε × σ) := []

namespace Journal

variable {ε σ α : Type}

/-- The events from first to last. -/
def history (journal : Journal ε σ) : List ε := (journal.entries.map Prod.fst).reverse

/-- Acts on the state and notes what was done, in view of the answer. -/
def record (describe : α → ε) (act : σ → α × σ) (journal : Journal ε σ) : α × Journal ε σ :=
  let (answer, state) := act journal.state
  (answer, { state, entries := (describe answer, state) :: journal.entries })

/-- Acts on the state, where there is no answer to be had. -/
def recordChange (event : ε) (change : σ → σ) (journal : Journal ε σ) : Journal ε σ :=
  let state := change journal.state
  { state, entries := (event, state) :: journal.entries }

/-- Acts on the state without an entry. -/
def silently (act : σ → α × σ) (journal : Journal ε σ) : α × Journal ε σ :=
  let (answer, state) := act journal.state
  (answer, { journal with state })

end Journal

end UsbThroughput
