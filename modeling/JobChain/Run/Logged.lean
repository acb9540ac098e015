import JobChain.Act
import JobChain.Failure.Basic
import JobChain.Log.Event

/-!
# Acts with a log

The acts of a run work on the state of its host and write a log beside it.

* `Logged.lift`: an act on the state of the host alone.
* `Logged.note`: an event for the log.
-/

namespace JobChain

/-- The state of a host, with the log so far. -/
structure Logged (σ : Type) where
  state : σ
  log : List Log.Event := []

/-- An act that may fail and that writes a log. -/
abbrev Running (σ α : Type) := Act Failure (Logged σ) α

namespace Logged

variable {σ α ε : Type}

/-- An act on the state of the host alone. -/
def lift (act : Act ε σ α) : Act ε (Logged σ) α := fun s =>
  ((act s.state).1, { s with state := (act s.state).2 })

/-- Puts an event into the log. -/
def note (event : Log.Event) : Act ε (Logged σ) Unit :=
  Act.modify fun s => { s with log := s.log ++ [event] }

@[simp] theorem lift_apply (act : Act ε σ α) (s : Logged σ) :
    lift act s = ((act s.state).1, { s with state := (act s.state).2 }) := rfl

@[simp] theorem note_apply (event : Log.Event) (s : Logged σ) :
    (note event : Act ε (Logged σ) Unit) s = (.ok (), { s with log := s.log ++ [event] }) := rfl

end Logged

end JobChain
