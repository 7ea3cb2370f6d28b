import PlanarSketch.Conflict
import PlanarSketch.Diagnosis

/-!
# Journals

Operations report what they do as a list of events.  An operation that may have no
answer keeps its events apart from its outcome, so that what happened before a
fault is not lost with it.

Every event has a level, and a reader can ask for the more important ones only.
-/

namespace PlanarSketch

set_option autoImplicit false

/-- Something that an operation reports. -/
inductive Event (α : Type) where
  /-- Constraints were found to contradict each other. -/
  | conflict (found : Conflict α)
  /-- A step was taken: which one, the norm it led to, and the fraction of the full step. -/
  | step (number : Nat) (norm : Option α) (fraction : α)
  /-- Constraints were solved. -/
  | solved (constraints iterations : Nat) (status : Status) (norm : Option α) (remaining : Int)
  /-- Constraints could not be solved. -/
  | unsolved (iterations : Nat) (status : Status) (norm : Option α)
  /-- Constraints were inferred. -/
  | inferred (count : Nat)
  /-- An entity was removed, and with it the constraints that name it. -/
  | removed (entity : Int) (constraints : Nat)
  /-- Of several sketches, some could not be solved. -/
  | sketchesUnsolved (unsolved : List String) (total : Nat)
  /-- Several sketches were all solved. -/
  | sketchesSolved (total : Nat)
deriving DecidableEq, Repr

/-- How important an event is. -/
inductive EventLevel where
  | debug
  | info
  | warning
deriving DecidableEq, Repr

/-- The name of a level. -/
def EventLevel.name : EventLevel → String
  | debug => "DEBUG"
  | info => "INFO"
  | warning => "WARNING"

/-- What an inference reports: how many constraints it has found, if there are any. -/
def Event.ofInferred {α : Type} (found : List (Constraint α)) : List (Event α) :=
  if found.isEmpty then [] else [inferred found.length]

/-- How important an event is. -/
def Event.level {α : Type} : Event α → EventLevel
  | conflict _ | unsolved .. | sketchesUnsolved .. => .warning
  | solved .. | sketchesSolved _ => .info
  | step .. | inferred _ | removed .. => .debug

/-- An outcome together with the events on the way to it. -/
structure Traced (α β : Type) where
  events : List (Event α)
  outcome : Except (Fault α) β

namespace Traced

variable {α β γ : Type}

/-- An outcome without events. -/
def quiet (outcome : Except (Fault α) β) : Traced α β := ⟨[], outcome⟩

/-- An answer with events. -/
def answer (events : List (Event α)) (b : β) : Traced α β := ⟨events, .ok b⟩

/-- The same events with another view of the answer. -/
def map (f : β → γ) (t : Traced α β) : Traced α γ := ⟨t.events, t.outcome.map f⟩

end Traced

end PlanarSketch
