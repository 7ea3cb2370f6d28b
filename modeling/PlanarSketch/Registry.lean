import PlanarSketch.Registry.Label
import PlanarSketch.Sketch.Command

/-!
# Registries

A registry holds the sketches of a session under labels, in the order in which they
were registered.  A sketch can be registered under several labels; it is one sketch
all the same, and an edit under one label shows under the others.  It is named after
the label it was registered under last.

Without a label the next numbered one is made up.  The counter is never less than
the number of a label that was registered since the registry was last cleared, so a
label that is made up is always a new one.  A label whose number is too long to be
read, or would be too long to be written, is refused.

Solving all sketches solves each of them, also when one of them has a fault; the
fault that is answered is the first in the order of registration.
-/

namespace PlanarSketch

set_option autoImplicit false

/-- The sketches of a session under labels. -/
structure Registry (α : Type) [Scalar α] where
  /-- All sketches that were ever registered, by handle. -/
  sketches : List (Sketch α)
  /-- Labels with the handles of their sketches. -/
  entries : List (String × Nat)
  /-- The highest number of a label so far. -/
  counter : Nat

namespace Registry

variable {α : Type} [Scalar α]

/-- The registry of no sketches. -/
def empty : Registry α := ⟨[], [], 0⟩

/-- The labels, in the order of registration. -/
def labels (r : Registry α) : List String := r.entries.map Prod.fst

/-- Whether a label is in use. -/
def contains (r : Registry α) (label : String) : Bool := r.labels.contains label

/-- The handle of the sketch under a label. -/
def handle? (r : Registry α) (label : String) : Option Nat := r.entries.lookup label

/-- The sketch under a label. -/
def get? (r : Registry α) (label : String) : Option (Sketch α) :=
  (r.handle? label).bind fun handle => r.sketches[handle]?

/-- Labels with their sketches, in the order of registration. -/
def toList (r : Registry α) : List (String × Sketch α) :=
  r.entries.filterMap fun (label, handle) => r.sketches[handle]?.map fun s => (label, s)

/-- Entries where a label is given a handle: in place, or at the end when it is new. -/
def putEntry (label : String) (handle : Nat) : List (String × Nat) → List (String × Nat)
  | [] => [(label, handle)]
  | (k, h) :: rest =>
    if k = label then (label, handle) :: rest else (k, h) :: putEntry label handle rest

/-- A label for a sketch: the one that is given, or else the next numbered one. -/
def labelFor (r : Registry α) (label? : Option String) : Except (Fault α) String :=
  match label? with
  | some label => .ok label
  | none => Fault.ofDocument (Label.numbered (r.counter + 1))

/-- The counter after a label has been used. -/
def counterAfter (counter : Nat) (label : String) : Except (Fault α) Nat :=
  Fault.ofDocument ((Label.number? label).map fun number? => max counter (number?.getD 0))

/-- Put the sketch of a handle under a label and name it after the label. -/
def place (r : Registry α) (label : String) (handle counter : Nat) : Registry α where
  sketches := r.sketches.modify handle fun s => { s with name := .text label }
  entries := putEntry label handle r.entries
  counter

/-- Register a sketch under a label, or under the next numbered one. -/
def register (r : Registry α) (s : Sketch α) (label? : Option String) :
    Except (Fault α) (Registry α × String) := do
  let label ← r.labelFor label?
  let counter ← counterAfter r.counter label
  .ok ({ r with sketches := r.sketches ++ [s] }.place label r.sketches.length counter, label)

/-- Register the sketch under one label also under another.  When there is no such sketch, or
something else than a label asks for it, there is no answer, but the number of the other label
counts as given out. -/
def registerAlso (r : Registry α) (label? other? : Option String) :
    Except (Fault α) (Registry α × Option String) := do
  let other ← r.labelFor other?
  let counter ← counterAfter r.counter other
  match label?.bind r.handle? with
  | some handle => .ok (r.place other handle counter, some other)
  | none => .ok ({ r with counter }, none)

/-- Take a label out of use. -/
def remove (r : Registry α) (label : String) : Registry α :=
  { r with entries := r.entries.filter (·.1 != label) }

/-- What an operation makes of a registry, what it reports, and what it answers. -/
structure Change (α β : Type) [Scalar α] where
  registry : Registry α
  events : List (Event α)
  outcome : Except (Fault α) β

/-- Edit the sketch of a handle. -/
def editAt {β : Type} (r : Registry α) (handle : Nat) (s : Sketch α)
    (edit : Sketch α → Edit α β) : Change α β :=
  let e := edit s
  ⟨{ r with sketches := r.sketches.set handle e.sketch }, e.events, e.outcome⟩

/-- Edit the sketch under a label, when there is one. -/
def edit? {β : Type} (r : Registry α) (label : String) (edit : Sketch α → Edit α β) :
    Option (Change α β) :=
  (r.handle? label).bind fun handle =>
    r.sketches[handle]?.map fun s => r.editAt handle s edit

/-- Solve the sketches of some entries one after the other, and keep every outcome. -/
def solveEach (engine : Engine α) (options : Option (Options α)) :
    List (String × Nat) → Registry α →
      Registry α × List (Event α) × List (String × Except (Fault α) (Solution α))
  | [], r => (r, [], [])
  | (label, handle) :: rest, r =>
    match r.sketches[handle]? with
    | none => solveEach engine options rest r
    | some s =>
      let change := r.editAt handle s fun s => s.solve engine options
      let (r, events, outcomes) := solveEach engine options rest change.registry
      (r, change.events ++ events, (label, change.outcome) :: outcomes)

/-- The answers of all outcomes, or the first fault among them. -/
def gather {β : Type} (outcomes : List (String × Except (Fault α) β)) :
    Except (Fault α) (List (String × β)) :=
  outcomes.mapM fun (label, outcome) => outcome.map fun b => (label, b)

/-- The event that closes a solve of several sketches. -/
def summary (solutions : List (String × Solution α)) : Event α :=
  match (solutions.filter fun (_, s) => !s.success).map Prod.fst with
  | [] => .sketchesSolved solutions.length
  | unsolved => .sketchesUnsolved unsolved solutions.length

/-- Solve all sketches, by as many workers as are given or as it takes. -/
def solveAll (r : Registry α) (engine : Engine α) (options : Option (Options α))
    (workers : Option Int) : Change α (List (String × Solution α)) :=
  if r.entries.isEmpty then ⟨r, [], .ok []⟩
  else if workers.any (· ≤ 0) then ⟨r, [], .error .noWorkers⟩
  else
    let (solved, events, outcomes) := solveEach engine options r.entries r
    match gather outcomes with
    | .error fault => ⟨solved, events, .error fault⟩
    | .ok solutions => ⟨solved, events ++ [summary solutions], .ok solutions⟩

end Registry

end PlanarSketch
