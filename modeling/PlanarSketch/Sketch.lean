import PlanarSketch.Inference
import PlanarSketch.Solve
import PlanarSketch.ThreePointArc

/-!
# Sketches

A sketch owns entities and constraints.  It numbers both itself and never gives a
number twice, so a reference that was saved stays valid over later edits.

Every operation yields an `Edit`: the sketch afterwards, what was reported, and the
answer or the fault.  A fault leaves the sketch as it was.  A solve writes the new
parameters back only when it has succeeded.  A drag moves a point, solves with a
small number of steps, and takes the move back when that fails; the place that a
point is dragged to is where the solve starts, not a demand on it.
-/

namespace PlanarSketch

set_option autoImplicit false

variable {α : Type}

/-- Entities and constraints under one name. -/
structure Sketch (α : Type) [Scalar α] where
  /-- What the sketch is called.  A sketch can be stored without a text for its name. -/
  name : Document
  /-- The entities, in the order in which they came in. -/
  entities : List (Entity α)
  constraints : List (Constraint α)
  /-- The options of a solve that is told none. -/
  defaults : Options α
  /-- The solution of the latest solve or drag. -/
  lastSolution : Option (Solution α)
  nextEntity : Int
  nextConstraint : Int

/-- What an operation makes of a sketch, what it reports, and what it answers. -/
structure Edit (α β : Type) [Scalar α] where
  sketch : Sketch α
  events : List (Event α)
  outcome : Except (Fault α) β

namespace Edit

variable {β γ : Type} [Scalar α]

/-- The edit that changes nothing because of a fault. -/
def refused (sketch : Sketch α) (fault : Fault α) : Edit α β := ⟨sketch, [], .error fault⟩

/-- The edit that leads to another sketch. -/
def done (sketch : Sketch α) (answer : β) : Edit α β := ⟨sketch, [], .ok answer⟩

/-- An edit of a sketch that may be refused. -/
def of (sketch : Sketch α) (result : Except (Fault α) (Sketch α × β)) : Edit α β :=
  match result with
  | .ok (changed, answer) => done changed answer
  | .error fault => refused sketch fault

/-- The same edit with another view of the answer. -/
def map (f : β → γ) (e : Edit α β) : Edit α γ := ⟨e.sketch, e.events, e.outcome.map f⟩

end Edit

namespace Sketch

variable [Scalar α]

/-- The name of a sketch that is given none. -/
def standardName : Document := .text "Sketch"

/-- The empty sketch of a name. -/
def blank (name : Document) (defaults : Options α) : Sketch α :=
  ⟨name, [], [], defaults, none, 0, 0⟩

/-- Free parameters less equations, but never less than zero. -/
def freedom (s : Sketch α) : Nat := (freedomBalance s.entities s.constraints).toNat

/-! ## Entities -/

/-- The entity of an identifier. -/
def entity (s : Sketch α) (id : Int) : Except (Fault α) (Entity α) :=
  match s.entities.find? (·.id == id) with
  | some e => .ok e
  | none => .error (.noEntity s.name (.whole id))

/-- Entities with one of them replaced where it stands, or added at the end. -/
def putEntity (e : Entity α) : List (Entity α) → List (Entity α)
  | [] => [e]
  | f :: rest => if f.id = e.id then e :: rest else f :: putEntity e rest

/-- The sketch with another entity in the place of the one of the same identifier. -/
def withEntity (s : Sketch α) (e : Entity α) : Sketch α :=
  { s with entities := putEntity e s.entities }

/-- Add an entity under the next identifier. -/
def addEntity (s : Sketch α) (kind : EntityKind) (params : List α) (fixed : Mark) :
    Edit α Int :=
  .of s do
    let e ← Entity.make s.nextEntity kind params fixed
    .ok ({ s.withEntity e with nextEntity := s.nextEntity + 1 }, s.nextEntity)

/-- Add a shape under the next identifier. -/
def addShape (s : Sketch α) (shape : Shape α) (fixed : Mark) : Edit α Int :=
  s.addEntity shape.kind shape.params fixed

/-- Add the arc through three points. -/
def addArcThrough (s : Sketch α) (sx sy mx my ex ey : α) (fixed : Mark) : Edit α Int :=
  match Shape.arcThrough sx sy mx my ex ey with
  | .ok shape => s.addShape shape fixed
  | .error fault => .refused s fault

/-- Give an entity other parameters. -/
def setParams (s : Sketch α) (id : Int) (params : List α) : Edit α Unit :=
  .of s do
    let e ← s.entity id
    let changed ← e.withParams params
    .ok (s.withEntity changed, ())

/-- Mark an entity as one that may or may not be moved. -/
def setFixed (s : Sketch α) (id : Int) (fixed : Mark) : Edit α Unit :=
  .of s do
    let e ← s.entity id
    .ok (s.withEntity (e.withFixed fixed), ())

/-- Remove an entity and all constraints that name it, which are the answer. -/
def removeEntity (s : Sketch α) (id : Int) : Edit α (List (Constraint α)) :=
  match s.entity id with
  | .error fault => .refused s fault
  | .ok _ =>
    let (gone, kept) := s.constraints.partition fun c => c.entityIds.contains id
    let events := if gone.isEmpty then [] else [Event.removed id gone.length]
    ⟨{ s with entities := s.entities.filter (·.id != id), constraints := kept }, events, .ok gone⟩

/-! ## Constraints -/

/-- Add a constraint under the next identifier. -/
def addConstraint (s : Sketch α) (kind : ConstraintKind) (entityIds : List Int)
    (value : Option α) (selectors : List String) (driving : Mark) : Edit α Int :=
  let c : Constraint α := ⟨s.nextConstraint, kind, entityIds, value, selectors, driving⟩
  .of s do
    c.check
    match entityIds.find? fun id => !s.entities.any (·.id == id) with
    | some id => .error (.danglingConstraint s.name c.identifier id)
    | none =>
      .ok ({ s with
        constraints := s.constraints ++ [c]
        nextConstraint := s.nextConstraint + 1 }, c.id)

/-- The constraint of an identifier. -/
def constraint (s : Sketch α) (id : Int) : Except (Fault α) (Constraint α) :=
  match s.constraints.find? (·.id == id) with
  | some c => .ok c
  | none => .error (.noConstraint s.name (.whole id))

/-- Give a constraint another target value, for an angle in degrees. -/
def updateConstraint (s : Sketch α) (id : Int) (value : Option α) : Edit α (Constraint α) :=
  .of s do
    let old ← s.constraint id
    let new := old.withValue (if old.kind = .angle then value.map Scalar.radians else value)
    new.check
    .ok ({ s with constraints := s.constraints.map fun c => if c.id = id then new else c }, new)

/-- Remove a constraint, which is the answer if it was there. -/
def removeConstraint (s : Sketch α) (id : Int) : Edit α (Option (Constraint α)) :=
  .done { s with constraints := s.constraints.eraseP (·.id == id) }
    (s.constraints.find? (·.id == id))

/-- Remove all constraints. -/
def clearConstraints (s : Sketch α) : Edit α Unit := .done { s with constraints := [] } ()

/-- Infer constraints from the geometry, and add them if that is asked for. -/
def inferConstraints (s : Sketch α) (apply : Bool) : Edit α (List (Constraint α)) :=
  let found := Inference.infer .standard s.entities s.constraints s.nextConstraint
  let changed :=
    match apply, found.getLast? with
    | true, some last =>
      { s with constraints := s.constraints ++ found, nextConstraint := last.id + 1 }
    | _, _ => s
  ⟨changed, Event.ofInferred found, .ok found⟩

/-! ## Solving -/

/-- Solve all constraints; parameters are written back when that succeeds. -/
def solve (s : Sketch α) (engine : Engine α) (options : Option (Options α)) :
    Edit α (Solution α) :=
  let run := PlanarSketch.solve engine (options.getD s.defaults) s.entities s.constraints
  match run.outcome with
  | .error fault => ⟨s, run.events, .error fault⟩
  | .ok solution =>
    if solution.success then
      match solution.apply s.entities with
      | .error fault => ⟨s, run.events, .error fault⟩
      | .ok solved =>
        ⟨{ s with entities := solved, lastSolution := some solution }, run.events, .ok solution⟩
    else ⟨{ s with lastSolution := some solution }, run.events, .ok solution⟩

/-- The parameters of an entity whose point of a name is moved to `(x, y)`. -/
def draggedParams (e : Entity α) (selector : String) (x y : α) :
    Except (Fault α) (List α) :=
  if e.isFixed then .error (.dragFixed e.id)
  else
    match e.shape with
    | .line x₁ y₁ x₂ y₂ =>
      if selector = Anchor.start.name then .ok [x, y, x₂, y₂]
      else if selector = Anchor.stop.name then .ok [x₁, y₁, x, y]
      else .error .dragLine
    | shape =>
      if selector = Anchor.own.name ∨ selector = Anchor.center.name then
        .ok (x :: y :: shape.params.drop 2)
      else .error (.dragPoint e.kind (.text selector))

/-- The options of a solve during a drag. -/
def dragOptions (s : Sketch α) : Options α :=
  { s.defaults with maxIterations := Tolerance.dragIterations }

/-- An entity with its point of a name moved to `(x, y)`. -/
def dragged (s : Sketch α) (id : Int) (x y : α) (selector : String) :
    Except (Fault α) (Entity α) := do
  let e ← s.entity id
  let params ← draggedParams e selector x y
  e.withParams params

/-- Move a point of an entity and solve; the entities are as before when that fails. -/
def drag (s : Sketch α) (engine : Engine α) (id : Int) (x y : α) (selector : String) :
    Edit α (Solution α) :=
  match s.dragged id x y selector with
  | .error fault => .refused s fault
  | .ok e =>
    let run := (s.withEntity e).solve engine (some s.dragOptions)
    let reverted := { run.sketch with entities := s.entities }
    match run.outcome with
    | .error fault => ⟨reverted, run.events, .error fault⟩
    | .ok solution => if solution.success then run else ⟨reverted, run.events, .ok solution⟩

end Sketch

end PlanarSketch
