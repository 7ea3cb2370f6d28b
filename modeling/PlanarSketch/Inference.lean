import PlanarSketch.Constraint
import PlanarSketch.Entity
import PlanarSketch.Tolerance

/-!
# Inferring constraints

Geometry that almost meets a relation suggests the constraint that makes it meet
the relation exactly.  Lines close to an axis suggest alignment, pairs of lines
close to parallel or perpendicular suggest that relation unless both are already
aligned, and points of different entities close together suggest coincidence.

The suggestions are made in this order.  One that is known already is left out: a
constraint is known by its kind and by the set of points it names, in any order.
The others are numbered consecutively.
-/

namespace PlanarSketch.Inference

set_option autoImplicit false

variable {α : Type}

/-- What a constraint is known by: its kind, and its entities with selectors in any order. -/
structure Key where
  kind : ConstraintKind
  targets : List (Int × String)
deriving DecidableEq, Repr

/-- Whether two keys are about the same kind and the same set of targets. -/
def Key.same (a b : Key) : Bool :=
  a.kind == b.kind && a.targets.all b.targets.contains && b.targets.all a.targets.contains

/-- What a constraint is known by. -/
def Key.of (c : Constraint α) : Key :=
  ⟨c.kind, c.entityIds.zipIdx.map fun (id, i) => (id, c.selector i)⟩

/-- A relation that the geometry suggests. -/
structure Suggestion where
  kind : ConstraintKind
  entityIds : List Int
  selectors : List String
deriving DecidableEq, Repr

/-- The constraint that a suggestion becomes. -/
def Suggestion.constraint (s : Suggestion) (id : Int) : Constraint α :=
  ⟨id, s.kind, s.entityIds, none, s.selectors, .of true⟩

/-- What a suggestion is known by. -/
def Suggestion.key (s : Suggestion) : Key := .of (α := Unit) (s.constraint 0)

/-- A line with the direction of length one in which it runs. -/
structure Ray (α : Type) where
  id : Int
  ux : α
  uy : α

/-- A point of an entity that can coincide with others. -/
structure SnapPoint (α : Type) where
  id : Int
  selector : String
  x : α
  y : α

/-- How far geometry may be from a relation that it suggests. -/
structure Limits (α : Type) where
  distance : α
  angle : α

variable [Scalar α]

/-- The limits of an inference that is told nothing. -/
def Limits.standard : Limits α := ⟨Tolerance.inferDistance, Tolerance.inferAngle⟩

/-- The direction of a line that is not degenerate. -/
def ray? (e : Entity α) : Option (Ray α) :=
  match e.shape with
  | .line x₁ y₁ x₂ y₂ =>
    let length := Scalar.hypot (x₂ - x₁) (y₂ - y₁)
    if length ≤ Tolerance.geometry then none
    else some ⟨e.id, (x₂ - x₁) / length, (y₂ - y₁) / length⟩
  | _ => none

/-- The points of an entity that can coincide with others: a point itself, and ends. -/
def snapPoints (e : Entity α) : List (SnapPoint α) :=
  let anchors : List Anchor :=
    match e.kind with
    | .point => [.own]
    | .line | .arc => [.start, .stop]
    | .circle => []
  anchors.filterMap fun a => (e.shape.pointAt? a).map fun (x, y) => ⟨e.id, a.name, x, y⟩

/-- The alignment that a direction suggests. -/
def Ray.alignment? (limits : Limits α) (r : Ray α) : Option ConstraintKind :=
  if Scalar.abs r.uy < limits.angle then some .horizontal
  else if Scalar.abs r.ux < limits.angle then some .vertical
  else none

/-- Whether a direction suggests an alignment. -/
def Ray.aligned (limits : Limits α) (r : Ray α) : Bool := (r.alignment? limits).isSome

/-- The relation between directions that a pair of lines suggests. -/
def Ray.relation? (limits : Limits α) (a b : Ray α) : Option ConstraintKind :=
  if Scalar.abs (a.ux * b.uy - a.uy * b.ux) < limits.angle then some .parallel
  else if Scalar.abs (a.ux * b.ux + a.uy * b.uy) < limits.angle then some .perpendicular
  else none

/-- What is found for each element of a list with each of those after it. -/
def overPairs {β γ : Type} (f : β → β → Option γ) : List β → List γ
  | [] => []
  | a :: rest => rest.filterMap (f a) ++ overPairs f rest

/-- The alignments that lines suggest. -/
def alignments (limits : Limits α) (rays : List (Ray α)) : List Suggestion :=
  rays.filterMap fun r => (r.alignment? limits).map fun kind => ⟨kind, [r.id], []⟩

/-- The relations that pairs of lines suggest, unless both lines are aligned. -/
def angles (limits : Limits α) (rays : List (Ray α)) : List Suggestion :=
  let aligned := (rays.filter (Ray.aligned limits)).map Ray.id
  overPairs
    (fun a b =>
      if aligned.contains a.id && aligned.contains b.id then none
      else (a.relation? limits b).map fun kind => ⟨kind, [a.id, b.id], []⟩)
    rays

/-- The coincidences that points of different entities suggest. -/
def coincidences (limits : Limits α) (points : List (SnapPoint α)) : List Suggestion :=
  overPairs
    (fun a b =>
      if a.id == b.id then none
      else if Scalar.hypot (b.x - a.x) (b.y - a.y) < limits.distance then
        some ⟨.coincident, [a.id, b.id], [a.selector, b.selector]⟩
      else none)
    points

/-- All suggestions of some geometry, in the order in which they are considered. -/
def suggestions (limits : Limits α) (entities : List (Entity α)) : List Suggestion :=
  let rays := entities.filterMap ray?
  alignments limits rays ++ angles limits rays ++
    coincidences limits (entities.flatMap snapPoints)

/-- Number the suggestions that are not known yet; each becomes known in its turn. -/
def accept (known : List Key) (next : Int) : List Suggestion → List (Constraint α)
  | [] => []
  | s :: rest =>
    if known.any s.key.same then accept known next rest
    else s.constraint next :: accept (s.key :: known) (next + 1) rest

/-- The constraints that geometry suggests besides existing ones, numbered from `next`. -/
def infer (limits : Limits α) (entities : List (Entity α)) (existing : List (Constraint α))
    (next : Int) : List (Constraint α) :=
  accept (existing.map Key.of) next (suggestions limits entities)

end PlanarSketch.Inference
