import PlanarSketch.Relation.Binding
import PlanarSketch.Relation.Slope

/-!
# Blocks

A block is a constraint that has been bound to the parameter vector: the relation
it demands, and the positions of all parameters of its entities.  Binding tests
the constraint on its own, then that its entities are there, then that they fit
their slots, and last that the geometry the relation depends on is not degenerate
to begin with.

The derivative of a block is a list of sparse rows over its positions.  It is in
closed form where the relation has one; otherwise each position is moved a little
both ways and the difference is taken.  An entry is missing where the residual is
undefined at one of the two moved points.
-/

namespace PlanarSketch

set_option autoImplicit false

/-- Entries of a row of a derivative by position; an entry is missing where it is undefined. -/
abbrev SlopeRow (α : Type) := List (Nat × Option α)

/-- A constraint bound to the parameter vector. -/
structure Block (α : Type) where
  constraint : Constraint α
  relation : Relation α
  /-- The positions of all parameters of the entities, in ascending order. -/
  positions : List Nat

namespace Block

variable {α : Type}

/-- The identifier of the constraint of a block. -/
def id (b : Block α) : Int := b.constraint.id

/-- The number of equations of a block. -/
def rows (b : Block α) : Nat := b.relation.rows

variable [Scalar α]

/-- The places of the entities of a constraint. -/
def placesOf (c : Constraint α) (entities : List (Entity α)) (layout : Layout) :
    Except (Fault α) (List Place) :=
  c.entityIds.mapM fun id =>
    match entities.find? (·.id == id), layout.place? id with
    | some _, some place => .ok place
    | _, _ => .error (.missingEntity c.kind c.identifier id)

/-- The slots of a constraint whose entities have given places. -/
def slotsOf (c : Constraint α) (places : List Place) : List Slot :=
  places.zipIdx.map fun (place, i) => ⟨place, c.selector i⟩

/-- Test that the entity of an identifier is not degenerate. -/
def checkShape (c : Constraint α) (entities : List (Entity α)) (id : Int) :
    Except (Fault α) Unit :=
  match (entities.find? (·.id == id)).bind fun e => e.degeneracy? Tolerance.geometry with
  | none => .ok ()
  | some .endlessArc => .error .endlessAngle
  | some reason => .error (.degenerate c.kind c.identifier id reason)

/-- The positions that belong to any of some places, in ascending order. -/
def coveredBy (layout : Layout) (places : List Place) : List Nat :=
  (List.range layout.size).filter fun i =>
    places.any fun place => place.offset ≤ i && i < place.stop

/-- Bind a constraint to the layout of the entities, with the branch that `p` lies on. -/
def compile (entities : List (Entity α)) (layout : Layout) (p : Valuation α)
    (c : Constraint α) : Except (Fault α) (Block α) := do
  c.check
  let places ← placesOf c entities layout
  let relation ← c.relation p (slotsOf c places)
  relation.watched.forM (checkShape c entities)
  .ok ⟨c, relation, coveredBy layout places⟩

/-- The residual of a block, one entry for each equation. -/
def residual (b : Block α) (p : Valuation α) : List (Option α) := b.relation.residualRows p

/-- Whether the residual of a block needs the sine of an angle that is beyond all numbers. -/
def endless (b : Block α) (p : Valuation α) : Bool := b.relation.points.any fun a => a.endless p

/-- How far a position is moved for a difference. -/
def differenceStep (step : α) (p : Valuation α) (i : Nat) : α :=
  step * Scalar.atLeastOne (Scalar.abs (p i))

/-- The slope between two values that were taken twice `h` apart. -/
def slope (h : α) : Option α → Option α → Option α
  | some above, some below => some ((above - below) / (Scalar.two * h))
  | _, _ => none

/-- The derivative of a block by one position, taken as a difference. -/
def differenceColumn (b : Block α) (step : α) (p : Valuation α) (i : Nat) : List (Option α) :=
  let h := differenceStep step p i
  List.zipWith (slope h) (b.residual (p.update i (p i + h))) (b.residual (p.update i (p i - h)))

/-- Whether a difference would be taken where the residual needs the sine of an angle that is beyond
all numbers. -/
def endlessNearby (b : Block α) (step : α) (p : Valuation α) : Bool :=
  b.positions.any fun i =>
    let h := differenceStep step p i
    b.endless (p.update i (p i + h)) || b.endless (p.update i (p i - h))

/-- The derivative of a block by differences. -/
def differences (b : Block α) (step : α) (p : Valuation α) : List (SlopeRow α) :=
  let columns := b.positions.map fun i => (i, b.differenceColumn step p i)
  (List.range b.rows).map fun r =>
    columns.map fun (i, column) => (i, column.getD r none)

/-- The derivative of a block, in closed form where there is one. -/
def derivative (b : Block α) (step : α) (p : Valuation α) : List (SlopeRow α) :=
  match b.relation.gradients? p with
  | some gradients => gradients.map fun g => g.map fun (i, v) => (i, some v)
  | none => b.differences step p

end Block

end PlanarSketch
