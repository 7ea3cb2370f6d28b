import PlanarSketch.Fault
import PlanarSketch.Mark
import PlanarSketch.Scalar

/-!
# Constraints

A constraint names entities, and for each of them perhaps a point on it; a
dimensional one has a target value besides.  A driving constraint is solved for,
a reference constraint is only measured.

`Constraint.check` tests what can be tested without knowing the entities: their
number, the number of selectors, and the target value, in this order.
-/

namespace PlanarSketch

set_option autoImplicit false

/-- A demand on entities. -/
structure Constraint (α : Type) where
  identifier : Identifier
  kind : ConstraintKind
  entityIds : List Int
  /-- The target of a dimension: a length, or an angle in radians. -/
  value : Option α
  /-- The names of points on the entities, in the order of the entities. -/
  selectors : List String
  /-- Whether a solve has to meet the constraint. -/
  driving : Mark

namespace Constraint

variable {α : Type}

/-- The number that identifies a constraint. -/
def id (c : Constraint α) : Int := c.identifier.value

/-- Whether a constraint is solved for, and not only measured. -/
def isDriving (c : Constraint α) : Bool := c.driving.on

/-- The name of the point on the entity in a slot; empty when none is given. -/
def selector (c : Constraint α) (slot : Nat) : String := c.selectors.getD slot ""

/-- How many equations a constraint adds. -/
def rows (c : Constraint α) : Nat := c.kind.rows

/-- Whether a constraint has a target value. -/
def dimensional (c : Constraint α) : Bool := c.kind.dimensional

/-- The same constraint with another target value. -/
def withValue (c : Constraint α) (value : Option α) : Constraint α := { c with value }

/-- Whether two constraints of one kind are about the same points of the same entities. -/
def sameTarget (a b : Constraint α) : Bool :=
  a.kind == b.kind && a.entityIds == b.entityIds &&
    (List.range (max a.entityIds.length b.entityIds.length)).all fun i =>
      a.selector i == b.selector i

variable [Scalar α]

/-- Test a target value against the rule of the kind. -/
def checkValue (c : Constraint α) : Except (Fault α) Unit :=
  match c.kind.valueRule, c.value with
  | .none, none => .ok ()
  | .none, some _ => .error (.unwantedValue c.kind c.identifier)
  | _, none => .error (.missingValue c.kind c.identifier)
  | rule, some value =>
    if !Scalar.isFinite value then .error (.missingValue c.kind c.identifier)
    else if rule = .nonNegative ∧ value < 0 then .error (.negativeValue c.kind c.identifier value)
    else if rule = .positive ∧ value ≤ 0 then .error (.nonPositiveValue c.kind c.identifier value)
    else .ok ()

/-- Test the number of entities, then the number of selectors, then the target value. -/
def check (c : Constraint α) : Except (Fault α) Unit :=
  if !c.kind.arities.contains c.entityIds.length then
    .error (.arity c.kind c.identifier c.entityIds.length)
  else if c.entityIds.length < c.selectors.length then
    .error (.selectorCount c.identifier c.selectors.length c.entityIds.length)
  else c.checkValue

/-- Whether two constraints agree in every field; values are compared as numbers. -/
def agrees (a b : Constraint α) : Bool :=
  a.id == b.id && a.kind == b.kind && a.entityIds == b.entityIds && a.value == b.value &&
    a.selectors == b.selectors && a.driving.agrees b.driving

end Constraint

end PlanarSketch
