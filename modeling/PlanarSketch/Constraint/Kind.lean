/-!
# Kinds of constraints

A kind fixes how many entities a constraint takes, how many equations it adds,
which target value it needs, and whether its derivative is known in closed form.
The kinds with a target value are the dimensional ones.
-/

namespace PlanarSketch

set_option autoImplicit false

/-- What a constraint demands. -/
inductive ConstraintKind where
  | coincident
  | parallel
  | perpendicular
  | tangent
  | equal
  | horizontal
  | vertical
  | concentric
  | midpoint
  | pointOnLine
  | symmetric
  | collinear
  | distance
  | horizontalDistance
  | verticalDistance
  | angle
  | radius
  | diameter
  | length
deriving DecidableEq, Repr

/-- How the derivative of a kind's equations is obtained. -/
inductive Derivative where
  | analytic
  | numeric
  /-- In closed form for some combinations of entities only. -/
  | mixed
deriving DecidableEq, Repr

/-- Which target value a kind takes. -/
inductive ValueRule where
  | none
  | any
  | nonNegative
  | positive
deriving DecidableEq, Repr

/-- The name of a way to obtain a derivative. -/
def Derivative.name : Derivative → String
  | analytic => "ANALYTIC"
  | numeric => "NUMERIC"
  | mixed => "MIXED"

/-- The name of a rule for target values. -/
def ValueRule.name : ValueRule → String
  | none => "NONE"
  | any => "ANY"
  | nonNegative => "NON_NEGATIVE"
  | positive => "POSITIVE"

namespace ConstraintKind

/-- All kinds. -/
def all : List ConstraintKind :=
  [coincident, parallel, perpendicular, tangent, equal, horizontal, vertical, concentric,
    midpoint, pointOnLine, symmetric, collinear, distance, horizontalDistance,
    verticalDistance, angle, radius, diameter, length]

/-- The name of a kind. -/
def name : ConstraintKind → String
  | coincident => "COINCIDENT"
  | parallel => "PARALLEL"
  | perpendicular => "PERPENDICULAR"
  | tangent => "TANGENT"
  | equal => "EQUAL"
  | horizontal => "HORIZONTAL"
  | vertical => "VERTICAL"
  | concentric => "CONCENTRIC"
  | midpoint => "MIDPOINT"
  | pointOnLine => "POINT_ON_LINE"
  | symmetric => "SYMMETRIC"
  | collinear => "COLLINEAR"
  | distance => "DISTANCE"
  | horizontalDistance => "HORIZONTAL_DISTANCE"
  | verticalDistance => "VERTICAL_DISTANCE"
  | angle => "ANGLE"
  | radius => "RADIUS"
  | diameter => "DIAMETER"
  | length => "LENGTH"

/-- The kind of a name. -/
def ofName? (s : String) : Option ConstraintKind := all.find? fun k => k.name == s

/-- The numbers of entities that a constraint of a kind can take. -/
def arities : ConstraintKind → List Nat
  | horizontal | vertical | horizontalDistance | verticalDistance => [1, 2]
  | symmetric => [3]
  | radius | diameter | length => [1]
  | _ => [2]

/-- The number of equations that a constraint of a kind adds. -/
def rows : ConstraintKind → Nat
  | coincident | concentric | midpoint | symmetric | collinear => 2
  | _ => 1

/-- How the derivative of a kind's equations is obtained. -/
def derivative : ConstraintKind → Derivative
  | tangent | pointOnLine | symmetric | collinear => .numeric
  | distance => .mixed
  | _ => .analytic

/-- Which target value a kind takes. -/
def valueRule : ConstraintKind → ValueRule
  | distance | length => .nonNegative
  | horizontalDistance | verticalDistance | angle => .any
  | radius | diameter => .positive
  | _ => .none

/-- Whether a kind takes a target value. -/
def dimensional (kind : ConstraintKind) : Bool := kind.valueRule != .none

end ConstraintKind

end PlanarSketch
