import PlanarSketch.Constraint.Record
import PlanarSketch.Scalar.Double
import PlanarSketch.Tolerance

/-!
# Catalogues

What this library knows by heart, as documents for readers outside: the default
tolerances, the kinds of entities with their parameters and points, and what each
kind of constraint takes and adds.
-/

namespace PlanarSketch.Catalogue

set_option autoImplicit false

/-- The default limits and tolerances by name. -/
def tolerances : Document :=
  let real (x : Float) : Document := .real x
  .record
    [("SOLVER_TOLERANCE", real Tolerance.solved),
      ("SOLVER_MAX_ITERATIONS", .whole Tolerance.maxIterations),
      ("SOLVER_DAMPING", real Tolerance.damping), ("SOLVER_MIN_STEP", real Tolerance.minStep),
      ("DRAG_MAX_ITERATIONS", .whole Tolerance.dragIterations),
      ("JACOBIAN_FD_STEP", real Tolerance.difference),
      ("JACOBIAN_RANK_TOLERANCE", real Tolerance.rank),
      ("JACOBIAN_GRADIENT_TOLERANCE", real Tolerance.gradient),
      ("JACOBIAN_ZERO_ROW", real Tolerance.zeroRow),
      ("GEOMETRY_EPSILON", real Tolerance.geometry),
      ("CONFLICT_VALUE_TOLERANCE", real Tolerance.sameValue),
      ("INFERENCE_DISTANCE", real Tolerance.inferDistance),
      ("INFERENCE_ANGLE", real Tolerance.inferAngle)]

/-- What is known of a kind of entities. -/
def entityKind (kind : EntityKind) : Document :=
  .record
    [("params", .list (kind.paramNames.map .text)), ("count", .whole kind.paramCount),
      ("selectors", .list (kind.anchors.map fun a => .text a.name))]

/-- All kinds of entities by name. -/
def entityKinds : Document :=
  .record (EntityKind.all.map fun kind => (kind.name, entityKind kind))

/-- What is known of a kind of constraints. -/
def constraintKind (kind : ConstraintKind) : Document :=
  .record
    [("arities", .list (kind.arities.map fun n => .whole (Int.ofNat n))),
      ("rows", .whole kind.rows), ("derivative", .text kind.derivative.name),
      ("value_rule", .text kind.valueRule.name),
      ("dimensional", .truth kind.dimensional)]

end PlanarSketch.Catalogue
