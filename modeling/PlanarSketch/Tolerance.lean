import PlanarSketch.Scalar

/-!
# Default limits and tolerances

The numbers a solve, a diagnosis and an inference run with unless they are told
otherwise.
-/

namespace PlanarSketch.Tolerance

set_option autoImplicit false

variable {α : Type} [Scalar α]

/-- The residual norm below which a sketch counts as solved. -/
def solved : α := 1e-9

/-- How many steps a solve may take. -/
def maxIterations : Nat := 50

/-- How many steps a solve may take while a point is dragged. -/
def dragIterations : Nat := 15

/-- The factor by which a step that does not help is shortened. -/
def damping : α := 0.5

/-- The length below which a step is not shortened any further. -/
def minStep : α := 1e-10

/-- The step of a central difference, relative to the parameter. -/
def difference : α := 1e-7

/-- The fraction of the largest singular value up to which others count as zero. -/
def rank : α := 1e-8

/-- The gradient below which a residual counts as minimal, relative to the residual. -/
def gradient : α := 1e-10

/-- The norm up to which a row of the derivative counts as zero. -/
def zeroRow : α := 1e-12

/-- The length or radius up to which geometry counts as degenerate. -/
def geometry : α := 1e-12

/-- The difference up to which two target values count as the same. -/
def sameValue : α := 1e-9

/-- The distance below which two points are inferred to coincide. -/
def inferDistance : α := 0.1

/-- The sine below which a direction is inferred to be aligned. -/
def inferAngle : α := 0.01

end PlanarSketch.Tolerance
