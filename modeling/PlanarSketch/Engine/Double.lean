import PlanarSketch.Engine.Rotation
import PlanarSketch.Scalar.Double

/-!
# The engine for doubles

The engine by plane rotations over doubles.  It has a definition of its own so that
its loops are compiled for doubles once.
-/

namespace PlanarSketch.Double

set_option autoImplicit false

/-- The engine that sketches over doubles are solved with. -/
def engine : Engine Float := Rotation.engine

end PlanarSketch.Double
