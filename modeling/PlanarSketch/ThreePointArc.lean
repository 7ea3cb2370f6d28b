import PlanarSketch.Entity
import PlanarSketch.Tolerance

/-!
# Arcs through three points

Three points that are not on one line determine a circle, and the middle one
determines which way round the arc runs from the first to the last.  The angle of
the end is given so that the way from start to end passes the middle point: larger
than the angle of the start when the arc runs counter-clockwise, else smaller.
-/

namespace PlanarSketch

set_option autoImplicit false

variable {α : Type} [Scalar α]

/-- The arc from `(sx, sy)` through `(mx, my)` to `(ex, ey)`. -/
def Shape.arcThrough (sx sy mx my ex ey : α) : Except (Fault α) (Shape α) :=
  let d := Scalar.two * (sx * (my - ey) + mx * (ey - sy) + ex * (sy - my))
  if Scalar.abs d < Tolerance.geometry then .error .collinearArc
  else
    let s2 := sx * sx + sy * sy
    let m2 := mx * mx + my * my
    let e2 := ex * ex + ey * ey
    let cx := (s2 * (my - ey) + m2 * (ey - sy) + e2 * (sy - my)) / d
    let cy := (s2 * (ex - mx) + m2 * (sx - ex) + e2 * (mx - sx)) / d
    let start := Scalar.atan2 (sy - cy) (sx - cx)
    let middle := Scalar.atan2 (my - cy) (mx - cx)
    let stop := Scalar.atan2 (ey - cy) (ex - cx)
    let sweep := Scalar.modulo (stop - start) Scalar.turn
    let counterClockwise := decide (Scalar.modulo (middle - start) Scalar.turn ≤ sweep)
    .ok (.arc cx cy (Scalar.hypot (sx - cx) (sy - cy)) start
      (if counterClockwise then start + sweep else start - (Scalar.turn - sweep)))

end PlanarSketch
