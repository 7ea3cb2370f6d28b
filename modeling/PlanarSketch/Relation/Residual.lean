import PlanarSketch.Relation
import PlanarSketch.Tolerance

/-!
# Residuals

The residual of a relation is a list of numbers, one for each of its equations,
that are all zero exactly when the relation holds.  A relation that divides by the
length of a line has no residual where that line has shrunk to a point; this is
the value `none`, which a solve treats as worse than any number.

Parallel and perpendicular lines are measured by the sine and the cosine of the
angle between them, so the residual does not depend on their lengths.  An angle
is measured by the difference to its target, wrapped to within half a turn.
-/

namespace PlanarSketch

set_option autoImplicit false

variable {α : Type} [Scalar α]

/-- Whether a length is too short for a direction. -/
def tooShort (length : α) : Bool := decide (length ≤ Tolerance.geometry)

/-- The distance of a point from a line, positive to the right of the line's direction. -/
def LineSite.signedDistance? (l : LineSite) (p : Valuation α) (xy : α × α) : Option α :=
  let (dx, dy) := l.direction p
  let length := Scalar.hypot dx dy
  if tooShort length then none
  else some (((xy.1 - p l.base) * dy - (xy.2 - p (l.base + 1)) * dx) / length)

/-- The directions of two lines with their lengths. -/
structure LinePair (α : Type) where
  ax : α
  ay : α
  bx : α
  byy : α
  la : α
  lb : α

/-- The directions of two lines with their lengths. -/
def LinePair.of (l m : LineSite) (p : Valuation α) : LinePair α :=
  let (ax, ay) := l.direction p
  let (bx, byy) := m.direction p
  ⟨ax, ay, bx, byy, Scalar.hypot ax ay, Scalar.hypot bx byy⟩

namespace LinePair

/-- Whether one of the lines is too short for a direction. -/
def degenerate (d : LinePair α) : Bool := tooShort d.la || tooShort d.lb

/-- The product of the lengths and the sine of the angle between the lines. -/
def cross (d : LinePair α) : α := d.ax * d.byy - d.ay * d.bx

/-- The product of the lengths and the cosine of the angle between the lines. -/
def dot (d : LinePair α) : α := d.ax * d.bx + d.ay * d.byy

end LinePair

namespace Relation

/-- The residual of a relation at a valuation. -/
def residual (p : Valuation α) : Relation α → Option (List α)
  | coincident a b =>
    let (xa, ya) := a.xy p
    let (xb, yb) := b.xy p
    some [xa - xb, ya - yb]
  | level a b => some [(b.xy p).2 - (a.xy p).2]
  | plumb a b => some [(b.xy p).1 - (a.xy p).1]
  | rightOf a b target => some [(b.xy p).1 - (a.xy p).1 - target]
  | above a b target => some [(b.xy p).2 - (a.xy p).2 - target]
  | apart a b target =>
    let (xa, ya) := a.xy p
    let (xb, yb) := b.xy p
    some [Scalar.hypot (xb - xa) (yb - ya) - target]
  | offLine a l side target =>
    (l.signedDistance? p (a.xy p)).map fun d => [side.sign * d - target]
  | parallel l m =>
    let d := LinePair.of l m p
    if d.degenerate then none else some [d.cross / (d.la * d.lb)]
  | perpendicular l m =>
    let d := LinePair.of l m p
    if d.degenerate then none else some [d.dot / (d.la * d.lb)]
  | angle l m target =>
    let d := LinePair.of l m p
    if d.degenerate then none
    else
      let difference := Scalar.atan2 d.cross d.dot - target
      some [Scalar.atan2 (Scalar.sin difference) (Scalar.cos difference)]
  | collinear l m =>
    let (ax, ay) := l.direction p
    let length := Scalar.hypot ax ay
    if tooShort length then none
    else
      let off (i : Nat) := (ax * (p (i + 1) - p (l.base + 1)) - ay * (p i - p l.base)) / length
      some [off m.base, off (m.base + 2)]
  | sameLength l m =>
    let d := LinePair.of l m p
    some [d.la - d.lb]
  | sameRadius c d => some [c.radius p - d.radius p]
  | length l target => some [l.length p - target]
  | radius c target => some [c.radius p - target]
  | diameter c target => some [Scalar.two * c.radius p - target]
  | concentric c d => some [p c.base - p d.base, p (c.base + 1) - p (d.base + 1)]
  | midpoint a l =>
    let (x, y) := a.xy p
    some [x - 0.5 * (p l.base + p (l.base + 2)), y - 0.5 * (p (l.base + 1) + p (l.base + 3))]
  | onLine a l => (l.signedDistance? p (a.xy p)).map fun d => [d]
  | mirror a b l =>
    let (xa, ya) := a.xy p
    let (xb, yb) := b.xy p
    let (dx, dy) := l.direction p
    let length := Scalar.hypot dx dy
    (l.signedDistance? p (0.5 * (xa + xb), 0.5 * (ya + yb))).map fun middle =>
      [middle, ((xb - xa) * dx + (yb - ya) * dy) / length]
  | tangentLine l c side =>
    (l.signedDistance? p (c.center p)).map fun d => [side.sign * d - c.radius p]
  | tangentOuter c d => some [c.centerDistance d p - (c.radius p + d.radius p)]
  | tangentInner c d larger => some [c.centerDistance d p - larger.sign * (c.radius p - d.radius p)]

/-- The residual as one entry for each equation, all of them missing where it is undefined. -/
def residualRows (r : Relation α) (p : Valuation α) : List (Option α) :=
  match r.residual p with
  | some values => values.map some
  | none => List.replicate r.rows none

end Relation

end PlanarSketch
