import PlanarSketch.Relation.Residual

/-!
# Closed-form derivatives

Most relations have a derivative in closed form: one sparse gradient for each
equation.  A relation whose derivative is left to differences has none here.
Where a direction is undefined, because two points coincide or a line has shrunk
to a point, the gradient is empty.
-/

namespace PlanarSketch

set_option autoImplicit false

variable {α : Type} [Scalar α]

/-- The gradient of a quantity with given derivatives by the directions of two lines. -/
def LineSite.pairGradient (l m : LineSite) (dax day dbx dby : α) : Gradient α :=
  let (gax, gay) : Gradient α × Gradient α := l.gradients
  let (gbx, gby) : Gradient α × Gradient α := m.gradients
  .combine [(dax, gax), (day, gay), (dbx, gbx), (dby, gby)]

namespace Relation

/-- The gradient of the difference of two coordinates. -/
def difference (first second : Gradient α) : Gradient α := .combine [(1, second), (-1, first)]

/-- The gradients of the equations of a relation, when they are known in closed form. -/
def gradients? (p : Valuation α) : Relation α → Option (List (Gradient α))
  | coincident a b =>
    let (gxa, gya) := a.gradients p
    let (gxb, gyb) := b.gradients p
    some [.combine [(1, gxa), (-1, gxb)], .combine [(1, gya), (-1, gyb)]]
  | level a b | above a b _ => some [difference (a.gradients p).2 (b.gradients p).2]
  | plumb a b | rightOf a b _ => some [difference (a.gradients p).1 (b.gradients p).1]
  | apart a b _ =>
    let ((xa, ya), gxa, gya) := a.xyGradients p
    let ((xb, yb), gxb, gyb) := b.xyGradients p
    let d := Scalar.hypot (xb - xa) (yb - ya)
    if tooShort d then some [[]]
    else
      let ux := (xb - xa) / d
      let uy := (yb - ya) / d
      some [.combine [(ux, gxb), (-ux, gxa), (uy, gyb), (-uy, gya)]]
  | parallel l m =>
    let d := LinePair.of l m p
    if d.degenerate then some [[]]
    else
      let g := d.la * d.lb
      let r := d.cross / g
      some [l.pairGradient m (d.byy / g - r * d.ax / (d.la * d.la))
        (-d.bx / g - r * d.ay / (d.la * d.la)) (-d.ay / g - r * d.bx / (d.lb * d.lb))
        (d.ax / g - r * d.byy / (d.lb * d.lb))]
  | perpendicular l m =>
    let d := LinePair.of l m p
    if d.degenerate then some [[]]
    else
      let g := d.la * d.lb
      let r := d.dot / g
      some [l.pairGradient m (d.bx / g - r * d.ax / (d.la * d.la))
        (d.byy / g - r * d.ay / (d.la * d.la)) (d.ax / g - r * d.bx / (d.lb * d.lb))
        (d.ay / g - r * d.byy / (d.lb * d.lb))]
  | angle l m _ =>
    let d := LinePair.of l m p
    if d.degenerate then some [[]]
    else
      let la2 := d.la * d.la
      let lb2 := d.lb * d.lb
      some [l.pairGradient m (d.ay / la2) (-d.ax / la2) (-d.byy / lb2) (d.bx / lb2)]
  | sameLength l m =>
    let d := LinePair.of l m p
    if d.degenerate then some [[]]
    else
      some [l.pairGradient m (d.ax / d.la) (d.ay / d.la) (-d.bx / d.lb) (-d.byy / d.lb)]
  | sameRadius c d => some [.ofEntries [(c.radiusIndex, 1), (d.radiusIndex, -1)]]
  | length l _ =>
    let (dx, dy) := l.direction p
    let size := Scalar.hypot dx dy
    let (gx, gy) : Gradient α × Gradient α := l.gradients
    if tooShort size then some [[]]
    else some [.combine [(dx / size, gx), (dy / size, gy)]]
  | radius c _ => some [[(c.radiusIndex, 1)]]
  | diameter c _ => some [[(c.radiusIndex, Scalar.two)]]
  | concentric c d =>
    some [.ofEntries [(c.base, 1), (d.base, -1)], .ofEntries [(c.base + 1, 1), (d.base + 1, -1)]]
  | midpoint a l =>
    let (gx, gy) := a.gradients p
    some [.combine [(1, gx), (-0.5, [(l.base, 1), (l.base + 2, 1)])],
      .combine [(1, gy), (-0.5, [(l.base + 1, 1), (l.base + 3, 1)])]]
  | _ => none

/-- Whether the derivative of a relation is known in closed form. -/
def analytic : Relation α → Bool
  | offLine .. | collinear .. | onLine .. | mirror .. | tangentLine .. | tangentOuter ..
  | tangentInner .. => false
  | _ => true

end Relation

end PlanarSketch
