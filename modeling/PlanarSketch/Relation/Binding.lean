import PlanarSketch.Constraint
import PlanarSketch.Layout
import PlanarSketch.Relation.Residual

/-!
# Binding constraints to sites

Each entity of a constraint fills a slot.  What a slot can be used as depends on
the kind of the entity and on the selector given for it: a point needs a selector
that names one of the entity's anchors, a line needs a line without selector, a
curve needs a circle or an arc, with or without the name of its center.

A constraint with as many slots as its kind takes becomes a relation between the
sites of its slots.  A point and a line, or a line and a curve, may fill their
slots in either order.  The branch of a relation is the one that the geometry at
hand lies on: of two ways for curves to touch, the one with the smaller gap.
-/

namespace PlanarSketch

set_option autoImplicit false

/-- An entity of a constraint, with the name of the point that is meant on it. -/
structure Slot where
  place : Place
  selector : String
deriving DecidableEq, Repr

namespace Slot

/-- What the entity of a slot is. -/
def kind (s : Slot) : EntityKind := s.place.kind

/-- Whether a slot holds a line as a whole. -/
def isLine (s : Slot) : Bool := s.kind == .line && s.selector == ""

/-- The point that a slot stands for. -/
def point? (s : Slot) : Option PointSite :=
  (s.kind.anchor? s.selector).map fun anchor => ⟨s.place.id, s.place.offset, s.kind, anchor⟩

/-- The line that a slot stands for. -/
def line? (s : Slot) : Option LineSite :=
  if s.isLine then some ⟨s.place.id, s.place.offset⟩ else none

/-- The curve that a slot stands for. -/
def curve? (s : Slot) : Option CurveSite :=
  if s.kind.isCurve && (s.selector == "" || s.selector == "center") then
    some ⟨s.place.id, s.place.offset⟩
  else none

end Slot

namespace Constraint

variable {α : Type}

/-- What a slot stands for, or the fault that it does not fit its role. -/
def require {σ : Type} (c : Constraint α) (role : SlotRole) (s : Slot) (site : Option σ) :
    Except (Fault α) σ :=
  match site with
  | some site => .ok site
  | none => .error (.slot c.kind c.identifier s.place.id s.kind s.selector role)

/-- The point in a slot of a constraint. -/
def pointIn (c : Constraint α) (s : Slot) : Except (Fault α) PointSite :=
  c.require .point s s.point?

/-- The line in a slot of a constraint. -/
def lineIn (c : Constraint α) (s : Slot) : Except (Fault α) LineSite :=
  c.require .line s s.line?

/-- The curve in a slot of a constraint. -/
def curveIn (c : Constraint α) (s : Slot) : Except (Fault α) CurveSite :=
  c.require .curve s s.curve?

/-- The two points of an alignment: those of two slots, or the ends of a single line. -/
def pointPair (c : Constraint α) : List Slot → Except (Fault α) (PointSite × PointSite)
  | [s] => do
    let l ← c.lineIn s
    .ok (l.first, l.second)
  | [s, t] => do
    let a ← c.pointIn s
    let b ← c.pointIn t
    .ok (a, b)
  | slots => .error (.arity c.kind c.identifier slots.length)

/-- The two lines in two slots. -/
def linePair (c : Constraint α) (s t : Slot) : Except (Fault α) (LineSite × LineSite) := do
  let l ← c.lineIn s
  let m ← c.lineIn t
  .ok (l, m)

/-- The two curves in two slots. -/
def curvePair (c : Constraint α) (s t : Slot) : Except (Fault α) (CurveSite × CurveSite) := do
  let a ← c.curveIn s
  let b ← c.curveIn t
  .ok (a, b)

variable [Scalar α]

/-- The target value of a constraint; zero when it has none. -/
def target (c : Constraint α) : α := c.value.getD 0

/-- The relation between a point and a line that are a distance apart. -/
def distanceToLine (c : Constraint α) (p : Valuation α) (s t : Slot) :
    Except (Fault α) (Relation α) := do
  let a ← c.pointIn s
  let l ← c.lineIn t
  .ok (.offLine a l (.ofSigned? (l.signedDistance? p (a.xy p))) c.target)

/-- The relation between a line and a curve that touch. -/
def lineTouchingCurve (c : Constraint α) (p : Valuation α) (s t : Slot) :
    Except (Fault α) (Relation α) := do
  let l ← c.lineIn s
  let k ← c.curveIn t
  .ok (.tangentLine l k (.ofSigned? (l.signedDistance? p (k.center p))))

/-- The relation between two curves that touch, from outside or one inside the other. -/
def curvesTouching (p : Valuation α) (a b : CurveSite) : Relation α :=
  let gap := a.centerDistance b p
  let outer := Scalar.abs (gap - (a.radius p + b.radius p))
  let inner := Scalar.abs (gap - Scalar.abs (a.radius p - b.radius p))
  if outer ≤ inner then .tangentOuter a b
  else .tangentInner a b (.ofSigned? (some (a.radius p - b.radius p)))

/-- The relation that a constraint demands of the entities in its slots. -/
def relation (c : Constraint α) (p : Valuation α) (slots : List Slot) :
    Except (Fault α) (Relation α) :=
  match c.kind, slots with
  | .horizontal, slots => do
    let (a, b) ← c.pointPair slots
    .ok (.level a b)
  | .vertical, slots => do
    let (a, b) ← c.pointPair slots
    .ok (.plumb a b)
  | .horizontalDistance, slots => do
    let (a, b) ← c.pointPair slots
    .ok (.rightOf a b c.target)
  | .verticalDistance, slots => do
    let (a, b) ← c.pointPair slots
    .ok (.above a b c.target)
  | .coincident, [s, t] => do
    let a ← c.pointIn s
    let b ← c.pointIn t
    .ok (.coincident a b)
  | .distance, [s, t] =>
    if t.isLine then c.distanceToLine p s t
    else if s.isLine then c.distanceToLine p t s
    else do
      let a ← c.pointIn s
      let b ← c.pointIn t
      .ok (.apart a b c.target)
  | .parallel, [s, t] => do
    let (l, m) ← c.linePair s t
    .ok (.parallel l m)
  | .perpendicular, [s, t] => do
    let (l, m) ← c.linePair s t
    .ok (.perpendicular l m)
  | .angle, [s, t] => do
    let (l, m) ← c.linePair s t
    .ok (.angle l m c.target)
  | .collinear, [s, t] => do
    let (l, m) ← c.linePair s t
    .ok (.collinear l m)
  | .equal, [s, t] =>
    if s.isLine && t.isLine then do
      let (l, m) ← c.linePair s t
      .ok (.sameLength l m)
    else if s.kind.isCurve && t.kind.isCurve then do
      let (a, b) ← c.curvePair s t
      .ok (.sameRadius a b)
    else .error (.incomparable c.identifier s.kind t.kind)
  | .length, [s] => do
    let l ← c.lineIn s
    .ok (.length l c.target)
  | .radius, [s] => do
    let k ← c.curveIn s
    .ok (.radius k c.target)
  | .diameter, [s] => do
    let k ← c.curveIn s
    .ok (.diameter k c.target)
  | .concentric, [s, t] => do
    let (a, b) ← c.curvePair s t
    .ok (.concentric a b)
  | .midpoint, [s, t] => do
    let a ← c.pointIn s
    let l ← c.lineIn t
    .ok (.midpoint a l)
  | .pointOnLine, [s, t] => do
    let a ← c.pointIn s
    let l ← c.lineIn t
    .ok (.onLine a l)
  | .symmetric, [s, t, u] => do
    let a ← c.pointIn s
    let b ← c.pointIn t
    let l ← c.lineIn u
    .ok (.mirror a b l)
  | .tangent, [s, t] =>
    if s.isLine then c.lineTouchingCurve p s t
    else if t.isLine then c.lineTouchingCurve p t s
    else do
      let (a, b) ← c.curvePair s t
      .ok (curvesTouching p a b)
  | _, slots => .error (.arity c.kind c.identifier slots.length)

end Constraint

end PlanarSketch
