import PlanarSketch.Entity.Kind
import PlanarSketch.Relation.Gradient

/-!
# Sites

A relation between shapes is evaluated on the long vector of parameters.  A site
says where in that vector a point, a line or a curve stands, and which entity it
belongs to.  A valuation assigns a value to every position; sites read the
positions of their entity and no others.

A point site reads its coordinates directly, except for the ends of an arc, which
it computes from the center, the radius and one angle.
-/

namespace PlanarSketch

set_option autoImplicit false

/-- A value for every position of the parameter vector. -/
abbrev Valuation (α : Type) := Nat → α

/-- The valuation of a vector; positions behind its end have the value zero. -/
def Valuation.ofArray {α : Type} [Scalar α] (p : Array α) : Valuation α := fun i => p.getD i 0

/-- The valuation with another value at one position. -/
def Valuation.update {α : Type} (p : Valuation α) (i : Nat) (x : α) : Valuation α :=
  fun j => if j = i then x else p j

/-- A point on an entity whose parameters begin at `base`. -/
structure PointSite where
  entity : Int
  base : Nat
  kind : EntityKind
  anchor : Anchor
deriving DecidableEq, Repr

/-- A line whose parameters begin at `base`. -/
structure LineSite where
  entity : Int
  base : Nat
deriving DecidableEq, Repr

/-- A circle or an arc whose parameters begin at `base`. -/
structure CurveSite where
  entity : Int
  base : Nat
deriving DecidableEq, Repr

namespace PointSite

/-- The position of the angle that an end of an arc is found at. -/
def angleIndex? (s : PointSite) : Option Nat :=
  match s.kind, s.anchor with
  | .arc, .start => some (s.base + 3)
  | .arc, .stop => some (s.base + 4)
  | _, _ => none

/-- The position of the first coordinate, for a point that is read directly. -/
def coordinateIndex (s : PointSite) : Nat :=
  match s.kind, s.anchor with
  | .line, .stop => s.base + 2
  | _, _ => s.base

variable {α : Type} [Scalar α]

/-- The coordinates of a point. -/
def xy (s : PointSite) (p : Valuation α) : α × α :=
  match s.angleIndex? with
  | some a =>
    (p s.base + p (s.base + 2) * Scalar.cos (p a),
      p (s.base + 1) + p (s.base + 2) * Scalar.sin (p a))
  | none => (p s.coordinateIndex, p (s.coordinateIndex + 1))

/-- Whether a point is an end of an arc whose angle is beyond all numbers.  Such an angle has
neither sine nor cosine, unlike one that is no number, whose sine is none either. -/
def endless (s : PointSite) (p : Valuation α) : Bool :=
  match s.angleIndex? with
  | some a => p a == p a && !Scalar.isFinite (p a)
  | none => false

/-- The coordinates of a point together with their gradients. -/
def xyGradients (s : PointSite) (p : Valuation α) : (α × α) × Gradient α × Gradient α :=
  match s.angleIndex? with
  | some a =>
    let r := p (s.base + 2)
    let c := Scalar.cos (p a)
    let v := Scalar.sin (p a)
    ((p s.base + r * c, p (s.base + 1) + r * v),
      [(s.base, 1), (s.base + 2, c), (a, -r * v)], [(s.base + 1, 1), (s.base + 2, v), (a, r * c)])
  | none =>
    ((p s.coordinateIndex, p (s.coordinateIndex + 1)),
      [(s.coordinateIndex, 1)], [(s.coordinateIndex + 1, 1)])

/-- The gradients of the two coordinates of a point. -/
def gradients (s : PointSite) (p : Valuation α) : Gradient α × Gradient α := (s.xyGradients p).2

/-- The coordinates are the same with their gradients and without them. -/
theorem xyGradients_eq (s : PointSite) (p : Valuation α) :
    s.xyGradients p = (s.xy p, s.gradients p) := by
  unfold gradients xy xyGradients
  cases s.angleIndex? <;> rfl

end PointSite

namespace LineSite

/-- The first end of a line as a point. -/
def first (l : LineSite) : PointSite := ⟨l.entity, l.base, .line, .start⟩

/-- The second end of a line as a point. -/
def second (l : LineSite) : PointSite := ⟨l.entity, l.base, .line, .stop⟩

variable {α : Type} [Scalar α]

/-- The way from the first end of a line to the second. -/
def direction (l : LineSite) (p : Valuation α) : α × α :=
  (p (l.base + 2) - p l.base, p (l.base + 3) - p (l.base + 1))

/-- The gradients of the two components of the direction. -/
def gradients (l : LineSite) : Gradient α × Gradient α :=
  ([(l.base + 2, 1), (l.base, -1)], [(l.base + 3, 1), (l.base + 1, -1)])

/-- The length of a line. -/
def length (l : LineSite) (p : Valuation α) : α :=
  let (dx, dy) := l.direction p
  Scalar.hypot dx dy

end LineSite

namespace CurveSite

variable {α : Type} [Scalar α]

/-- The center of a curve. -/
def center (c : CurveSite) (p : Valuation α) : α × α := (p c.base, p (c.base + 1))

/-- The position of the radius of a curve. -/
def radiusIndex (c : CurveSite) : Nat := c.base + 2

/-- The radius of a curve. -/
def radius (c : CurveSite) (p : Valuation α) : α := p c.radiusIndex

/-- The distance between the centers of two curves. -/
def centerDistance (c d : CurveSite) (p : Valuation α) : α :=
  Scalar.hypot (p c.base - p d.base) (p (c.base + 1) - p (d.base + 1))

end CurveSite

end PlanarSketch
