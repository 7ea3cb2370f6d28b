import PlanarSketch.Relation.Site

/-!
# Relations between sites

A relation is what a constraint comes down to once its entities are known: which
points, lines and curves of the parameter vector it ties together, and by which
equations.  There is one constructor for each system of equations, so a relation
carries exactly what its equations need.

Where an equation has several branches, the relation says which one holds: the
side of a line, or the sign of a difference of radii.  The branch is chosen once,
from the geometry a solve starts with.
-/

namespace PlanarSketch

set_option autoImplicit false

/-- One of two branches of an equation. -/
inductive Branch where
  | plus
  | minus
deriving DecidableEq, Repr

namespace Branch

variable {α : Type} [Scalar α]

/-- The factor of a branch. -/
def sign : Branch → α
  | plus => 1
  | minus => -1

/-- The branch that a signed quantity lies on; zero and undefined count as positive. -/
def ofSigned? : Option α → Branch
  | some v => if v < 0 then minus else plus
  | none => plus

end Branch

/-- What a constraint demands of the sites it is bound to. -/
inductive Relation (α : Type) where
  /-- Two points coincide. -/
  | coincident (a b : PointSite)
  /-- Two points are at one height. -/
  | level (a b : PointSite)
  /-- Two points are above one another. -/
  | plumb (a b : PointSite)
  /-- The second point is a signed distance to the right of the first. -/
  | rightOf (a b : PointSite) (target : α)
  /-- The second point is a signed distance above the first. -/
  | above (a b : PointSite) (target : α)
  /-- Two points are a distance apart. -/
  | apart (a b : PointSite) (target : α)
  /-- A point is a distance off a line, on one side of it. -/
  | offLine (a : PointSite) (l : LineSite) (side : Branch) (target : α)
  /-- Two lines are parallel. -/
  | parallel (l m : LineSite)
  /-- Two lines are perpendicular. -/
  | perpendicular (l m : LineSite)
  /-- The counter-clockwise angle from the first line to the second has a value. -/
  | angle (l m : LineSite) (target : α)
  /-- Both ends of the second line lie on the first. -/
  | collinear (l m : LineSite)
  /-- Two lines have one length. -/
  | sameLength (l m : LineSite)
  /-- Two curves have one radius. -/
  | sameRadius (c d : CurveSite)
  /-- A line has a length. -/
  | length (l : LineSite) (target : α)
  /-- A curve has a radius. -/
  | radius (c : CurveSite) (target : α)
  /-- A curve has a diameter. -/
  | diameter (c : CurveSite) (target : α)
  /-- Two curves have one center. -/
  | concentric (c d : CurveSite)
  /-- A point is the middle of a line. -/
  | midpoint (a : PointSite) (l : LineSite)
  /-- A point lies on a line. -/
  | onLine (a : PointSite) (l : LineSite)
  /-- A line is the axis that mirrors two points into each other. -/
  | mirror (a b : PointSite) (l : LineSite)
  /-- A line touches a curve, which lies on one side of it. -/
  | tangentLine (l : LineSite) (c : CurveSite) (side : Branch)
  /-- Two curves touch from outside. -/
  | tangentOuter (c d : CurveSite)
  /-- Two curves touch, one inside the other; the branch says which radius is larger. -/
  | tangentInner (c d : CurveSite) (larger : Branch)
deriving DecidableEq, Repr

namespace Relation

variable {α : Type}

/-- The points that a relation is about. -/
def points : Relation α → List PointSite
  | coincident a b | level a b | plumb a b | rightOf a b _ | above a b _ | apart a b _
  | mirror a b _ => [a, b]
  | offLine a _ _ _ | midpoint a _ | onLine a _ => [a]
  | _ => []

/-- The lines that a relation is about. -/
def lines : Relation α → List LineSite
  | parallel l m | perpendicular l m | angle l m _ | collinear l m | sameLength l m => [l, m]
  | offLine _ l _ _ | length l _ | midpoint _ l | onLine _ l | mirror _ _ l
  | tangentLine l _ _ => [l]
  | _ => []

/-- The curves that a relation is about. -/
def curves : Relation α → List CurveSite
  | sameRadius c d | concentric c d | tangentOuter c d | tangentInner c d _ => [c, d]
  | radius c _ | diameter c _ | tangentLine _ c _ => [c]
  | _ => []

/-- The short name of the sites that a relation ties together. -/
def form : Relation α → String
  | coincident .. | level .. | plumb .. | rightOf .. | above .. | apart .. => "pp"
  | offLine .. | midpoint .. | onLine .. => "pl"
  | parallel .. | perpendicular .. | angle .. | collinear .. | sameLength .. => "ll"
  | sameRadius .. | concentric .. => "cc"
  | length .. => "l"
  | radius .. | diameter .. => "c"
  | mirror .. => "ppl"
  | tangentLine .. => "lc"
  | tangentOuter .. => "cc_ext"
  | tangentInner .. => "cc_int"

/-- The number of equations of a relation. -/
def rows : Relation α → Nat
  | coincident .. | concentric .. | midpoint .. | mirror .. | collinear .. => 2
  | _ => 1

/-- The branch of a relation; the first one when it has no other. -/
def branch : Relation α → Branch
  | offLine _ _ side _ | tangentLine _ _ side | tangentInner _ _ side => side
  | _ => .plus

/-- The entity of a point that is undefined when the entity is degenerate. -/
def watchedPoint (a : PointSite) : List Int :=
  if a.angleIndex?.isSome then [a.entity] else []

/-- The entities whose geometry must not be degenerate for the relation to be defined. -/
def watched (r : Relation α) : List Int :=
  r.points.flatMap watchedPoint ++ r.lines.map LineSite.entity ++
    match r with
    | tangentLine _ c _ => [c.entity]
    | tangentOuter c d | tangentInner c d _ => [c.entity, d.entity]
    | _ => []

end Relation

end PlanarSketch
