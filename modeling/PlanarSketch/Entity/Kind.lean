/-!
# Kinds of entities and the points on them

There are four kinds of entities.  A kind fixes how many parameters an entity
has, and which of its points a constraint can name: the point a point is, the
two ends of a line, the center of a circle or arc, and the two ends of an arc.
A curve's center has two names, the empty one and its own.
-/

namespace PlanarSketch

set_option autoImplicit false

/-- What an entity is. -/
inductive EntityKind where
  | point
  | line
  | circle
  | arc
deriving DecidableEq, Repr

/-- A point on an entity that a constraint can name. -/
inductive Anchor where
  /-- The entity's own point, which has no name. -/
  | own
  | center
  | start
  | stop
deriving DecidableEq, Repr

namespace Anchor

/-- All anchors. -/
def all : List Anchor := [own, center, start, stop]

/-- The name by which a constraint selects an anchor. -/
def name : Anchor → String
  | own => ""
  | center => "center"
  | start => "start"
  | stop => "end"

/-- The anchor of a name. -/
def ofName? (s : String) : Option Anchor := all.find? fun a => a.name == s

end Anchor

namespace EntityKind

/-- All kinds. -/
def all : List EntityKind := [point, line, circle, arc]

/-- The name of a kind. -/
def name : EntityKind → String
  | point => "POINT"
  | line => "LINE"
  | circle => "CIRCLE"
  | arc => "ARC"

/-- The kind of a name. -/
def ofName? (s : String) : Option EntityKind := all.find? fun k => k.name == s

/-- The names of the parameters of a kind, in order. -/
def paramNames : EntityKind → List String
  | point => ["x", "y"]
  | line => ["x1", "y1", "x2", "y2"]
  | circle => ["cx", "cy", "r"]
  | arc => ["cx", "cy", "r", "start_angle", "end_angle"]

/-- How many parameters an entity of a kind has. -/
def paramCount (kind : EntityKind) : Nat := kind.paramNames.length

/-- The points that can be named on an entity of a kind. -/
def anchors : EntityKind → List Anchor
  | point => [.own]
  | line => [.start, .stop]
  | circle => [.own, .center]
  | arc => [.own, .center, .start, .stop]

/-- The point that a name selects on an entity of a kind. -/
def anchor? (kind : EntityKind) (selector : String) : Option Anchor :=
  (Anchor.ofName? selector).filter fun a => kind.anchors.contains a

/-- Whether an entity of a kind has a radius. -/
def isCurve : EntityKind → Bool
  | circle | arc => true
  | point | line => false

end EntityKind

end PlanarSketch
