import PlanarSketch.Fault
import PlanarSketch.Mark
import PlanarSketch.Scalar

/-!
# Entities

An entity is a shape with an identifier and a mark that says whether a solve may
move it.  A shape carries exactly the parameters of its kind, and an entity
carries the proof that each of them is an ordinary number; `Entity.make` is the
one gate through which parameters from outside come in.

The points of a shape are its anchors.  The ends of an arc are computed from its
center, radius and angles; all other anchors are read off.
-/

namespace PlanarSketch

set_option autoImplicit false

variable {α : Type}

/-- A figure in the plane with its parameters; angles are in radians. -/
inductive Shape (α : Type) where
  | point (x y : α)
  | line (x₁ y₁ x₂ y₂ : α)
  | circle (cx cy r : α)
  | arc (cx cy r start stop : α)
deriving DecidableEq, Repr

namespace Shape

/-- What a shape is. -/
def kind : Shape α → EntityKind
  | point .. => .point
  | line .. => .line
  | circle .. => .circle
  | arc .. => .arc

/-- The parameters of a shape, in the order of their names. -/
def params : Shape α → List α
  | point x y => [x, y]
  | line x₁ y₁ x₂ y₂ => [x₁, y₁, x₂, y₂]
  | circle cx cy r => [cx, cy, r]
  | arc cx cy r start stop => [cx, cy, r, start, stop]

/-- The shape of a kind with given parameters, when their number is right. -/
def ofParams? : EntityKind → List α → Option (Shape α)
  | .point, [x, y] => some (point x y)
  | .line, [x₁, y₁, x₂, y₂] => some (line x₁ y₁ x₂ y₂)
  | .circle, [cx, cy, r] => some (circle cx cy r)
  | .arc, [cx, cy, r, start, stop] => some (arc cx cy r start stop)
  | _, _ => none

/-- A shape has as many parameters as its kind. -/
theorem length_params (s : Shape α) : s.params.length = s.kind.paramCount := by
  cases s <;> rfl

/-- The parameters of a shape, given its kind, determine it. -/
@[simp] theorem ofParams?_params (s : Shape α) : ofParams? s.kind s.params = some s := by
  cases s <;> rfl

variable [Scalar α]

/-- Whether all parameters of a shape are ordinary numbers. -/
def isFinite (s : Shape α) : Bool := s.params.all Scalar.isFinite

/-- The point of a shape at an anchor, when the shape has that anchor. -/
def pointAt? : Shape α → Anchor → Option (α × α)
  | point x y, .own => some (x, y)
  | line x₁ y₁ _ _, .start => some (x₁, y₁)
  | line _ _ x₂ y₂, .stop => some (x₂, y₂)
  | circle cx cy _, .own => some (cx, cy)
  | circle cx cy _, .center => some (cx, cy)
  | arc cx cy _ _ _, .own => some (cx, cy)
  | arc cx cy _ _ _, .center => some (cx, cy)
  | arc cx cy r start _, .start => some (cx + r * Scalar.cos start, cy + r * Scalar.sin start)
  | arc cx cy r _ stop, .stop => some (cx + r * Scalar.cos stop, cy + r * Scalar.sin stop)
  | _, _ => none

/-- Why a shape is degenerate, with lengths and radii up to `eps` counting as zero. -/
def degeneracy? (eps : α) : Shape α → Option (Degeneracy α)
  | point _ _ => none
  | line x₁ y₁ x₂ y₂ => if Scalar.hypot (x₂ - x₁) (y₂ - y₁) ≤ eps then some .flatLine else none
  | circle _ _ r => if r ≤ eps then some (.smallCircle r) else none
  | arc _ _ r start stop =>
    if r ≤ eps then some (.smallArc r)
    else if !Scalar.isFinite (stop - start) then some .endlessArc
    else if Scalar.abs (Scalar.remainder (stop - start) Scalar.turn) ≤ eps then some .closedArc
    else none

end Shape

/-- A shape with an identifier; a fixed one is never moved by a solve. -/
structure Entity (α : Type) [Scalar α] where
  id : Int
  shape : Shape α
  fixed : Mark
  /-- Every parameter is an ordinary number. -/
  finite : shape.isFinite = true

namespace Entity

variable [Scalar α]

/-- What an entity is. -/
def kind (e : Entity α) : EntityKind := e.shape.kind

/-- The parameters of an entity. -/
def params (e : Entity α) : List α := e.shape.params

/-- An entity of a kind with given parameters. -/
def make (id : Int) (kind : EntityKind) (params : List α) (fixed : Mark) :
    Except (Fault α) (Entity α) :=
  match Shape.ofParams? kind params with
  | none => .error (.paramCount kind id params.length)
  | some shape =>
    if finite : shape.isFinite = true then .ok ⟨id, shape, fixed, finite⟩
    else .error (.nonFiniteParams id params)

/-- The same entity with other parameters. -/
def withParams (e : Entity α) (params : List α) : Except (Fault α) (Entity α) :=
  make e.id e.kind params e.fixed

/-- The same entity, marked as one that may or may not be moved. -/
def withFixed (e : Entity α) (fixed : Mark) : Entity α := { e with fixed }

/-- Whether a solve must leave an entity where it is. -/
def isFixed (e : Entity α) : Bool := e.fixed.on

/-- How many parameters of an entity a solve may change. -/
def freedom (e : Entity α) : Nat := if e.isFixed then 0 else e.params.length

/-- The point of an entity that a name selects. -/
def pointAt (e : Entity α) (selector : String) : Except (Fault α) (α × α) :=
  match (e.kind.anchor? selector).bind e.shape.pointAt? with
  | some xy => .ok xy
  | none => .error (.noPoint e.kind (.text selector))

/-- The length of a line. -/
def length (e : Entity α) : Except (Fault α) α :=
  match e.shape with
  | .line x₁ y₁ x₂ y₂ => .ok (Scalar.hypot (x₂ - x₁) (y₂ - y₁))
  | _ => .error (.noLength e.kind e.id)

/-- The radius of a circle or an arc. -/
def radius (e : Entity α) : Except (Fault α) α :=
  match e.shape with
  | .circle _ _ r => .ok r
  | .arc _ _ r _ _ => .ok r
  | _ => .error (.noRadius e.kind e.id)

/-- Why an entity is degenerate, with lengths and radii up to `eps` counting as zero. -/
def degeneracy? (e : Entity α) (eps : α) : Option (Degeneracy α) := e.shape.degeneracy? eps

/-- Whether two entities agree in every field; parameters are compared as numbers. -/
def agrees (a b : Entity α) : Bool :=
  a.id == b.id && a.kind == b.kind && a.params == b.params && a.fixed.agrees b.fixed

/-- An entity takes its own parameters back unchanged. -/
@[simp] theorem make_params (e : Entity α) : make e.id e.kind e.params e.fixed = .ok e := by
  cases e with
  | mk id shape fixed finite => simp [make, Entity.kind, Entity.params, finite]

end Entity

end PlanarSketch
