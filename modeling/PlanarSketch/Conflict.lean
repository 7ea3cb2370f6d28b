import PlanarSketch.Constraint
import PlanarSketch.Entity

/-!
# Conflicts between constraints

Some contradictions show in the constraints alone, before any geometry is
looked at: more equations than parameters that may change, two lines that shall
be both parallel and perpendicular, and two dimensions of one kind on one target
with different values.  Reference constraints take no part.

The first is only a warning, since equations may depend on one another.
-/

namespace PlanarSketch

set_option autoImplicit false

variable {α : Type}

/-- Why some constraints cannot hold together. -/
inductive ConflictCause (α : Type) where
  /-- There are more equations than free parameters; the balance is negative. -/
  | overConstrained (balance : Int)
  /-- Two lines shall be parallel and perpendicular at once. -/
  | parallelPerpendicular
  /-- One dimension shall have two values. -/
  | values (kind : ConstraintKind) (first second : α)
deriving DecidableEq, Repr

/-- Constraints that cannot hold together. -/
structure Conflict (α : Type) where
  constraints : List Identifier
  cause : ConflictCause α
deriving DecidableEq, Repr

/-- How serious a conflict is. -/
inductive Severity where
  | warning
  | error
deriving DecidableEq, Repr

/-- The name of a degree of seriousness. -/
def Severity.name : Severity → String
  | warning => "warning"
  | error => "error"

namespace ConflictCause

/-- How serious a conflict of this cause is. -/
def severity : ConflictCause α → Severity
  | overConstrained _ => .warning
  | _ => .error

/-- What can be done about a conflict of this cause. -/
def suggestions : ConflictCause α → List String
  | overConstrained _ =>
    ["Remove redundant constraints",
      "Convert some dimensional constraints to reference dimensions"]
  | parallelPerpendicular => ["Remove one of the conflicting constraints"]
  | values .. => ["Remove one of the dimensions", "Make one of them a reference dimension"]

end ConflictCause

/-- The number of equations that the driving constraints add. -/
def equationCount (constraints : List (Constraint α)) : Nat :=
  (constraints.filter Constraint.isDriving).foldr (fun c n => c.rows + n) 0

variable [Scalar α]

/-- The number of parameters that a solve may change. -/
def freedomCount (entities : List (Entity α)) : Nat := entities.foldr (fun e n => e.freedom + n) 0

/-- Free parameters less equations; negative when there are more equations. -/
def freedomBalance (entities : List (Entity α)) (constraints : List (Constraint α)) : Int :=
  (freedomCount entities : Int) - (equationCount constraints : Int)

namespace Conflict

/-- Whether two constraints name the same entities, in any order. -/
def sameEntities (a b : Constraint α) : Bool := a.entityIds.isPerm b.entityIds

/-- Whether one of two constraints demands parallel and the other perpendicular lines. -/
def angular (a b : Constraint α) : Bool :=
  (a.kind == .parallel && b.kind == .perpendicular) ||
    (a.kind == .perpendicular && b.kind == .parallel)

/-- The conflict between two driving constraints, when there is one. -/
def between? (tolerance : α) (a b : Constraint α) : Option (Conflict α) :=
  let both := [a.identifier, b.identifier]
  if angular a b && sameEntities a b then some ⟨both, .parallelPerpendicular⟩
  else if a.dimensional && a.sameTarget b then
    match a.value, b.value with
    | some v, some w =>
      if tolerance < Scalar.abs (v - w) then some ⟨both, .values a.kind v w⟩ else none
    | _, _ => none
  else none

/-- The conflicts between constraints and those after them. -/
def pairwise (tolerance : α) : List (Constraint α) → List (Conflict α)
  | [] => []
  | a :: rest => rest.filterMap (between? tolerance a) ++ pairwise tolerance rest

/-- Whether two constraints would be compared by a dimension that one of them lacks. -/
def lacksDimension (a b : Constraint α) : Bool :=
  !(angular a b && sameEntities a b) && a.dimensional && a.sameTarget b &&
    (a.value.isNone || b.value.isNone)

/-- Whether every two driving constraints that would be compared have their dimensions; those
that have been checked always do. -/
def comparable (constraints : List (Constraint α)) : Bool :=
  go (constraints.filter Constraint.isDriving)
where
  /-- The same test, for driving constraints. -/
  go : List (Constraint α) → Bool
    | [] => true
    | a :: rest => !rest.any (lacksDimension a) && go rest

/-- All conflicts that show in the constraints alone. -/
def find (entities : List (Entity α)) (constraints : List (Constraint α)) (tolerance : α) :
    List (Conflict α) :=
  let driving := constraints.filter Constraint.isDriving
  let balance := freedomBalance entities driving
  (if balance < 0 then [⟨[], .overConstrained balance⟩] else []) ++ pairwise tolerance driving

end Conflict

end PlanarSketch
