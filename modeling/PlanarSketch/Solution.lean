import PlanarSketch.Conflict
import PlanarSketch.Diagnosis
import PlanarSketch.Layout

/-!
# Solutions

The result of a solve, whether it has succeeded or not: the parameters it arrived
at with the layout that reads them, how far every constraint is from holding there,
and the diagnosis.  A solution can be asked which constraints fail at a tolerance,
and can be applied to entities.
-/

namespace PlanarSketch

set_option autoImplicit false

variable {α : Type}

/-- Counts about the constraints of a sketch. -/
structure Statistics where
  constraints : Nat
  satisfied : Nat
  geometric : Nat
  dimensional : Nat
  conflicts : Nat
  /-- Free parameters less equations. -/
  freedom : Int
deriving DecidableEq, Repr

/-- What a solve has arrived at. -/
structure Solution (α : Type) where
  success : Bool
  params : Array α
  iterations : Nat
  /-- The norm of the driving residuals; missing when it is undefined or beyond all numbers. -/
  norm : Option α
  /-- How far each constraint is from holding, by identifier. -/
  discrepancies : List (Identifier × Discrepancy α)
  diagnosis : Diagnosis
  /-- The number of driving equations. -/
  equations : Nat
  /-- The number of parameters that may change. -/
  freeParams : Nat
  conflicts : List (Conflict α)
  layout : Layout
  statistics : Statistics
  /-- The tolerance that the solve ran with. -/
  tolerance : α

variable [Scalar α]

/-- Count constraints, and among them those that hold up to a tolerance. -/
def Statistics.count (constraints : List (Constraint α))
    (discrepancies : List (Identifier × Discrepancy α)) (conflicts : Nat) (freedom : Int)
    (tolerance : α) : Statistics where
  constraints := constraints.length
  satisfied := constraints.countP fun c =>
    match Discrepancy.find? c.id discrepancies with
    | some d => d.within tolerance
    | none => false
  geometric := constraints.countP fun c => !c.dimensional
  dimensional := constraints.countP fun c => c.dimensional
  conflicts
  freedom

namespace Solution

/-- The parameters of one entity in a solution. -/
def paramsOf (s : Solution α) (id : Int) : Except (Fault α) (List α) :=
  (s.layout.place id).map (Layout.read s.params)

/-- An entity with the parameters of a solution; one without a place stays as it is. -/
def applyTo (s : Solution α) (e : Entity α) : Except (Fault α) (Entity α) :=
  match s.layout.place? e.id with
  | some place => e.withParams (Layout.read s.params place)
  | none => .ok e

/-- Entities with the parameters of a solution. -/
def apply (s : Solution α) (entities : List (Entity α)) : Except (Fault α) (List (Entity α)) :=
  entities.mapM s.applyTo

/-- The constraints that do not hold up to a tolerance. -/
def unsatisfied (s : Solution α) (tolerance : α) : List Identifier :=
  (s.discrepancies.filter fun (_, d) => !d.within tolerance).map Prod.fst

end Solution

end PlanarSketch
