import PlanarSketch.Engine
import PlanarSketch.System

/-!
# Diagnoses

Where a solve has ended, the rank of the derivative tells how much freedom is
left and how many equations are redundant.  A solved sketch is under-constrained
or fully constrained.  For a sketch that is not solved the diagnosis names the
first of these that applies:

* a driving equation that fails and that no free parameter influences;
* nothing may move at all, or the residual is as small as it can get nearby and
  some equation is redundant;
* no step along the chosen direction helped;
* the steps ran out.
-/

namespace PlanarSketch

set_option autoImplicit false

/-- What a solve found out about the constraints of a sketch. -/
inductive Status where
  | fullyConstrained
  | underConstrained
  | overConstrained
  | inconsistent
  | numericallySingular
deriving DecidableEq, Repr

/-- The name of a status. -/
def Status.name : Status → String
  | fullyConstrained => "fully-constrained"
  | underConstrained => "under-constrained"
  | overConstrained => "over-constrained"
  | inconsistent => "inconsistent"
  | numericallySingular => "numerically-singular"

/-- A status with the numbers behind it. -/
structure Diagnosis where
  status : Status
  rank : Nat
  /-- Free parameters that the equations leave undetermined. -/
  remaining : Int
  /-- Equations that follow from others. -/
  redundant : Int
deriving DecidableEq, Repr

/-- The tolerances of a diagnosis. -/
structure DiagnosisLimits (α : Type) where
  tolerance : α
  rankTolerance : α
  gradientTolerance : α
  zeroRow : α

/-- The point at which a solve has ended: its residual and derivative by free parameters. -/
structure FinalState (α : Type) where
  converged : Bool
  /-- Whether the last search found no step that helped. -/
  stalled : Bool
  residual : List (Option α)
  jacobian : List (List (Option α))
  /-- The number of free parameters. -/
  width : Nat

variable {α : Type} [Scalar α]

/-- A matrix of ordinary numbers, unless an entry is missing or no ordinary number. -/
def finiteMatrix? (J : List (List (Option α))) : Option (List (List α)) := J.mapM allFinite?

/-- The derivative of half the squared residual by each parameter. -/
def descentGradient (J : List (List α)) (F : List α) (width : Nat) : List α :=
  (List.range width).map fun j => Scalar.inner (J.map fun row => row.getD j 0) F

namespace Diagnosis

/-- The entries of a residual with the rows they belong to: a single entry belongs to every row,
and every entry to a single row. -/
def paired : List α → List (List α) → List (α × List α)
  | [f], J => J.map fun row => (f, row)
  | F, [row] => F.map fun f => (f, row)
  | F, J => List.zip F J

omit [Scalar α] in
/-- Where there are as many entries as rows, each belongs to the row in its place. -/
theorem paired_eq_zip {F : List α} {J : List (List α)} (h : F.length = J.length) :
    paired F J = List.zip F J := by
  match F, J, h with
  | [], [], _ => rfl
  | [_], [_], _ => rfl
  | _ :: _ :: _, _ :: _ :: _, _ => rfl

/-- Whether some equation fails although no free parameter influences it. -/
def hasDeadRow (limits : DiagnosisLimits α) (J : List (List α)) (F : List α) : Bool :=
  (paired F J).any fun (f, row) =>
    decide (limits.tolerance < Scalar.abs f) && decide (Scalar.length row ≤ limits.zeroRow)

/-- Whether the residual is as small as it can get nearby. -/
def stationary (limits : DiagnosisLimits α) (J : List (List α)) (F : List α) (width : Nat) :
    Bool :=
  let slope := Scalar.length (descentGradient J F width)
  Scalar.isFinite slope &&
    decide (slope ≤ limits.gradientTolerance * Scalar.atLeastOne (Scalar.length F))

/-- The status of a sketch that is not solved. -/
def unsolved (limits : DiagnosisLimits α) (s : FinalState α) (J : List (List α)) (rank : Nat) :
    Status :=
  let finite := allFinite? s.residual
  let dead := s.width != 0 &&
    match finite with
    | some F => hasDeadRow limits J F
    | none => false
  let minimal :=
    match finite with
    | some F => stationary limits J F s.width
    | none => false
  if dead then .numericallySingular
  else if s.width == 0 then .overConstrained
  else if minimal && decide (rank < J.length) then .overConstrained
  else if s.stalled then .numericallySingular
  else .inconsistent

/-- Test that a residual of another length than the derivative has rows is still enough for a
diagnosis.  A solve always ends with one entry for each row. -/
def checkSizes (limits : DiagnosisLimits α) (s : FinalState α) : Except (Fault α) Unit :=
  let rows := s.jacobian.length
  let entries := s.residual.length
  let product := if entries = 0 then .ok () else .error (.productSizes entries rows)
  if s.converged ∨ s.width = 0 ∨ entries = rows then .ok ()
  else
    match allFinite? s.residual, finiteMatrix? s.jacobian with
    | some F, some J =>
      if rows = 0 then product
      else if entries ≠ 1 ∧ rows ≠ 1 then .error (.unpaired entries rows)
      else if hasDeadRow limits J F then .ok ()
      else product
    | _, _ => product

/-- Diagnose the end of a solve; an undefined derivative is a fault. -/
def classify (engine : Engine α) (limits : DiagnosisLimits α) (s : FinalState α) :
    Except (Fault α) Diagnosis :=
  match finiteMatrix? s.jacobian with
  | none => .error .nonFiniteMatrix
  | some J =>
    let rank := engine.rank J s.width limits.rankTolerance
    let status :=
      if s.converged then
        if rank < s.width then .underConstrained else .fullyConstrained
      else unsolved limits s J rank
    .ok ⟨status, rank, (s.width : Int) - (rank : Int), (J.length : Int) - (rank : Int)⟩

end Diagnosis

end PlanarSketch
