import PlanarSketch.Scalar

/-!
# Linear engines

A solve leaves two questions of linear algebra to an engine: which shortest step
brings a linear system nearest to a given right-hand side, and how far a matrix
stretches the directions of space.  What a solve does with the answers does not
depend on how the engine finds them, so the engine is an argument everywhere.

An engine sees matrices of ordinary numbers only, as lists of rows.
-/

namespace PlanarSketch

set_option autoImplicit false

/-- Answers to the questions of linear algebra that a solve asks. -/
structure Engine (α : Type) where
  /-- The shortest `x` of `width` components for which `J x` is nearest to `b`.  Directions that
  `J` stretches by no more than `cutoff` times its largest stretch are left alone. -/
  leastSquares : (J : List (List α)) → (b : List α) → (width : Nat) → (cutoff : α) → List α
  /-- The stretches of a matrix with `width` columns, the largest first. -/
  singularValues : (J : List (List α)) → (width : Nat) → List α

namespace Engine

variable {α : Type} [Scalar α]

/-- The number of singular values that exceed a fraction of the largest. -/
def rank (engine : Engine α) (J : List (List α)) (width : Nat) (fraction : α) : Nat :=
  match engine.singularValues J width with
  | [] => 0
  | largest :: rest =>
    if largest == 0 then 0
    else ((largest :: rest).filter fun v => decide (fraction * largest < v)).length

/-- The largest singular value over the smallest; nothing when the smallest is zero. -/
def conditionNumber? (engine : Engine α) (J : List (List α)) (width : Nat) : Option α :=
  match engine.singularValues J width with
  | [] => some 1
  | largest :: rest =>
    let smallest := rest.getLast?.getD largest
    if smallest == 0 then none else some (largest / smallest)

end Engine

end PlanarSketch
