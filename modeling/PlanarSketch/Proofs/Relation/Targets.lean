import PlanarSketch.Proofs.Relation.Sites
import PlanarSketch.Proofs.Relation.Zeros

/-!
# Targets of relations

The target value of a dimension enters its relation as one number, and nothing else does that
comes from the constraint.  So constraints of one kind that are bound to the same slots at the
same geometry become the same relation but for the target (`Constraint.Binds.withTarget`),
on the same branch.

What is measured is one number at each vector of parameters, so such relations hold together only
when their targets are equal (`Constraint.Binds.target_unique`).  Angles are an exception, since
they are measured up to full turns.  Lines are never parallel and perpendicular at once
(`Edge.not_perpendicular_of_parallel`).
-/

namespace PlanarSketch

set_option autoImplicit false

variable {α : Type}

/-- The same relation with another target value, where it has one. -/
def Relation.withTarget (target : α) : Relation α → Relation α
  | rightOf a b _ => rightOf a b target
  | above a b _ => above a b target
  | apart a b _ => apart a b target
  | offLine a l side _ => offLine a l side target
  | angle l m _ => angle l m target
  | length l _ => length l target
  | radius c _ => radius c target
  | diameter c _ => diameter c target
  | r => r

namespace Constraint

variable [Scalar α] {a b c : Constraint α} {p : Valuation α} {slots : List Slot}
variable {r s : Relation α}

/-- Slots are bound to one relation only. -/
theorem Binds.unique (first : c.Binds p slots r) (second : c.Binds p slots s) : r = s :=
  Except.ok.inj ((relation_of_binds first).symm.trans (relation_of_binds second))

theorem withTarget_curvesTouching (target : α) (p : Valuation α) (k m : CurveSite) :
    (curvesTouching p k m).withTarget target = curvesTouching p k m := by
  unfold curvesTouching
  dsimp only
  split
  · rfl
  · rfl

/-- **Constraints of one kind are bound to the same relation**, each with a target of its own. -/
theorem Binds.withTarget (bound : a.Binds p slots r) (kinds : b.kind = a.kind) :
    b.Binds p slots (r.withTarget b.target) := by
  cases bound with
  | level kind pair => exact .level (kinds.trans kind) pair
  | plumb kind pair => exact .plumb (kinds.trans kind) pair
  | rightOf kind pair => exact .rightOf (kinds.trans kind) pair
  | above kind pair => exact .above (kinds.trans kind) pair
  | coincident kind first second => exact .coincident (kinds.trans kind) first second
  | apart kind first second => exact .apart (kinds.trans kind) first second
  | offLine kind order point line => exact .offLine (kinds.trans kind) order point line
  | parallel kind first second => exact .parallel (kinds.trans kind) first second
  | perpendicular kind first second => exact .perpendicular (kinds.trans kind) first second
  | angle kind first second => exact .angle (kinds.trans kind) first second
  | collinear kind first second => exact .collinear (kinds.trans kind) first second
  | sameLength kind first second => exact .sameLength (kinds.trans kind) first second
  | sameRadius kind first second => exact .sameRadius (kinds.trans kind) first second
  | length kind line => exact .length (kinds.trans kind) line
  | radius kind curve => exact .radius (kinds.trans kind) curve
  | diameter kind curve => exact .diameter (kinds.trans kind) curve
  | concentric kind first second => exact .concentric (kinds.trans kind) first second
  | midpoint kind point line => exact .midpoint (kinds.trans kind) point line
  | onLine kind point line => exact .onLine (kinds.trans kind) point line
  | mirror kind first second line => exact .mirror (kinds.trans kind) first second line
  | tangentLine kind order line curve => exact .tangentLine (kinds.trans kind) order line curve
  | touching kind first second =>
      rw [withTarget_curvesTouching]
      exact .touching (kinds.trans kind) first second

end Constraint

/-! ## What can hold together -/

/-- Lines that are parallel are not perpendicular. -/
theorem Edge.not_perpendicular_of_parallel {e f : Edge} (long : 0 < e.length)
    (parallel : e.line.Parallel f.line) : ¬e.line.direction.IsOrtho f.line.direction := by
  rw [← parallel.direction_eq, Submodule.isOrtho_self, direction_line,
    Submodule.span_singleton_eq_bot]
  exact direction_ne_zero long

/-- **What is measured has one value**: dimensions of one kind between the same slots hold together
only with one target, unless they are angles. -/
theorem Constraint.Binds.target_unique {a b : Constraint ℝ} {start p : Valuation ℝ}
    {slots : List Slot} {r s : Relation ℝ} (first : a.Binds start slots r)
    (second : b.Binds start slots s) (kinds : b.kind = a.kind) (dimension : a.dimensional = true)
    (plain : a.kind ≠ .angle) (holds : r.Holds p) (held : s.Holds p) : a.target = b.target := by
  obtain rfl : s = r.withTarget b.target := second.unique (first.withTarget kinds)
  cases first with
  | rightOf | above | apart | offLine | length | radius | diameter => exact holds.symm.trans held
  | angle kind => exact absurd kind plain
  | _ kind =>
      rw [dimensional, kind] at dimension
      cases dimension

end PlanarSketch
