import PlanarSketch.Fault
import PlanarSketch.Tolerance

/-!
# Options of a solve

The limits and tolerances that a solve runs with.  Options come into being by
changes to other options, and every change is tested: the number of steps is a
natural number, the damping factor lies strictly between zero and one, and all
tolerances and steps are positive.  The tests are made in this order, and the
first that fails is the fault.
-/

namespace PlanarSketch

set_option autoImplicit false

/-- The limits and tolerances of a solve. -/
structure Options (α : Type) where
  maxIterations : Nat
  /-- The residual norm below which the sketch counts as solved. -/
  tolerance : α
  /-- The factor by which a step that does not help is shortened. -/
  damping : α
  /-- The length below which a step is not shortened any further. -/
  minStep : α
  rankTolerance : α
  /-- The relative step of differences. -/
  differenceStep : α
  gradientTolerance : α
deriving DecidableEq, Repr

/-- New values for some options. -/
structure OptionChanges (α : Type) where
  maxIterations : Option (GivenCount α) := none
  tolerance : Option α := none
  damping : Option α := none
  minStep : Option α := none
  rankTolerance : Option α := none
  differenceStep : Option α := none
  gradientTolerance : Option α := none

namespace GivenCount

variable {α : Type}

/-- The natural number that was given, if it was one. -/
def natural (given : GivenCount α) : Except (Fault α) Nat :=
  match given with
  | whole n => if n < 0 then .error (.iterationLimit given) else .ok n.toNat
  | real _ (some n) => if n < 0 then .error (.iterationLimit given) else .ok n.toNat
  | real _ none => .error (.iterationLimit given)
  | spelled _ => .error (.iterationLimit given)
  | unusable cause => .error (.document cause)

end GivenCount

namespace Options

variable {α : Type} [Scalar α]

/-- The options of a solve that is told nothing. -/
def standard : Options α where
  maxIterations := Tolerance.maxIterations
  tolerance := Tolerance.solved
  damping := Tolerance.damping
  minStep := Tolerance.minStep
  rankTolerance := Tolerance.rank
  differenceStep := Tolerance.difference
  gradientTolerance := Tolerance.gradient

/-- Test that an option is positive. -/
def positive (option : PositiveOption) (value : α) : Except (Fault α) Unit :=
  if 0 < value then .ok () else .error (.nonPositiveOption option value)

/-- Test the damping factor, then the options that must be positive. -/
def check (o : Options α) : Except (Fault α) Unit := do
  if 0 < o.damping ∧ o.damping < 1 then
    positive .tolerance o.tolerance
    positive .minStep o.minStep
    positive .rankTolerance o.rankTolerance
    positive .differenceStep o.differenceStep
    positive .gradientTolerance o.gradientTolerance
  else .error (.dampingFactor o.damping)

/-- Options with some changes, all of them tested. -/
def revise (o : Options α) (changes : OptionChanges α) : Except (Fault α) (Options α) := do
  let maxIterations ← (changes.maxIterations.map GivenCount.natural).getD (.ok o.maxIterations)
  let revised : Options α :=
    { maxIterations
      tolerance := changes.tolerance.getD o.tolerance
      damping := changes.damping.getD o.damping
      minStep := changes.minStep.getD o.minStep
      rankTolerance := changes.rankTolerance.getD o.rankTolerance
      differenceStep := changes.differenceStep.getD o.differenceStep
      gradientTolerance := changes.gradientTolerance.getD o.gradientTolerance }
  revised.check
  .ok revised

end Options

end PlanarSketch
