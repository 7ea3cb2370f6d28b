import PlanarSketch.Diagnosis
import PlanarSketch.Options

/-!
# Descents

A descent walks from the initial parameters towards smaller residuals.  Each step
follows the shortest direction that would solve the linearised equations.  The
step is taken in full if that lowers the residual norm, and is otherwise shortened
by the damping factor, again and again, until it helps or has become too short.

A descent keeps every iterate that it accepted, so what happened on the way can be
told afterwards.  It ends in one of four ways: the residual norm is below the
tolerance, the steps have run out, no step helps, or the way on cannot be computed.

An undefined residual has no norm.  Every norm is less than none, and nothing is
less than a norm that is missing; so an undefined point is never walked into.

Nothing bounds how often a step is shortened but that it gets too short in the end.
A search is given up when a step is not shorter than the one before it, which the
countdown of the number type tells.
-/

namespace PlanarSketch

set_option autoImplicit false

variable {α : Type}

/-- A point of a descent: parameters, residual, and the norm of the residual. -/
structure Iterate (α : Type) where
  params : Array α
  residual : List (Option α)
  /-- The norm of the residual; missing when it is undefined or beyond all numbers. -/
  norm : Option α

/-- A step that was taken: the fraction of the full step, and where it led. -/
structure Step (α : Type) where
  fraction : α
  reached : Iterate α

/-- How a descent ends. -/
inductive Ending (α : Type) where
  /-- The residual norm is below the tolerance. -/
  | converged
  /-- The steps have run out. -/
  | exhausted
  /-- No step along the last direction lowers the residual norm. -/
  | stalled
  /-- The last direction cannot be computed, or nothing can be evaluated along it. -/
  | failed (cause : Fault α)

/-- A walk towards smaller residuals. -/
structure Descent (α : Type) where
  start : Iterate α
  steps : List (Step α)
  ending : Ending α

/-- What the search for a helpful step has found. -/
inductive Search (α : Type) where
  /-- A step that lowers the residual norm. -/
  | found (step : Step α)
  /-- Only steps that are too short are left. -/
  | tooShort
  /-- The search cannot go on. -/
  | failed (cause : Fault α)

namespace Descent

/-- The point at which a descent has ended. -/
def final (d : Descent α) : Iterate α := (d.steps.getLast?.map Step.reached).getD d.start

/-- The number of steps that were taken. -/
def iterations (d : Descent α) : Nat := d.steps.length

end Descent

variable [Scalar α]

/-- The Euclidean norm of a residual, unless it is undefined or beyond all numbers. -/
def residualNorm? (residual : List (Option α)) : Option α :=
  (allFinite? residual).bind fun values =>
    let norm := Scalar.length values
    if Scalar.isFinite norm then some norm else none

/-- Whether a norm is there and less than a bound. -/
def normBelow (norm : Option α) (bound : α) : Bool :=
  match norm with
  | some n => n < bound
  | none => false

/-- Whether the first norm improves on the second. -/
def improves (new old : Option α) : Bool :=
  match old with
  | some bound => normBelow new bound
  | none => new.isSome

/-- The point at given parameters. -/
def System.iterate (s : System α) (params : Array α) : Iterate α :=
  let residual := s.residuals (.ofArray params)
  ⟨params, residual, residualNorm? residual⟩

/-- Parameters with a fraction of a step added at the free positions. -/
def moved (params : Array α) (free : List Nat) (fraction : α) (step : List α) : Array α :=
  (List.zip free step).foldl
    (fun p (i, d) => p.setIfInBounds i (p.getD i 0 + fraction * d)) params

/-- The countdown of the fractions of a step, which ends when they are too short. -/
def Options.countdown (o : Options α) (fraction : α) : Nat :=
  Scalar.countdown o.damping o.minStep fraction

namespace Descent

/-- Shorten a step until it lowers the residual norm or is too short.  The search fails when the
step does not get any shorter. -/
def search (s : System α) (free : List Nat) (o : Options α) (it : Iterate α) (step : List α)
    (fraction : α) : Search α :=
  if o.minStep ≤ fraction then
    let params := moved it.params free fraction step
    match s.checkResiduals (.ofArray params) with
    | .error cause => .failed cause
    | .ok () =>
      let reached := s.iterate params
      if improves reached.norm it.norm then .found ⟨fraction, reached⟩
      else
        let shorter := fraction * o.damping
        if o.countdown shorter < o.countdown fraction then search s free o it step shorter
        else .failed .endlessSearch
  else .tooShort
termination_by o.countdown fraction

/-- The shortest step that would solve the linearised equations. -/
def direction (engine : Engine α) (s : System α) (free : List Nat) (o : Options α)
    (it : Iterate α) : Except (Fault α) (List α) :=
  match s.checkJacobian (.ofArray it.params) with
  | .error cause => .error cause
  | .ok () =>
    if s.rows = 0 ∨ free = [] then .ok (List.replicate free.length 0)
    else
      match finiteMatrix? (s.jacobian (.ofArray it.params) free), allFinite? it.residual with
      | some J, some F =>
        .ok (engine.leastSquares J (F.map fun f => -f) free.length o.rankTolerance)
      | _, _ => .error .nonFiniteMatrix

/-- Take steps from a point until the descent ends. -/
def walk (engine : Engine α) (s : System α) (free : List Nat) (o : Options α) :
    Nat → Iterate α → List (Step α) × Ending α
  | budget, it =>
    if normBelow it.norm o.tolerance then ([], .converged)
    else
      match budget with
      | 0 => ([], .exhausted)
      | budget + 1 =>
        match direction engine s free o it with
        | .error cause => ([], .failed cause)
        | .ok step =>
          match search s free o it step 1 with
          | .found taken =>
            let (steps, ending) := walk engine s free o budget taken.reached
            (taken :: steps, ending)
          | .tooShort => ([], .stalled)
          | .failed cause => ([], .failed cause)

/-- The descent from given parameters. -/
def run (engine : Engine α) (s : System α) (free : List Nat) (o : Options α)
    (params : Array α) : Descent α :=
  let start := s.iterate params
  let (steps, ending) := walk engine s free o o.maxIterations start
  ⟨start, steps, ending⟩

end Descent

end PlanarSketch
