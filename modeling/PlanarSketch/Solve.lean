import PlanarSketch.Descent
import PlanarSketch.Journal
import PlanarSketch.Solution

/-!
# Solving constraints

A solve lays out the entities, binds every constraint to the layout, walks down
from the current geometry over the driving constraints, and diagnoses the point it
arrives at.  All constraints, reference ones too, are measured there.

Faults come from constraints that make no sense on the given entities.  That the
walk does not arrive is no fault: it shows in the diagnosis.
-/

namespace PlanarSketch

set_option autoImplicit false

variable {α : Type} [Scalar α]

/-- Entities laid out and constraints bound to them. -/
structure Problem (α : Type) where
  layout : Layout
  /-- The parameters to start from. -/
  params : Array α
  /-- One block for each constraint, in order. -/
  blocks : List (Block α)
  /-- The positions that may change. -/
  free : List Nat

/-- Test that no identifier of a constraint occurs twice. -/
def checkDistinct (constraints : List (Constraint α)) : Except (Fault α) Unit :=
  go [] constraints
where
  /-- The same test, with identifiers that are already taken. -/
  go (seen : List Int) : List (Constraint α) → Except (Fault α) Unit
    | [] => .ok ()
    | c :: cs =>
      if seen.contains c.id then .error (.duplicateConstraint c.identifier)
      else go (c.id :: seen) cs

namespace Problem

/-- Lay out entities and bind constraints to them. -/
def prepare (entities : List (Entity α)) (constraints : List (Constraint α)) :
    Except (Fault α) (Problem α) := do
  let layout ← Layout.ofEntities entities
  let params ← layout.flatten entities
  checkDistinct constraints
  let blocks ← constraints.mapM (Block.compile entities layout (.ofArray params))
  let mask ← layout.freeMask entities
  .ok ⟨layout, params, blocks, freePositions mask⟩

/-- The driving equations of a problem. -/
def driving (q : Problem α) (step : α) : System α :=
  ⟨q.blocks.filter fun b => b.constraint.isDriving, q.layout.size, step⟩

/-- All equations of a problem. -/
def reporting (q : Problem α) (step : α) : System α := ⟨q.blocks, q.layout.size, step⟩

end Problem

/-- The events of the steps of a descent. -/
def Descent.events (d : Descent α) : List (Event α) :=
  d.steps.zipIdx.map fun (s, i) => .step (i + 1) s.reached.norm s.fraction

/-- The event that closes a solve. -/
def Solution.event (s : Solution α) : Event α :=
  if s.success then
    .solved s.statistics.constraints s.iterations s.diagnosis.status s.norm s.diagnosis.remaining
  else .unsolved s.iterations s.diagnosis.status s.norm

/-- The limits that a diagnosis takes from the options of a solve. -/
def Options.diagnosisLimits (o : Options α) : DiagnosisLimits α :=
  ⟨o.tolerance, o.rankTolerance, o.gradientTolerance, Tolerance.zeroRow⟩

/-- Whether a descent has stalled; one that failed does not tell. -/
def Descent.hasStalled (d : Descent α) : Except (Fault α) Bool :=
  match d.ending with
  | .failed cause => .error cause
  | .stalled => .ok true
  | .converged | .exhausted => .ok false

/-- The solution at the end of a descent. -/
def Problem.conclude (q : Problem α) (engine : Engine α) (o : Options α)
    (entities : List (Entity α)) (constraints : List (Constraint α))
    (conflicts : List (Conflict α)) (d : Descent α) : Except (Fault α) (Solution α) := do
  let stalled ← d.hasStalled
  let system := q.driving o.differenceStep
  let reached := d.final
  let p : Valuation α := .ofArray reached.params
  let success := normBelow reached.norm o.tolerance
  system.checkJacobian p
  let diagnosis ← Diagnosis.classify engine o.diagnosisLimits
    ⟨success, stalled, reached.residual, system.jacobian p q.free, q.free.length⟩
  let all := q.reporting o.differenceStep
  all.checkResiduals p
  let discrepancies := all.discrepancies p
  let freedom := freedomBalance entities constraints
  .ok
    { success
      params := reached.params
      iterations := d.iterations
      norm := reached.norm
      discrepancies
      diagnosis
      equations := system.rows
      freeParams := q.free.length
      conflicts
      layout := q.layout
      statistics :=
        .count constraints discrepancies conflicts.length freedom o.tolerance
      tolerance := o.tolerance }

/-- Solve constraints over entities, from the current geometry. -/
def solve (engine : Engine α) (o : Options α) (entities : List (Entity α))
    (constraints : List (Constraint α)) : Traced α (Solution α) :=
  match Problem.prepare entities constraints with
  | .error fault => .quiet (.error fault)
  | .ok q =>
    let conflicts := Conflict.find entities constraints Tolerance.sameValue
    let d := Descent.run engine (q.driving o.differenceStep) q.free o q.params
    let before := conflicts.map Event.conflict ++ d.events
    match q.conclude engine o entities constraints conflicts d with
    | .error fault => ⟨before, .error fault⟩
    | .ok s => .answer (before ++ [s.event]) s

end PlanarSketch
