import PlanarSketch.Proofs.Outcome
import PlanarSketch.Solve

/-!
# From a descent to a solution

The outcome of a solve is that of two stages: the preparation of the problem, and the
conclusion drawn from its descent (`solve_outcome`).  A conclusion is refused exactly when
the descent has failed, or the derivative at its end cannot be formed or is undefined, or
the residuals there cannot be evaluated (`conclude_eq_ok`); otherwise the solution
carries over the end of the descent as it is.
-/

namespace PlanarSketch

set_option autoImplicit false

open Outcome

variable {α : Type} [Scalar α] {engine : Engine α} {o : Options α}
variable {entities : List (Entity α)} {constraints : List (Constraint α)}

/-- The descent that a solve makes over a prepared problem. -/
def Problem.descent (q : Problem α) (engine : Engine α) (o : Options α) : Descent α :=
  Descent.run engine (q.driving o.differenceStep) q.free o q.params

theorem solve_outcome :
    (solve engine o entities constraints).outcome =
      Problem.prepare entities constraints >>= fun q =>
        q.conclude engine o entities constraints
          (Conflict.find entities constraints Tolerance.sameValue) (q.descent engine o) := by
  unfold solve
  cases prepared : Problem.prepare entities constraints with
  | error fault => rfl
  | ok q =>
      dsimp only [bind, Except.bind]
      cases concluded : q.conclude engine o entities constraints
          (Conflict.find entities constraints Tolerance.sameValue) (q.descent engine o) with
      | error fault =>
          unfold Problem.descent at concluded
          rw [concluded]
      | ok s =>
          unfold Problem.descent at concluded
          rw [concluded]
          rfl

/-- Everything that has to be in order at the end of a descent for a solution to come of it. -/
structure Problem.Concludable (q : Problem α) (o : Options α) (d : Descent α) :
    Prop where
  unfailed : ∀ cause, d.ending ≠ .failed cause
  derivable : (q.driving o.differenceStep).checkJacobian (.ofArray d.final.params) = .ok ()
  finite : ∃ J, finiteMatrix?
    ((q.driving o.differenceStep).jacobian (.ofArray d.final.params) q.free) = some J
  measurable : (q.reporting o.differenceStep).checkResiduals (.ofArray d.final.params) = .ok ()

/-- What a solution takes over from a problem and its descent. -/
structure Problem.Reports (q : Problem α) (o : Options α) (d : Descent α) (s : Solution α) :
    Prop where
  success : s.success = normBelow d.final.norm o.tolerance
  params : s.params = d.final.params
  iterations : s.iterations = d.iterations
  norm : s.norm = d.final.norm
  layout : s.layout = q.layout

namespace Problem

variable {q : Problem α} {conflicts : List (Conflict α)} {d : Descent α} {s : Solution α}

/-- A diagnosis needs the derivative to be defined, and nothing else. -/
theorem classify_eq_ok (engine : Engine α) (limits : DiagnosisLimits α) (state : FinalState α) :
    (∃ diagnosis, Diagnosis.classify engine limits state = .ok diagnosis) ↔
      ∃ J, finiteMatrix? state.jacobian = some J := by
  unfold Diagnosis.classify
  cases finiteMatrix? state.jacobian with
  | none => simp
  | some J => simp

omit [Scalar α] in
theorem hasStalled_eq_ok :
    (∃ stalled, d.hasStalled = .ok stalled) ↔ ∀ cause, d.ending ≠ .failed cause := by
  unfold Descent.hasStalled
  cases d.ending with
  | failed cause => simp
  | _ => simp

theorem conclude_eq_ok
    (concluded : q.conclude engine o entities constraints conflicts d = .ok s) :
    q.Concludable o d ∧ q.Reports o d s := by
  unfold conclude at concluded
  obtain ⟨stalled, ended, rest⟩ := bind_eq_ok.1 concluded
  obtain ⟨_, derivable, rest⟩ := bind_eq_ok.1 rest
  obtain ⟨diagnosis, classified, rest⟩ := bind_eq_ok.1 rest
  obtain ⟨_, measurable, rest⟩ := bind_eq_ok.1 rest
  cases rest
  exact ⟨⟨hasStalled_eq_ok.1 ⟨stalled, ended⟩, derivable,
    (classify_eq_ok _ _ _).1 ⟨diagnosis, classified⟩, measurable⟩, ⟨rfl, rfl, rfl, rfl, rfl⟩⟩

/-- Nothing else keeps a solution from being concluded. -/
theorem exists_conclude (ready : q.Concludable o d) :
    ∃ s, q.conclude engine o entities constraints conflicts d = .ok s := by
  obtain ⟨unfailed, derivable, finite, measurable⟩ := ready
  obtain ⟨stalled, ended⟩ := hasStalled_eq_ok.2 unfailed
  obtain ⟨diagnosis, classified⟩ := (classify_eq_ok engine o.diagnosisLimits
    ⟨normBelow d.final.norm o.tolerance, stalled, d.final.residual,
      (q.driving o.differenceStep).jacobian (.ofArray d.final.params) q.free,
      q.free.length⟩).2 finite
  unfold conclude
  exact ⟨_, bind_eq_ok.2 ⟨stalled, ended, bind_eq_ok.2 ⟨(), derivable,
    bind_eq_ok.2 ⟨diagnosis, classified, bind_eq_ok.2 ⟨(), measurable, rfl⟩⟩⟩⟩⟩

/-- A descent that fails passes its cause on. -/
theorem conclude_of_failed {cause : Fault α} (failed : d.ending = .failed cause) :
    q.conclude engine o entities constraints conflicts d = .error cause := by
  unfold conclude Descent.hasStalled
  rw [failed]
  rfl

/-- A derivative that is undefined at the end of a descent is a fault, even where the descent has
come to its end. -/
theorem conclude_of_undefined (unfailed : ∀ cause, d.ending ≠ .failed cause)
    (derivable : (q.driving o.differenceStep).checkJacobian (.ofArray d.final.params) = .ok ())
    (undefined : finiteMatrix?
      ((q.driving o.differenceStep).jacobian (.ofArray d.final.params) q.free) = none) :
    q.conclude engine o entities constraints conflicts d = .error .nonFiniteMatrix := by
  obtain ⟨stalled, ended⟩ := hasStalled_eq_ok.2 unfailed
  unfold conclude
  refine bind_eq_error.2 (.inr ⟨stalled, ended, bind_eq_error.2 (.inr ⟨(), derivable, ?_⟩)⟩)
  refine bind_eq_error.2 (.inl ?_)
  unfold Diagnosis.classify
  rw [undefined]

/-- A solution has the layout of its problem and the parameters at the end of its descent. -/
theorem reports_of_answered (answered : (solve engine o entities constraints).outcome = .ok s)
    (prepared : prepare entities constraints = .ok q) :
    q.Reports o (q.descent engine o) s := by
  rw [solve_outcome, prepared] at answered
  exact (conclude_eq_ok answered).2

end Problem

/-- A solution comes from a problem that has been prepared. -/
theorem exists_prepared {s : Solution α}
    (answered : (solve engine o entities constraints).outcome = .ok s) :
    ∃ q, Problem.prepare entities constraints = .ok q := by
  rw [solve_outcome] at answered
  obtain ⟨q, prepared, -⟩ := bind_eq_ok.1 answered
  exact ⟨q, prepared⟩

end PlanarSketch
