import PlanarSketch.Proofs.Diagnosis.Statuses
import PlanarSketch.Proofs.Solve.Conclusion
import PlanarSketch.Proofs.Solve.Preparation
import PlanarSketch.Proofs.System.Discrepancies

/-!
# What a solution is made of

A conclusion has two parts (`Problem.conclude_eq_bind`).  The diagnosis of the end of a
descent depends on the driving equations and the free positions alone.  The solution then
adds what is read from all constraints: the discrepancies, the statistics and the conflicts.
The discrepancies are the residuals of the blocks at the parameters of the solution
(`Problem.discrepancies_of_answered`), and the numbers of the diagnosis are those of the matrix
of the derivative there (`Problem.exists_diagnosed`).
-/

namespace PlanarSketch

set_option autoImplicit false

open Outcome

variable {α : Type} [Scalar α]

namespace Problem

/-- The state in which a descent over a problem has ended. -/
def finalState (q : Problem α) (o : Options α) (d : Descent α) (stalled : Bool) : FinalState α :=
  ⟨normBelow d.final.norm o.tolerance, stalled, d.final.residual,
    (q.driving o.differenceStep).jacobian (.ofArray d.final.params) q.free, q.free.length⟩

/-- The diagnosis of the end of a descent. -/
def diagnose (q : Problem α) (engine : Engine α) (o : Options α) (d : Descent α) :
    Except (Fault α) Diagnosis := do
  let stalled ← d.hasStalled
  (q.driving o.differenceStep).checkJacobian (.ofArray d.final.params)
  Diagnosis.classify engine o.diagnosisLimits (q.finalState o d stalled)

/-- What all constraints of a problem read at the end of a descent. -/
def readings (q : Problem α) (o : Options α) (d : Descent α) :
    List (Identifier × Discrepancy α) :=
  (q.reporting o.differenceStep).discrepancies (.ofArray d.final.params)

/-- The solution at the end of a descent that has been diagnosed. -/
def solution (q : Problem α) (o : Options α) (entities : List (Entity α))
    (constraints : List (Constraint α)) (conflicts : List (Conflict α)) (d : Descent α)
    (diagnosis : Diagnosis) : Solution α where
  success := normBelow d.final.norm o.tolerance
  params := d.final.params
  iterations := d.iterations
  norm := d.final.norm
  discrepancies := q.readings o d
  diagnosis := diagnosis
  equations := (q.driving o.differenceStep).rows
  freeParams := q.free.length
  conflicts := conflicts
  layout := q.layout
  statistics := .count constraints (q.readings o d) conflicts.length
    (freedomBalance entities constraints) o.tolerance
  tolerance := o.tolerance

variable {q : Problem α} {engine : Engine α} {o : Options α} {entities : List (Entity α)}
variable {constraints : List (Constraint α)} {conflicts : List (Conflict α)} {d : Descent α}
variable {s : Solution α}

theorem conclude_eq_bind :
    q.conclude engine o entities constraints conflicts d =
      q.diagnose engine o d >>= fun diagnosis =>
        (q.reporting o.differenceStep).checkResiduals (.ofArray d.final.params) >>= fun _ =>
          .ok (q.solution o entities constraints conflicts d diagnosis) := by
  unfold conclude diagnose
  simp only [bind_assoc]
  rfl

/-- A solution comes of a diagnosis, where all residuals can be evaluated. -/
theorem conclude_eq_ok_iff :
    q.conclude engine o entities constraints conflicts d = .ok s ↔
      ∃ diagnosis, q.diagnose engine o d = .ok diagnosis ∧
        (q.reporting o.differenceStep).checkResiduals (.ofArray d.final.params) = .ok () ∧
        s = q.solution o entities constraints conflicts d diagnosis := by
  rw [conclude_eq_bind, bind_eq_ok]
  refine exists_congr fun diagnosis => and_congr_right fun _ => ?_
  rw [bind_eq_ok]
  constructor
  · rintro ⟨_, measurable, same⟩
    exact ⟨measurable, (Except.ok.inj same).symm⟩
  · rintro ⟨measurable, rfl⟩
    exact ⟨(), measurable, rfl⟩

end Problem

/-- A solution is that of a prepared problem whose descent has been diagnosed. -/
theorem solve_eq_ok_iff {engine : Engine α} {o : Options α} {entities : List (Entity α)}
    {constraints : List (Constraint α)} {s : Solution α} :
    (solve engine o entities constraints).outcome = .ok s ↔
      ∃ q diagnosis, Problem.prepare entities constraints = .ok q ∧
        q.diagnose engine o (q.descent engine o) = .ok diagnosis ∧
        (q.reporting o.differenceStep).checkResiduals
          (.ofArray (q.descent engine o).final.params) = .ok () ∧
        s = q.solution o entities constraints
          (Conflict.find entities constraints Tolerance.sameValue) (q.descent engine o)
            diagnosis := by
  rw [solve_outcome, bind_eq_ok]
  refine exists_congr fun q => ?_
  rw [Problem.conclude_eq_ok_iff, exists_and_left]

/-- The solution of a prepared problem is that of the diagnosis of its descent. -/
theorem Problem.exists_solution_eq {engine : Engine α} {o : Options α}
    {entities : List (Entity α)} {constraints : List (Constraint α)} {s : Solution α}
    {q : Problem α} (answered : (solve engine o entities constraints).outcome = .ok s)
    (prepared : prepare entities constraints = .ok q) :
    ∃ diagnosis, q.diagnose engine o (q.descent engine o) = .ok diagnosis ∧
      s = q.solution o entities constraints
        (Conflict.find entities constraints Tolerance.sameValue) (q.descent engine o)
          diagnosis := by
  obtain ⟨q', diagnosis, prepared', diagnosed, -, solution⟩ := solve_eq_ok_iff.1 answered
  rw [prepared] at prepared'
  cases prepared'
  exact ⟨diagnosis, diagnosed, solution⟩

/-! ## Readings -/

section Readings

variable {engine : Engine α} {o : Options α} {entities : List (Entity α)}
variable {constraints : List (Constraint α)} {s : Solution α} {q : Problem α}

/-- A solution reports every block of its problem, at its own parameters. -/
theorem Problem.discrepancies_of_answered
    (answered : (solve engine o entities constraints).outcome = .ok s)
    (prepared : prepare entities constraints = .ok q) :
    s.discrepancies = q.blocks.map (Block.reading (.ofArray s.params)) := by
  obtain ⟨diagnosis, -, rfl⟩ := exists_solution_eq answered prepared
  exact System.discrepancies_eq_map (s := q.reporting o.differenceStep) (distinct_blocks prepared)

/-- What a solution reports of a block is its residual at the parameters of the solution. -/
theorem Problem.find?_of_answered
    (answered : (solve engine o entities constraints).outcome = .ok s)
    (prepared : prepare entities constraints = .ok q) {b : Block α} (present : b ∈ q.blocks) :
    Discrepancy.find? b.id s.discrepancies = some (.ofRows (b.residual (.ofArray s.params))) := by
  obtain ⟨diagnosis, -, rfl⟩ := exists_solution_eq answered prepared
  exact System.find?_discrepancies (s := q.reporting o.differenceStep) (distinct_blocks prepared)
    present

/-- Every constraint is bound to one of the blocks. -/
theorem Problem.exists_block (prepared : prepare entities constraints = .ok q) {c : Constraint α}
    (present : c ∈ constraints) : ∃ b ∈ q.blocks, b.constraint = c := by
  obtain ⟨-, -, -, -, compiled⟩ := prepare_eq_ok prepared
  rw [← map_constraint_blocks compiled] at present
  exact List.mem_map.1 present

end Readings

/-! ## The numbers of a diagnosis -/

/-- The numbers of a diagnosis are those of the matrix at the end of the descent. -/
structure Problem.Diagnosed (q : Problem α) (engine : Engine α) (o : Options α) (s : Solution α)
    (J : List (List α)) : Prop where
  matrix : finiteMatrix? ((q.driving o.differenceStep).jacobian (.ofArray s.params) q.free) = some J
  rank : s.diagnosis.rank = engine.rank J q.free.length o.rankTolerance
  remaining : s.diagnosis.remaining = (q.free.length : Int) - s.diagnosis.rank
  redundant : s.diagnosis.redundant = (J.length : Int) - s.diagnosis.rank
  /-- Nothing is left to move where a sketch is fully constrained. -/
  full : s.diagnosis.status = .fullyConstrained → q.free.length ≤ s.diagnosis.rank

/-- A descent is diagnosed by how it has ended and by the matrix there. -/
theorem Problem.diagnose_eq_ok {q : Problem α} {engine : Engine α} {o : Options α} {d : Descent α}
    {diagnosis : Diagnosis} (diagnosed : q.diagnose engine o d = .ok diagnosis) :
    ∃ stalled J, d.hasStalled = .ok stalled ∧
      Diagnosis.Classified engine o.diagnosisLimits (q.finalState o d stalled) J diagnosis := by
  obtain ⟨stalled, told, rest⟩ := bind_eq_ok.1 diagnosed
  obtain ⟨_, -, classified⟩ := bind_eq_ok.1 rest
  obtain ⟨J, classified⟩ := Diagnosis.exists_classified classified
  exact ⟨stalled, J, told, classified⟩

theorem Problem.exists_diagnosed {engine : Engine α} {o : Options α} {entities : List (Entity α)}
    {constraints : List (Constraint α)} {s : Solution α} {q : Problem α}
    (answered : (solve engine o entities constraints).outcome = .ok s)
    (prepared : prepare entities constraints = .ok q) : ∃ J, q.Diagnosed engine o s J := by
  obtain ⟨diagnosis, diagnosed, rfl⟩ := exists_solution_eq answered prepared
  obtain ⟨stalled, J, -, classified⟩ := diagnose_eq_ok diagnosed
  exact ⟨J, classified.matrix, classified.rank, classified.remaining, classified.redundant,
    classified.full⟩

end PlanarSketch
