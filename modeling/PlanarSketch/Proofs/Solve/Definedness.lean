import PlanarSketch.Proofs.Solve.Answers
import PlanarSketch.Proofs.Solve.Report

/-!
# Undefined residuals are never accepted

A residual that divides by the length of a line is undefined where that line is too short.
Two mechanisms keep such points out of a solve.  Binding tests the entities, and with them every
line that a residual divides by, so nothing is undefined at the initial parameters
(`Problem.definedAt_start`).  From there a descent only goes to points whose norm is less
than the last one, and a point with an undefined residual has no norm
(`Problem.definedAt_visited`).

The two mechanisms look at different things, the first at entities and the second at the flat
parameters, and only the first is about reference constraints.  What they guarantee together is
`undefined_never_accepted`.
-/

namespace PlanarSketch

set_option autoImplicit false

variable {engine : Engine ℝ} {o : Options ℝ} {entities : List (Entity ℝ)}
variable {constraints : List (Constraint ℝ)} {q : Problem ℝ} {s : Solution ℝ}

namespace Problem

/-- A block is defined wherever the driving equations have a norm, if it is one of them. -/
theorem definedAt_of_norm {step : ℝ} {params : Array ℝ}
    (norm : ((q.driving step).iterate params).norm ≠ none) {b : Block ℝ} (present : b ∈ q.blocks)
    (driving : b.constraint.isDriving = true) : b.DefinedAt (.ofArray params) :=
  System.norm_ne_none_iff.1 norm b (List.mem_filter.2 ⟨present, driving⟩)

/-- Every point that a descent visits carries its own residual, and that has a norm. -/
theorem visited_norm (prepared : prepare entities constraints = .ok q) {it : Iterate ℝ}
    (visited : it ∈ (q.descent engine o).visited) :
    it = (q.driving o.differenceStep).iterate it.params ∧ it.norm ≠ none := by
  have walked := Descent.run_walked engine (q.driving o.differenceStep) q.free o q.params
  exact ⟨walked.evaluated rfl it visited,
    walked.visited_norm (start_norm prepared o.differenceStep) it visited⟩

/-- **All driving blocks are defined along a descent.** -/
theorem definedAt_visited (prepared : prepare entities constraints = .ok q) {it : Iterate ℝ}
    (visited : it ∈ (q.descent engine o).visited) {b : Block ℝ} (present : b ∈ q.blocks)
    (driving : b.constraint.isDriving = true) : b.DefinedAt (.ofArray it.params) := by
  obtain ⟨evaluated, norm⟩ := visited_norm prepared visited
  rw [evaluated] at norm
  exact definedAt_of_norm norm present driving

/-- The parameters and the norm of a solution are those of a point that the descent has visited. -/
theorem exists_visited (answered : (solve engine o entities constraints).outcome = .ok s)
    (prepared : prepare entities constraints = .ok q) :
    ∃ it ∈ (q.descent engine o).visited, s.params = it.params ∧ s.norm = it.norm := by
  have report := reports_of_answered answered prepared
  exact ⟨(q.descent engine o).final, List.mem_of_getLast? (Descent.getLast?_visited _),
    report.params, report.norm⟩

end Problem

/-- A solution has nothing undefined in it that a driving constraint is responsible for. -/
structure Solution.Defined (s : Solution ℝ) (q : Problem ℝ) (constraints : List (Constraint ℝ)) :
    Prop where
  norm : ∃ n, s.norm = some n
  residuals : ∀ b ∈ q.blocks, b.constraint.isDriving = true → b.DefinedAt (.ofArray s.params)
  reported : ∀ c ∈ constraints, c.isDriving = true →
    ∃ d, Discrepancy.find? c.id s.discrepancies = some d ∧ d.Defined

theorem Solution.defined_of_answered
    (answered : (solve engine o entities constraints).outcome = .ok s)
    (prepared : Problem.prepare entities constraints = .ok q) : s.Defined q constraints := by
  obtain ⟨it, visited, params, norm⟩ := Problem.exists_visited answered prepared
  have residuals : ∀ b ∈ q.blocks, b.constraint.isDriving = true →
      b.DefinedAt (.ofArray s.params) := by
    intro b present driving
    rw [params]
    exact Problem.definedAt_visited prepared visited present driving
  refine ⟨?_, residuals, fun c among driving => ?_⟩
  · rw [norm]
    exact Option.ne_none_iff_exists'.1 (Problem.visited_norm prepared visited).2
  · obtain ⟨b, present, rfl⟩ := Problem.exists_block prepared among
    refine ⟨_, Problem.find?_of_answered answered prepared present, ?_⟩
    rw [Discrepancy.Defined, Discrepancy.rows_ofRows]
    exact residuals b present driving

/-- **No undefined driving residual is ever accepted.**  For all entities and constraints that can
be prepared: no constraint, driving or not, has an undefined row at the initial parameters.
Whatever the engine answers and however the descent ends, every point that it visits has a norm
and has all rows of all driving constraints defined.  A solution stands at one of these points,
so its norm is there, and none of the rows that it reports of a driving constraint is missing. -/
theorem undefined_never_accepted (prepared : Problem.prepare entities constraints = .ok q)
    (engine : Engine ℝ) (o : Options ℝ) :
    (∀ b ∈ q.blocks, b.DefinedAt (.ofArray q.params)) ∧
      (∀ it ∈ (q.descent engine o).visited,
        it = (q.driving o.differenceStep).iterate it.params ∧ it.norm ≠ none ∧
          ∀ b ∈ q.blocks, b.constraint.isDriving = true → b.DefinedAt (.ofArray it.params)) ∧
      ∀ s, (solve engine o entities constraints).outcome = .ok s →
        (∃ it ∈ (q.descent engine o).visited, s.params = it.params ∧ s.norm = it.norm) ∧
          s.Defined q constraints := by
  refine ⟨Problem.definedAt_start prepared, fun it visited => ?_, fun s answered => ?_⟩
  · obtain ⟨evaluated, norm⟩ := Problem.visited_norm prepared visited
    exact ⟨evaluated, norm, fun b present driving =>
      Problem.definedAt_visited prepared visited present driving⟩
  · exact ⟨Problem.exists_visited answered prepared,
      Solution.defined_of_answered answered prepared⟩

/-- The point on the line of length one divides by that length, and the solve ends with its one row
defined. -/
theorem undefined_never_accepted_incidence :
    ∃ s, (solve Rotation.engine .standard (Incidence.entities 1)
        [Incidence.constraint]).outcome = .ok s ∧
      s.Defined (Incidence.problem 1) [Incidence.constraint] ∧
      Incidence.block.DefinedAt (.ofArray (flat (Incidence.entities 1))) := by
  have prepared : Problem.prepare (Incidence.entities 1) [Incidence.constraint] =
      .ok (Incidence.problem 1) :=
    Incidence.prepare_problem (by norm_num [Tolerance.geometry])
  obtain ⟨s, answered⟩ := solve_answers Exact.standard_check prepared
    (Incidence.not_collapsesAtEnd_of_long Rotation.engine)
  obtain ⟨start, -, solutions⟩ :=
    undefined_never_accepted prepared Rotation.engine .standard
  exact ⟨s, answered, (solutions s answered).2, start _ List.mem_cons_self⟩

end PlanarSketch
