import PlanarSketch.Proofs.Solve.Faithful
import PlanarSketch.Proofs.Solve.Report
import PlanarSketch.Proofs.System.Columns
import PlanarSketch.Proofs.System.Equations

/-!
# Diagnoses are faithful

A diagnosis tells how a solve has ended.  Each way to come to a status (`Diagnosis.Unsolved`) says
something about the descent or about the point where it ended.  A descent that has stalled stands
where no fraction of the computed step helps, and one that has neither stalled nor arrived has used
up its steps.  An equation whose row counts as zero is one that fails and that no free parameter
influences (`Problem.hasInertEquation_of_deadRow`).  Where nothing is free, no step lowers the norm,
so none is taken (`Descent.Walked.steps_of_immovable`).

Together these say which endings and which ranks each status stands for (`diagnosis_faithful`).
-/

namespace PlanarSketch

set_option autoImplicit false

open Outcome

variable {α : Type} [Scalar α]

/-! ## Endings -/

omit [Scalar α] in
/-- Whether a descent has stalled shows in how it ends. -/
theorem Descent.hasStalled_iff {d : Descent α} :
    (d.hasStalled = .ok true ↔ d.ending = .stalled) ∧
      (d.hasStalled = .ok false ↔ d.ending = .converged ∨ d.ending = .exhausted) := by
  unfold hasStalled
  cases d.ending with
  | _ => simp

/-- No fraction of the step that is computed at some parameters lowers the norm there, as long as
it is not too short. -/
def Problem.HasUselessStep (q : Problem α) (engine : Engine α) (o : Options α)
    (params : Array α) : Prop :=
  ∃ step, Descent.direction engine (q.driving o.differenceStep) q.free o
      ((q.driving o.differenceStep).iterate params) = .ok step ∧
    Descent.Useless (q.driving o.differenceStep) q.free o
      ((q.driving o.differenceStep).iterate params) step

/-! ## Where nothing is free -/

/-- A norm is not lower than itself. -/
theorem not_lowers_self (irreflexive : ∀ x : α, ¬x < x) (norm : Option α) : ¬Lowers norm norm := by
  rintro ⟨n, there, lower⟩
  exact irreflexive n (lower n there)

/-- **Where nothing is free, no step is taken.** -/
theorem Descent.Walked.steps_of_immovable (irreflexive : ∀ x : α, ¬x < x) {engine : Engine α}
    {s : System α} {o : Options α} {budget : Nat} {it : Iterate α} {steps : List (Step α)}
    {ending : Ending α} (walked : Walked engine s [] o budget it steps ending)
    (evaluated : it = s.iterate it.params) : steps = [] := by
  cases walked with
  | @step _ _ step _ _ _ _ _ found _ =>
      obtain ⟨k, -, helps⟩ := (search_searched s [] o it step 1).found_spec found
      have same : trial s [] it step (o.damped 1 k) = it := evaluated.symm
      rw [Helps, same, improves_iff_lowers] at helps
      exact absurd helps (not_lowers_self irreflexive _)
  | _ => rfl

/-- A descent over a problem without free parameters takes no step. -/
theorem Problem.steps_of_immovable (irreflexive : ∀ x : α, ¬x < x) {q : Problem α}
    (engine : Engine α) (o : Options α) (none : q.free = []) :
    (q.descent engine o).steps = [] := by
  have walked := Descent.run_walked engine (q.driving o.differenceStep) q.free o q.params
  rw [none] at walked
  unfold descent
  rw [none]
  exact walked.steps_of_immovable irreflexive rfl

/-! ## Equations that nothing influences -/

/-- A driving equation of a problem fails by more than the tolerance, and the slopes by the free
parameters make a row that counts as zero. -/
def Problem.HasInertEquation (q : Problem α) (o : Options α) (params : Array α) : Prop :=
  ∃ b ∈ q.blocks, b.constraint.isDriving = true ∧ ∃ k < b.rows, ∃ f row,
    (b.residual (.ofArray params)).getD k none = some f ∧ o.tolerance < Scalar.abs f ∧
      (q.free.map fun j => b.slopeAt o.differenceStep (.ofArray params) k j) = row.map some ∧
        Scalar.length row ≤ Tolerance.zeroRow

/-- A dead row is that of an equation that nothing free influences. -/
theorem Problem.hasInertEquation_of_deadRow {q : Problem α} {o : Options α} {params : Array α}
    {F : List α} {J : List (List α)}
    (distinct : ((q.driving o.differenceStep).blocks.map Block.id).Nodup)
    (finite : allFinite? ((q.driving o.differenceStep).residuals (.ofArray params)) = some F)
    (matrix :
      finiteMatrix? ((q.driving o.differenceStep).jacobian (.ofArray params) q.free) = some J)
    (dead : Diagnosis.hasDeadRow o.diagnosisLimits J F = true) : q.HasInertEquation o params := by
  set s := q.driving o.differenceStep
  have entries := allFinite?_spec finite
  have rows := finiteMatrix?_spec matrix
  have sizes : F.length = J.length := by
    rw [System.length_matrix matrix, ← s.length_residuals (.ofArray params), entries,
      List.length_map]
  rw [Diagnosis.hasDeadRow, Diagnosis.paired_eq_zip sizes, List.any_eq_true] at dead
  obtain ⟨⟨f, row⟩, among, both⟩ := dead
  rw [Bool.and_eq_true, decide_eq_true_eq, decide_eq_true_eq] at both
  -- The entry and the row belong to one equation, since both lists are tables over the equations.
  have paired : (some f, row.map some) ∈
      List.zip (s.residuals (.ofArray params)) (s.jacobian (.ofArray params) q.free) := by
    rw [entries, rows, List.zip_map]
    exact List.mem_map_of_mem among
  rw [System.residuals_eq_map, System.jacobian_eq_map distinct, List.zip_map',
    List.mem_map] at paired
  obtain ⟨⟨b, k⟩, equation, same⟩ := paired
  obtain ⟨entry, slopes⟩ := Prod.mk.inj same
  obtain ⟨present, inside⟩ := System.mem_equations.1 equation
  obtain ⟨listed, drives⟩ := List.mem_filter.1 present
  exact ⟨b, listed, drives, k, inside, f, row, entry, both.1, slopes, both.2⟩

/-! ## Verdicts -/

/-- A solution that is answered with tells how the descent over its problem has ended, and what is
diagnosed there. -/
structure Problem.Concludes (q : Problem α) (engine : Engine α) (o : Options α) (s : Solution α)
    (stalled : Bool) (J : List (List α)) : Prop extends q.Reports o (q.descent engine o) s where
  free : s.freeParams = q.free.length
  equations : s.equations = (q.driving o.differenceStep).rows
  told : (q.descent engine o).hasStalled = .ok stalled
  classified : Diagnosis.Classified engine o.diagnosisLimits
    (q.finalState o (q.descent engine o) stalled) J s.diagnosis

theorem Problem.exists_concludes {engine : Engine α} {o : Options α} {entities : List (Entity α)}
    {constraints : List (Constraint α)} {s : Solution α} {q : Problem α}
    (answered : (solve engine o entities constraints).outcome = .ok s)
    (prepared : prepare entities constraints = .ok q) :
    ∃ stalled J, q.Concludes engine o s stalled J := by
  have reports := reports_of_answered answered prepared
  obtain ⟨diagnosis, diagnosed, rfl⟩ := exists_solution_eq answered prepared
  obtain ⟨stalled, J, told, classified⟩ := diagnose_eq_ok diagnosed
  exact ⟨stalled, J, reports, rfl, rfl, told, classified⟩

namespace Problem.Concludes

variable {q : Problem α} {engine : Engine α} {o : Options α} {s : Solution α} {stalled : Bool}
variable {J : List (List α)}

theorem solved (ends : q.Concludes engine o s stalled J) (success : s.success = true) :
    s.diagnosis.status =
      if s.diagnosis.rank < q.free.length then .underConstrained else .fullyConstrained :=
  ends.classified.solved (ends.success.symm.trans success)

theorem unsolved (ends : q.Concludes engine o s stalled J) (failure : s.success = false) :
    Diagnosis.Unsolved o.diagnosisLimits (q.finalState o (q.descent engine o) stalled) J
      s.diagnosis.rank s.diagnosis.status :=
  ends.classified.unsolved (ends.success.symm.trans failure)

/-- Exactly the sketches that are solved are fully constrained or under-constrained. -/
theorem success_iff (ends : q.Concludes engine o s stalled J) :
    s.success = true ↔
      s.diagnosis.status = .fullyConstrained ∨ s.diagnosis.status = .underConstrained := by
  constructor
  · intro success
    have status := ends.solved success
    split at status
    · exact .inr status
    · exact .inl status
  · intro status
    cases success : s.success with
    | true => rfl
    | false =>
        obtain ⟨full, under⟩ := (ends.unsolved success).not_solved
        exact absurd status (not_or.2 ⟨full, under⟩)

/-- A status that is not one of a solved sketch is that of an unsolved one. -/
theorem unsolved_of_status (ends : q.Concludes engine o s stalled J) {status : Status}
    (here : s.diagnosis.status = status) (full : status ≠ .fullyConstrained)
    (under : status ≠ .underConstrained) :
    Diagnosis.Unsolved o.diagnosisLimits (q.finalState o (q.descent engine o) stalled) J
      s.diagnosis.rank s.diagnosis.status := by
  refine ends.unsolved (Bool.eq_false_iff.2 fun success => ?_)
  rw [ends.success_iff, here] at success
  exact success.elim full under

/-- A solved sketch is under-constrained when some freedom remains. -/
theorem underConstrained_iff (ends : q.Concludes engine o s stalled J)
    (success : s.success = true) :
    s.diagnosis.status = .underConstrained ↔ 0 < s.diagnosis.remaining := by
  have remaining : s.diagnosis.remaining = (q.free.length : Int) - s.diagnosis.rank :=
    ends.classified.remaining
  rw [ends.solved success, remaining]
  split
  · rename_i below
    exact iff_of_true rfl (by omega)
  · rename_i all
    exact iff_of_false Status.noConfusion (by omega)

/-- An unsolved sketch without free parameters is over-constrained and is left as it was. -/
theorem rigid (ends : q.Concludes engine o s stalled J) (irreflexive : ∀ x : α, ¬x < x)
    {entities : List (Entity α)} {constraints : List (Constraint α)}
    (prepared : prepare entities constraints = .ok q) (failure : s.success = false)
    (immovable : s.freeParams = 0) :
    s.diagnosis.status = .overConstrained ∧ s.iterations = 0 ∧
      s.layout.flatten entities = .ok s.params := by
  rw [ends.free] at immovable
  have steps := steps_of_immovable irreflexive engine o (List.length_eq_zero_iff.1 immovable)
  obtain ⟨distinct, -, layout, params, -⟩ := prepare_eq_ok prepared
  refine ⟨(ends.unsolved failure).rigid_spec immovable, ?_, ?_⟩
  · rw [ends.iterations, Descent.iterations, steps, List.length_nil]
  · rw [ends.layout, ends.params, layout, Layout.flatten_tiling distinct, Descent.final, steps]
    exact congrArg Except.ok params.symm

/-- An inconsistent sketch has used up all steps. -/
theorem inconsistent (ends : q.Concludes engine o s stalled J)
    (status : s.diagnosis.status = .inconsistent) : s.iterations = o.maxIterations := by
  have unsolved := ends.unsolved_of_status status Status.noConfusion Status.noConfusion
  have walked := Descent.run_walked engine (q.driving o.differenceStep) q.free o q.params
  have told := ends.told
  rw [show stalled = false from unsolved.inconsistent_spec status, Descent.hasStalled_iff.2] at told
  rw [ends.iterations]
  rcases told with converged | exhausted
  · have success : s.success = true := ends.success.trans (walked.converged_spec converged)
    rw [ends.success_iff, status] at success
    exact success.elim Status.noConfusion Status.noConfusion
  · exact walked.exhausted_spec exhausted

/-- A singular sketch stands where the step is useless, or has an equation that nothing free
influences. -/
theorem singular (ends : q.Concludes engine o s stalled J)
    (distinct : ((q.driving o.differenceStep).blocks.map Block.id).Nodup)
    (status : s.diagnosis.status = .numericallySingular) :
    q.HasUselessStep engine o s.params ∨ q.HasInertEquation o s.params := by
  have unsolved := ends.unsolved_of_status status Status.noConfusion Status.noConfusion
  have walked := Descent.run_walked engine (q.driving o.differenceStep) q.free o q.params
  have point : (q.descent engine o).final = (q.driving o.differenceStep).iterate s.params := by
    rw [ends.params]
    exact walked.final_eq rfl
  have matrix := ends.classified.matrix
  rcases unsolved.numericallySingular_spec status with useless | ⟨F, finite, dead⟩
  · have told := ends.told
    rw [show stalled = true from useless, Descent.hasStalled_iff.1] at told
    obtain ⟨step, directed, spent⟩ := walked.stalled_spec told
    unfold HasUselessStep
    rw [← point]
    exact .inl ⟨step, directed, Descent.useless_of_tooShort spent⟩
  · unfold finalState at matrix finite
    rw [point] at matrix finite
    exact .inr (hasInertEquation_of_deadRow distinct finite matrix dead)

/-- An over-constrained sketch with free parameters has a redundant equation. -/
theorem redundant (ends : q.Concludes engine o s stalled J)
    (status : s.diagnosis.status = .overConstrained) (movable : s.freeParams ≠ 0) :
    s.diagnosis.rank < s.equations := by
  have unsolved := ends.unsolved_of_status status Status.noConfusion Status.noConfusion
  rw [ends.equations, ← System.length_matrix ends.classified.matrix]
  rcases unsolved.overConstrained_spec status with immovable | deficient
  · exact absurd (ends.free.trans immovable) movable
  · exact deficient

end Problem.Concludes

/-- What the status of a solution tells about the end of its descent. -/
structure Solution.Diagnosed (s : Solution α) (engine : Engine α) (o : Options α)
    (entities : List (Entity α)) (q : Problem α) : Prop where
  success : s.success = true ↔
    s.diagnosis.status = .fullyConstrained ∨ s.diagnosis.status = .underConstrained
  freedom : s.success = true → (s.diagnosis.status = .underConstrained ↔ 0 < s.diagnosis.remaining)
  immovable : s.success = false → s.freeParams = 0 → s.diagnosis.status = .overConstrained ∧
    s.iterations = 0 ∧ s.layout.flatten entities = .ok s.params
  inconsistent : s.diagnosis.status = .inconsistent → s.iterations = o.maxIterations
  singular : s.diagnosis.status = .numericallySingular →
    q.HasUselessStep engine o s.params ∨ q.HasInertEquation o s.params
  redundant : s.diagnosis.status = .overConstrained → s.freeParams ≠ 0 →
    s.diagnosis.rank < s.equations

/-- **Diagnoses are faithful.**  Let numbers not be less than themselves.  Then every solution that
a solve answers with comes from a prepared problem, and its status tells how the descent over it has
ended, whatever the engine. -/
theorem diagnosis_faithful (irreflexive : ∀ x : α, ¬x < x) {engine : Engine α} {o : Options α}
    {entities : List (Entity α)} {constraints : List (Constraint α)} {s : Solution α}
    (answered : (solve engine o entities constraints).outcome = .ok s) :
    ∃ q, Problem.prepare entities constraints = .ok q ∧ s.Diagnosed engine o entities q := by
  obtain ⟨q, prepared⟩ := exists_prepared answered
  obtain ⟨stalled, J, ends⟩ := Problem.exists_concludes answered prepared
  exact ⟨q, prepared,
    { success := ends.success_iff
      freedom := ends.underConstrained_iff
      immovable := ends.rigid irreflexive prepared
      inconsistent := ends.inconsistent
      singular := ends.singular (Problem.distinct_driving prepared _)
      redundant := ends.redundant }⟩

/-! ## A fixed circle with another radius -/

namespace Fastened

/-- A circle of radius one that may not be moved. -/
noncomputable def entities : List (Entity ℝ) :=
  [⟨0, .circle 0 0 1, .of true, Exact.isFinite_shape _⟩]

/-- The demand that the radius is ten. -/
noncomputable def constraint : Constraint ℝ := ⟨.whole 0, .radius, [0], some 10, [], .of true⟩

/-- The problem of the circle and the demand, with nothing that is free. -/
noncomputable def problem : Problem ℝ :=
  ⟨Layout.tiling entities, flat entities, [⟨constraint, .radius ⟨0, 0⟩ 10, [0, 1, 2]⟩], []⟩

theorem prepare_problem : Problem.prepare entities [constraint] = .ok problem := by
  have checked : constraint.check = .ok () := by
    change constraint.checkValue = .ok ()
    norm_num [Constraint.checkValue, constraint, ConstraintKind.valueRule]
  refine Problem.prepare_of_compiled (List.nodup_singleton _) (List.nodup_singleton _)
    (mapM_eq_ok.2 (.cons ?_ .nil))
  unfold Block.compile
  rw [checked]
  rfl

/-- The derivative of a radius is in closed form. -/
theorem not_collapsesAtEnd (engine : Engine ℝ) : ¬problem.CollapsesAtEnd engine .standard := by
  refine Problem.not_collapsesAtEnd_of_closed (fun b present => ?_) engine .standard
  cases List.mem_singleton.1 present
  rfl

/-- The radius is wrong wherever the descent ends, since it cannot go anywhere. -/
theorem away_at_end (engine : Engine ℝ) :
    normBelow (problem.descent engine .standard).final.norm Options.standard.tolerance = false := by
  have steps := Problem.steps_of_immovable lt_irrefl engine .standard (q := problem) rfl
  have norm : (problem.descent engine .standard).final.norm =
      some (Scalar.length [(1 : ℝ) - 10]) := by
    rw [Descent.final, steps]
    exact residualNorm?_eq_some.2 ⟨[1 - 10], rfl, rfl⟩
  have long : |(1 : ℝ) - 10| ≤ Scalar.length [(1 : ℝ) - 10] :=
    Exact.abs_le_length (List.mem_singleton_self _)
  rw [norm, Bool.eq_false_iff, Ne, normBelow_iff]
  rintro ⟨n, same, below⟩
  cases same
  norm_num [Options.standard, Tolerance.solved] at below long
  linarith

end Fastened

/-- A circle that may not be moved and shall have another radius is over-constrained, and the solve
leaves it where it is. -/
theorem diagnosis_faithful_fastened :
    ∃ s, (solve Rotation.engine .standard Fastened.entities
        [Fastened.constraint]).outcome = .ok s ∧
      s.diagnosis.status = .overConstrained ∧ s.iterations = 0 ∧
        s.layout.flatten Fastened.entities = .ok s.params := by
  obtain ⟨s, answered⟩ := solve_answers Exact.standard_check Fastened.prepare_problem
    (Fastened.not_collapsesAtEnd Rotation.engine)
  obtain ⟨q, -, faithful⟩ := diagnosis_faithful lt_irrefl answered
  obtain ⟨diagnosis, -, same⟩ := Problem.exists_solution_eq answered Fastened.prepare_problem
  have failure : s.success = false := by
    rw [same]
    exact Fastened.away_at_end Rotation.engine
  have none : s.freeParams = 0 := by
    rw [same]
    rfl
  exact ⟨s, answered, faithful.immovable failure none⟩

end PlanarSketch
