import PlanarSketch.Proofs.Engine.SingleEquation
import PlanarSketch.Proofs.Solve.Affine

/-!
# The nearest solution

An affine sketch that can be solved is solved at once (`affine_solves_nearest`).  Its
equations are linear, so the first step already satisfies all of them, however many of them are
redundant.  The step is the shortest that does, which makes the result the solution nearest to the
initial geometry: two free points that shall be level meet in the middle.
-/

namespace PlanarSketch

set_option autoImplicit false

namespace Problem

variable {q : Problem ℝ} {params : Array ℝ}

/-- All driving residuals are zero at some parameters. -/
def Holds (q : Problem ℝ) (params : Array ℝ) : Prop :=
  ∀ b ∈ q.blocks, b.constraint.isDriving = true → ∀ v ∈ b.residual (.ofArray params), v = some 0

theorem holds_iff (affine : q.IsAffine) (step : ℝ) :
    q.Holds params ↔ (q.driving step).gapVector q.free params = 0 := by
  have rows : q.Holds params ↔ ∀ v ∈ (q.driving step).residuals (.ofArray params), v = some 0 := by
    rw [System.residuals, List.forall_mem_flatMap]
    exact ⟨fun holds b among => holds b (List.mem_filter.1 among).1 (List.mem_filter.1 among).2,
      fun holds b present drives => holds b (List.mem_filter.2 ⟨present, drives⟩)⟩
  have size : ((q.driving step).gaps (.ofArray params)).length =
      ((q.driving step).rates q.free).length := by
    rw [System.length_gaps, System.length_rates]
  rw [rows, (affine.driving step).residuals_eq, List.forall_mem_map]
  constructor
  · intro zero
    have gaps : (q.driving step).gaps (.ofArray params) =
        List.replicate ((q.driving step).rates q.free).length 0 :=
      List.eq_replicate_iff.2 ⟨size, fun g among => Option.some.inj (zero g among)⟩
    rw [System.gapVector, gaps, vector_replicate_zero]
  · intro zero g among
    rw [eq_zero_of_vector_eq_zero size zero g among]

/-- An assignment is a solution when the linear map sends its displacement to the negative
residual. -/
theorem Assigns.holds_iff (assigns : q.Assigns params) (distinct : q.free.Nodup)
    (affine : q.IsAffine) (step : ℝ) :
    q.Holds params ↔
      (q.driving step).slopeMap q.free (System.displacement q.free q.params params) =
        -(q.driving step).gapVector q.free q.params := by
  rw [Problem.holds_iff affine step, (affine.driving step).gapVector_eq distinct assigns.fixed,
    add_comm, eq_neg_iff_add_eq_zero]

/-- **The nearest solution is nearer than every other one**: the displacement to another solution
differs by a perpendicular part. -/
theorem Holds.separation_lt {entities : List (Entity ℝ)} {constraints : List (Constraint ℝ)}
    {step cutoff : ℝ} {other : Array ℝ} (prepared : prepare entities constraints = .ok q)
    (affine : q.IsAffine) (nonneg : 0 ≤ cutoff)
    (nearest : (q.driving step).Nearest q.free cutoff q.params params)
    (assigns : q.Assigns params) (holds : q.Holds params) (assigns' : q.Assigns other)
    (holds' : q.Holds other) (different : other ≠ params) :
    separation q.params params < separation q.params other := by
  have distinct := nodup_free prepared
  have reached := (assigns.holds_iff distinct affine step).1 holds
  have reached' := (assigns'.holds_iff distinct affine step).1 holds'
  have pythagoras := nearest.step.norm_sq_add nonneg (reached'.trans reached.symm)
  have apart : 0 < ‖System.displacement q.free q.params other -
      System.displacement q.free q.params params‖ ^ 2 := by
    refine pow_pos (norm_pos_iff.2 (sub_ne_zero.2 fun same => different ?_)) 2
    exact assigns'.ext assigns same
  rw [separation_eq_norm prepared assigns, separation_eq_norm prepared assigns']
  exact lt_of_pow_lt_pow_left₀ 2 (norm_nonneg _) (by linarith)

end Problem

/-! ## Two points that shall be level -/

namespace Levelling

/-- Two points at different heights. -/
noncomputable def entities : List (Entity ℝ) :=
  [Exact.entity 0 (.point 0 0), Exact.entity 1 (.point 1 1)]

/-- The demand that they are level. -/
noncomputable def constraint : Constraint ℝ := ⟨.whole 0, .horizontal, [0, 1], none, [], .of true⟩

/-- The demand, bound to the two points. -/
noncomputable def block : Block ℝ :=
  ⟨constraint, .level ⟨0, 0, .point, .own⟩ ⟨1, 2, .point, .own⟩, [0, 1, 2, 3]⟩

/-- The problem of the two points and the demand. -/
noncomputable def problem : Problem ℝ :=
  ⟨Layout.tiling entities, flat entities, [block], [0, 1, 2, 3]⟩

theorem prepare_problem : Problem.prepare entities [constraint] = .ok problem := by
  have distinct : (entities.map Entity.id).Nodup := by
    change ([0, 1] : List Int).Nodup
    decide
  have numbered : ([constraint].map Constraint.id).Nodup := List.nodup_singleton _
  exact Problem.prepare_of_compiled distinct numbered (Outcome.mapM_eq_ok.2 (.cons rfl .nil))

theorem isAffine : problem.IsAffine := by
  intro b present _
  rw [List.mem_singleton.1 present]
  exact ⟨⟨rfl, rfl⟩, not_false⟩

/-- A single equation has a single stretch. -/
theorem losesNothing (o : Options ℝ) : problem.LosesNothing o := by
  refine ⟨fun J finite => ?_⟩
  rw [(isAffine.driving _).finiteMatrix?_jacobian
    (Problem.distinct_driving prepare_problem _)] at finite
  refine lossless_of_finrank_range_le_one (Rotation.effective_lt_one _) ?_
  have rows : J.length = 1 := by
    rw [← Option.some.inj finite, System.length_rates]
    rfl
  exact (Submodule.finrank_le _).trans_eq (by rw [finrank_euclideanSpace_fin, rows])

/-- The first point can be put to the height of the second. -/
theorem consistent : ∃ params, problem.Assigns params ∧ problem.Holds params := by
  refine ⟨#[0, 1, 1, 1], ⟨rfl, fun i outside => ?_⟩, fun b present _ v among => ?_⟩
  · match i with
    | 0 | 1 | 2 | 3 => exact absurd (by decide) outside
    | _ + 4 => rfl
  · rw [List.mem_singleton.1 present] at among
    change v ∈ [some ((1 : ℝ) - 1)] at among
    rw [List.mem_singleton.1 among, sub_self]

/-- The two points have a solution with any engine. -/
theorem exists_solution (engine : Engine ℝ) :
    ∃ s, (solve engine .standard entities [constraint]).outcome = .ok s :=
  Problem.exists_solution prepare_problem isAffine Exact.standard_check

end Levelling

/-! ## Solving -/

variable {engine : Engine ℝ} {o : Options ℝ} {entities : List (Entity ℝ)}
variable {constraints : List (Constraint ℝ)} {q : Problem ℝ}

/-- **Consistent affine sketches are solved in one step, to the nearest solution.**  Let the driving
constraints of a prepared problem be affine, let the steps of the engine be exact, and let the
cutoff of the rank discard no singular value but zero.  If some assignment of the free parameters
makes all driving residuals zero, then the solve succeeds with at most one step.  Without a step
the parameters are the initial ones.  Otherwise they are such an assignment themselves, and every
other one is farther away from the initial parameters. -/
theorem affine_solves_nearest (checked : o.check = .ok ()) (exact : engine.ExactSteps)
    (prepared : Problem.prepare entities constraints = .ok q) (affine : q.IsAffine)
    (lossless : q.LosesNothing o) (budget : 1 ≤ o.maxIterations) (whole : o.minStep ≤ 1)
    (consistent : ∃ params, q.Assigns params ∧ q.Holds params) :
    ∃ s, (solve engine o entities constraints).outcome = .ok s ∧ s.success = true ∧
      s.iterations ≤ 1 ∧ (s.iterations = 0 → s.params = q.params) ∧
      (s.iterations = 1 → q.Assigns s.params ∧ q.Holds s.params ∧
        ∀ params, q.Assigns params → q.Holds params → params ≠ s.params →
          separation q.params s.params < separation q.params params) := by
  have drives := affine.driving o.differenceStep
  have positive := Options.positive_of_check checked
  obtain ⟨s, answered⟩ : ∃ s, (solve engine o entities constraints).outcome = .ok s :=
    Problem.exists_solution prepared affine checked
  refine ⟨s, answered, ?_⟩
  rw [solve_outcome, prepared] at answered
  obtain ⟨-, report⟩ := Problem.conclude_eq_ok answered
  rw [report.success, report.iterations, report.params]
  by_cases arrived :
      normBelow ((q.driving o.differenceStep).iterate q.params).norm o.tolerance = true
  · have stays : q.descent engine o =
        ⟨(q.driving o.differenceStep).iterate q.params, [], .converged⟩ :=
      Descent.run_of_arrived engine _ _ o arrived
    rw [stays]
    exact ⟨arrived, Nat.zero_le 1, fun _ => rfl, fun one => by cases one⟩
  · obtain ⟨params, assigns, nearest, final, bounded, untouched⟩ :=
      Problem.affine_descent prepared affine checked exact lossless budget whole
        (Bool.eq_false_iff.2 arrived)
    have nonneg := Rotation.effective_nonneg o.rankTolerance
    have kept := (Problem.tractable prepared affine checked exact lossless).lossless
    have distinct := Problem.nodup_free prepared
    rw [final]
    -- The right-hand side of the linearised equations can be reached, so the step reaches it.
    obtain ⟨witness, assigned, holds⟩ := consistent
    have reached : (q.driving o.differenceStep).slopeMap q.free
        (System.displacement q.free q.params params) =
          -(q.driving o.differenceStep).gapVector q.free q.params :=
      nearest.step.apply_eq nonneg kept ((assigned.holds_iff distinct affine _).1 holds)
    have solved : q.Holds params := (assigns.holds_iff distinct affine _).2 reached
    refine ⟨?_, bounded, untouched, fun _ => ⟨assigns, solved, ?_⟩⟩
    · rw [drives.norm_eq q.free, (Problem.holds_iff affine o.differenceStep).1 solved, norm_zero]
      exact normBelow_iff.2 ⟨0, rfl, positive.tolerance⟩
    · intro other assigns' holds' different
      exact solved.separation_lt prepared affine nonneg nearest assigns assigns' holds' different

/-- Two points that shall be level are solved at once, to the nearest points that are. -/
theorem affine_solves_nearest_level :
    ∃ s, (solve Engine.exact .standard Levelling.entities [Levelling.constraint]).outcome = .ok s ∧
      s.success = true ∧ s.iterations ≤ 1 ∧
      (s.iterations = 1 → Levelling.problem.Assigns s.params ∧ Levelling.problem.Holds s.params ∧
        ∀ params, Levelling.problem.Assigns params → Levelling.problem.Holds params →
          params ≠ s.params → separation Levelling.problem.params s.params <
            separation Levelling.problem.params params) := by
  have budget : 1 ≤ (Options.standard : Options ℝ).maxIterations := by decide
  have whole : (Options.standard : Options ℝ).minStep ≤ 1 := by
    norm_num [Options.standard, Tolerance.minStep]
  obtain ⟨s, answered, success, bounded, -, nearest⟩ :=
    affine_solves_nearest Exact.standard_check Engine.exact_exact.toExactSteps
      Levelling.prepare_problem Levelling.isAffine (Levelling.losesNothing _) budget whole
      Levelling.consistent
  exact ⟨s, answered, success, bounded, nearest⟩

end PlanarSketch
