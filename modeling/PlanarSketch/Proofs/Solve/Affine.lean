import PlanarSketch.Proofs.Descent.Affine
import PlanarSketch.Proofs.Solve.Report

/-!
# Affine sketches

A sketch is affine when all its driving constraints are bound to affine relations
(`Problem.IsAffine`).  What a solve can do with it is to assign other values to the free
parameters (`Problem.Assigns`); how far it has gone is the Euclidean distance between all
parameters, which is the length of the displacement (`Problem.separation_eq_norm`).

No difference is ever taken for such a sketch, so it has a solution (`Problem.exists_solution`),
and unless it starts below the tolerance its descent is that of the linearised equations
(`Problem.affine_descent`).
-/

namespace PlanarSketch

set_option autoImplicit false

/-- The Euclidean distance of some parameters from others. -/
noncomputable def separation (params moved : Array ℝ) : ℝ :=
  Real.sqrt (∑ i ∈ Finset.range params.size, (moved.getD i 0 - params.getD i 0) ^ 2)

namespace Problem

/-- Parameters that differ from the initial ones at free positions only. -/
structure Assigns (q : Problem ℝ) (params : Array ℝ) : Prop where
  size : params.size = q.params.size
  fixed : ∀ i, i ∉ q.free → params.getD i 0 = q.params.getD i 0

/-- All driving constraints are bound to affine relations, none of which pairs a curve with
itself. -/
def IsAffine (q : Problem ℝ) : Prop :=
  ∀ b ∈ q.blocks, b.constraint.isDriving = true → b.IsAffine

/-- The cutoff of the rank discards no singular value of the initial derivative but zero. -/
structure LosesNothing (q : Problem ℝ) (o : Options ℝ) : Prop where
  lossless : ∀ J,
    finiteMatrix? ((q.driving o.differenceStep).jacobian (.ofArray q.params) q.free) = some J →
      Lossless (tableMap J q.free.length) (Rotation.effective o.rankTolerance)

variable {entities : List (Entity ℝ)} {constraints : List (Constraint ℝ)} {q : Problem ℝ}
variable {engine : Engine ℝ} {o : Options ℝ} {params : Array ℝ}

theorem assigns_self (q : Problem ℝ) : q.Assigns q.params := ⟨rfl, fun _ _ => rfl⟩

theorem IsAffine.driving (affine : q.IsAffine) (step : ℝ) : (q.driving step).Affine := by
  intro b among
  obtain ⟨present, drives⟩ := List.mem_filter.1 among
  exact affine b present drives

/-! ## Free positions -/

theorem nodup_free (prepared : prepare entities constraints = .ok q) : q.free.Nodup := by
  rw [free_of_prepared prepared]
  exact List.Nodup.filter _ List.nodup_range

theorem lt_size_of_free (prepared : prepare entities constraints = .ok q) :
    ∀ i ∈ q.free, i < q.params.size := by
  obtain ⟨-, -, -, params, -⟩ := prepare_eq_ok prepared
  intro i free
  rw [free_of_prepared prepared, freePositions, List.mem_filter, List.mem_range] at free
  have masks := Layout.length_flatMap_maskOf entities
  rw [params]
  exact free.1.trans_eq masks

/-- The distance of an assignment is the length of its displacement. -/
theorem separation_eq_norm (prepared : prepare entities constraints = .ok q)
    (assigns : q.Assigns params) :
    separation q.params params = ‖System.displacement q.free q.params params‖ := by
  have distinct := nodup_free prepared
  have sum : ∑ i ∈ Finset.range q.params.size, (params.getD i 0 - q.params.getD i 0) ^ 2 =
      ((q.free.map fun i => params.getD i 0 - q.params.getD i 0).map fun d => d * d).sum := by
    rw [List.map_map, ← List.sum_toFinset _ distinct]
    refine (Finset.sum_subset ?_ ?_).symm.trans (Finset.sum_congr rfl fun i _ => sq _)
    · intro i free
      exact Finset.mem_range.2 (lt_size_of_free prepared i (List.mem_toFinset.1 free))
    · intro i _ outside
      rw [assigns.fixed i fun free => outside (List.mem_toFinset.2 free), sub_self,
        zero_pow two_ne_zero]
  rw [separation, sum, ← Exact.sumOfSquares_eq_sum, System.displacement,
    ← length_eq_norm (List.length_map _)]
  rfl

/-- An assignment is determined by its displacement. -/
theorem Assigns.ext {other : Array ℝ} (first : q.Assigns params) (second : q.Assigns other)
    (same : System.displacement q.free q.params params =
      System.displacement q.free q.params other) : params = other := by
  have lists := eq_of_vector_eq (List.length_map _) (List.length_map _) same
  rw [List.map_inj_left] at lists
  have values (i : ℕ) : params.getD i 0 = other.getD i 0 := by
    by_cases free : i ∈ q.free
    · exact sub_left_injective (lists i free)
    · rw [first.fixed i free, second.fixed i free]
  refine Array.ext (first.size.trans second.size.symm) fun i inside there => ?_
  have value := values i
  simpa [Array.getD_eq_getD_getElem?, inside, there] using value

/-! ## Solving -/

section Solving

variable (prepared : prepare entities constraints = .ok q) (affine : q.IsAffine)

include prepared affine

theorem tractable (checked : o.check = .ok ()) (exact : engine.ExactSteps)
    (lossless : q.LosesNothing o) : (q.driving o.differenceStep).Tractable engine q.free o where
  affine := affine.driving _
  numbered := distinct_driving prepared _
  distinct := nodup_free prepared
  exact := exact
  checked := checked
  lossless := lossless.lossless _
    ((affine.driving _).finiteMatrix?_jacobian (distinct_driving prepared _) _)

/-- No affine sketch collapses. -/
theorem exists_solution (checked : o.check = .ok ()) :
    ∃ s, (solve engine o entities constraints).outcome = .ok s := by
  refine solve_answers checked prepared ?_
  rintro ⟨b, present, form, -⟩
  rw [(affine.driving _ b present).1.analytic] at form
  cases form

/-- **The descent over an affine sketch solves the linearised equations**, unless it is below the
tolerance from the start. -/
theorem affine_descent (checked : o.check = .ok ()) (exact : engine.ExactSteps)
    (lossless : q.LosesNothing o) (budget : 1 ≤ o.maxIterations) (whole : o.minStep ≤ 1)
    (away : normBelow ((q.driving o.differenceStep).iterate q.params).norm o.tolerance = false) :
    ∃ params, q.Assigns params ∧
      (q.driving o.differenceStep).Nearest q.free (Rotation.effective o.rankTolerance)
        q.params params ∧
      (q.descent engine o).final = (q.driving o.differenceStep).iterate params ∧
      (q.descent engine o).iterations ≤ 1 ∧
      ((q.descent engine o).iterations = 0 → params = q.params) := by
  obtain ⟨params, size, nearest, ends⟩ := Descent.run_affine
    (tractable prepared affine checked exact lossless) (lt_size_of_free prepared) budget whole away
  exact ⟨params, ⟨size, nearest.fixed⟩, nearest, ends⟩

end Solving

end Problem

end PlanarSketch
