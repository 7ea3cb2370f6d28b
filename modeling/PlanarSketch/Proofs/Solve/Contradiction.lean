import PlanarSketch.Proofs.Engine.SingleEquation
import PlanarSketch.Proofs.Solve.Affine

/-!
# Contradictory affine sketches

An affine sketch that cannot be solved up to the tolerance gets the diagnosis that fits
(`affine_diagnosed`).  Its descent ends at a point of least residual after one step at most.  There
the residual is perpendicular to everything that the derivative reaches, so the gradient is zero
and some equation is redundant, and the sketch is over-constrained.  The one exception is an
equation that fails and does not depend on any free parameter, while there are some: then the
diagnosis is that the equations are singular.  Whether the descent has stalled or has used up its
steps makes no difference.

A row of the derivative counts as zero up to a small norm.  Since the entries of affine rows are
halves of whole numbers, no other row is counted (`Block.IsAffine.length_row_le_iff`).
-/

namespace PlanarSketch

set_option autoImplicit false

open Module (finrank)

/-! ## Rows that are zero -/

namespace Block.IsAffine

variable {b : Block ℝ} {k : ℕ} {free : List ℕ}

/-- A row of an affine block that is shorter than the bound for zero rows is zero. -/
theorem length_row_le_iff (affine : b.IsAffine) (inside : k < b.rows) :
    Scalar.length (free.map (b.rate k)) ≤ Tolerance.zeroRow ↔ ∀ j ∈ free, b.rate k j = 0 := by
  constructor
  · intro short j among
    obtain ⟨z, half⟩ := affine.exists_half inside j
    have small := (Exact.abs_le_length (List.mem_map_of_mem among)).trans short
    have bound : |(z : ℝ)| < 1 := by
      rw [half, abs_div] at small
      norm_num [Tolerance.zeroRow] at small
      linarith
    have zero : z = 0 := Int.abs_lt_one_iff.1 (by exact_mod_cast bound)
    rw [half, zero, Int.cast_zero, zero_div]
  · intro zero
    have row : free.map (b.rate k) = List.replicate free.length 0 :=
      List.eq_replicate_iff.2 ⟨List.length_map _, List.forall_mem_map.2 zero⟩
    rw [row, length_eq_norm List.length_replicate, vector_replicate_zero, norm_zero]
    norm_num [Tolerance.zeroRow]

end Block.IsAffine

namespace Problem

variable {q : Problem ℝ} {params : Array ℝ} {b : Block ℝ} {k : ℕ}

/-- An equation of a problem has the same residual at every assignment, and it fails by more than a
tolerance although there are free parameters. -/
def HasDeadEquation (q : Problem ℝ) (tolerance : ℝ) : Prop :=
  q.free ≠ [] ∧ ∃ b ∈ q.blocks, b.constraint.isDriving = true ∧ ∃ k < b.rows, ∃ v,
    tolerance < |v| ∧ ∀ params, q.Assigns params →
      (b.residual (.ofArray params)).getD k none = some v

/-- An equation depends on no free parameter exactly when its row is zero. -/
theorem forall_rate_eq_zero_iff (distinct : q.free.Nodup) (inside : ∀ i ∈ q.free, i < q.params.size)
    (affine : b.IsAffine) (row : k < b.rows) :
    (∀ j ∈ q.free, b.rate k j = 0) ↔
      ∀ params, q.Assigns params → b.gap (.ofArray params) k = b.gap (.ofArray q.params) k := by
  constructor
  · intro zero params assigns
    have nothing : (q.free.map fun i => b.rate k i *
        (Valuation.ofArray params i - Valuation.ofArray q.params i)).sum = 0 := by
      refine List.sum_eq_zero (List.forall_mem_map.2 fun i free => ?_)
      rw [zero i free, zero_mul]
    have change := affine.gap_eq_add_sum (p := .ofArray q.params) (q := .ofArray params) row
      distinct assigns.fixed
    rwa [nothing, add_zero] at change
  · intro same j free
    set other := q.params.setIfInBounds j (q.params.getD j 0 + 1)
    have value (i : ℕ) :
        other.getD i 0 = if i = j then q.params.getD j 0 + 1 else q.params.getD i 0 := by
      rw [Descent.getD_setIfInBounds]
      exact if_congr (and_iff_left (inside j free)) rfl rfl
    have assigns : q.Assigns other := by
      refine ⟨Array.size_setIfInBounds, fun i outside => ?_⟩
      have other : i ≠ j := fun here => outside (here ▸ free)
      rw [value, if_neg other]
    have shifted : Valuation.ofArray other =
        (Valuation.ofArray q.params).update j (q.params.getD j 0 + 1) := funext value
    have change := same other assigns
    rw [shifted, affine.gap_update row] at change
    simpa [Valuation.ofArray] using change

end Problem

/-! ## Diagnoses at a least residual -/

namespace System

variable {s : System ℝ} {free : List ℕ} {params : Array ℝ} {limits : DiagnosisLimits ℝ}

/-- The dead rows of an affine system are its failing equations whose slopes are all zero. -/
theorem Affine.hasDeadRow_iff (affine : s.Affine) (bound : limits.zeroRow = Tolerance.zeroRow)
    (p : Valuation ℝ) :
    Diagnosis.hasDeadRow limits (s.rates free) (s.gaps p) = true ↔
      ∃ b ∈ s.blocks, ∃ k < b.rows, limits.tolerance < |b.gap p k| ∧
        ∀ j ∈ free, b.rate k j = 0 := by
  have sizes : (s.gaps p).length = (s.rates free).length := by rw [length_gaps, length_rates]
  rw [Diagnosis.hasDeadRow, Diagnosis.paired_eq_zip sizes, gaps, rates, List.zip_map', List.any_map,
    List.any_eq_true]
  simp only [Function.comp_apply, Bool.and_eq_true, decide_eq_true_eq, bound]
  constructor
  · rintro ⟨⟨b, k⟩, among, fails, short⟩
    obtain ⟨present, inside⟩ := mem_equations.1 among
    exact ⟨b, present, k, inside, fails, ((affine b present).length_row_le_iff inside).1 short⟩
  · rintro ⟨b, present, k, inside, fails, zero⟩
    exact ⟨(b, k), mem_equations.2 ⟨present, inside⟩, fails,
      ((affine b present).length_row_le_iff inside).2 zero⟩

/-- Where nothing can be lowered the gradient is zero. -/
theorem Still.stationary (still : s.Still free params) (positive : 0 < limits.gradientTolerance) :
    Diagnosis.stationary limits (s.rates free) (s.gaps (.ofArray params)) free.length = true := by
  have sizes : (s.gaps (.ofArray params)).length = (s.rates free).length := by
    rw [length_gaps, length_rates]
  have gradient : (s.slopeMap free).adjoint (s.gapVector free params) = 0 := by
    refine ext_inner_left ℝ fun v => ?_
    rw [LinearMap.adjoint_inner_right, still.perpendicular, inner_zero_right]
  have zero : Scalar.length
      (descentGradient (s.rates free) (s.gaps (.ofArray params)) free.length) = 0 := by
    rw [length_eq_norm length_descentGradient, vector_descentGradient sizes]
    exact norm_eq_zero.2 gradient
  have unit (x : ℝ) : 0 ≤ Scalar.atLeastOne x := by
    unfold Scalar.atLeastOne
    split
    · rename_i large
      exact (zero_lt_one.trans large).le
    · exact zero_le_one
  rw [Diagnosis.stationary, zero]
  simpa using mul_nonneg positive.le (unit _)

/-- Where nothing can be lowered and something is left, some equation is redundant. -/
theorem Still.rank_lt {engine : Engine ℝ} {fraction : ℝ} (still : s.Still free params)
    (left : s.gapVector free params ≠ 0) (exact : engine.Exact) (positive : 0 < fraction) :
    engine.rank (s.rates free) free.length fraction < (s.rates free).length := by
  have dimension := finrank_range_lt left still.perpendicular
  rw [finrank_euclideanSpace_fin] at dimension
  exact (exact.rank_le length_of_mem_rates positive).trans_lt dimension

end System

namespace Problem

variable {entities : List (Entity ℝ)} {constraints : List (Constraint ℝ)} {q : Problem ℝ}
variable {engine : Engine ℝ} {o : Options ℝ} {params : Array ℝ}

/-- The dead rows at an assignment are the dead equations of the problem. -/
theorem hasDeadRow_iff (prepared : prepare entities constraints = .ok q) (affine : q.IsAffine)
    (assigns : q.Assigns params) :
    (q.free.length ≠ 0 ∧ Diagnosis.hasDeadRow o.diagnosisLimits
      ((q.driving o.differenceStep).rates q.free)
        ((q.driving o.differenceStep).gaps (.ofArray params)) = true) ↔
      q.HasDeadEquation o.tolerance := by
  have distinct := nodup_free prepared
  have inside := lt_size_of_free prepared
  rw [(affine.driving _).hasDeadRow_iff rfl, HasDeadEquation, Ne, List.length_eq_zero_iff]
  refine and_congr_right fun _ => ⟨?_, ?_⟩
  · rintro ⟨b, among, k, row, fails, zero⟩
    obtain ⟨present, drives⟩ := List.mem_filter.1 among
    have linear := affine b present drives
    have same := (forall_rate_eq_zero_iff distinct inside linear row).1 zero
    refine ⟨b, present, drives, k, row, b.gap (.ofArray params) k, fails, fun other assigns' => ?_⟩
    rw [linear.getD_residual row, same other assigns', same params assigns]
  · rintro ⟨b, present, drives, k, row, v, fails, constant⟩
    have linear := affine b present drives
    have value (other : Array ℝ) (assigns' : q.Assigns other) : b.gap (.ofArray other) k = v := by
      rw [Block.gap, constant other assigns', Option.getD_some]
    refine ⟨b, List.mem_filter.2 ⟨present, drives⟩, k, row, ?_, ?_⟩
    · rw [value params assigns]
      exact fails
    · refine (forall_rate_eq_zero_iff distinct inside linear row).2 fun other assigns' => ?_
      rw [value other assigns', value q.params q.assigns_self]

/-- At a least residual that is not zero, the diagnosis of an affine sketch tells whether it has a
dead equation. -/
theorem status_of_still (prepared : prepare entities constraints = .ok q) (affine : q.IsAffine)
    (checked : o.check = .ok ()) (exact : engine.Exact) (assigns : q.Assigns params)
    (still : (q.driving o.differenceStep).Still q.free params)
    (left : (q.driving o.differenceStep).gapVector q.free params ≠ 0) {d : Descent ℝ}
    (final : d.final = (q.driving o.differenceStep).iterate params)
    (away : normBelow d.final.norm o.tolerance = false) {diagnosis : Diagnosis}
    (diagnosed : q.diagnose engine o d = .ok diagnosis) :
    (q.HasDeadEquation o.tolerance → diagnosis.status = .numericallySingular) ∧
      (¬q.HasDeadEquation o.tolerance → diagnosis.status = .overConstrained) := by
  have linear := affine.driving o.differenceStep
  have positive := Options.positive_of_check checked
  obtain ⟨stalled, J, -, classified⟩ := diagnose_eq_ok diagnosed
  have matrix : finiteMatrix? (q.finalState o d stalled).jacobian =
      some ((q.driving o.differenceStep).rates q.free) :=
    linear.finiteMatrix?_jacobian (distinct_driving prepared _) _
  obtain rfl := Option.some.inj (classified.matrix.symm.trans matrix)
  have residual : allFinite? (q.finalState o d stalled).residual =
      some ((q.driving o.differenceStep).gaps (.ofArray params)) := by
    rw [finalState, final]
    exact linear.allFinite?_residuals _
  have minimal : Diagnosis.stationary o.diagnosisLimits
      ((q.driving o.differenceStep).rates q.free)
      ((q.driving o.differenceStep).gaps (.ofArray params))
      (q.finalState o d stalled).width = true :=
    still.stationary positive.gradientTolerance
  have deficient : diagnosis.rank < ((q.driving o.differenceStep).rates q.free).length := by
    rw [classified.rank]
    exact still.rank_lt left exact positive.rankTolerance
  -- The descent has not converged, the gradient is zero and the rank is deficient, so only the
  -- test for a dead row is left open.
  rw [(classified.unsolved away).status_of_minimal residual minimal deficient]
  have dead := hasDeadRow_iff (o := o) prepared affine assigns
  refine ⟨fun present => if_pos (dead.2 present), fun absent => if_neg fun found => ?_⟩
  exact absent (dead.1 found)

end Problem

/-! ## A circle with two radii -/

namespace TwoRadii

/-- A circle of radius one. -/
noncomputable def entities : List (Entity ℝ) := [Exact.entity 0 (.circle 0 0 1)]

/-- The demand that the circle has some radius. -/
noncomputable def constraint (id : Int) (target : ℝ) : Constraint ℝ :=
  ⟨.whole id, .radius, [0], some target, [], .of true⟩

/-- The demand, bound to the circle. -/
noncomputable def block (id : Int) (target : ℝ) : Block ℝ :=
  ⟨constraint id target, .radius ⟨0, 0⟩ target, [0, 1, 2]⟩

/-- Two demands on the radius. -/
noncomputable def constraints (first second : ℝ) : List (Constraint ℝ) :=
  [constraint 0 first, constraint 1 second]

/-- The problem of the circle and both demands. -/
noncomputable def problem (first second : ℝ) : Problem ℝ :=
  ⟨Layout.tiling entities, flat entities, [block 0 first, block 1 second], [0, 1, 2]⟩

variable {first second : ℝ}

theorem compile_constraint (id : Int) {target : ℝ} (positive : 0 < target) :
    Block.compile entities (Layout.tiling entities) (.ofArray (flat entities))
      (constraint id target) = .ok (block id target) := by
  have checked : (constraint id target).check = .ok () := by
    change (constraint id target).checkValue = .ok ()
    simp [Constraint.checkValue, constraint, ConstraintKind.valueRule, not_le.2 positive]
  have found : Block.placesOf (constraint id target) entities (Layout.tiling entities) =
      .ok [⟨0, .circle, 0⟩] := rfl
  exact Block.compile_of_steps checked found rfl (List.forall_mem_nil _)

theorem prepare_problem (positive : 0 < first) (positive' : 0 < second) :
    Problem.prepare entities (constraints first second) = .ok (problem first second) := by
  have distinct : (entities.map Entity.id).Nodup := List.nodup_singleton _
  have numbered : ((constraints first second).map Constraint.id).Nodup := by
    change ([0, 1] : List Int).Nodup
    decide
  exact Problem.prepare_of_compiled distinct numbered (Outcome.mapM_eq_ok.2
    (.cons (compile_constraint 0 positive) (.cons (compile_constraint 1 positive') .nil)))

theorem isAffine : (problem first second).IsAffine := by
  intro b present _
  rcases List.mem_pair.1 present with rfl | rfl
  · exact ⟨trivial, not_false⟩
  · exact ⟨trivial, not_false⟩

/-- Both equations have the same slopes, so their derivative reaches a line only. -/
theorem losesNothing (positive : 0 < first) (positive' : 0 < second) (o : Options ℝ) :
    (problem first second).LosesNothing o := by
  refine ⟨fun J finite => ?_⟩
  rw [(isAffine.driving _).finiteMatrix?_jacobian
    (Problem.distinct_driving (prepare_problem positive positive') _)] at finite
  refine lossless_of_finrank_range_le_one (Rotation.effective_lt_one _) ?_
  rw [← Option.some.inj finite]
  exact finrank_range_le_one_of_rows
    (List.forall_mem_cons.2 ⟨rfl, List.forall_mem_singleton.2 rfl⟩)

/-- No radius is one and two. -/
theorem contradictory (params : Array ℝ) :
    normBelow (((problem 1 2).driving Options.standard.differenceStep).iterate params).norm
      Options.standard.tolerance = false := by
  set r := params.getD 2 0
  have norm : (((problem 1 2).driving Options.standard.differenceStep).iterate params).norm =
      some (Scalar.length [r - 1, r - 2]) := by
    have rows :
        ((problem 1 2).driving Options.standard.differenceStep).residuals (.ofArray params) =
          [r - 1, r - 2].map some := rfl
    exact residualNorm?_eq_some.2 ⟨_, rows, rfl⟩
  have far : 1 / 2 ≤ |r - 1| ∨ 1 / 2 ≤ |r - 2| := by
    by_contra near
    rw [not_or, not_le, not_le, abs_lt, abs_lt] at near
    linarith [near.1.2, near.2.1]
  have long : 1 / 2 ≤ Scalar.length [r - 1, r - 2] := by
    rcases far with first | second
    · exact first.trans (Exact.abs_le_length (by simp))
    · exact second.trans (Exact.abs_le_length (by simp))
  rw [norm, Bool.eq_false_iff, Ne, normBelow_iff]
  rintro ⟨n, same, below⟩
  cases same
  norm_num [Options.standard, Tolerance.solved] at below
  linarith

/-- The radius is free and both equations depend on it. -/
theorem not_hasDeadEquation (tolerance : ℝ) :
    ¬(problem first second).HasDeadEquation tolerance := by
  rintro ⟨-, b, present, -, k, inside, v, -, constant⟩
  have assigns (r : ℝ) : (problem first second).Assigns #[0, 0, r] := by
    refine ⟨rfl, fun i outside => ?_⟩
    change i ∉ [0, 1, 2] at outside
    match i with
    | 0 | 1 | 2 => exact absurd (by decide) outside
    | _ + 3 => rfl
  have zero := constant _ (assigns 0)
  have one := constant _ (assigns 1)
  have impossible (target : ℝ) (zero : some (0 - target) = some v)
      (one : some (1 - target) = some v) : False := by
    have same := (Option.some.inj zero).trans (Option.some.inj one).symm
    linarith
  rcases List.mem_pair.1 present with rfl | rfl
  · cases Nat.lt_one_iff.1 inside
    exact impossible _ zero one
  · cases Nat.lt_one_iff.1 inside
    exact impossible _ zero one

end TwoRadii

/-! ## Solving -/

variable {engine : Engine ℝ} {o : Options ℝ} {entities : List (Entity ℝ)}
variable {constraints : List (Constraint ℝ)} {q : Problem ℝ}

/-- **Contradictory affine sketches get the right diagnosis.**  Let the driving constraints of a
prepared problem be affine, let the engine be exact, and let the cutoff of the rank discard no
singular value but zero.  If no assignment of the free parameters brings the residual norm below the
tolerance, then the solve fails after one step at most, at an assignment of least residual norm.
The sketch is numerically singular when there are free parameters and some driving equation, on
which none of them has any influence, fails by more than the tolerance; in every other case it is
over-constrained. -/
theorem affine_diagnosed (checked : o.check = .ok ()) (exact : engine.Exact)
    (prepared : Problem.prepare entities constraints = .ok q) (affine : q.IsAffine)
    (lossless : q.LosesNothing o) (budget : 1 ≤ o.maxIterations) (whole : o.minStep ≤ 1)
    (contradictory : ∀ params, q.Assigns params →
      normBelow ((q.driving o.differenceStep).iterate params).norm o.tolerance = false) :
    ∃ s, (solve engine o entities constraints).outcome = .ok s ∧ s.success = false ∧
      s.iterations ≤ 1 ∧ q.Assigns s.params ∧
      (∃ least, ((q.driving o.differenceStep).iterate s.params).norm = some least ∧
        ∀ params, q.Assigns params →
          ∃ n, ((q.driving o.differenceStep).iterate params).norm = some n ∧ least ≤ n) ∧
      (q.HasDeadEquation o.tolerance → s.diagnosis.status = .numericallySingular) ∧
      (¬q.HasDeadEquation o.tolerance → s.diagnosis.status = .overConstrained) := by
  have linear := affine.driving o.differenceStep
  have positive := Options.positive_of_check checked
  have distinct := Problem.nodup_free prepared
  obtain ⟨s, answered⟩ : ∃ s, (solve engine o entities constraints).outcome = .ok s :=
    Problem.exists_solution prepared affine checked
  refine ⟨s, answered, ?_⟩
  rw [solve_outcome, prepared] at answered
  obtain ⟨diagnosis, diagnosed, -, rfl⟩ := Problem.conclude_eq_ok_iff.1 answered
  obtain ⟨params, assigns, nearest, final, bounded, -⟩ :=
    Problem.affine_descent prepared affine checked exact.toExactSteps lossless budget whole
      (contradictory q.params q.assigns_self)
  have tractable := Problem.tractable prepared affine checked exact.toExactSteps lossless
  have still := tractable.still nearest
  have away : normBelow (q.descent engine o).final.norm o.tolerance = false := by
    rw [final]
    exact contradictory params assigns
  -- Something is left, since a residual of zero is below every tolerance.
  have left : (q.driving o.differenceStep).gapVector q.free params ≠ 0 := by
    intro zero
    have below :
        normBelow ((q.driving o.differenceStep).iterate params).norm o.tolerance = true := by
      rw [linear.norm_eq q.free, zero, norm_zero]
      exact normBelow_iff.2 ⟨0, rfl, positive.tolerance⟩
    rw [contradictory params assigns] at below
    cases below
  have reached : (q.descent engine o).final.params = params := by rw [final]; rfl
  refine ⟨away, bounded, ?_, ?_, Problem.status_of_still prepared affine checked exact assigns still
    left final away diagnosed⟩
  · change q.Assigns (q.descent engine o).final.params
    rwa [reached]
  · change ∃ least, ((q.driving o.differenceStep).iterate (q.descent engine o).final.params).norm =
      some least ∧ _
    rw [reached]
    refine ⟨_, linear.norm_eq q.free params, fun other assigns' => ?_⟩
    refine ⟨_, linear.norm_eq q.free other, ?_⟩
    exact still.norm_le linear distinct fun i outside =>
      (assigns'.fixed i outside).trans (assigns.fixed i outside).symm

/-- A circle that shall have two radii is over-constrained. -/
theorem affine_diagnosed_two_radii :
    ∃ s, (solve Engine.exact .standard TwoRadii.entities
        (TwoRadii.constraints 1 2)).outcome = .ok s ∧
      s.success = false ∧ s.iterations ≤ 1 ∧ s.diagnosis.status = .overConstrained := by
  have budget : 1 ≤ (Options.standard : Options ℝ).maxIterations := by decide
  have whole : (Options.standard : Options ℝ).minStep ≤ 1 := by
    norm_num [Options.standard, Tolerance.minStep]
  obtain ⟨s, answered, failure, bounded, -, -, -, verdict⟩ :=
    affine_diagnosed Exact.standard_check Engine.exact_exact
      (TwoRadii.prepare_problem one_pos two_pos) TwoRadii.isAffine
      (TwoRadii.losesNothing one_pos two_pos _) budget whole
      fun params _ => TwoRadii.contradictory params
  exact ⟨s, answered, failure, bounded, verdict (TwoRadii.not_hasDeadEquation _)⟩

end PlanarSketch
