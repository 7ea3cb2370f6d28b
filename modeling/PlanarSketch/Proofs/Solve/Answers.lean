import PlanarSketch.Engine.Rotation
import PlanarSketch.Proofs.Descent.Progress
import PlanarSketch.Proofs.Solve.Blocks
import PlanarSketch.Proofs.Solve.Conclusion

/-!
# When a solve has an answer

A solve is meant to answer whatever the geometry does: that it does not arrive shall show in
the diagnosis.  Over exact numbers it keeps that promise except in one case.  A derivative
by differences is taken between points beside the one that the descent has reached, and a
line that is about as short as a difference is wide can collapse there, although every
residual at the point itself is defined.  The derivative is undefined then, and the solve
is refused.

That case is the only one (`solve_answers_iff`): a prepared problem with checked options is
answered exactly when the system does not collapse near the end of its descent.  A point
at the start of a line that is as long as a difference is wide shows that the case occurs,
even for a sketch that is solved from the start (`solve_refuses_short_line`).
-/

namespace PlanarSketch

set_option autoImplicit false

open Outcome

namespace Problem

variable {entities : List (Entity ℝ)} {constraints : List (Constraint ℝ)} {q : Problem ℝ}

theorem nodup_positions (prepared : prepare entities constraints = .ok q) (step : ℝ) :
    ∀ b ∈ (q.driving step).blocks, b.positions.Nodup := by
  intro b present
  obtain ⟨-, -, -, -, compiled⟩ := prepare_eq_ok prepared
  obtain ⟨c, -, made⟩ := exists_of_mem_mapM compiled (List.mem_of_mem_filter present)
  exact Block.nodup_positions made

/-- No block is undefined to begin with. -/
theorem definedAt_start (prepared : prepare entities constraints = .ok q) :
    ∀ b ∈ q.blocks, b.DefinedAt (.ofArray q.params) := by
  obtain ⟨distinct, -, -, params, compiled⟩ := prepare_eq_ok prepared
  intro b present
  obtain ⟨c, -, made⟩ := exists_of_mem_mapM compiled present
  rw [params]
  exact Block.definedAt_of_compiled distinct made

/-- A descent starts at a point that has a norm. -/
theorem start_norm (prepared : prepare entities constraints = .ok q) (step : ℝ) :
    ((q.driving step).iterate q.params).norm ≠ none :=
  System.norm_ne_none_iff.2 fun b present =>
    definedAt_start prepared b (List.mem_of_mem_filter present)

/-- Whether a line collapses beside the point at which the descent over a problem ends. -/
def CollapsesAtEnd (q : Problem ℝ) (engine : Engine ℝ) (o : Options ℝ) : Prop :=
  (q.driving o.differenceStep).Collapses q.free (.ofArray (q.descent engine o).final.params)

/-- Nothing collapses where all derivatives are in closed form. -/
theorem not_collapsesAtEnd_of_closed {q : Problem ℝ}
    (closed : ∀ b ∈ q.blocks, b.relation.analytic = true) (engine : Engine ℝ) (o : Options ℝ) :
    ¬q.CollapsesAtEnd engine o := by
  rintro ⟨b, present, numeric, -⟩
  rw [closed b (List.mem_of_mem_filter present)] at numeric
  cases numeric

end Problem

/-! ## A point at the start of a line -/

namespace Incidence

/-- A point at the start of a horizontal line of some length. -/
noncomputable def entities (length : ℝ) : List (Entity ℝ) :=
  [Exact.entity 0 (.point 0 0), Exact.entity 1 (.line 0 0 length 0)]

/-- The demand that the point lies on the line. -/
noncomputable def constraint : Constraint ℝ := ⟨.whole 0, .pointOnLine, [0, 1], none, [], .of true⟩

/-- The demand, bound to the two entities. -/
noncomputable def block : Block ℝ :=
  ⟨constraint, .onLine ⟨0, 0, .point, .own⟩ ⟨1, 2⟩, [0, 1, 2, 3, 4, 5]⟩

/-- The problem of the two entities and the demand. -/
noncomputable def problem (length : ℝ) : Problem ℝ :=
  ⟨Layout.tiling (entities length), flat (entities length), [block], [0, 1, 2, 3, 4, 5]⟩

variable {length : ℝ}

theorem flat_entities : flat (entities length) = #[0, 0, 0, 0, length, 0] := rfl

theorem straight (long : Tolerance.geometry < length) :
    ¬Scalar.hypot length 0 ≤ (Tolerance.geometry : ℝ) :=
  Exact.not_hypot_le (long.trans_le (le_abs_self length))

theorem compile_constraint (long : Tolerance.geometry < length) (p : Valuation ℝ) :
    Block.compile (entities length) (Layout.tiling (entities length)) p constraint = .ok block := by
  have found : Block.placesOf constraint (entities length) (Layout.tiling (entities length)) =
      .ok [⟨0, .point, 0⟩, ⟨1, .line, 2⟩] := rfl
  have sound : (Exact.entity 1 (.line 0 0 length 0)).degeneracy? Tolerance.geometry = none := by
    rw [Entity.degeneracy?, Exact.entity, Shape.degeneracy?, sub_zero, sub_zero,
      if_neg (straight long)]
  exact Block.compile_of_steps rfl found rfl
    (List.forall_mem_singleton.2 (Block.checkShape_of_found rfl sound))

theorem prepare_problem (long : Tolerance.geometry < length) :
    Problem.prepare (entities length) [constraint] = .ok (problem length) := by
  have distinct : ((entities length).map Entity.id).Nodup := by
    change ([0, 1] : List Int).Nodup
    decide
  have numbered : ([constraint].map Constraint.id).Nodup := by
    change ([0] : List Int).Nodup
    decide
  exact Problem.prepare_of_compiled distinct numbered
    (mapM_eq_ok.2 (.cons (compile_constraint long _) .nil))

/-- The point lies on the line from the start. -/
theorem residual_block (long : Tolerance.geometry < length) :
    block.residual (.ofArray (flat (entities length))) = [some 0] := by
  simp [Block.residual, Relation.residualRows, block, Relation.residual, LineSite.signedDistance?,
    LineSite.direction, PointSite.xy, PointSite.angleIndex?, PointSite.coordinateIndex,
    Valuation.ofArray, flat_entities, tooShort, straight long]

theorem norm_start (long : Tolerance.geometry < length) (step : ℝ) :
    (((problem length).driving step).iterate (problem length).params).norm = some 0 := by
  change residualNorm? (block.residual (.ofArray (flat (entities length))) ++ []) = some 0
  rw [residual_block long]
  simp [residualNorm?, allFinite?, Scalar.length, Scalar.sumOfSquares]

/-- The descent ends where it starts. -/
theorem final_descent (engine : Engine ℝ) (long : Tolerance.geometry < length) :
    ((problem length).descent engine .standard).final.params = flat (entities length) := by
  have arrived : normBelow (((problem length).driving Options.standard.differenceStep).iterate
      (problem length).params).norm Options.standard.tolerance = true := by
    rw [norm_start long]
    norm_num [normBelow, Options.standard, Tolerance.solved]
  rw [Problem.descent, Descent.final_run_of_arrived _ _ _ _ arrived]
  rfl

/-- Whether the line has collapsed is seen on its direction alone. -/
theorem flat_block_iff (p : Valuation ℝ) :
    block.Flat p ↔ Scalar.hypot (p 4 - p 2) (p 5 - p 3) ≤ (Tolerance.geometry : ℝ) := by
  simp [Block.Flat, block, Relation.divisors, LineSite.length, LineSite.direction]

/-- The coordinates are at most one, so all differences are as wide as the step. -/
theorem collapsesAtEnd_iff (engine : Engine ℝ) (long : Tolerance.geometry < length)
    (short : length ≤ 1) :
    (problem length).CollapsesAtEnd engine .standard ↔
      ∃ i ∈ block.positions, ∃ x, |x - Valuation.ofArray (flat (entities length)) i| =
          Tolerance.difference ∧
        block.Flat ((Valuation.ofArray (flat (entities length))).update i x) := by
  have positive : 0 < (Tolerance.difference : ℝ) := by norm_num [Tolerance.difference]
  have width : ∀ i ∈ block.positions, Block.differenceStep Tolerance.difference
      (Valuation.ofArray (flat (entities length))) i = Tolerance.difference := by
    intro i among
    have small : |Valuation.ofArray (flat (entities length)) i| ≤ 1 := by
      have nonneg : 0 ≤ length := by
        refine le_trans ?_ long.le
        norm_num [Tolerance.geometry]
      fin_cases among <;> simp [Valuation.ofArray, flat_entities, abs_of_nonneg nonneg, short]
    have unit : Scalar.atLeastOne (Scalar.abs (Valuation.ofArray (flat (entities length)) i)) = 1 :=
      if_neg (not_lt.2 small)
    rw [Block.differenceStep, unit, mul_one]
  rw [Problem.CollapsesAtEnd, final_descent engine long]
  constructor
  · rintro ⟨b, present, -, i, among, -, beside⟩
    cases List.mem_singleton.1 present
    change block.FlatBeside Tolerance.difference _ i at beside
    rw [Block.FlatBeside, width i among] at beside
    rcases beside with above | below
    · exact ⟨i, among, _, by rw [add_sub_cancel_left, abs_of_pos positive], above⟩
    · exact ⟨i, among, _, by rw [sub_sub_cancel_left, abs_neg, abs_of_pos positive], below⟩
  · rintro ⟨i, among, x, near, flat⟩
    refine ⟨block, List.mem_singleton_self _, rfl, i, among, among, ?_⟩
    change block.FlatBeside Tolerance.difference _ i
    rw [Block.FlatBeside, width i among]
    rcases abs_eq positive.le |>.1 near with above | below
    · exact .inl (by rwa [← above, add_sub_cancel])
    · refine .inr ?_
      rwa [sub_eq_add_neg, ← below, add_sub_cancel]

/-- A difference in the end of the line leads to its start. -/
theorem collapsesAtEnd_of_short (engine : Engine ℝ) :
    (problem Tolerance.difference).CollapsesAtEnd engine .standard := by
  refine (collapsesAtEnd_iff engine ?_ ?_).2 ⟨4, by decide, 0, ?_, ?_⟩
  · norm_num [Tolerance.geometry, Tolerance.difference]
  · norm_num [Tolerance.difference]
  · norm_num [Valuation.ofArray, flat_entities, Tolerance.difference]
  · rw [flat_block_iff]
    simp [Valuation.update, Valuation.ofArray, flat_entities, Exact.hypot]
    norm_num [Tolerance.geometry]

/-- No difference takes away more than half of a line of length one. -/
theorem not_collapsesAtEnd_of_long (engine : Engine ℝ) :
    ¬(problem 1).CollapsesAtEnd engine .standard := by
  have long : (Tolerance.geometry : ℝ) < 1 := by norm_num [Tolerance.geometry]
  rw [collapsesAtEnd_iff engine long le_rfl]
  rintro ⟨i, among, x, near, flat⟩
  have bounds : |x - Valuation.ofArray (PlanarSketch.flat (entities 1)) i| ≤ 1 / 2 := by
    rw [near]
    norm_num [Tolerance.difference]
  obtain ⟨least, most⟩ := abs_le.1 bounds
  have half : (Tolerance.geometry : ℝ) < 1 / 2 := by norm_num [Tolerance.geometry]
  refine Exact.not_hypot_le (half.trans_le (le_trans ?_ (le_abs_self _)))
    ((flat_block_iff _).1 flat)
  -- The first component of the direction depends on the positions 2 and 4 alone.
  fin_cases among
  all_goals
    norm_num [Valuation.update, Valuation.ofArray, flat_entities] at least most ⊢
  all_goals linarith

end Incidence

/-! ## Answers -/

variable {engine : Engine ℝ} {o : Options ℝ} {entities : List (Entity ℝ)}
variable {constraints : List (Constraint ℝ)} {q : Problem ℝ}

/-- Without a collapse at the end of the descent there is an answer. -/
theorem solve_answers (checked : o.check = .ok ())
    (prepared : Problem.prepare entities constraints = .ok q)
    (sound : ¬q.CollapsesAtEnd engine o) :
    ∃ s, (solve engine o entities constraints).outcome = .ok s := by
  have distinct := Problem.distinct_driving prepared o.differenceStep
  have positions := Problem.nodup_positions prepared o.differenceStep
  have walked := Descent.run_walked engine (q.driving o.differenceStep) q.free o q.params
  have ready : q.Concludable o (q.descent engine o) := by
    refine ⟨fun cause failed => ?_, System.checkJacobian_eq_ok _ _ distinct, ?_,
      System.checkResiduals_eq_ok _ _⟩
    · exact sound (walked.collapses_of_failed checked distinct positions rfl
        (Problem.start_norm prepared _) failed).1
    · rw [← Option.ne_none_iff_exists', Ne, finiteMatrix?_jacobian_eq_none_iff distinct positions]
      exact sound
  obtain ⟨s, concluded⟩ := Problem.exists_conclude ready
  exact ⟨s, by rw [solve_outcome, prepared]; exact concluded⟩

/-- With a collapse at the end of the descent there is none, however good that end is. -/
theorem solve_refuses (checked : o.check = .ok ())
    (prepared : Problem.prepare entities constraints = .ok q)
    (collapse : q.CollapsesAtEnd engine o) :
    (solve engine o entities constraints).outcome = .error .nonFiniteMatrix := by
  have distinct := Problem.distinct_driving prepared o.differenceStep
  have positions := Problem.nodup_positions prepared o.differenceStep
  have walked := Descent.run_walked engine (q.driving o.differenceStep) q.free o q.params
  rw [solve_outcome, prepared]
  by_cases failed : ∃ cause, (q.descent engine o).ending = .failed cause
  · obtain ⟨cause, failed⟩ := failed
    obtain ⟨-, rfl⟩ := walked.collapses_of_failed checked distinct positions rfl
      (Problem.start_norm prepared _) failed
    exact Problem.conclude_of_failed failed
  · exact Problem.conclude_of_undefined (fun cause failure => failed ⟨cause, failure⟩)
      (System.checkJacobian_eq_ok _ _ distinct)
      ((finiteMatrix?_jacobian_eq_none_iff distinct positions).2 collapse)

/-- **A solve answers exactly when no line collapses beside the end of its descent.**  For any
engine, any checked options and any problem that can be prepared: there is a solution if and only
if the differences that the derivative at the end of the descent is made of are all defined, and
otherwise the solve is refused because the derivative is not. -/
theorem solve_answers_iff (checked : o.check = .ok ())
    (prepared : Problem.prepare entities constraints = .ok q) :
    ((∃ s, (solve engine o entities constraints).outcome = .ok s) ↔ ¬q.CollapsesAtEnd engine o) ∧
      (q.CollapsesAtEnd engine o →
        (solve engine o entities constraints).outcome = .error .nonFiniteMatrix) := by
  refine ⟨⟨?_, solve_answers checked prepared⟩, solve_refuses checked prepared⟩
  rintro ⟨s, answered⟩ collapse
  rw [solve_refuses checked prepared collapse] at answered
  cases answered

/-- **A solve can be refused although the sketch is solved.**  The point lies on the line, but the
line is as long as a difference is wide. -/
theorem solve_refuses_short_line :
    (Options.standard : Options ℝ).check = .ok () ∧
      Problem.prepare (Incidence.entities Tolerance.difference) [Incidence.constraint] =
        .ok (Incidence.problem Tolerance.difference) ∧
      (solve Rotation.engine .standard (Incidence.entities Tolerance.difference)
        [Incidence.constraint]).outcome = .error .nonFiniteMatrix := by
  have prepared : Problem.prepare (Incidence.entities Tolerance.difference) [Incidence.constraint] =
      .ok (Incidence.problem Tolerance.difference) :=
    Incidence.prepare_problem (by norm_num [Tolerance.geometry, Tolerance.difference])
  exact ⟨Exact.standard_check, prepared,
    solve_refuses Exact.standard_check prepared (Incidence.collapsesAtEnd_of_short _)⟩

/-- The same point on a line of length one is answered. -/
theorem solve_answers_long_line :
    (Options.standard : Options ℝ).check = .ok () ∧
      Problem.prepare (Incidence.entities 1) [Incidence.constraint] = .ok (Incidence.problem 1) ∧
      ∃ s, (solve Rotation.engine .standard (Incidence.entities 1)
        [Incidence.constraint]).outcome = .ok s := by
  have prepared : Problem.prepare (Incidence.entities 1) [Incidence.constraint] =
      .ok (Incidence.problem 1) :=
    Incidence.prepare_problem (by norm_num [Tolerance.geometry])
  exact ⟨Exact.standard_check, prepared, (solve_answers_iff Exact.standard_check prepared).1.2
    (Incidence.not_collapsesAtEnd_of_long Rotation.engine)⟩

end PlanarSketch
