import PlanarSketch.Proofs.Descent.Monotone
import PlanarSketch.Proofs.System.Norms

/-!
# Descents over exact numbers

Over exact numbers a descent can fail in one way only.  No angle is beyond all numbers, so
everything can be evaluated everywhere; damping shortens a step below any length, so every
search comes to an end (`Descent.search_ends`); and a residual that is defined at the start
stays defined (`Descent.Walked.visited_norm`).  What is left is a derivative that is
undefined (`Descent.direction_eq_error`), so a walk that fails has come to a point where the system
collapses (`Descent.Walked.collapses_of_failed`).
-/

namespace PlanarSketch

set_option autoImplicit false

/-! ## Lengths of steps -/

/-- All tolerances and steps are positive. -/
structure Options.Positive (o : Options ℝ) : Prop where
  tolerance : 0 < o.tolerance
  minStep : 0 < o.minStep
  rankTolerance : 0 < o.rankTolerance
  differenceStep : 0 < o.differenceStep
  gradientTolerance : 0 < o.gradientTolerance

theorem Options.positive_of_check {o : Options ℝ} (checked : o.check = .ok ()) : o.Positive := by
  obtain ⟨-, tolerance, minStep, rankTolerance, differenceStep, gradientTolerance⟩ :=
    Options.check_eq_ok.1 checked
  exact ⟨tolerance, minStep, rankTolerance, differenceStep, gradientTolerance⟩

theorem Options.damped_eq_pow (o : Options ℝ) (k : Nat) : o.damped 1 k = o.damping ^ k := by
  induction k with
  | zero => exact (pow_zero _).symm
  | succ k ih => rw [Options.damped, ih, pow_succ]

theorem Exact.shrinking : Scalar.Shrinking ℝ where
  trans _ _ _ := le_trans
  one_nonneg := zero_le_one
  damped_nonneg _ _ nonneg positive _ := mul_nonneg nonneg positive.le
  damped_le _ _ nonneg _ small := mul_le_of_le_one_right nonneg small.le

namespace System

variable (s : System ℝ) (p : Valuation ℝ)

/-- No exact angle is beyond all numbers. -/
theorem endless_eq_false (a : PointSite) : a.endless p = false := by
  unfold PointSite.endless
  split
  · simp
  · rfl

theorem checkResiduals_eq_ok : s.checkResiduals p = .ok () := by
  have calm : (s.blocks.any fun b => b.endless p) = false := by
    simp [Block.endless, endless_eq_false]
  rw [checkResiduals, calm]
  rfl

/-- Where identifiers differ, every block has the rows that it needs. -/
theorem checkJacobian_eq_ok (distinct : (s.blocks.map Block.id).Nodup) :
    s.checkJacobian p = .ok () := by
  refine Outcome.forM_eq_ok.2 ?_
  intro b present
  obtain ⟨before, after, split⟩ := List.append_of_mem present
  have range := rowsOf_split distinct split
  split
  · have fits : height before + b.rows ≤ s.rows := by
      change height before + b.rows ≤ height s.blocks
      rw [split, height_append, height_cons]
      omega
    rw [checkClosed, range, if_pos fits]
  · have calm : b.endlessNearby s.step p = false := by
      simp [Block.endlessNearby, Block.endless, endless_eq_false]
    simp [checkNumeric, range, calm]

end System

namespace Descent

variable {engine : Engine ℝ} {s : System ℝ} {free : List Nat} {o : Options ℝ}
variable {budget : Nat} {it : Iterate ℝ} {steps : List (Step ℝ)} {ending : Ending ℝ}

/-- A search over exact numbers is not interrupted: it depends on which fractions help. -/
theorem search_eq_ite (s : System ℝ) (free : List Nat) (o : Options ℝ) (it : Iterate ℝ)
    (step : List ℝ) (fraction : ℝ) :
    search s free o it step fraction =
      if o.minStep ≤ fraction then
        if improves (trial s free it step fraction).norm it.norm = true then
          .found ⟨fraction, trial s free it step fraction⟩
        else if o.countdown (fraction * o.damping) < o.countdown fraction then
          search s free o it step (fraction * o.damping)
        else .failed .endlessSearch
      else .tooShort := by
  conv_lhs => rw [search]
  simp only [s.checkResiduals_eq_ok]
  rfl

/-- **Every search comes to an end** and finds a step or steps that are too short. -/
theorem search_ends (checked : o.check = .ok ()) (step : List ℝ) (cause : Fault ℝ) :
    search s free o it step 1 ≠ .failed cause := by
  intro failed
  obtain ⟨-, small⟩ := Options.damping_of_check checked
  rcases (search_searched s free o it step 1).failed_spec failed with
    ⟨params, refusal⟩ | ⟨k, long, same, -⟩
  · rw [s.checkResiduals_eq_ok] at refusal
    cases refusal
  · exact same (Exact.countdown_lt (Options.positive_of_check checked).minStep small long)

/-- A point with a norm has a residual that is defined. -/
theorem allFinite?_of_norm (evaluated : it = s.iterate it.params) (norm : it.norm ≠ none) :
    allFinite? it.residual ≠ none := by
  rw [evaluated] at norm ⊢
  rw [Ne, allFinite?_eq_none_iff]
  exact fun missing => norm (residualNorm?_eq_none_iff.2 missing)

/-- A direction cannot be computed where the system collapses, and only there. -/
theorem direction_eq_error (distinct : (s.blocks.map Block.id).Nodup)
    (positions : ∀ b ∈ s.blocks, b.positions.Nodup) (evaluated : it = s.iterate it.params)
    (norm : it.norm ≠ none) (cause : Fault ℝ) :
    direction engine s free o it = .error cause ↔
      s.Collapses free (.ofArray it.params) ∧ cause = .nonFiniteMatrix := by
  rw [direction, s.checkJacobian_eq_ok _ distinct]
  dsimp only
  split
  · rename_i trivial
    refine iff_of_false (fun refusal => by cases refusal) ?_
    rintro ⟨⟨b, present, -, i, -, column, -⟩, -⟩
    rcases trivial with empty | empty
    · obtain ⟨before, after, split⟩ := List.append_of_mem present
      have inside : 0 < b.rows := b.relation.rows_pos
      change System.height s.blocks = 0 at empty
      rw [split, System.height_append, System.height_cons] at empty
      omega
    · rw [empty] at column
      cases column
  · rw [← finiteMatrix?_jacobian_eq_none_iff distinct positions]
    cases finiteMatrix? (s.jacobian (.ofArray it.params) free) with
    | none => simp [eq_comm]
    | some J =>
        cases residual : allFinite? it.residual with
        | none => exact absurd residual (allFinite?_of_norm evaluated norm)
        | some F => simp

/-- **A walk fails only where the system collapses**, for want of a derivative there. -/
theorem Walked.collapses_of_failed (walked : Walked engine s free o budget it steps ending)
    (checked : o.check = .ok ()) (distinct : (s.blocks.map Block.id).Nodup)
    (positions : ∀ b ∈ s.blocks, b.positions.Nodup) (evaluated : it = s.iterate it.params)
    (norm : it.norm ≠ none) {cause : Fault ℝ} (failed : ending = .failed cause) :
    s.Collapses free (.ofArray (final ⟨it, steps, ending⟩).params) ∧ cause = .nonFiniteMatrix := by
  have last := List.mem_of_getLast? (getLast?_visited ⟨it, steps, ending⟩)
  have final_evaluated := walked.evaluated evaluated _ last
  rcases walked.failed_spec failed with undirected | ⟨step, -, refusal⟩
  · exact (direction_eq_error distinct positions final_evaluated
      (walked.visited_norm norm _ last) cause).1
      undirected
  · -- The search along a direction always ends, so it cannot be what failed.
    exact absurd refusal (search_ends checked step cause)

end Descent

end PlanarSketch
