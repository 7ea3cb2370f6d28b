import Mathlib.Data.Real.Basic
import PlanarSketch.Engine.Rotation
import PlanarSketch.Proofs.Exact

/-!
# One equation for the engine by rotations

The engine changes scales and takes quotients so that no square leaves the range of the numbers.
Over exact numbers that care makes no difference: a length is a root of a sum of squares
(`extent_eq_length`), and every change of scale is undone.  A matrix of a single row has nothing
to be turned, so the engine answers with the multiple of the row that solves the equation
(`leastSquares_singleton`).
-/

namespace PlanarSketch

set_option autoImplicit false

/-- A decimal number with some digit that is not zero is not zero, however small it may be. -/
theorem Exact.decimal_ne_zero {m e : ℕ} (h : m ≠ 0) :
    (OfScientific.ofScientific m true e : ℝ) ≠ 0 := by
  have quotient : (OfScientific.ofScientific m true e : ℝ) = m / 10 ^ e := by
    rw [NNRatCast.ofScientific_eq_ite, if_pos rfl]
    simp
  rw [quotient]
  positivity

namespace Rotation

variable {xs row : List ℝ}

/-- A change of scale is undone by the inverse of its factor. -/
theorem Scaling.into_exact {low high size : ℝ} (low_ne : low ≠ 0) (high_ne : high ≠ 0) :
    ∃ c ≠ 0, Scaling.into low high size = ⟨c, c⁻¹⟩ := by
  unfold into
  by_cases zero : size = 0
  · exact ⟨1, one_ne_zero, by simp [zero]⟩
  · have other : ¬(size == 0) = true := by simpa using zero
    rw [if_neg other]
    split
    · exact ⟨low / size, div_ne_zero low_ne zero, by rw [inv_div]⟩
    · split
      · exact ⟨high / size, div_ne_zero high_ne zero, by rw [inv_div]⟩
      · exact ⟨1, one_ne_zero, by rw [inv_one]⟩

/-! ## Sizes -/

theorem largestOf_eq_foldl_max (xs : List ℝ) :
    largestOf xs = xs.foldl (fun m x => max m |x|) 0 := by
  simp only [largestOf, max_def_lt]
  rfl

theorem le_foldl_max (m : ℝ) (xs : List ℝ) :
    m ≤ xs.foldl (fun m x => max m |x|) m ∧ ∀ x ∈ xs, |x| ≤ xs.foldl (fun m x => max m |x|) m := by
  induction xs generalizing m with
  | nil => simp
  | cons y ys ih =>
      obtain ⟨above, all⟩ := ih (max m |y|)
      exact ⟨(le_max_left m _).trans above,
        List.forall_mem_cons.2 ⟨(le_max_right m _).trans above, all⟩⟩

theorem largestOf_nonneg (xs : List ℝ) : 0 ≤ largestOf xs := by
  rw [largestOf_eq_foldl_max]
  exact (le_foldl_max 0 xs).1

/-- No entry of a list is farther from zero than the farthest one. -/
theorem abs_le_largestOf {x : ℝ} (present : x ∈ xs) : |x| ≤ largestOf xs := by
  rw [largestOf_eq_foldl_max]
  exact (le_foldl_max 0 xs).2 x present

theorem largestOf_singleton {v : ℝ} (nonneg : 0 ≤ v) : largestOf [v] = v := by
  rw [largestOf_eq_foldl_max, List.foldl_cons, List.foldl_nil, abs_of_nonneg nonneg,
    max_eq_right nonneg]

theorem sumOfSquares_map_mul (xs : List ℝ) (c : ℝ) :
    Scalar.sumOfSquares (xs.map fun x => x * c) = Scalar.sumOfSquares xs * c ^ 2 := by
  rw [Exact.sumOfSquares_eq_sum, Exact.sumOfSquares_eq_sum, List.map_map, ← List.sum_map_mul_right]
  congr 2
  funext x
  simp only [Function.comp_apply]
  ring

theorem sumOfSquares_eq_zero_of_largestOf (zero : largestOf xs = 0) :
    Scalar.sumOfSquares xs = 0 := by
  rw [Exact.sumOfSquares_eq_sum]
  refine List.sum_eq_zero fun y among => ?_
  obtain ⟨x, present, rfl⟩ := List.mem_map.1 among
  have none : x = 0 := abs_nonpos_iff.1 (zero ▸ abs_le_largestOf present)
  rw [none, mul_zero]

/-- Exact lengths need no care about their size. -/
theorem extent_eq_length (xs : List ℝ) : extent xs = Scalar.length xs := by
  unfold extent
  dsimp only
  split
  · rfl
  · by_cases zero : largestOf xs = 0
    · have flat : (largestOf xs == 0) = true := by simpa using zero
      rw [if_pos flat, Scalar.length, sumOfSquares_eq_zero_of_largestOf zero]
      exact Real.sqrt_zero.symm
    · have other : ¬(largestOf xs == 0) = true := by simpa using zero
      have nonneg : 0 ≤ largestOf xs := largestOf_nonneg xs
      simp only [if_neg other, div_eq_mul_inv, Scalar.length, sumOfSquares_map_mul, Exact.sqrt]
      rw [Real.sqrt_mul' _ (sq_nonneg _), Real.sqrt_sq (inv_nonneg.2 nonneg)]
      field_simp

/-! ## A single row -/

theorem decompose_singleton (image : List ℝ) : decompose [image] = [⟨image, [1]⟩] := by
  simp [decompose, perpendicular, sweepLimit, sweep, straightenAll, byLength, initial]

/-- A single row is brought to some scale and not turned. -/
theorem decomposition?_singleton {width : ℕ} (wide : 1 < width)
    (nonzero : Scalar.sumOfSquares row ≠ 0) :
    ∃ c ≠ 0, decomposition? [row] width =
      some ⟨⟨c, c⁻¹⟩, [⟨row.map fun x => x * c, [1]⟩], true⟩ := by
  have size : largestEntry [row] = largestOf row := largestOf_singleton (largestOf_nonneg row)
  have some_entry : ¬(largestOf row == 0) = true := by
    intro zero
    exact nonzero (sumOfSquares_eq_zero_of_largestOf (by simpa using zero))
  obtain ⟨c, c_ne, scaling⟩ : ∃ c ≠ 0, matrixScaling (largestOf row) = ⟨c, c⁻¹⟩ :=
    Scaling.into_exact (Exact.decimal_ne_zero (by decide)) (by norm_num)
  refine ⟨c, c_ne, ?_⟩
  unfold decomposition?
  simp only [size, if_neg some_entry, scaling, List.map_cons, List.map_nil, List.length_singleton,
    wide, decide_true, if_true, decompose_singleton]

theorem effective_lt_one (cutoff : ℝ) : effective cutoff < 1 := by
  unfold effective
  split
  · norm_num [precision]
  · rename_i inside
    exact not_le.1 (not_or.1 inside).2

theorem addScaled_nothing (c : ℝ) {xs : List ℝ} {width : ℕ} (fits : xs.length = width) :
    addScaled c xs (List.replicate width 0) = xs.map fun x => c * x := by
  subst fits
  induction xs with
  | nil => rfl
  | cons x xs ih =>
      rw [List.length_cons, List.replicate_succ, addScaled, ih, zero_add, List.map_cons]

/-- **A single equation is solved exactly**, by a multiple of its row.  The step is the shortest
one, since it has no part that the equation does not see. -/
theorem leastSquares_singleton (b cutoff : ℝ) (wide : 1 < row.length)
    (nonzero : Scalar.sumOfSquares row ≠ 0) :
    leastSquares [row] [b] row.length cutoff =
      row.map fun x => x * b / Scalar.sumOfSquares row := by
  obtain ⟨c, c_ne, decomposed⟩ := decomposition?_singleton wide nonzero
  obtain ⟨f, f_ne, scaling⟩ : ∃ f ≠ 0, vectorScaling (largestOf [b]) = ⟨f, f⁻¹⟩ :=
    Scaling.into_exact (Exact.decimal_ne_zero (by decide)) (by norm_num)
  set v := extent (row.map fun x => x * c) with length
  have squared : v ^ 2 = Scalar.sumOfSquares row * c ^ 2 := by
    have sum_nonneg : 0 ≤ Scalar.sumOfSquares row := by
      rw [Exact.sumOfSquares_eq_sum]
      exact List.sum_nonneg (by simp [mul_self_nonneg])
    rw [length, extent_eq_length, Scalar.length, sumOfSquares_map_mul, Exact.sqrt]
    exact Real.sq_sqrt (by positivity)
  have v_ne : v ≠ 0 := by
    intro zero
    rw [zero, zero_pow two_ne_zero, eq_comm, mul_eq_zero] at squared
    exact squared.elim nonzero (pow_ne_zero 2 c_ne)
  have nonneg : 0 ≤ v := by
    rw [length, extent_eq_length]
    exact Real.sqrt_nonneg _
  have largest : largestOf [v] = v := largestOf_singleton nonneg
  have whole : v * (1 / v) = 1 := mul_one_div_cancel v_ne
  have kept : ¬(v == 0 || decide (1 ≤ effective cutoff)) = true := by
    simp [v_ne, effective_lt_one]
  -- The three scales cancel: that of the row, that of the right-hand side and that of the value.
  unfold leastSquares
  simp only [decomposed, scaling, List.map_cons, List.map_nil, List.foldl_cons, List.foldl_nil,
    ← length, largest, whole, mul_one, if_neg kept, Decomposition.part, if_true, div_one]
  rw [addScaled_nothing _ (by simp)]
  simp only [List.map_map]
  refine List.map_congr_left fun x _ => ?_
  have product : Scalar.inner [1] [b * f] = b * f := by
    simp [Scalar.inner, Scalar.addProducts]
  simp only [Function.comp_apply, product]
  calc b * f / v * (x * c / v) * c * f⁻¹ = x * b * c ^ 2 / v ^ 2 := by field_simp
    _ = x * b / Scalar.sumOfSquares row := by
      rw [squared]
      field_simp

end Rotation

end PlanarSketch
