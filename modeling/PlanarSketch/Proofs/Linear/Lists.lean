import Mathlib.Analysis.InnerProductSpace.Adjoint
import PlanarSketch.Diagnosis
import PlanarSketch.Proofs.Exact

/-!
# Lists of numbers as vectors

A list of exact numbers is a vector of some dimension (`vector`), and a list of rows is a
linear map (`tableMap`).  The computations on lists are those of linear algebra: the length of a
list is the norm of its vector (`length_eq_norm`), and the descent gradient of a table applies the
adjoint of its map (`vector_descentGradient`).

Positions at which a list ends too early count as zero, as they do in the computations.
-/

namespace PlanarSketch

set_option autoImplicit false

open scoped InnerProductSpace

/-- A list of numbers as a vector with `n` components. -/
noncomputable def vector (n : ℕ) (xs : List ℝ) : EuclideanSpace ℝ (Fin n) :=
  WithLp.toLp _ fun i => xs.getD i 0

/-- The entries of a table of numbers with some width. -/
def entries (J : List (List ℝ)) (width : ℕ) : Matrix (Fin J.length) (Fin width) ℝ :=
  .of fun i j => (J.getD i []).getD j 0

/-- The linear map whose matrix is a table of numbers. -/
noncomputable def tableMap (J : List (List ℝ)) (width : ℕ) :
    EuclideanSpace ℝ (Fin width) →ₗ[ℝ] EuclideanSpace ℝ (Fin J.length) :=
  (entries J width).toEuclideanLin

variable {n width : ℕ} {xs ys : List ℝ} {J : List (List ℝ)} {F : List ℝ}

@[simp] theorem vector_apply (i : Fin n) : vector n xs i = xs.getD i 0 := rfl

/-- A vector determines its list, if the list has as many entries as the vector. -/
theorem eq_of_vector_eq (first : xs.length = n) (second : ys.length = n)
    (same : vector n xs = vector n ys) : xs = ys := by
  refine List.ext_getElem (first.trans second.symm) fun k inside there => ?_
  have component := congrFun (congrArg WithLp.ofLp same) ⟨k, first ▸ inside⟩
  simpa [vector, List.getD_eq_getElem?_getD, inside, there] using component

/-- A vector without components is zero. -/
theorem eq_zero_of_no_components (none : n = 0) (v : EuclideanSpace ℝ (Fin n)) : v = 0 := by
  subst none
  exact Subsingleton.elim v 0

theorem vector_map_mul (c : ℝ) : vector n (xs.map fun x => c * x) = c • vector n xs := by
  refine PiLp.ext fun i => ?_
  change (xs.map fun x => c * x).getD i 0 = c * xs.getD i 0
  rw [List.getD_eq_getElem?_getD, List.getD_eq_getElem?_getD, List.getElem?_map]
  cases xs[(i : ℕ)]? with
  | none => simp
  | some x => rfl

theorem vector_map_neg : vector n (xs.map fun x => -x) = -vector n xs := by
  rw [← neg_one_smul ℝ, ← vector_map_mul]
  simp only [neg_one_mul]

theorem vector_replicate_zero (k : ℕ) : vector n (List.replicate k 0) = 0 := by
  refine PiLp.ext fun i => ?_
  change (List.replicate k (0 : ℝ)).getD i 0 = 0
  rw [List.getD_eq_getElem?_getD, List.getElem?_replicate]
  split
  · rfl
  · rfl

/-- All entries of a list are zero if its vector is. -/
theorem eq_zero_of_vector_eq_zero (size : xs.length = n) (zero : vector n xs = 0) :
    ∀ x ∈ xs, x = 0 := by
  have same : vector n xs = vector n (List.replicate n 0) := by
    rw [zero, vector_replicate_zero]
  rw [eq_of_vector_eq size List.length_replicate same]
  exact fun x among => (List.mem_replicate.1 among).2

/-- The list of the components of a vector. -/
noncomputable def components (v : EuclideanSpace ℝ (Fin n)) : List ℝ := List.ofFn v.ofLp

@[simp] theorem vector_components (v : EuclideanSpace ℝ (Fin n)) :
    vector n (components v) = v := by
  refine PiLp.ext fun i => ?_
  change (List.ofFn v.ofLp).getD i 0 = v i
  simp [List.getD_eq_getElem?_getD]

@[simp] theorem length_components (v : EuclideanSpace ℝ (Fin n)) : (components v).length = n :=
  List.length_ofFn

/-! ## Lengths and inner products -/

theorem addProducts_eq_sum (acc : ℝ) (xs ys : List ℝ) :
    Scalar.addProducts acc xs ys = acc + (List.zipWith (· * ·) xs ys).sum := by
  induction xs generalizing acc ys with
  | nil => simp [Scalar.addProducts]
  | cons x xs ih =>
      cases ys with
      | nil => simp [Scalar.addProducts]
      | cons y ys =>
          rw [Scalar.addProducts, ih, List.zipWith_cons_cons, List.sum_cons, add_assoc]

theorem sum_zipWith_mul (first : xs.length = n) (second : ys.length = n) :
    (List.zipWith (· * ·) xs ys).sum = ∑ i : Fin n, xs.getD i 0 * ys.getD i 0 := by
  subst first
  induction xs generalizing ys with
  | nil => simp
  | cons x xs ih =>
      cases ys with
      | nil => cases second
      | cons y ys =>
          rw [List.zipWith_cons_cons, List.sum_cons, ih (Nat.succ.inj second)]
          exact (Fin.sum_univ_succ fun i : Fin (xs.length + 1) =>
            (x :: xs).getD i 0 * (y :: ys).getD i 0).symm

/-- The inner product of vectors is the sum of the products of their lists. -/
theorem inner_vector (first : xs.length = n) (second : ys.length = n) :
    ⟪vector n xs, vector n ys⟫_ℝ = (List.zipWith (· * ·) xs ys).sum := by
  rw [sum_zipWith_mul first second, PiLp.inner_apply]
  exact Finset.sum_congr rfl fun i _ => mul_comm _ _

/-- The length of a list is the norm of its vector. -/
theorem length_eq_norm (size : xs.length = n) : Scalar.length xs = ‖vector n xs‖ := by
  have squares : Scalar.sumOfSquares xs = ⟪vector n xs, vector n xs⟫_ℝ := by
    rw [Exact.sumOfSquares_eq_sum, ← List.zipWith_self, inner_vector size size]
  rw [Scalar.length, squares, real_inner_self_eq_norm_sq]
  exact Real.sqrt_sq (norm_nonneg _)

/-! ## Tables -/

theorem tableMap_apply (v : EuclideanSpace ℝ (Fin width)) (i : Fin J.length) :
    tableMap J width v i = ∑ j : Fin width, (J.getD i []).getD j 0 * v j := rfl

theorem adjoint_tableMap_apply (w : EuclideanSpace ℝ (Fin J.length)) (j : Fin width) :
    (tableMap J width).adjoint w j = ∑ i : Fin J.length, (J.getD i []).getD j 0 * w i := by
  rw [tableMap, ← Matrix.toEuclideanLin_conjTranspose_eq_adjoint]
  rfl

/-- A table whose rows are all the same reaches a line at most. -/
theorem finrank_range_le_one_of_rows {row : List ℝ} (same : ∀ r ∈ J, r = row) :
    Module.finrank ℝ (tableMap J width).range ≤ 1 := by
  have line : (tableMap J width).range ≤
      Submodule.span ℝ {vector J.length (List.replicate J.length 1)} := by
    rintro _ ⟨v, rfl⟩
    refine Submodule.mem_span_singleton.2 ⟨∑ j : Fin width, row.getD j 0 * v j, ?_⟩
    refine PiLp.ext fun i => ?_
    have entry : J.getD i [] = row := by
      rw [List.getD_eq_getElem?_getD, List.getElem?_eq_getElem i.isLt]
      exact same _ (List.getElem_mem _)
    rw [tableMap_apply, entry]
    simp [List.getD_eq_getElem?_getD]
  exact (Submodule.finrank_mono line).trans (finrank_span_le_card _ |>.trans (by simp))

/-- The descent gradient applies the adjoint of a table to a residual. -/
theorem vector_descentGradient (size : F.length = J.length) :
    vector width (descentGradient J F width) =
      (tableMap J width).adjoint (vector J.length F) := by
  refine PiLp.ext fun j => ?_
  have column : (J.map fun row => row.getD j 0).length = J.length := List.length_map _
  rw [adjoint_tableMap_apply]
  change (descentGradient J F width).getD j 0 = _
  rw [descentGradient, List.getD_eq_getElem?_getD, List.getElem?_map,
    List.getElem?_range j.isLt]
  change Scalar.inner (J.map fun row => row.getD j 0) F = _
  rw [Scalar.inner, addProducts_eq_sum, zero_add, sum_zipWith_mul column size]
  refine Finset.sum_congr rfl fun i _ => ?_
  simp [List.getD_eq_getElem?_getD]

theorem length_descentGradient : (descentGradient J F width).length = width := by
  rw [descentGradient, List.length_map, List.length_range]

end PlanarSketch
