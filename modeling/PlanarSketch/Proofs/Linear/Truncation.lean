import Mathlib.Analysis.InnerProductSpace.SingularValues
import Mathlib.Order.CompletePartialOrder

/-!
# Truncated least squares

A linear map stretches the directions of its singular vectors by its singular values.
Least squares with a cutoff moves only along the directions that are stretched by more than
the cutoff times the largest stretch, the `retained` ones, and among these it comes as near
to the right-hand side as it can (`IsTruncatedStep`).  There is always one such step
(`exists_isTruncatedStep`, `IsTruncatedStep.unique`).

If no stretch but zero is below the cutoff (`Lossless`), the retained directions are all those
perpendicular to the kernel.  The step is then the least squares solution of smallest norm: what
is left of the right-hand side is perpendicular to everything that can be reached
(`IsTruncatedStep.normal`), a right-hand side that can be reached is reached
(`IsTruncatedStep.apply_eq`), and no other solution is as short
(`IsTruncatedStep.norm_sq_add`).

Nothing of this depends on coordinates: an isometry of either space carries steps to steps
(`IsTruncatedStep.conj`) and keeps the singular values (`singularValues_conj`).
-/

namespace PlanarSketch

set_option autoImplicit false

open Module (finrank)
open Module.End (eigenspace)
open scoped InnerProductSpace

variable {E F : Type*} [NormedAddCommGroup E] [InnerProductSpace ℝ E] [FiniteDimensional ℝ E]
variable [NormedAddCommGroup F] [InnerProductSpace ℝ F] [FiniteDimensional ℝ F]
variable {T : E →ₗ[ℝ] F} {cutoff : ℝ} {b : F} {x y : E}

/-- The span of the directions that are stretched by more than the cutoff times the largest
stretch. -/
noncomputable def retained (T : E →ₗ[ℝ] F) (cutoff : ℝ) : Submodule ℝ E :=
  ⨆ σ : {σ : ℝ // cutoff * T.singularValues 0 < σ}, eigenspace (T.adjoint ∘ₗ T) (σ ^ 2)

/-- The step along retained directions that leads nearest to a right-hand side. -/
structure IsTruncatedStep (T : E →ₗ[ℝ] F) (cutoff : ℝ) (b : F) (x : E) : Prop where
  mem_retained : x ∈ retained T cutoff
  nearest : ∀ v ∈ retained T cutoff, ⟪T v, T x - b⟫_ℝ = 0

/-- No stretch but zero is as small as the cutoff times the largest one. -/
def Lossless (T : E →ₗ[ℝ] F) (cutoff : ℝ) : Prop :=
  ∀ k, T.singularValues k ≠ 0 → cutoff * T.singularValues 0 < T.singularValues k

/-! ## Retained directions -/

theorem eigenspace_le_orthogonal_ker {μ : ℝ} (nonzero : μ ≠ 0) :
    eigenspace (T.adjoint ∘ₗ T) μ ≤ T.kerᗮ := by
  intro v among
  rw [Submodule.mem_orthogonal']
  intro w zero
  have stretched : T.adjoint (T v) = μ • v := Module.End.mem_eigenspace_iff.1 among
  have vanishes : μ * ⟪v, w⟫_ℝ = 0 := by
    rw [← real_inner_smul_left, ← stretched, LinearMap.adjoint_inner_left,
      LinearMap.mem_ker.1 zero, inner_zero_right]
  exact (mul_eq_zero.1 vanishes).resolve_left nonzero

/-- Retained directions are perpendicular to the kernel. -/
theorem retained_le_orthogonal_ker (nonneg : 0 ≤ cutoff) : retained T cutoff ≤ T.kerᗮ := by
  refine iSup_le fun ⟨σ, large⟩ => eigenspace_le_orthogonal_ker ?_
  have positive : 0 < σ := (mul_nonneg nonneg (T.singularValues_nonneg 0)).trans_lt large
  exact pow_ne_zero 2 positive.ne'

omit [FiniteDimensional ℝ E] [FiniteDimensional ℝ F] in
theorem eq_zero_of_mem_orthogonal_ker (apart : x ∈ T.kerᗮ) (zero : T x = 0) : x = 0 := by
  rw [← inner_self_eq_zero (𝕜 := ℝ)]
  exact Submodule.inner_right_of_mem_orthogonal (LinearMap.mem_ker.2 zero) apart

/-- Without losses the retained directions are all those perpendicular to the kernel. -/
theorem retained_eq_orthogonal_ker (nonneg : 0 ≤ cutoff) (lossless : Lossless T cutoff) :
    retained T cutoff = T.kerᗮ := by
  refine le_antisymm (retained_le_orthogonal_ker nonneg) ?_
  -- All of the space is spanned by the kernel and the eigenspaces that are retained.
  have spanned : (⊤ : Submodule ℝ E) ≤ T.ker ⊔ retained T cutoff := by
    have all := (Submodule.orthogonal_eq_bot_iff).1
      T.isSymmetric_adjoint_comp_self.orthogonalComplement_iSup_eigenspaces_eq_bot
    rw [← all]
    refine iSup_le fun μ => ?_
    by_cases trivial : eigenspace (T.adjoint ∘ₗ T) μ = ⊥
    · rw [trivial]
      exact bot_le
    · obtain ⟨i, value⟩ :=
        T.isSymmetric_adjoint_comp_self.exists_eigenvalues_eq rfl (μ := μ) trivial
      have square : T.singularValues i ^ 2 = μ := (T.sq_singularValues_fin rfl i).trans value
      rw [← square]
      by_cases zero : T.singularValues i = 0
      · refine le_sup_of_le_left fun v among => ?_
        rw [zero, zero_pow two_ne_zero, Module.End.eigenspace_zero] at among
        rwa [← LinearMap.ker_adjoint_comp_self]
      · exact le_sup_of_le_right (le_iSup
          (fun σ : {σ : ℝ // cutoff * T.singularValues 0 < σ} =>
            eigenspace (T.adjoint ∘ₗ T) ((σ : ℝ) ^ 2)) ⟨T.singularValues i, lossless i zero⟩)
  intro v apart
  obtain ⟨k, kernel, r, kept, rfl⟩ := Submodule.mem_sup.1 (spanned (Submodule.mem_top (x := v)))
  have inside : k ∈ T.kerᗮ := by
    have difference := Submodule.sub_mem _ apart (retained_le_orthogonal_ker nonneg kept)
    rwa [add_sub_cancel_right] at difference
  rw [eq_zero_of_mem_orthogonal_ker inside (LinearMap.mem_ker.1 kernel), zero_add]
  exact kept

/-! ## Steps -/

/-- **There is a truncated step for every right-hand side.** -/
theorem exists_isTruncatedStep (nonneg : 0 ≤ cutoff) (T : E →ₗ[ℝ] F) (b : F) :
    ∃ x, IsTruncatedStep T cutoff b x := by
  set R := retained T cutoff
  -- The normal equations along retained directions; what they send to zero is in the kernel.
  let L : R →ₗ[ℝ] R :=
    R.orthogonalProjectionOnto.toLinearMap ∘ₗ (T.adjoint ∘ₗ T) ∘ₗ R.subtype
  have meets (v : R) (w : E) :
      ⟪(v : E), (R.orthogonalProjectionOnto w : E)⟫_ℝ = ⟪(v : E), w⟫_ℝ := by
    rw [← Submodule.coe_inner, Submodule.inner_orthogonalProjectionOnto_eq_of_mem_left]
  have injective : Function.Injective L := by
    refine (injective_iff_map_eq_zero L).2 fun v zero => ?_
    have still : T v = 0 := by
      rw [← inner_self_eq_zero (𝕜 := ℝ), ← LinearMap.adjoint_inner_right, ← meets]
      have image : R.orthogonalProjectionOnto (T.adjoint (T v)) = 0 := zero
      rw [image, Submodule.coe_zero, inner_zero_right]
    exact Subtype.ext (eq_zero_of_mem_orthogonal_ker (retained_le_orthogonal_ker nonneg v.2) still)
  obtain ⟨x, solves⟩ := LinearMap.injective_iff_surjective.1 injective
    (R.orthogonalProjectionOnto (T.adjoint b))
  refine ⟨x, x.2, fun v among => ?_⟩
  have solves : R.orthogonalProjectionOnto (T.adjoint (T x)) =
      R.orthogonalProjectionOnto (T.adjoint b) := solves
  rw [inner_sub_right, sub_eq_zero, ← LinearMap.adjoint_inner_right,
    ← LinearMap.adjoint_inner_right, ← meets ⟨v, among⟩ (T.adjoint (T x)), solves,
    meets ⟨v, among⟩]

namespace IsTruncatedStep

/-- Only one step is the truncated one. -/
theorem unique (nonneg : 0 ≤ cutoff) (first : IsTruncatedStep T cutoff b x)
    (second : IsTruncatedStep T cutoff b y) : x = y := by
  have among := Submodule.sub_mem _ first.mem_retained second.mem_retained
  have still : T (x - y) = 0 := by
    have difference : T (x - y) = (T x - b) - (T y - b) := by
      rw [map_sub, sub_sub_sub_cancel_right]
    rw [← inner_self_eq_zero (𝕜 := ℝ)]
    nth_rewrite 2 [difference]
    rw [inner_sub_right, first.nearest _ among, second.nearest _ among, sub_zero]
  exact sub_eq_zero.1
    (eq_zero_of_mem_orthogonal_ker (retained_le_orthogonal_ker nonneg among) still)

section Lossless

variable (step : IsTruncatedStep T cutoff b x)

include step

theorem mem_orthogonal_ker (nonneg : 0 ≤ cutoff) : x ∈ T.kerᗮ :=
  retained_le_orthogonal_ker nonneg step.mem_retained

/-- What is left of the right-hand side is perpendicular to everything that can be reached. -/
theorem normal (nonneg : 0 ≤ cutoff) (lossless : Lossless T cutoff) (v : E) :
    ⟪T v, T x - b⟫_ℝ = 0 := by
  obtain ⟨k, kernel, r, apart, rfl⟩ :=
    T.ker.exists_add_mem_mem_orthogonal v
  rw [map_add, LinearMap.mem_ker.1 kernel, zero_add]
  exact step.nearest r (retained_eq_orthogonal_ker nonneg lossless ▸ apart)

/-- A right-hand side that can be reached is reached. -/
theorem apply_eq (nonneg : 0 ≤ cutoff) (lossless : Lossless T cutoff) (reached : T y = b) :
    T x = b := by
  have difference : T x - b = T (x - y) := by rw [map_sub, reached]
  have perpendicular := step.normal nonneg lossless (x - y)
  rw [difference, inner_self_eq_zero, ← difference] at perpendicular
  exact sub_eq_zero.1 perpendicular

/-- Every solution is the step and something perpendicular to it. -/
theorem norm_sq_add (nonneg : 0 ≤ cutoff) (same : T y = T x) :
    ‖y‖ ^ 2 = ‖x‖ ^ 2 + ‖y - x‖ ^ 2 := by
  have kernel : y - x ∈ T.ker := by rw [LinearMap.mem_ker, map_sub, same, sub_self]
  have perpendicular : ⟪x, y - x⟫_ℝ = 0 :=
    Submodule.inner_left_of_mem_orthogonal kernel (step.mem_orthogonal_ker nonneg)
  have sum : y = x + (y - x) := (add_sub_cancel x y).symm
  nth_rewrite 1 [sum]
  rw [sq, sq, sq, norm_add_sq_eq_norm_sq_add_norm_sq_of_inner_eq_zero _ _ perpendicular]

end Lossless

end IsTruncatedStep

omit [FiniteDimensional ℝ E] in
/-- A map does not reach everything if something is perpendicular to all that it reaches. -/
theorem finrank_range_lt {w : F} (nonzero : w ≠ 0) (perpendicular : ∀ v, ⟪T v, w⟫_ℝ = 0) :
    finrank ℝ T.range < finrank ℝ F := by
  refine Submodule.finrank_lt fun everything => nonzero ?_
  have reached : w ∈ T.range := everything ▸ Submodule.mem_top
  obtain ⟨v, rfl⟩ := reached
  exact inner_self_eq_zero.1 (perpendicular v)

/-- A map that reaches a line at most has one stretch only, which no fraction of it exceeds. -/
theorem lossless_of_finrank_range_le_one (small : cutoff < 1) (line : finrank ℝ T.range ≤ 1) :
    Lossless T cutoff := by
  intro k nonzero
  have positive := (T.singularValues_pos_iff_ne_zero k).2 nonzero
  have first : k = 0 :=
    Nat.lt_one_iff.1 ((T.singularValues_pos_iff_lt_finrank_range.1 positive).trans_le line)
  subst first
  exact mul_lt_of_lt_one_left positive small

/-! ## Change of coordinates -/

section Isometries

variable {E' F' : Type*} [NormedAddCommGroup E'] [InnerProductSpace ℝ E'] [FiniteDimensional ℝ E']
variable [NormedAddCommGroup F'] [InnerProductSpace ℝ F'] [FiniteDimensional ℝ F']
variable {T' : E' →ₗ[ℝ] F'} {V : E ≃ₗᵢ[ℝ] E'} {U : F ≃ₗᵢ[ℝ] F'}

theorem gram_conj (same : ∀ x, T' (V x) = U (T x)) (x : E) :
    T'.adjoint (T' (V x)) = V (T.adjoint (T x)) := by
  refine ext_inner_right ℝ fun w' => ?_
  obtain ⟨w, rfl⟩ := V.surjective w'
  rw [LinearMap.adjoint_inner_left, same, same, U.inner_map_map, V.inner_map_map,
    LinearMap.adjoint_inner_left]

/-- Isometries keep the singular values. -/
theorem singularValues_conj (same : ∀ x, T' (V x) = U (T x)) :
    T'.singularValues = T.singularValues := by
  have dimension : finrank ℝ E' = finrank ℝ E := V.toLinearEquiv.finrank_eq.symm
  have conjugate : T'.adjoint ∘ₗ T' = V.toLinearEquiv.conj (T.adjoint ∘ₗ T) := by
    refine LinearMap.ext fun x' => ?_
    obtain ⟨x, rfl⟩ := V.surjective x'
    rw [LinearEquiv.conj_apply_apply]
    exact (gram_conj same x).trans
      (congrArg (fun y => V (T.adjoint (T y))) (V.symm_apply_apply x).symm)
  have eigenvalues : T'.isSymmetric_adjoint_comp_self.eigenvalues dimension =
      T.isSymmetric_adjoint_comp_self.eigenvalues rfl := by
    rw [LinearMap.IsSymmetric.eigenvalues_eq_eigenvalues_iff, conjugate]
    exact LinearEquiv.charpoly_conj _ _
  ext k
  by_cases inside : k < finrank ℝ E
  · rw [T'.singularValues_of_lt dimension inside, eigenvalues, T.singularValues_of_lt rfl inside]
  · have outside := not_lt.1 inside
    rw [T.singularValues_of_finrank_le outside,
      T'.singularValues_of_finrank_le (dimension.trans_le outside)]

theorem mem_retained_conj (same : ∀ x, T' (V x) = U (T x)) (among : x ∈ retained T cutoff) :
    V x ∈ retained T' cutoff := by
  have carried : (retained T cutoff).map V.toLinearEquiv.toLinearMap ≤ retained T' cutoff := by
    unfold retained
    rw [Submodule.map_iSup, singularValues_conj same]
    refine iSup_mono fun σ => ?_
    rintro _ ⟨v, stretched, rfl⟩
    have stretched : T.adjoint (T v) = ((σ : ℝ) ^ 2) • v :=
      Module.End.mem_eigenspace_iff.1 stretched
    refine Module.End.mem_eigenspace_iff.2 ?_
    change T'.adjoint (T' (V v)) = ((σ : ℝ) ^ 2) • V v
    rw [gram_conj same, stretched, map_smul]
  exact carried ⟨x, among, rfl⟩

/-- **Isometries carry truncated steps to truncated steps.** -/
theorem IsTruncatedStep.conj (same : ∀ x, T' (V x) = U (T x))
    (step : IsTruncatedStep T cutoff b x) : IsTruncatedStep T' cutoff (U b) (V x) := by
  refine ⟨mem_retained_conj same step.mem_retained, fun v' among => ?_⟩
  have back (x' : E') : T (V.symm x') = U.symm (T' x') := by
    obtain ⟨x, rfl⟩ := V.surjective x'
    rw [same, V.symm_apply_apply, U.symm_apply_apply]
  have kept := step.nearest (V.symm v') (mem_retained_conj back among)
  rw [back, ← U.inner_map_map, U.apply_symm_apply, map_sub, ← same] at kept
  exact kept

end Isometries

end PlanarSketch
