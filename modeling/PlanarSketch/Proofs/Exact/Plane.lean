import Mathlib.Analysis.CStarAlgebra.Classes
import Mathlib.Geometry.Euclidean.Angle.Oriented.Basic
import Mathlib.Geometry.Euclidean.SignedDist
import PlanarSketch.Proofs.Exact.Motion

/-!
# The plane

Sketches are drawn in the Euclidean plane, taken as the plane of complex numbers.  Two of its
points in an order make an edge.  An edge has a length and a direction, it runs along an
infinite line, and any point is some distance off that line, to the right of the direction or
to the left.

Lines, signed distances, angles and mirror images are those of Euclidean geometry in general.
Below they are told in coordinates, which is how residuals compute them: by the inner
product of two directions and by their cross product (`Edge.offset_eq`, `Edge.parallel_iff`,
`Edge.perpendicular_iff`, `Edge.turn_eq`, `Edge.mirror_eq_iff`).
-/

namespace PlanarSketch

set_option autoImplicit false

open Complex EuclideanGeometry Affine
open scoped InnerProductSpace

/-- Two points of the plane, and the way from the first to the second. -/
structure Edge where
  first : ℂ
  second : ℂ

noncomputable section

namespace Edge

def direction (e : Edge) : ℂ := e.second - e.first

def length (e : Edge) : ℝ := dist e.first e.second

def middle (e : Edge) : ℂ := midpoint ℝ e.first e.second

/-- The infinite line through both points. -/
def line (e : Edge) : AffineSubspace ℝ ℂ := line[ℝ, e.first, e.second]

instance (e : Edge) : Nonempty e.line := ⟨⟨e.first, left_mem_affineSpan_pair ℝ e.first e.second⟩⟩

/-- The signed distance of a point from the line, positive to the right of the direction. -/
def offset (e : Edge) (x : ℂ) : ℝ := signedDist (-(I * e.direction)) e.first x

/-- The counter-clockwise angle from the direction of one edge to that of another. -/
def turn (e f : Edge) : Real.Angle :=
  haveI := finrank_real_complex_fact
  Complex.orientation.oangle e.direction f.direction

/-- The mirror images of all points across the line. -/
def mirror (e : Edge) : ℂ ≃ᵃⁱ[ℝ] ℂ := reflection e.line

end Edge

end

/-- The cross product of two directions. -/
def cross (u v : ℂ) : ℝ := u.re * v.im - u.im * v.re

/-- Two directions have no cross product when the second is a multiple of the first. -/
theorem cross_eq_zero_iff {u v : ℂ} (away : u ≠ 0) : cross u v = 0 ↔ ∃ r : ℝ, r • u = v := by
  constructor
  · intro flat
    have size : normSq u ≠ 0 := by simpa using away
    have square : normSq u = u.re * u.re + u.im * u.im := normSq_apply u
    refine ⟨(u.re * v.re + u.im * v.im) / normSq u, ?_⟩
    unfold cross at flat
    apply Complex.ext
    · rw [real_smul, re_ofReal_mul]
      field_simp
      rw [square]
      linear_combination u.im * flat
    · rw [real_smul, im_ofReal_mul]
      field_simp
      rw [square]
      linear_combination -u.re * flat
  · rintro ⟨r, rfl⟩
    rw [real_smul, cross, re_ofReal_mul, im_ofReal_mul]
    ring

theorem inner_eq (u v : ℂ) : ⟪u, v⟫_ℝ = u.re * v.re + u.im * v.im := by
  rw [real_inner_comm, Complex.inner, mul_re, conj_re, conj_im, mul_neg, sub_neg_eq_add]

/-- The direction of an angle has that angle, up to full turns. -/
theorem Exact.coe_arg_eq (angle : ℝ) :
    ((arg ⟨Real.cos angle, Real.sin angle⟩ : ℝ) : Real.Angle) = (angle : Real.Angle) := by
  rw [← arg_cos_add_sin_mul_I_coe_angle (angle : Real.Angle), Real.Angle.cos_coe,
    Real.Angle.sin_coe, mk_eq_add_mul_I]

/-- An angle, wrapped after a target has been taken away, is zero when the two are equal up to full
turns. -/
theorem Exact.wrapped_eq_zero_iff (turn target : ℝ) :
    Scalar.atan2 (Scalar.sin (turn - target)) (Scalar.cos (turn - target)) = (0 : ℝ) ↔
      (turn : Real.Angle) = target := by
  rw [← sub_eq_zero (a := (turn : Real.Angle)), ← Real.Angle.coe_sub, ← Exact.coe_arg_eq,
    arg_coe_angle_eq_iff_eq_toReal, Real.Angle.toReal_zero]
  rfl

namespace Edge

theorem length_eq_norm (e : Edge) : e.length = ‖e.direction‖ := by
  rw [length, dist_comm, Complex.dist_eq, direction]

theorem direction_ne_zero {e : Edge} (long : 0 < e.length) : e.direction ≠ 0 := by
  rwa [length_eq_norm, norm_pos_iff] at long

theorem middle_eq (e : Edge) :
    e.middle = ⟨0.5 * (e.first.re + e.second.re), 0.5 * (e.first.im + e.second.im)⟩ := by
  rw [middle, midpoint_eq_smul_add, invOf_eq_inv, real_smul]
  apply Complex.ext
  · rw [re_ofReal_mul, add_re]
    norm_num
  · rw [im_ofReal_mul, add_im]
    norm_num

/-- How far a point is off the line is the cross product over the length. -/
theorem offset_eq (e : Edge) (x : ℂ) :
    e.offset x = ((x.re - e.first.re) * e.direction.im - (x.im - e.first.im) * e.direction.re) /
      e.length := by
  have size : ‖-(I * e.direction)‖ = e.length := by
    rw [norm_neg, norm_mul, norm_I, one_mul, length_eq_norm]
  rw [offset, signedDist_apply_apply, NormedSpace.normalize, size, real_inner_smul_left,
    Complex.inner, div_eq_inv_mul]
  simp

theorem mem_line_iff {e : Edge} (long : 0 < e.length) (x : ℂ) :
    x ∈ e.line ↔ cross e.direction (x - e.first) = 0 := by
  have way : (x - e.first) +ᵥ e.first = x := sub_add_cancel x e.first
  rw [cross_eq_zero_iff (direction_ne_zero long), line]
  conv_lhs => rw [← way]
  exact vadd_left_mem_affineSpan_pair

theorem offset_eq_zero_iff {e : Edge} (long : 0 < e.length) (x : ℂ) :
    e.offset x = 0 ↔ x ∈ e.line := by
  rw [mem_line_iff long, offset_eq, div_eq_zero_iff, or_iff_left long.ne', cross, sub_re, sub_im]
  constructor
  · intro flat
    linarith
  · intro flat
    linarith

/-- Lines are parallel when their directions have no cross product. -/
theorem parallel_iff {e f : Edge} (first_long : 0 < e.length) (second_long : 0 < f.length) :
    e.line ∥ f.line ↔ cross e.direction f.direction = 0 := by
  rw [line, line, AffineSubspace.affineSpan_pair_parallel_iff_exists_unit_smul',
    cross_eq_zero_iff (direction_ne_zero first_long)]
  constructor
  · rintro ⟨z, same⟩
    exact ⟨z, same⟩
  · rintro ⟨r, same⟩
    have away : r ≠ 0 := by
      rintro rfl
      rw [zero_smul] at same
      exact direction_ne_zero second_long same.symm
    exact ⟨Units.mk0 r away, same⟩

theorem direction_line (e : Edge) : e.line.direction = ℝ ∙ e.direction := by
  rw [line, direction_affineSpan, vectorSpan_pair_rev]
  rfl

/-- **Without its sign, the signed distance is the distance from the line.** -/
theorem abs_offset_eq_infDist {e : Edge} (long : 0 < e.length) (x : ℂ) :
    |e.offset x| = Metric.infDist x e.line := by
  have away := direction_ne_zero long
  let foot : ℂ := orthogonalProjection e.line x
  have on : foot ∈ e.line := orthogonalProjection_mem x
  have upright : ⟪e.direction, x - foot⟫_ℝ = 0 := by
    have normal : x - foot ∈ e.line.directionᗮ :=
      vsub_orthogonalProjection_mem_direction_orthogonal e.line x
    rwa [direction_line, Submodule.mem_orthogonal_singleton_iff_inner_right] at normal
  -- The signed distance is the same from any point of the line, so it may be taken from the foot.
  have level : e.offset x = signedDist (-(I * e.direction)) foot x := by
    have flat := (offset_eq_zero_iff long foot).2 on
    rw [offset, ← signedDist_triangle (-(I * e.direction)) e.first foot x, ← offset, flat, zero_add]
  have along : x - foot ∈ ℝ ∙ (-(I * e.direction)) := by
    rw [Submodule.mem_span_singleton, ← cross_eq_zero_iff (by simpa using away), ← upright,
      inner_eq]
    simp [cross, add_comm]
  rw [level, ← dist_orthogonalProjection_eq_infDist, dist_comm x]
  exact (abs_signedDist_eq_dist_iff_vsub_mem_span _ foot x).2 along

/-- Lines are perpendicular when their directions have no inner product. -/
theorem perpendicular_iff (e f : Edge) :
    e.line.direction ⟂ f.line.direction ↔ ⟪e.direction, f.direction⟫_ℝ = 0 := by
  rw [direction_line, direction_line, Submodule.isOrtho_span]
  simp

/-- The angle between two edges is found from both products of their directions. -/
theorem turn_eq (e f : Edge) :
    e.turn f = (arg ⟨⟪e.direction, f.direction⟫_ℝ, cross e.direction f.direction⟩ : ℝ) := by
  rw [turn, Complex.oangle, inner_eq]
  congr
  apply Complex.ext
  · simp
  · simp [cross]
    ring

/-- Two points are mirror images when the line runs through their middle, and they differ
perpendicularly to it. -/
theorem mirror_eq_iff (e : Edge) (a b : ℂ) :
    e.mirror a = b ↔ midpoint ℝ a b ∈ e.line ∧ ⟪e.direction, b - a⟫_ℝ = 0 := by
  have half : a -ᵥ midpoint ℝ a b = -(2⁻¹ : ℝ) • (b - a) := by
    rw [left_vsub_midpoint, vsub_eq_sub, neg_smul, ← smul_neg, neg_sub, invOf_eq_inv]
  have foot : orthogonalProjection e.line a = midpoint ℝ a b ↔
      midpoint ℝ a b ∈ e.line ∧ ⟪e.direction, b - a⟫_ℝ = 0 := by
    rw [coe_orthogonalProjection_eq_iff_mem, half, direction_line,
      Submodule.mem_orthogonal_singleton_iff_inner_right, inner_smul_right]
    simp
  rw [← foot, eq_comm (a := (orthogonalProjection e.line a : ℂ)), midpoint_eq_iff, mirror,
    reflection_apply']
  rfl

end Edge

end PlanarSketch
