import Mathlib.Analysis.SpecialFunctions.Complex.LogDeriv
import Mathlib.Analysis.SpecialFunctions.Sqrt
import Mathlib.Topology.Algebra.Module.ModuleTopology
import PlanarSketch.Proofs.Exact

/-!
# Directions in motion

How fast the length of a direction changes while its components do, and how fast the angle
between two directions does.

The angle itself jumps where the second direction points against the first.  Its difference
to a target, wrapped to within half a turn, does not jump there; it jumps where the wrapped
difference is half a turn, and has a derivative everywhere else (`hasDerivAt_wrapped`).
-/

namespace PlanarSketch.Exact

set_option autoImplicit false

theorem hypot_mul_self (x y : ℝ) : Scalar.hypot x y * Scalar.hypot x y = x * x + y * y := by
  rw [hypot]
  exact Real.mul_self_sqrt (add_nonneg (mul_self_nonneg x) (mul_self_nonneg y))

section Moving

variable {t : ℝ}

theorem hasDerivAt_hypot {x y : ℝ → ℝ} {x' y' : ℝ} (hx : HasDerivAt x x' t)
    (hy : HasDerivAt y y' t) (long : 0 < Scalar.hypot (x t) (y t)) :
    HasDerivAt (fun s => Scalar.hypot (x s) (y s))
      ((x t * x' + y t * y') / Scalar.hypot (x t) (y t)) t := by
  have square : HasDerivAt (fun s => x s * x s + y s * y s)
      (x' * x t + x t * x' + (y' * y t + y t * y')) t := (hx.mul hx).add (hy.mul hy)
  have away : x t * x t + y t * y t ≠ 0 := (Real.sqrt_pos.1 long).ne'
  refine (square.sqrt away).congr_deriv ?_
  rw [hypot] at long ⊢
  field_simp
  ring

/-! ## Wrapped angles -/

/-- The difference of an angle to a target is wrapped by turning its direction back. -/
theorem wrapped_eq_arg {x y target : ℝ} (away : Complex.mk x y ≠ 0) :
    Scalar.atan2 (Scalar.sin (Scalar.atan2 y x - target)) (Scalar.cos (Scalar.atan2 y x - target)) =
      Complex.arg (Complex.mk x y * Complex.exp (-target * Complex.I)) := by
  have size : 0 < ‖Complex.mk x y‖ := norm_pos_iff.2 away
  have unit : Complex.mk (Real.cos (Complex.arg ⟨x, y⟩ - target))
      (Real.sin (Complex.arg ⟨x, y⟩ - target)) =
        Complex.exp ((Complex.arg ⟨x, y⟩ - target : ℝ) * Complex.I) := by
    apply Complex.ext
    · rw [Complex.exp_ofReal_mul_I_re]
    · rw [Complex.exp_ofReal_mul_I_im]
  have turned : Complex.mk x y * Complex.exp (-target * Complex.I) =
      ‖Complex.mk x y‖ * Complex.exp ((Complex.arg ⟨x, y⟩ - target : ℝ) * Complex.I) := by
    conv_lhs => rw [← Complex.norm_mul_exp_arg_mul_I ⟨x, y⟩]
    rw [mul_assoc, ← Complex.exp_add]
    congr 2
    push_cast
    ring
  change Complex.arg ⟨Real.cos (Complex.arg ⟨x, y⟩ - target), _⟩ = _
  rw [turned, Complex.arg_real_mul _ size, ← unit]
  rfl

/-- The rate of a wrapped angle, where it is not half a turn. -/
theorem hasDerivAt_wrapped (target : ℝ) {x y : ℝ → ℝ} {x' y' : ℝ} (hx : HasDerivAt x x' t)
    (hy : HasDerivAt y y' t) (away : 0 < x t * x t + y t * y t)
    (open_side : Scalar.atan2 (Scalar.sin (Scalar.atan2 (y t) (x t) - target))
      (Scalar.cos (Scalar.atan2 (y t) (x t) - target)) ≠ Real.pi) :
    HasDerivAt (fun s => Scalar.atan2 (Scalar.sin (Scalar.atan2 (y s) (x s) - target))
        (Scalar.cos (Scalar.atan2 (y s) (x s) - target)))
      ((x t * y' - y t * x') / (x t * x t + y t * y t)) t := by
  have moving : HasDerivAt (fun s => Complex.mk (x s) (y s)) ⟨x', y'⟩ t := by
    simp only [Complex.mk_eq_add_mul_I]
    exact hx.ofReal_comp.add (hy.ofReal_comp.mul_const Complex.I)
  have apart : ∀ s, 0 < x s * x s + y s * y s → Complex.mk (x s) (y s) ≠ 0 := by
    intro s positive zero
    have first : x s = 0 := congrArg Complex.re zero
    have second : y s = 0 := congrArg Complex.im zero
    simp [first, second] at positive
  -- Beside the direction itself there is none that vanishes, so the turned form holds nearby.
  have near : ∀ᶠ s in nhds t, 0 < x s * x s + y s * y s := by
    have continuous := ((hx.mul hx).add (hy.mul hy)).continuousAt
    exact continuous.eventually (lt_mem_nhds away)
  have turned := moving.mul_const (Complex.exp (-target * Complex.I))
  have slit : Complex.mk (x t) (y t) * Complex.exp (-target * Complex.I) ∈ Complex.slitPlane := by
    rw [Complex.mem_slitPlane_iff_arg]
    refine ⟨?_, mul_ne_zero (apart t away) (Complex.exp_ne_zero _)⟩
    rwa [← wrapped_eq_arg (apart t away)]
  have rate := Complex.imCLM.hasFDerivAt.comp_hasDerivAt t (turned.clog_real slit)
  refine (rate.congr_of_eventuallyEq ?_).congr_deriv ?_
  · filter_upwards [near] with s positive
    rw [wrapped_eq_arg (apart s positive), ← Complex.log_im]
    rfl
  · change Complex.im _ = _
    rw [mul_div_mul_right _ _ (Complex.exp_ne_zero _), Complex.div_im]
    simp only [Complex.normSq_mk]
    ring

end Moving

/-- The rate of the angle between two directions `a` and `b`, by the rates `u` and `v` of their
components: each direction turns it by its own turn over its length squared. -/
theorem turn_rate {ax ay bx byy ux uy vx vy A B : ℝ} (first : A = ax * ax + ay * ay)
    (second : B = bx * bx + byy * byy) (away_first : A ≠ 0) (away_second : B ≠ 0) :
    ((ax * bx + ay * byy) * (byy * ux - bx * uy - ay * vx + ax * vy) -
        (ax * byy - ay * bx) * (bx * ux + byy * uy + ax * vx + ay * vy)) / (A * B) =
      ay / A * ux + -ax / A * uy + -byy / B * vx + bx / B * vy := by
  have parts : (ax * bx + ay * byy) * (byy * ux - bx * uy - ay * vx + ax * vy) -
      (ax * byy - ay * bx) * (bx * ux + byy * uy + ax * vx + ay * vy) =
        (ay * ux - ax * uy) * B + (bx * vy - byy * vx) * A := by
    rw [first, second]
    ring
  rw [parts]
  field_simp
  ring

end PlanarSketch.Exact
