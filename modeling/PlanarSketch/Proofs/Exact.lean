import Mathlib.Analysis.SpecialFunctions.Complex.Arg
import PlanarSketch.Entity
import PlanarSketch.Options
import PlanarSketch.Proofs.Outcome

/-!
# Exact numbers

Real numbers as scalars: every operation is the mathematical one, every number is an
ordinary one, and the two ways of reducing an angle by a period take away the nearest
multiple, an even one if there are two, and the largest multiple below.  The countdown of
a number tells how often it can be multiplied by a factor before it is below a bound
(`Exact.countdown_lt`).

Nothing that is made of real numbers can fail to be finite, so any shape is that of an
entity (`Exact.entity`), and the standard options pass their check (`Exact.standard_check`).
-/

namespace PlanarSketch

set_option autoImplicit false

noncomputable section

namespace Exact

/-- The whole number nearest to a real one; of two, the even one. -/
def nearest (x : ℝ) : ℤ :=
  if Int.fract x = 1 / 2 ∧ Even ⌊x⌋ then ⌊x⌋ else round x

/-- What is left of a number after the nearest multiple of a period is taken away. -/
def remainder (x period : ℝ) : ℝ := x - nearest (x / period) * period

/-- What is left of a number after the largest multiple of a period below it is taken away. -/
def modulo (x period : ℝ) : ℝ := x - ⌊x / period⌋ * period

/-- How often a number can be multiplied by a factor before it is below a bound. -/
def countdown (factor bound x : ℝ) : ℕ := sInf {n | x * factor ^ n < bound}

end Exact

instance : Scalar ℝ where
  toZero := inferInstance
  toOne := inferInstance
  toAdd := inferInstance
  toSub := inferInstance
  toMul := inferInstance
  toDiv := inferInstance
  toNeg := inferInstance
  toLT := inferInstance
  toLE := inferInstance
  toBEq := ⟨fun x y => decide (x = y)⟩
  toOfScientific := inferInstance
  decideLT := inferInstance
  decideLE := inferInstance
  abs x := |x|
  sqrt := Real.sqrt
  sin := Real.sin
  cos := Real.cos
  atan2 y x := Complex.arg ⟨x, y⟩
  hypot x y := Real.sqrt (x * x + y * y)
  pi := Real.pi
  remainder := Exact.remainder
  modulo := Exact.modulo
  isFinite _ := true
  countdown := Exact.countdown

end

namespace Exact

open Outcome

@[simp] theorem isFinite (x : ℝ) : Scalar.isFinite x = true := rfl

@[simp] theorem sqrt (x : ℝ) : Scalar.sqrt x = Real.sqrt x := rfl

theorem hypot (x y : ℝ) : Scalar.hypot x y = Real.sqrt (x * x + y * y) := rfl

theorem sumOfSquares_eq_sum (xs : List ℝ) :
    Scalar.sumOfSquares xs = (xs.map fun x => x * x).sum := by
  rw [List.sum_eq_foldl, List.foldl_map]
  rfl

/-- No component is longer than the whole. -/
theorem abs_le_length {xs : List ℝ} {x : ℝ} (present : x ∈ xs) : |x| ≤ Scalar.length xs := by
  have squares : ∀ y ∈ xs.map fun x => x * x, 0 ≤ y := by
    simp [mul_self_nonneg]
  have part := List.single_le_sum squares (x * x) (List.mem_map_of_mem present)
  rw [← sumOfSquares_eq_sum, ← sq] at part
  exact Real.abs_le_sqrt part

/-- A period is its own nearest multiple. -/
theorem remainder_self {period : ℝ} (away : period ≠ 0) : Scalar.remainder period period = 0 := by
  change period - nearest (period / period) * period = 0
  have once : nearest 1 = 1 := by norm_num [nearest]
  rw [div_self away, once, Int.cast_one, one_mul, sub_self]

/-- Less than half of a period is nearest to no multiple but zero. -/
theorem remainder_of_lt {x period : ℝ} (near : |x| < period / 2) :
    Scalar.remainder x period = x := by
  have positive : 0 < period := by linarith [abs_nonneg x]
  have small : |x / period| < 1 / 2 := by
    rw [abs_div, abs_of_pos positive, div_lt_iff₀ positive]
    linarith
  obtain ⟨low, high⟩ := abs_lt.1 small
  have none : nearest (x / period) = 0 := by
    unfold nearest
    rw [if_neg, round_eq_zero_iff]
    · exact ⟨low.le, high⟩
    · -- Halfway between two whole numbers is no place so close to zero.
      rintro ⟨half, -⟩
      have split := Int.floor_add_fract (x / period)
      rw [half] at split
      have above : (-1 : ℝ) < ⌊x / period⌋ := by linarith
      have below : (⌊x / period⌋ : ℝ) < 0 := by linarith
      have above : -1 < ⌊x / period⌋ := by exact_mod_cast above
      have below : ⌊x / period⌋ < 0 := by exact_mod_cast below
      omega
  change x - nearest (x / period) * period = x
  rw [none, Int.cast_zero, zero_mul, sub_zero]

/-- A multiplication by a factor less than one leaves fewer of them to come. -/
theorem countdown_lt {factor bound x : ℝ} (positive : 0 < bound) (small : factor < 1)
    (long : bound ≤ x) :
    Scalar.countdown factor bound (x * factor) < Scalar.countdown factor bound x := by
  have above : 0 < x := positive.trans_le long
  have ends : ({n | x * factor ^ n < bound} : Set ℕ).Nonempty := by
    obtain ⟨n, below⟩ := exists_pow_lt_of_lt_one (div_pos positive above) small
    exact ⟨n, by rwa [lt_div_iff₀' above] at below⟩
  have last : x * factor ^ countdown factor bound x < bound := Nat.sInf_mem ends
  change countdown factor bound (x * factor) < countdown factor bound x
  cases left : countdown factor bound x with
  | zero =>
      rw [left, pow_zero, mul_one] at last
      exact absurd last (not_lt.2 long)
  | succ k =>
      rw [left, pow_succ', ← mul_assoc] at last
      exact Nat.lt_succ_of_le (Nat.sInf_le last)

/-- A direction is at least as long as its first component. -/
theorem not_hypot_le {x y bound : ℝ} (long : bound < |x|) : ¬Scalar.hypot x y ≤ bound := by
  have longer : |x| ≤ Scalar.hypot x y := by
    rw [hypot]
    exact Real.abs_le_sqrt (by nlinarith [mul_self_nonneg y])
  exact not_le.2 (long.trans_le longer)

theorem isFinite_shape (shape : Shape ℝ) : shape.isFinite = true := by
  simp [Shape.isFinite]

/-- A shape as an entity that may be moved. -/
def entity (id : Int) (shape : Shape ℝ) : Entity ℝ :=
  ⟨id, shape, .of false, isFinite_shape shape⟩

theorem standard_check : (Options.standard : Options ℝ).check = .ok () := by
  have positive (option : PositiveOption) {x : ℝ} (h : 0 < x) :
      Options.positive option x = .ok () := if_pos h
  have damping : 0 < (Tolerance.damping : ℝ) ∧ (Tolerance.damping : ℝ) < 1 := by
    norm_num [Tolerance.damping]
  unfold Options.check
  rw [Options.standard, if_pos damping]
  refine bind_eq_ok.2 ⟨(), positive _ (by norm_num [Tolerance.solved]), ?_⟩
  refine bind_eq_ok.2 ⟨(), positive _ (by norm_num [Tolerance.minStep]), ?_⟩
  refine bind_eq_ok.2 ⟨(), positive _ (by norm_num [Tolerance.rank]), ?_⟩
  refine bind_eq_ok.2 ⟨(), positive _ (by norm_num [Tolerance.difference]), ?_⟩
  exact positive _ (by norm_num [Tolerance.gradient])

end Exact

end PlanarSketch
