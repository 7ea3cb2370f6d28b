import PlanarSketch.Decimal.Binary
import PlanarSketch.Proofs.Double.Ranks

/-!
# Products of doubles

A product with a number below one is rounded to the nearest double (`nearest_mul`).  Such a number
falls short of one by the spacing of the doubles there at least, so the theory of factors below one
applies to it (`damping_of_lt`).

In numbers: a double stays where it is when the factor takes away less than half of the smallest
positive double, `2 ^ (-1075)`, or half of it while the rank is even (`stays_iff`).
-/

namespace PlanarSketch.Double

set_option autoImplicit false

open Float.Model Float.Model.UnpackedFloat
open PlanarSketch.Decimal (Reading fractions)

/-! ## Numbers -/

/-- The number that a double stands for; zero stands in for what is none. -/
def value (x : Float) : ℚ :=
  match Reading.ofFloat x with
  | .finite b => b.signed * 2 ^ b.exponent
  | _ => 0

/-- The significand and the scale of a rank are what its bits are read as. -/
theorem ofBits_of_form {t m : ℕ} (normal : Normal t m) (short : m < 2 ^ 53) (fits : t < 2046) :
    Reading.ofBits (t * 2 ^ 52 + m) = .finite ⟨false, m, t - 1074⟩ := by
  have unit : fractions = 2 ^ 52 := rfl
  have positive : ((t * 2 ^ 52 + m) / 2 ^ 52 / 2048 % 2 == 1) = false := by
    rw [beq_eq_false_iff_ne]
    omega
  have finite : (t * 2 ^ 52 + m) / 2 ^ 52 % 2048 ≠ 2047 := by omega
  unfold Normal at normal
  unfold Reading.ofBits
  simp only [unit, positive, if_neg finite]
  by_cases leading : 2 ^ 52 ≤ m
  · have field : (t * 2 ^ 52 + m) / 2 ^ 52 % 2048 = t + 1 := by omega
    have significand : (t * 2 ^ 52 + m) % 2 ^ 52 + 2 ^ 52 = m := by omega
    have exponent : ((t + 1 : ℕ) : ℤ) - 1075 = t - 1074 := by omega
    rw [field, significand, exponent, if_neg (Nat.succ_ne_zero t)]
  · obtain rfl : t = 0 := by omega
    have field : (0 * 2 ^ 52 + m) / 2 ^ 52 % 2048 = 0 := by omega
    have significand : (0 * 2 ^ 52 + m) % 2 ^ 52 = m := by omega
    rw [if_pos field, significand]
    rfl

theorem value_eq {x : Float} (finite : rank x < infinityRank) :
    value x = magnitude (rank x) / 2 ^ 1074 := by
  obtain ⟨t, m, form, short, normal⟩ := exists_form (rank x)
  have fits : t < 2046 := by
    unfold infinityRank at finite
    unfold Normal at normal
    omega
  have read : Reading.ofFloat x = .finite ⟨false, m, t - 1074⟩ := by
    rw [← ofBits_of_form normal short fits, ← form]
    rfl
  have two : (2 : ℚ) ≠ 0 := two_ne_zero
  have scaled : (2 : ℚ) ^ ((t : ℤ) - 1074) = 2 ^ t / 2 ^ 1074 := zpow_sub₀ two t 1074
  rw [value, read, form, magnitude_of_form normal short.le, Nat.cast_mul, Nat.cast_pow,
    Nat.cast_ofNat, mul_div_assoc, ← scaled]
  rfl

/-! ## Multiplying by less than one -/

/-- A product is rounded to the nearest double, unless its scale is above that of all doubles. -/
theorem nearest_round {M u : ℕ} {e : ℤ} (positive : 0 < M) (exponent : e = u - 2148)
    (room : u ≤ 1074 ∨ 52 ≤ M.log2) (fits : M.log2 + u < 3172) :
    Nearest (M * 2 ^ u) (2 ^ 1074)
      (UnpackedFloat.pack Format.binary64
        (roundWithAccuracy Format.binary64 .positive M e .exact)).toNat := by
  obtain ⟨t, scaled⟩ : ∃ t, t = M.log2 + u - 1126 := ⟨_, rfl⟩
  obtain ⟨s, shift⟩ : ∃ s, s + u = 1074 + t := ⟨1074 + t - u, by omega⟩
  have settles : Settles M e t s := ⟨by omega, by omega⟩
  obtain ⟨q, rounds, normal, short, packed⟩ := settles.exists_rounds positive (by omega)
  have unit : 0 < 2 ^ u := Nat.two_pow_pos u
  rw [packed]
  refine Nearest.of_rounds (rounds.scale unit) ?_ (by positivity) ?_ ?_
  · rw [← pow_add, ← pow_add, shift]
  · rwa [Nat.mul_div_mul_right _ _ unit]
  · rwa [Nat.mul_div_mul_right _ _ unit]

theorem nearest_zero {E : ℕ} (positive : 0 < E) (b : ℕ) : Nearest (magnitude 0 * b) E 0 := by
  intro k
  have above : 0 < E * (magnitude k + magnitude (k + 1)) :=
    Nat.mul_pos positive (Nat.add_pos_right _ (k.succ_pos.trans_le magnitude_strictMono.le_apply))
  rw [magnitude_of_small (Nat.zero_le _), Nat.zero_mul]
  exact iff_of_false (Nat.not_lt_zero k) fun passed => absurd passed.le above.not_ge

theorem Unpacks.nearest_mul {a b : ℕ} {u v : UnpackedFloat} (first : Unpacks a u)
    (second : Unpacks b v) (finite : a < infinityRank) (positive : 0 < b)
    (below : b < 1023 * 2 ^ 52) :
    Nearest (magnitude a * magnitude b) (2 ^ 1074)
      (UnpackedFloat.pack Format.binary64 (UnpackedFloat.mul Format.binary64 u v)).toNat := by
  cases second with
  | zero => exact absurd positive (lt_irrefl 0)
  | infinity =>
      unfold infinityRank at below
      omega
  | @finite t₂ m₂ normal₂ short₂ fits₂ positive₂ =>
      cases first with
      | zero => exact nearest_zero (by positivity) _
      | infinity => exact absurd finite (lt_irrefl _)
      | @finite t₁ m₁ normal₁ short₁ fits₁ positive₁ =>
          have counted : 0 < m₁ * m₂ := Nat.mul_pos positive₁ positive₂
          have digits : m₁ * m₂ < 2 ^ 53 * 2 ^ 53 :=
            Nat.mul_lt_mul_of_lt_of_le short₁ short₂.le (Nat.two_pow_pos 53)
          rw [← pow_add, ← Nat.log2_lt counted.ne'] at digits
          have product : magnitude (t₁ * 2 ^ 52 + m₁) * magnitude (t₂ * 2 ^ 52 + m₂) =
              m₁ * m₂ * 2 ^ (t₁ + t₂) := by
            rw [magnitude_of_form normal₁ short₁.le, magnitude_of_form normal₂ short₂.le]
            ring
          rw [product]
          unfold Normal at normal₁ normal₂
          refine nearest_round counted (by push_cast; ring) ?_ (by omega)
          -- A first factor without its leading digit is at the least scale.
          rcases normal₁ with rfl | leading
          · left
            omega
          · right
            rw [Nat.le_log2 counted.ne']
            exact leading.trans (Nat.le_mul_of_pos_right m₁ positive₂)

section Factor

variable {x d : Float}

/-- **Multiplying by a number below one** rounds the product to the nearest double. -/
theorem nearest_mul (finite : rank x < infinityRank) (positive : 0 < rank d)
    (below : rank d < rank 1) :
    Nearest (magnitude (rank x) * magnitude (rank d)) (2 ^ 1074) (rank (x * d)) := by
  rw [rank_one] at below
  exact (unpacks finite.le).nearest_mul
    (unpacks (below.le.trans (by decide))) finite positive below

/-- One is a whole multiple of the smallest positive double. -/
theorem magnitude_one : magnitude (rank 1) = 2 ^ 1074 := by
  have form : rank 1 = 1022 * 2 ^ 52 + 2 ^ 52 := rank_one
  rw [form, magnitude_of_form (.inr le_rfl) (by norm_num), ← pow_add]

/-- The numbers below one fall short of it by the spacing there. -/
theorem magnitude_add_le (below : rank d < rank 1) :
    magnitude (rank d) + 2 ^ 1021 ≤ 2 ^ 1074 := by
  have last : 2 ^ 52 ≤ 2 ^ 53 - 1 := by norm_num
  have next : rank 1 = 1021 * 2 ^ 52 + (2 ^ 53 - 1) + 1 := rank_one
  have most : rank d ≤ 1021 * 2 ^ 52 + (2 ^ 53 - 1) := by omega
  rw [← magnitude_one, next, magnitude_succ (.inr last) (by norm_num)]
  exact Nat.add_le_add_right (magnitude_strictMono.monotone most) _

/-- A number below one is a factor that damps. -/
theorem damping_of_lt (below : rank d < rank 1) :
    Damping (magnitude (rank d)) (2 ^ 1074 - magnitude (rank d)) (2 ^ 1074) := by
  have most := magnitude_add_le below
  refine ⟨Nat.add_sub_of_le (Nat.le_of_add_right_le most), ?_, by positivity⟩
  calc 2 ^ 1074 = 2 ^ 53 * 2 ^ 1021 := by rw [← pow_add]
    _ ≤ 2 ^ 53 * (2 ^ 1074 - magnitude (rank d)) :=
      Nat.mul_le_mul_left _ (Nat.le_sub_of_add_le' most)

/-- What a factor takes away is compared with half of the smallest positive double. -/
theorem stays_iff (finite : rank x < infinityRank) (below : rank d < rank 1) :
    Stays (2 ^ 1074 - magnitude (rank d)) (2 ^ 1074) (rank x) ↔
      value x * (1 - value d) < 2 ^ (-1075 : ℤ) ∨
        value x * (1 - value d) = 2 ^ (-1075 : ℤ) ∧ Even (rank x) := by
  have complement := (damping_of_lt below).complement
  have positive := (damping_of_lt below).positive
  have cast : (2 : ℚ) ^ 1074 = (2 ^ 1074 : ℕ) := (Nat.cast_pow 2 1074).symm
  have half : (2 : ℚ) ^ (-1075 : ℤ) = 1 / (2 * 2 ^ 1074) := by
    rw [← pow_succ', one_div]
    exact zpow_neg (2 : ℚ) 1075
  rw [value_eq finite, value_eq (below.trans (by decide)), half, cast]
  generalize 2 ^ 1074 - magnitude (rank d) = G at *
  generalize 2 ^ 1074 = E at *
  have unit : 0 < (E : ℚ) := Nat.cast_pos.2 positive
  have share : 1 - (magnitude (rank d) : ℚ) / E = G / E := by
    rw [eq_div_iff unit.ne', sub_mul, div_mul_cancel₀ _ unit.ne', one_mul, ← complement,
      Nat.cast_add, add_sub_cancel_left]
  have product (a : ℕ) : (a : ℚ) * G * (2 * E) = ((2 * (a * G) : ℕ) : ℚ) * E := by
    push_cast
    ring
  rw [share, div_mul_div_comm, div_lt_div_iff₀ (by positivity) (by positivity),
    div_eq_div_iff (by positivity) (by positivity), product, one_mul,
    mul_lt_mul_iff_left₀ unit, mul_left_inj' unit.ne', Nat.cast_lt, Nat.cast_inj]
  rfl

end Factor

end PlanarSketch.Double
