import Mathlib.Algebra.Order.Ring.Nat
import Mathlib.Algebra.Ring.Parity
import Mathlib.Order.Monotone.Basic
import Mathlib.Tactic.Linarith
import Mathlib.Tactic.Ring

/-!
# The grid of doubles

The doubles that are not negative are numbered upwards from zero.  The number of a double, its
rank, is what its bits say.  Up to rank `2 ^ 53` the doubles are the multiples of the smallest
positive one; from then on the spacing doubles every `2 ^ 52` ranks (`magnitude_of_form`).

A number is rounded to the nearest double, and halfway between two of them to the one of even
rank.  That is told by the ranks that are passed: the nearest rank is above exactly those that
are nearer to the rank below (`Nearest`).  A rank in a binade is found by rounding there
(`Nearest.of_rounds`).

A factor below one moves a double down the grid, or leaves it where it is (`Damping.le`).  It
does leave it there just when it takes away less than half the least spacing, or half of it while
the rank is even (`Damping.eq_iff`), so this happens among the smallest doubles only.  A double
that stays where it is holds up what comes from above: multiplying again and again does not get
below it, while it gets below any other double in the end (`Damping.forall_le_iff`).
-/

namespace PlanarSketch.Double

set_option autoImplicit false

/-! ## Ranks and magnitudes -/

/-- How often the spacing has doubled at a rank. -/
def scale (b : ℕ) : ℕ := b / 2 ^ 52 - 1

/-- The double of a rank, as a multiple of the smallest positive one. -/
def magnitude (b : ℕ) : ℕ := (b - scale b * 2 ^ 52) * 2 ^ scale b

/-- A significand that fits a scale: it has the leading digit, unless the spacing is the least. -/
def Normal (t m : ℕ) : Prop := t = 0 ∨ 2 ^ 52 ≤ m

/-- The rank of a significand at a scale.  A significand of one digit too many is as good, since it
leads to the first rank of the next scale. -/
theorem magnitude_of_form {t m : ℕ} (normal : Normal t m) (short : m ≤ 2 ^ 53) :
    magnitude (t * 2 ^ 52 + m) = m * 2 ^ t := by
  unfold magnitude
  unfold Normal at normal
  rcases short.lt_or_eq with below | rfl
  · have same : scale (t * 2 ^ 52 + m) = t := by
      unfold scale
      omega
    rw [same, Nat.add_sub_cancel_left]
  · have next : scale (t * 2 ^ 52 + 2 ^ 53) = t + 1 := by
      unfold scale
      omega
    have leading : t * 2 ^ 52 + 2 ^ 53 - (t + 1) * 2 ^ 52 = 2 ^ 52 := by omega
    rw [next, leading]
    ring

/-- Every rank has a scale and a significand. -/
theorem exists_form (b : ℕ) : ∃ t m, b = t * 2 ^ 52 + m ∧ m < 2 ^ 53 ∧ Normal t m := by
  refine ⟨scale b, b - scale b * 2 ^ 52, ?_, ?_, ?_⟩
  · unfold scale
    omega
  · unfold scale
    omega
  · unfold Normal scale
    omega

/-- Each rank has a larger magnitude than the one before it, by the spacing. -/
theorem magnitude_succ {t m : ℕ} (normal : Normal t m) (short : m < 2 ^ 53) :
    magnitude (t * 2 ^ 52 + m + 1) = magnitude (t * 2 ^ 52 + m) + 2 ^ t := by
  have normal' : Normal t (m + 1) := normal.imp id Nat.le_succ_of_le
  rw [Nat.add_assoc, magnitude_of_form normal' short, magnitude_of_form normal short.le]
  ring

theorem magnitude_strictMono : StrictMono magnitude := by
  refine strictMono_nat_of_lt_succ fun b => ?_
  obtain ⟨t, m, rfl, short, normal⟩ := exists_form b
  rw [magnitude_succ normal short]
  exact Nat.lt_add_of_pos_right (Nat.two_pow_pos t)

theorem magnitude_of_small {b : ℕ} (small : b ≤ 2 ^ 53) : magnitude b = b := by
  simpa using magnitude_of_form (t := 0) (.inl rfl) small

/-- Away from the smallest doubles the spacing is small against the numbers. -/
theorem spacing_lt {b : ℕ} (large : 2 ^ 52 ≤ b) :
    2 ^ 52 * magnitude (b + 1) < magnitude (b + 1) + 2 ^ 52 * magnitude b := by
  obtain ⟨t, m, rfl, short, normal⟩ := exists_form b
  have leading : 2 ^ 52 ≤ m := by
    unfold Normal at normal
    omega
  rw [magnitude_succ normal short, magnitude_of_form normal short.le]
  nlinarith [Nat.two_pow_pos t]

/-! ## Rounding -/

/-- Rounding goes beyond a number when the middle between it and the next is below what is rounded,
or when it is equal and the number is odd. -/
def Passed (middle twice n : ℕ) : Prop := middle < twice ∨ middle = twice ∧ Odd n

theorem Passed.le {middle twice n : ℕ} (passed : Passed middle twice n) : middle ≤ twice := by
  rcases passed with less | ⟨tie, -⟩
  · exact less.le
  · exact tie.le

theorem Passed.mono {middle twice twice' n : ℕ} (passed : Passed middle twice n)
    (le : twice ≤ twice') : Passed middle twice' n := by
  rcases passed with less | ⟨tie, odd⟩
  · exact .inl (less.trans_le le)
  · exact (tie.trans_le le).lt_or_eq.imp id fun tie => ⟨tie, odd⟩

/-- A whole number is nearest to `N / E`. -/
def Rounds (N E q : ℕ) : Prop := ∀ n, n < q ↔ Passed ((2 * n + 1) * E) (2 * N) n

/-- The double of a rank is nearest to `N / E`. -/
def Nearest (N E b : ℕ) : Prop :=
  ∀ k, k < b ↔ Passed (E * (magnitude k + magnitude (k + 1))) (2 * N) k

theorem Rounds.bounds {N E q : ℕ} (rounds : Rounds N E q) (positive : 0 < E) :
    N / E ≤ q ∧ q ≤ N / E + 1 := by
  have low := Nat.div_mul_le_self N E
  have high : N < (N / E + 1) * E := Nat.lt_mul_of_div_lt (Nat.lt_succ_self _) positive
  constructor
  · refine forall_lt_iff_le.1 fun n below => (rounds n).2 (.inl ?_)
    nlinarith
  · refine not_lt.1 fun more => ?_
    have passed := ((rounds _).1 more).le
    nlinarith

theorem Rounds.scale {N E q c : ℕ} (rounds : Rounds N E q) (positive : 0 < c) :
    Rounds (N * c) (E * c) q := by
  intro n
  rw [rounds n, Passed, Passed, ← mul_assoc, ← mul_assoc, Nat.mul_lt_mul_right positive,
    Nat.mul_left_inj positive.ne']

/-- Rounding at a scale is rounding on the grid, if the significand fits the scale before it is
rounded. -/
theorem Nearest.of_rounds {t N E F q : ℕ} (rounds : Rounds N F q) (size : E * 2 ^ t = F)
    (positive : 0 < F) (normal : Normal t (N / F)) (short : N / F < 2 ^ 53) :
    Nearest N E (t * 2 ^ 52 + q) := by
  have low := Nat.div_mul_le_self N F
  have high : N < (N / F + 1) * F := Nat.lt_mul_of_div_lt (Nat.lt_succ_self _) positive
  obtain ⟨least, most⟩ := rounds.bounds positive
  generalize N / F = f at *
  have E_pos : 0 < E := Nat.pos_of_mul_pos_right (size ▸ positive)
  have here : E * magnitude (t * 2 ^ 52 + f) = f * F := by
    rw [magnitude_of_form normal short.le, ← size]
    ring
  have above : E * magnitude (t * 2 ^ 52 + f + 1) = (f + 1) * F := by
    rw [magnitude_succ normal short, magnitude_of_form normal short.le, ← size]
    ring
  intro k
  rw [mul_add]
  rcases lt_trichotomy k (t * 2 ^ 52 + f) with below | rfl | beyond
  · -- Both neighbours of the middle are not above what is rounded.
    have next : k + 1 ≤ t * 2 ^ 52 + f := below
    have first := Nat.mul_lt_mul_of_pos_left (magnitude_strictMono below) E_pos
    have second := Nat.mul_le_mul_left E (magnitude_strictMono.monotone next)
    exact iff_of_true (by omega) (.inl (by omega))
  · have parity : Odd (t * 2 ^ 52 + f) ↔ Odd f := by
      rw [Nat.odd_add', iff_true_right (Even.mul_left (by decide) t)]
    have middle : f * F + (f + 1) * F = (2 * f + 1) * F := by ring
    rw [Nat.add_lt_add_iff_left, rounds f, here, above, middle, Passed, Passed, parity]
  · have next : t * 2 ^ 52 + f + 1 ≤ k := beyond
    have first := Nat.mul_le_mul_left E (magnitude_strictMono.monotone next)
    have second := Nat.mul_le_mul_left E (magnitude_strictMono.monotone k.le_succ)
    refine iff_of_false (by omega) fun passed => ?_
    have le : E * magnitude k + E * magnitude (k + 1) ≤ 2 * N := passed.le
    rw [Nat.succ_eq_add_one] at second
    omega

/-- A number that is not above a double is not rounded to one above it. -/
theorem Nearest.le_of_le {N E b c : ℕ} (nearest : Nearest N E c) (positive : 0 < E)
    (le : N ≤ E * magnitude b) : c ≤ b := by
  refine not_lt.1 fun above => ?_
  have next := magnitude_strictMono (Nat.lt_succ_self b)
  have passed := ((nearest b).1 above).le
  nlinarith

/-! ## Factors below one -/

/-- A factor `D / E` falls short of one by `G / E`, which is as much as the doubles below one do. -/
structure Damping (D G E : ℕ) : Prop where
  complement : D + G = E
  apart : E ≤ 2 ^ 53 * G
  positive : 0 < E

/-- What a factor takes away from a double is less than half of the least spacing, or is half of it
while the rank is even. -/
def Stays (G E b : ℕ) : Prop := 2 * (magnitude b * G) < E ∨ 2 * (magnitude b * G) = E ∧ Even b

namespace Damping

variable {D G E : ℕ} (damping : Damping D G E) {a b c : ℕ}

include damping

theorem complement_pos : 0 < G := by
  have := damping.apart
  have := damping.positive
  omega

/-- **A factor leaves a double where it is** among the smallest doubles only, and there by what it
takes away. -/
theorem passed_iff (k : ℕ) :
    Passed (E * (magnitude k + magnitude (k + 1))) (2 * (magnitude (k + 1) * D)) k ↔
      Stays G E (k + 1) := by
  obtain ⟨complement, apart, positive⟩ := damping
  have parts : magnitude (k + 1) * D + magnitude (k + 1) * G = magnitude (k + 1) * E := by
    rw [← mul_add, complement]
  unfold Passed Stays
  rcases Nat.lt_or_ge k (2 ^ 52) with small | large
  · rw [magnitude_of_small (b := k + 1) (by omega)] at parts ⊢
    rw [magnitude_of_small (b := k) (by omega), Nat.even_add_one, Nat.not_even_iff_odd]
    have spread : E * (k + (k + 1)) + E = 2 * ((k + 1) * E) := by ring
    constructor
    · rintro (nearer | ⟨tie, odd⟩)
      · exact .inl (by omega)
      · exact .inr ⟨by omega, odd⟩
    · rintro (less | ⟨half, odd⟩)
      · exact .inl (by omega)
      · exact .inr ⟨by omega, odd⟩
  · -- Where the spacing has begun to grow, half of it is less than the factor takes away.
    have spacing := Nat.mul_lt_mul_of_pos_left (spacing_lt large) positive
    have scaled := Nat.mul_le_mul_left (magnitude (k + 1)) apart
    have most : 2 ^ 52 < magnitude (k + 1) :=
      large.trans_lt (Nat.lt_of_succ_le magnitude_strictMono.le_apply)
    refine iff_of_false (fun passed => ?_) fun stays => ?_
    · have le := Passed.le passed
      nlinarith
    · have le : 2 * (magnitude (k + 1) * G) ≤ E := by omega
      nlinarith

/-- A factor below one moves no double upwards. -/
theorem le (nearest : Nearest (magnitude b * D) E c) : c ≤ b := by
  have := damping.complement
  exact nearest.le_of_le damping.positive (by nlinarith)

theorem eq_iff (nearest : Nearest (magnitude b * D) E c) (counted : 0 < b) :
    c = b ↔ Stays G E b := by
  have most := damping.le nearest
  obtain ⟨k, rfl⟩ : ∃ k, b = k + 1 := ⟨b - 1, by omega⟩
  rw [← damping.passed_iff k, ← nearest k]
  omega

/-- What is below a double that stays where it is stays there, too. -/
theorem stays_of_le (stays : Stays G E b) (le : a ≤ b) : Stays G E a := by
  rcases le.lt_or_eq with below | rfl
  · have less := Nat.mul_lt_mul_of_pos_right (magnitude_strictMono below) damping.complement_pos
    left
    rcases stays with short | ⟨half, -⟩
    · omega
    · omega
  · exact stays

/-- Nothing is moved past a double that stays where it is. -/
theorem ge_of_stays (nearest : Nearest (magnitude b * D) E c) (stays : Stays G E a)
    (counted : 0 < a) (le : a ≤ b) : a ≤ c := by
  obtain ⟨k, rfl⟩ : ∃ k, a = k + 1 := ⟨a - 1, by omega⟩
  have passed := (damping.passed_iff k).2 stays
  have scaled := Nat.mul_le_mul_right D (magnitude_strictMono.monotone le)
  exact (nearest k).2 (passed.mono (Nat.mul_le_mul_left 2 scaled))

/-- **Multiplying again and again does not get below a double** when that one stays where it is, and
only then. -/
theorem forall_le_iff {r : ℕ → ℕ} (steps : ∀ k, Nearest (magnitude (r k) * D) E (r (k + 1)))
    (counted : 0 < a) : (∀ k, a ≤ r k) ↔ a ≤ r 0 ∧ Stays G E a := by
  constructor
  · intro above
    -- A sequence of ranks cannot go down for ever.
    obtain ⟨k, same⟩ : ∃ k, r (k + 1) = r k := by
      by_contra moving
      rw [not_exists] at moving
      have down (k : ℕ) : r k + k ≤ r 0 := by
        induction k with
        | zero => exact le_rfl
        | succ k ih =>
            have most := damping.le (steps k)
            have next := moving k
            omega
      have := down (r 0 + 1)
      omega
    have stays := (damping.eq_iff (steps k) (counted.trans_le (above k))).1 same
    exact ⟨above 0, damping.stays_of_le stays (above k)⟩
  · rintro ⟨le, stays⟩ k
    induction k with
    | zero => exact le
    | succ k ih => exact damping.ge_of_stays (steps k) stays counted ih

end Damping

end PlanarSketch.Double
