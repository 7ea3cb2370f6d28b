import Mathlib
import PlanarSketch.Proofs.Double.Rounding
import PlanarSketch.Scalar.Double

/-!
# Ranks of doubles

The rank of a double that is not negative is what its bits say.  Zero comes first, then the
positive doubles in ascending order, then infinity; the bits of the values that are no numbers and
of all that is negative are larger.  A double below infinity is unpacked to the significand and
the scale of its rank (`unpacks`).

So doubles are compared as their ranks are (`le_iff_rank`, `lt_iff_rank`), and whatever is above
zero has a rank (`rank_of_pos`).

What the fields of a double are, and that no two doubles have the same bits, is known of the model
of doubles already; no part of Mathlib brings these facts along but the whole of it.
-/

namespace PlanarSketch.Double

set_option autoImplicit false

open Float.Model Float.Model.UnpackedFloat

/-! ## Unpacking -/

section Fields

variable (b : BitVec 64)

theorem toNat_unpackExponent :
    (@unpackExponent Format.binary64 b).toNat = b.toNat / 2 ^ 52 % 2 ^ 11 := by
  rw [unpackExponent_def, BitVec.extractLsb'_toNat, Nat.shiftRight_eq_div_pow]

theorem toNat_unpackMantissa :
    (@unpackMantissa Format.binary64 b).toNat = b.toNat % 2 ^ 52 := by
  rw [unpackMantissa_def, BitVec.extractLsb'_toNat, Nat.shiftRight_zero]

theorem exponent_eq_top_iff :
    @unpackExponent Format.binary64 b = -1#_ ↔ b.toNat / 2 ^ 52 % 2 ^ 11 = 2047 := by
  rw [← BitVec.toNat_inj, toNat_unpackExponent]
  rfl

theorem exponent_eq_zero_iff :
    @unpackExponent Format.binary64 b = 0#_ ↔ b.toNat / 2 ^ 52 % 2 ^ 11 = 0 := by
  rw [← BitVec.toNat_inj, toNat_unpackExponent]
  rfl

theorem mantissa_eq_zero_iff :
    @unpackMantissa Format.binary64 b = 0#_ ↔ b.toNat % 2 ^ 52 = 0 := by
  rw [← BitVec.toNat_inj, toNat_unpackMantissa]
  rfl

theorem sign_eq_iff :
    Sign.ofBitVec (@unpackSign Format.binary64 b) = .positive ↔ b.toNat < 2 ^ 63 := by
  have digit : @unpackSign Format.binary64 b = 0#1 ↔ b.toNat < 2 ^ 63 := by
    rw [← BitVec.toNat_inj, unpackSign_def, BitVec.extractLsb'_toNat, Nat.shiftRight_eq_div_pow]
    change b.toNat / 2 ^ 63 % 2 ^ 1 = 0 ↔ _
    have := b.isLt
    omega
  rw [← digit, Sign.ofBitVec]
  split_ifs with zero
  · simp [zero]
  · simp [zero]

variable {b}

/-- A double is unpacked to the significand and the scale of its rank. -/
theorem unpack_of_form {t m : ℕ} (form : b.toNat = t * 2 ^ 52 + m) (normal : Normal t m)
    (short : m < 2 ^ 53) (fits : t < 2046) (positive : 0 < m) :
    UnpackedFloat.unpack Format.binary64 b = .finite .positive m (t - 1074) positive := by
  unfold Normal at normal
  have sign : Sign.ofBitVec (@unpackSign Format.binary64 b) = .positive :=
    (sign_eq_iff b).2 (by omega)
  have ordinary : ¬@unpackExponent Format.binary64 b = -1#_ :=
    mt (exponent_eq_top_iff b).1 (by omega)
  unfold UnpackedFloat.unpack
  simp only [sign, if_neg ordinary, toNat_unpackExponent]
  -- The least exponent is that of the significands which lack the leading digit.
  by_cases leading : 2 ^ 52 ≤ m
  · have large : ¬@unpackExponent Format.binary64 b = 0#_ :=
      mt (exponent_eq_zero_iff b).1 (by omega)
    have digits : (1#1 ++ @unpackMantissa Format.binary64 b).toNat = m := by
      rw [BitVec.toNat_append, ← Nat.shiftLeft_add_eq_or_of_lt (BitVec.isLt _), Nat.shiftLeft_eq,
        toNat_unpackMantissa]
      change 1 * 2 ^ 52 + b.toNat % 2 ^ 52 = m
      omega
    have exponent : ((b.toNat / 2 ^ 52 % 2 ^ 11 : ℕ) : ℤ) - (Format.binary64.exponentBias +
        Format.binary64.mantissaBitsWithoutImplicit) = t - 1074 := by
      change ((b.toNat / 2 ^ 52 % 2 ^ 11 : ℕ) : ℤ) - ((1023 : ℕ) + (52 : ℕ)) = t - 1074
      omega
    rw [if_neg large]
    simp only [digits, exponent]
  · have small : @unpackExponent Format.binary64 b = 0#_ := (exponent_eq_zero_iff b).2 (by omega)
    have some : ¬@unpackMantissa Format.binary64 b = 0#_ :=
      mt (mantissa_eq_zero_iff b).1 (by omega)
    have digits : b.toNat % 2 ^ 52 = m := by omega
    have exponent : ((b.toNat / 2 ^ 52 % 2 ^ 11 : ℕ) : ℤ) - (Format.binary64.exponentBias +
        Format.binary64.mantissaBitsWithoutImplicit) + 1 = t - 1074 := by
      change ((b.toNat / 2 ^ 52 % 2 ^ 11 : ℕ) : ℤ) - ((1023 : ℕ) + (52 : ℕ)) + 1 = t - 1074
      omega
    rw [if_pos small, dif_neg some]
    simp only [toNat_unpackMantissa, digits, exponent]

/-- The positive doubles are those whose bits are not above those of infinity. -/
theorem bounds_of_pos
    (above : UnpackedFloat.lt (.zero .positive) (.unpack Format.binary64 b) = true) :
    0 < b.toNat ∧ b.toNat ≤ 2047 * 2 ^ 52 := by
  unfold UnpackedFloat.unpack at above
  dsimp only at above
  cases read : Sign.ofBitVec (@unpackSign Format.binary64 b) with
  | negative =>
      rw [read] at above
      split_ifs at above
      all_goals cases above
  | positive =>
      have small := (sign_eq_iff b).1 read
      rw [read] at above
      split_ifs at above with beyond point low none
      · have top := (exponent_eq_top_iff b).1 beyond
        have whole := (mantissa_eq_zero_iff b).1 point
        omega
      · cases above
      · cases above
      · have some := mt (mantissa_eq_zero_iff b).2 none
        have least := (exponent_eq_zero_iff b).1 low
        omega
      · have ordinary := mt (exponent_eq_top_iff b).2 beyond
        have large := mt (exponent_eq_zero_iff b).2 low
        omega

end Fields

/-! ## Ranks of doubles -/

/-- The rank of a double that is not negative, which is what its bits say. -/
def rank (x : Float) : ℕ := x.toBits.toNat

theorem rank_injective {x y : Float} (same : rank x = rank y) : x = y :=
  Float.toBits_inj.1 (UInt64.toNat_inj.1 same)

/-- What is unpacked from a double that is not negative. -/
inductive Unpacks : ℕ → UnpackedFloat → Prop where
  | zero : Unpacks 0 (.zero .positive)
  | finite {t m : ℕ} (normal : Normal t m) (short : m < 2 ^ 53) (fits : t < 2046)
      (positive : 0 < m) : Unpacks (t * 2 ^ 52 + m) (.finite .positive m (t - 1074) positive)
  | infinity : Unpacks infinityRank (.infinity .positive)

theorem unpacks {x : Float} (most : rank x ≤ infinityRank) : Unpacks (rank x) x.toModel.unpack := by
  have bits : x.toModel.toBits.toBitVec.toNat = rank x := rfl
  change Unpacks (rank x) (UnpackedFloat.unpack Format.binary64 x.toModel.toBits.toBitVec)
  rw [← bits] at most ⊢
  generalize x.toModel.toBits.toBitVec = b at most ⊢
  rcases Nat.eq_zero_or_pos b.toNat with none | positive
  · obtain rfl : b = 0#64 := BitVec.eq_of_toNat_eq none
    exact .zero
  · rcases most.lt_or_eq with less | beyond
    · obtain ⟨t, m, form, short, normal⟩ := exists_form b.toNat
      unfold infinityRank at less
      have fits : t < 2046 := by
        unfold Normal at normal
        omega
      have counted : 0 < m := by
        unfold Normal at normal
        omega
      rw [unpack_of_form form normal short fits counted, form]
      exact .finite normal short fits counted
    · obtain rfl : b = BitVec.ofNat 64 infinityRank := BitVec.eq_of_toNat_eq beyond
      exact .infinity

/-- What comes before infinity is finite. -/
theorem isFinite_of_rank_lt {x : Float} (below : rank x < infinityRank) : isFinite x = true := by
  have unpacked := unpacks below.le
  change x.toModel.unpack.isFinite = true
  generalize rank x = r at below unpacked
  generalize x.toModel.unpack = u at unpacked
  cases unpacked with
  | zero | finite normal short fits positive => rfl
  | infinity => exact absurd below (lt_irrefl _)

/-- Exponents are compared first, and significands where exponents are the same. -/
theorem compare_form {t m t' m' : ℕ} (normal : Normal t m) (short : m < 2 ^ 53)
    (normal' : Normal t' m') (short' : m' < 2 ^ 53) :
    (compare ((t : ℤ) - 1074) (t' - 1074)).then (compare m m') =
      compare (t * 2 ^ 52 + m) (t' * 2 ^ 52 + m') := by
  unfold Normal at normal normal'
  rcases lt_trichotomy t t' with less | rfl | more
  · have below : t * 2 ^ 52 + m < t' * 2 ^ 52 + m' := by omega
    rw [compare_lt_iff_lt.2 below, compare_lt_iff_lt.2 (by omega)]
    rfl
  · rw [compare_eq_iff_eq.2 rfl, Ordering.eq_then]
    rcases lt_trichotomy m m' with less | rfl | more
    · rw [compare_lt_iff_lt.2 less, compare_lt_iff_lt.2 (Nat.add_lt_add_left less _)]
    · rw [compare_eq_iff_eq.2 rfl, compare_eq_iff_eq.2 rfl]
    · rw [compare_gt_iff_gt.2 more, compare_gt_iff_gt.2 (Nat.add_lt_add_left more _)]
  · have above : t' * 2 ^ 52 + m' < t * 2 ^ 52 + m := by omega
    rw [compare_gt_iff_gt.2 above, compare_gt_iff_gt.2 (by omega)]
    rfl

/-- Numbers are compared as their ranks are. -/
theorem Unpacks.compared {a b : ℕ} {u v : UnpackedFloat} (first : Unpacks a u)
    (second : Unpacks b v) : u.compare v = some (compare a b) := by
  cases first with
  | zero =>
      cases second with
      | zero => rfl
      | finite normal short fits positive =>
          exact congrArg some (compare_lt_iff_lt.2 (by omega)).symm
      | infinity => rfl
  | @finite t m normal short fits positive =>
      cases second with
      | zero => exact congrArg some (compare_gt_iff_gt.2 (by omega)).symm
      | @finite t' m' normal' short' fits' positive' =>
          change some ((compare ((t : ℤ) - 1074) (t' - 1074)).then (compare m m')) = _
          rw [compare_form normal short normal' short']
      | infinity => exact congrArg some (compare_lt_iff_lt.2 (by unfold infinityRank; omega)).symm
  | infinity =>
      cases second with
      | zero => rfl
      | finite normal short fits positive =>
          exact congrArg some (compare_gt_iff_gt.2 (by unfold infinityRank; omega)).symm
      | infinity => rfl

section Order

variable {x y : Float}

theorem le_iff_rank (first : rank x ≤ infinityRank) (second : rank y ≤ infinityRank) :
    x ≤ y ↔ rank x ≤ rank y := by
  change Float.le x y = true ↔ _
  have compared := (unpacks first).compared (unpacks second)
  change decide ((x.toModel.unpack.compare y.toModel.unpack).any (·.isLE) = true) = true ↔ _
  rw [compared]
  simp [Nat.isLE_compare]

theorem lt_iff_rank (first : rank x ≤ infinityRank) (second : rank y ≤ infinityRank) :
    x < y ↔ rank x < rank y := by
  have compared := (unpacks first).compared (unpacks second)
  change decide ((x.toModel.unpack.compare y.toModel.unpack == some .lt) = true) = true ↔ _
  rw [compared]
  simp [compare_lt_iff_lt]

theorem rank_one : rank 1 = 1023 * 2 ^ 52 := by decide

theorem rank_of_pos (positive : 0 < x) : 0 < rank x ∧ rank x ≤ infinityRank := by
  have above : UnpackedFloat.lt (0 : Float).toModel.unpack x.toModel.unpack = true :=
    of_decide_eq_true positive
  have zero : (0 : Float).toModel.unpack = .zero .positive := rfl
  rw [zero] at above
  exact bounds_of_pos above

/-- No double is less than itself, be it a number or not. -/
theorem not_lt_self (x : Float) : ¬x < x := by
  change ¬(decide ((x.toModel.unpack.compare x.toModel.unpack == some .lt) = true) = true)
  cases x.toModel.unpack with
  | notANumber => decide
  | infinity s => cases s <;> decide
  | zero s => cases s <;> decide
  | finite s m e positive => cases s <;> simp [UnpackedFloat.compare]

end Order

end PlanarSketch.Double
