import PlanarSketch.Proofs.Double.Grid

/-!
# How doubles are rounded

A significand that is shortened keeps two bits about what it loses: the round bit is the first
digit that was dropped, and the sticky bit tells whether any other of them was one.  What the two
have to do with the number before is the invariant of shortening (`Holds`).  It is all that is
needed to round to the nearest whole number (`Holds.rounds`).

A number without a sign is shortened to the digits that a double has, or to the least scale if
that comes first.  Rounding may make it one digit longer again; then it is a power of two, and
dropping its last digit loses nothing (`toNat_pack_settle`).  What is packed in the end has the
rank of the rounded significand at its scale (`Settles.exists_rounds`).
-/

namespace PlanarSketch.Double

set_option autoImplicit false

open Float.Model Float.Model.UnpackedFloat

/-- The rank of the value beyond all numbers. -/
def infinityRank : ℕ := 2047 * 2 ^ 52

/-! ## Significands with a round and a sticky bit -/

/-- A significand stands for `N / E` as far as its bits tell.  The round bit makes it a number of
halves, and the sticky bit tells whether there is something left. -/
def Holds (em : ExtendedMantissa) (N E : ℕ) : Prop :=
  let halves := 2 * em.mantissa + em.roundBit.toNat
  if em.stickyBit then halves * E < 2 * N ∧ 2 * N < (halves + 1) * E else 2 * N = halves * E

namespace Holds

variable {em : ExtendedMantissa} {N E : ℕ}

theorem exact (m : ℕ) : Holds (.ofMantissaAndAccuracy m .exact) m 1 := (mul_one (2 * m)).symm

/-- Dropping a digit makes the significand the number of halves. -/
theorem halves_shiftRightOne (em : ExtendedMantissa) :
    2 * em.shiftRightOne.mantissa + em.shiftRightOne.roundBit.toNat = em.mantissa := by
  change 2 * (em.mantissa / 2) + (em.mantissa % 2 != 0).toNat = em.mantissa
  rcases Nat.mod_two_eq_zero_or_one em.mantissa with even | odd
  · rw [even]
    change 2 * (em.mantissa / 2) + 0 = em.mantissa
    omega
  · rw [odd]
    change 2 * (em.mantissa / 2) + 1 = em.mantissa
    omega

theorem shiftRightOne (holds : Holds em N E) (positive : 0 < E) :
    Holds em.shiftRightOne N (2 * E) := by
  unfold Holds at *
  rw [halves_shiftRightOne]
  obtain ⟨m, round, sticky⟩ := em
  cases sticky with
  | true =>
      obtain ⟨low, high⟩ : (2 * m + round.toNat) * E < 2 * N ∧
        2 * N < (2 * m + round.toNat + 1) * E := holds
      have digit := Nat.mul_le_mul_right E round.toNat_le
      have above : m * (2 * E) < 2 * N := by linarith [Nat.zero_le (round.toNat * E)]
      have below : 2 * N < (m + 1) * (2 * E) := by linarith
      cases round with
      | _ => exact ⟨above, below⟩
  | false =>
      replace holds : 2 * N = (2 * m + round.toNat) * E := holds
      cases round with
      | false =>
          change 2 * N = m * (2 * E)
          rw [holds]
          simp only [Bool.toNat_false]
          ring
      | true =>
          change m * (2 * E) < 2 * N ∧ 2 * N < (m + 1) * (2 * E)
          rw [holds, Bool.toNat_true]
          constructor <;> nlinarith

theorem shiftRight (holds : Holds em N E) (positive : 0 < E) (s : ℕ) :
    Holds (em >>> s) N (2 ^ s * E) := by
  change Holds (s.repeat ExtendedMantissa.shiftRightOne em) N (2 ^ s * E)
  induction s with
  | zero => simpa [Nat.repeat] using holds
  | succ s ih =>
      rw [Nat.repeat, pow_succ', mul_assoc]
      exact ih.shiftRightOne (Nat.mul_pos (Nat.two_pow_pos s) positive)

/-- The bits tell enough to round to the nearest whole number. -/
theorem rounds (holds : Holds em N E) (positive : 0 < E) : Rounds N E em.roundedMantissa := by
  obtain ⟨m, round, sticky⟩ := em
  intro n
  cases sticky with
  | true =>
      obtain ⟨low, high⟩ : (2 * m + round.toNat) * E < 2 * N ∧
        2 * N < (2 * m + round.toNat + 1) * E := holds
      have passed : Passed ((2 * n + 1) * E) (2 * N) n ↔ 2 * n + 1 ≤ 2 * m + round.toNat := by
        constructor
        · intro passed
          exact Nat.lt_succ_iff.1 (Nat.lt_of_mul_lt_mul_right (passed.le.trans_lt high))
        · intro le
          exact .inl ((Nat.mul_le_mul_right E le).trans_lt low)
      rw [passed]
      cases round with
      | false =>
          change n < m ↔ 2 * n + 1 ≤ 2 * m + 0
          omega
      | true =>
          change n < m + 1 ↔ 2 * n + 1 ≤ 2 * m + 1
          omega
  | false =>
      replace holds : 2 * N = (2 * m + round.toNat) * E := holds
      rw [holds, Passed, Nat.mul_lt_mul_right positive, Nat.mul_left_inj positive.ne', Nat.odd_iff]
      cases round with
      | false =>
          change n < m ↔ 2 * n + 1 < 2 * m + 0 ∨ 2 * n + 1 = 2 * m + 0 ∧ n % 2 = 1
          omega
      | true =>
          change n < m + m % 2 ↔ 2 * n + 1 < 2 * m + 1 ∨ 2 * n + 1 = 2 * m + 1 ∧ n % 2 = 1
          omega

end Holds

/-! ## Packing -/

/-- Sign, exponent and significand stand one behind the other. -/
theorem toNat_packComponents (s : Sign) (e : BitVec 11) (m : BitVec 52) :
    (packComponents Format.binary64 s e m).toNat =
      s.toBitVec.toNat * 2 ^ 63 + e.toNat * 2 ^ 52 + m.toNat := by
  rw [packComponents, BitVec.toNat_append, BitVec.toNat_append,
    ← Nat.shiftLeft_add_eq_or_of_lt m.isLt, ← Nat.shiftLeft_add_eq_or_of_lt e.isLt,
    Nat.shiftLeft_eq, Nat.shiftLeft_eq]
  ring

/-- What is packed has the rank of its significand at its scale.  The first number that is too
large has the rank of infinity, which is what it becomes. -/
theorem toNat_pack {t q : ℕ} (normal : Normal t q) (short : q < 2 ^ 53)
    (fits : t * 2 ^ 52 + q ≤ infinityRank) (positive : 0 < q) :
    (UnpackedFloat.pack Format.binary64 (.finite .positive q (t - 1074) positive)).toNat =
      t * 2 ^ 52 + q := by
  have biased : ((t : ℤ) - 1074 + Format.binary64.exponentBias +
      Format.binary64.mantissaBitsWithoutImplicit).toNat = t + 1 := by
    change ((t : ℤ) - 1074 + (1023 : ℕ) + (52 : ℕ)).toNat = t + 1
    omega
  have large : 2 ^ Format.binary64.exponentBits ≤ t + 1 + 1 ↔ 2046 ≤ t := by
    change 2 ^ 11 ≤ t + 1 + 1 ↔ 2046 ≤ t
    omega
  have digits : q.log2 + 1 = Format.binary64.mantissaBits ↔ 2 ^ 52 ≤ q := by
    change q.log2 + 1 = 53 ↔ 2 ^ 52 ≤ q
    have := (Nat.log2_lt positive.ne').2 short
    rw [← Nat.le_log2 positive.ne']
    omega
  unfold Normal at normal
  unfold infinityRank at fits
  unfold UnpackedFloat.pack
  dsimp only
  rw [biased]
  -- Behind the last scale there is infinity only; below it, the leading digit is not written.
  by_cases most : 2046 ≤ t
  · rw [if_pos (large.2 most)]
    change 2047 * 2 ^ 52 = t * 2 ^ 52 + q
    omega
  · rw [if_neg (mt large.1 most)]
    by_cases leading : 2 ^ 52 ≤ q
    · rw [if_pos (digits.2 leading), toNat_packComponents, BitVec.toNat_ofNat, BitVec.toNat_ofNat]
      change 0 * 2 ^ 63 + (t + 1) % 2 ^ 11 * 2 ^ 52 + q % 2 ^ 52 = t * 2 ^ 52 + q
      omega
    · rw [if_neg (mt digits.1 leading), toNat_packComponents, BitVec.toNat_ofNat]
      change 0 * 2 ^ 63 + 0 * 2 ^ 52 + q % 2 ^ 52 = t * 2 ^ 52 + q
      omega

/-! ## Rounding to a scale -/

/-- The number `m * 2 ^ e` loses some digits and comes to a scale: that of its leading digit, or the
least one if that is larger. -/
structure Settles (m : ℕ) (e : ℤ) (t s : ℕ) : Prop where
  scale : max (m.log2 + 1 + e - 53) (-1074) = (t : ℤ) - 1074
  lost : e + s = t - 1074

theorem Settles.shiftToTarget {m t s : ℕ} {e : ℤ} (settles : Settles m e t s) :
    shiftToTargetExponent Format.binary64 m e .exact =
      (ExtendedMantissa.ofMantissaAndAccuracy m .exact >>> s, (t : ℤ) - 1074) := by
  obtain ⟨scale, lost⟩ := settles
  have target : Format.binary64.targetExponent (totalExponent m e) = (t : ℤ) - 1074 := scale
  have amount : ((t : ℤ) - 1074 - e).toNat = s := by omega
  rw [shiftToTargetExponent, target, shiftToExponent, amount, lost]

/-- The second half of rounding: a significand that has got one digit too many loses it, which is a
zero. -/
def settle (q : ℕ) (e : ℤ) : UnpackedFloat :=
  let shifted := shiftToTargetExponent Format.binary64 q e .exact
  if none : shifted.1.mantissa = 0 then .zero .positive
  else .finite .positive shifted.1.mantissa shifted.2 (Nat.pos_of_ne_zero none)

theorem Settles.settle_eq {q m t s : ℕ} {e : ℤ} (settles : Settles q e t s)
    (mantissa : (ExtendedMantissa.ofMantissaAndAccuracy q .exact >>> s).mantissa = m)
    (positive : 0 < m) : settle q e = .finite .positive m (t - 1074) positive := by
  have some : (shiftToTargetExponent Format.binary64 q e .exact).1.mantissa ≠ 0 := by
    rw [settles.shiftToTarget, mantissa]
    exact positive.ne'
  rw [settle, dif_neg some, finite.injEq, settles.shiftToTarget]
  exact ⟨rfl, mantissa, rfl⟩

/-- What has been rounded is packed with the rank it has, be it one digit longer or not. -/
theorem toNat_pack_settle {t q : ℕ} (normal : Normal t q) (short : q ≤ 2 ^ 53) (fits : t < 2046) :
    (UnpackedFloat.pack Format.binary64 (settle q (t - 1074))).toNat = t * 2 ^ 52 + q := by
  rcases Nat.eq_zero_or_pos q with rfl | positive
  · obtain rfl : t = 0 := by
      unfold Normal at normal
      omega
    decide
  · have low := Nat.le_log2 (k := 52) positive.ne'
    have high := Nat.log2_lt (k := 53) positive.ne'
    unfold Normal at normal
    rcases short.lt_or_eq with fine | rfl
    · have settles : Settles q (t - 1074) t 0 := ⟨by omega, by omega⟩
      rw [settles.settle_eq rfl positive]
      exact toNat_pack normal fine (by unfold infinityRank; omega) positive
    · -- The digit that is too many is dropped at the next scale.
      have settles : Settles (2 ^ 53) (t - 1074) (t + 1) 1 := by
        refine ⟨?_, by omega⟩
        rw [Nat.log2_two_pow]
        omega
      rw [settles.settle_eq (m := 2 ^ 52) rfl (by norm_num),
        toNat_pack (.inr le_rfl) (by norm_num) (by unfold infinityRank; omega)]
      ring

/-- **A number is rounded at its scale**, which is that of its leading digit or the least one. -/
theorem Settles.exists_rounds {M t s : ℕ} {e : ℤ} (settles : Settles M e t s) (positive : 0 < M)
    (fits : t < 2046) :
    ∃ q, Rounds M (2 ^ s) q ∧ Normal t (M / 2 ^ s) ∧ M / 2 ^ s < 2 ^ 53 ∧
      (UnpackedFloat.pack Format.binary64
        (roundWithAccuracy Format.binary64 .positive M e .exact)).toNat = t * 2 ^ 52 + q := by
  obtain ⟨scale, lost⟩ := id settles
  have short : M / 2 ^ s < 2 ^ 53 := by
    rw [Nat.div_lt_iff_lt_mul (Nat.two_pow_pos s), ← pow_add, ← Nat.log2_lt positive.ne']
    omega
  have normal : Normal t (M / 2 ^ s) := by
    unfold Normal
    rw [Nat.le_div_iff_mul_le (Nat.two_pow_pos s), ← pow_add, ← Nat.le_log2 positive.ne']
    omega
  have rounds := ((Holds.exact M).shiftRight one_pos s).rounds (by positivity)
  rw [mul_one] at rounds
  obtain ⟨least, most⟩ := rounds.bounds (Nat.two_pow_pos s)
  refine ⟨_, rounds, normal, short, ?_⟩
  rw [← toNat_pack_settle (normal.imp id fun leading => leading.trans least) (by omega) fits]
  change (UnpackedFloat.pack Format.binary64 (settle
    (shiftToTargetExponent Format.binary64 M e .exact).1.roundedMantissa
      (shiftToTargetExponent Format.binary64 M e .exact).2)).toNat = _
  rw [settles.shiftToTarget]

end PlanarSketch.Double
