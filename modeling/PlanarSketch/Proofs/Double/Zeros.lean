import PlanarSketch.Proofs.Double.Ranks
import PlanarSketch.Proofs.Engine.RowSpaces

/-!
# Zeros among doubles

There are two zeros among the doubles, and they compare as equal.  A product of one of them with a
finite double is one of them again (`mul_same_zero`).  What one of them is added to stays as it is,
unless it is a zero itself, which may turn into the other one (`add_same`).

So doubles do not change for all that comparisons can tell when finite multiples of zeros are added
to them (`absorbs`).
-/

namespace PlanarSketch.Double

set_option autoImplicit false

open Float.Model Float.Model.UnpackedFloat

/-! ## Doubles that compare as equal -/

/-- Two doubles are identical, or they compare as equal. -/
def Same (x y : Float) : Prop := x = y ∨ (x == y) = true

variable {x y z : Float}

theorem Same.refl (x : Float) : Same x x := .inl rfl

theorem Same.trans (first : Same x y) (second : Same y z) : Same x z := by
  rcases first with rfl | first
  · exact second
  · rcases second with rfl | second
    · exact .inr first
    · exact .inr (PartialEquivBEq.trans first second)

/-- Only what is no number does not compare as equal to the same. -/
theorem Same.beq (same : Same x y) (number : y ≠ Float.nan) : (x == y) = true := by
  rcases same with rfl | same
  · exact Float.beq_self_iff.2 number
  · exact same

/-! ## Zeros -/

theorem same_zero_iff : Same x 0 ↔ ∃ s, x.toModel.unpack = .zero s := by
  constructor
  · rintro (rfl | same)
    · exact ⟨.positive, rfl⟩
    · obtain ⟨-, -, rfl | ⟨rfl, -⟩ | ⟨rfl, -⟩⟩ := Float.beq_iff_ne_nan_and_eq.1 same
      · exact ⟨.positive, rfl⟩
      · exact ⟨.positive, rfl⟩
      · exact ⟨.negative, rfl⟩
  · rintro ⟨s, read⟩
    right
    change (x.toModel.unpack.compare (.zero .positive) == some .eq) = true
    rw [read]
    rfl

/-- A double is a zero if one has been packed. -/
theorem same_zero_of_pack {s : Sign}
    (packed : x.toModel.toBits.toBitVec = UnpackedFloat.pack Format.binary64 (.zero s)) :
    Same x 0 := by
  refine same_zero_iff.2 ⟨s, ?_⟩
  change UnpackedFloat.unpack Format.binary64 x.toModel.toBits.toBitVec = _
  rw [packed]
  exact unpack_packedZero

/-- What is packed from a double that was unpacked is this double. -/
theorem eq_of_pack
    (packed : y.toModel.toBits.toBitVec = UnpackedFloat.pack Format.binary64 x.toModel.unpack) :
    y = x :=
  Float.toBits_inj.1 (UInt64.toBitVec_inj.1 (packed.trans (pack_unpack_of_valid x.toModel.valid)))

/-- A product of a zero and a finite double is a zero, whichever comes first. -/
theorem mul_same_zero (finite : isFinite y = true) (zero : Same z 0) :
    Same (y * z) 0 ∧ Same (z * y) 0 := by
  obtain ⟨s, zero⟩ := same_zero_iff.1 zero
  replace finite : y.toModel.unpack.isFinite = true := finite
  have product (a b : Float) : (a * b).toModel.toBits.toBitVec = UnpackedFloat.pack Format.binary64
      (UnpackedFloat.mul Format.binary64 a.toModel.unpack b.toModel.unpack) := rfl
  have first := product y z
  have second := product z y
  rw [zero] at first second
  cases read : y.toModel.unpack with
  | notANumber | infinity t =>
      rw [read] at finite
      cases finite
  | zero t | finite t m e positive =>
      rw [read] at first second
      exact ⟨same_zero_of_pack first, same_zero_of_pack second⟩

/-- What a zero is added to is the same. -/
theorem add_same (x : Float) (zero : Same z 0) : Same (x + z) x := by
  obtain ⟨s, zero⟩ := same_zero_iff.1 zero
  have sum : (x + z).toModel.toBits.toBitVec = UnpackedFloat.pack Format.binary64
      (UnpackedFloat.add Format.binary64 x.toModel.unpack z.toModel.unpack) := rfl
  rw [zero] at sum
  cases read : x.toModel.unpack with
  | notANumber | infinity t | finite t m e positive =>
      refine .inl (eq_of_pack (sum.trans ?_))
      rw [read]
      rfl
  | zero t =>
      -- Two zeros of different signs add up to the positive one.
      rw [read] at sum
      have added : Same (x + z) 0 := by
        cases t <;> cases s <;> exact same_zero_of_pack sum
      have initial : Same 0 x := by
        right
        change (UnpackedFloat.compare (.zero .positive) x.toModel.unpack == some .eq) = true
        rw [read]
        rfl
      exact added.trans initial

/-! ## Finite doubles -/

theorem isFinite_unpack_iff (b : BitVec Format.binary64.numBits) :
    (UnpackedFloat.unpack Format.binary64 b).isFinite = true ↔ unpackExponent b ≠ -1#_ := by
  unfold UnpackedFloat.unpack
  dsimp only
  split_ifs with top
  · exact iff_of_false Bool.false_ne_true (not_not.2 top)
  · exact iff_of_false Bool.false_ne_true (not_not.2 top)
  · exact iff_of_true rfl top
  · exact iff_of_true rfl top
  · exact iff_of_true rfl top

theorem ne_nan_of_isFinite (finite : isFinite x = true) : x ≠ Float.nan := by
  rintro rfl
  exact absurd finite (by decide)

/-- The sign has a field of its own. -/
theorem unpackExponent_pack (s t : Sign) (m : ℕ) (e : ℤ) (positive : 0 < m) :
    unpackExponent (UnpackedFloat.pack Format.binary64 (.finite s m e positive)) =
      unpackExponent (UnpackedFloat.pack Format.binary64 (.finite t m e positive)) := by
  unfold UnpackedFloat.pack
  dsimp only
  split_ifs <;> simp [packedInfinity]

/-- A finite double changes its sign and stays finite. -/
theorem isFinite_neg (finite : isFinite x = true) : isFinite (-x) = true := by
  have bits := pack_unpack_of_valid x.toModel.valid
  replace finite : x.toModel.unpack.isFinite = true := finite
  change (UnpackedFloat.unpack Format.binary64
    (UnpackedFloat.pack Format.binary64 x.toModel.unpack.neg)).isFinite = true
  change UnpackedFloat.pack Format.binary64 x.toModel.unpack = _ at bits
  cases read : x.toModel.unpack with
  | notANumber | infinity t =>
      rw [read] at finite
      cases finite
  | zero t => cases t <;> rfl
  | finite t m e positive =>
      rw [Float.Model.unpack, isFinite_unpack_iff, ← bits, read] at finite
      exact (isFinite_unpack_iff _).2 (unpackExponent_pack t (-t) m e positive ▸ finite)

/-! ## Multiples of zeros -/

/-- **Finite multiples of zeros change doubles into the same ones.** -/
theorem absorbs : Scalar.Absorbs Same fun x => isFinite x = true where
  refl := Same.refl
  trans := Same.trans
  of_isFinite := id
  neg := isFinite_neg
  add_mul x _ _ finite zero := add_same x (mul_same_zero finite zero).1
  add_mul_left x _ _ finite zero := add_same x (mul_same_zero finite zero).2

end PlanarSketch.Double
