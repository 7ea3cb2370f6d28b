import PlanarSketch.Proofs.Engine.Exactness

/-!
# Steps in the row space

A pseudo-inverse answers with a combination of the rows of its table (`InRowSpace`).  So a step
does nothing along a column that is zero (`Combination.near_zero`), for any numbers that absorb
multiples of zero, and over exact numbers it is perpendicular to everything that the table sends to
zero (`InRowSpace.inner_eq_zero`).

Numbers absorb multiples of zero when adding one hardly changes them (`Scalar.Absorbs`).  What
counts as hardly, and which multiples are meant, depends on the numbers: where multiples of zero add
nothing at all, nothing is changed and all multiples are meant (`Scalar.Inert.absorbs`).

The truncated least squares steps are of that kind (`Engine.ExactSteps.stepsInRowSpace`).
-/

namespace PlanarSketch

set_option autoImplicit false

open scoped InnerProductSpace

variable {α : Type} [Scalar α]

/-- Multiples of zero add nothing. -/
structure Scalar.Inert (α : Type) [Scalar α] : Prop where
  add_mul_zero : ∀ x y : α, x + y * 0 = x
  add_zero_mul : ∀ x y : α, x + 0 * y = x

/-- Numbers hardly change when a multiple of what is hardly different from zero is added to them, if
it is an ordinary multiple.  Finite numbers are ordinary. -/
structure Scalar.Absorbs (near : α → α → Prop) (ordinary : α → Prop) : Prop where
  refl : ∀ x, near x x
  trans : ∀ {x y z}, near x y → near y z → near x z
  of_isFinite : ∀ {x}, isFinite x = true → ordinary x
  neg : ∀ {x}, ordinary x → ordinary (-x)
  add_mul : ∀ (x : α) {y z : α}, ordinary y → near z 0 → near (x + y * z) x
  add_mul_left : ∀ (x : α) {y z : α}, ordinary y → near z 0 → near (x + z * y) x

/-- Where multiples of zero add nothing, they do not change anything at all. -/
theorem Scalar.Inert.absorbs (inert : Scalar.Inert α) :
    Scalar.Absorbs (α := α) Eq fun _ => True where
  refl _ := rfl
  trans := Eq.trans
  of_isFinite _ := trivial
  neg := id
  add_mul x y z _ zero := by rw [zero, inert.add_mul_zero]
  add_mul_left x y z _ zero := by rw [zero, inert.add_zero_mul]

/-- A list of numbers is a combination of the rows of a table. -/
def InRowSpace (J : List (List α)) (width : Nat) (x : List α) : Prop :=
  ∃ weights : List α, weights.length = J.length ∧ x = descentGradient J weights width

/-- The steps of an engine are combinations of the rows of its tables. -/
def Engine.StepsInRowSpace (engine : Engine α) : Prop :=
  ∀ J b width cutoff, (∀ row ∈ J, row.length = width) → b.length = J.length →
    InRowSpace J width (engine.leastSquares J b width cutoff)

/-- A list of numbers is a combination of the rows of a table with ordinary multiples. -/
def Combination (ordinary : α → Prop) (J : List (List α)) (width : Nat) (x : List α) : Prop :=
  ∃ weights : List α, weights.length = J.length ∧ (∀ w ∈ weights, ordinary w) ∧
    x = descentGradient J weights width

/-- Given ordinary numbers only, an engine answers with a combination of the rows of its table with
ordinary multiples. -/
def Engine.Combines (engine : Engine α) (ordinary : α → Prop) : Prop :=
  ∀ J b width cutoff, (∀ row ∈ J, row.length = width) → b.length = J.length →
    (∀ row ∈ J, ∀ v ∈ row, ordinary v) → (∀ v ∈ b, ordinary v) →
      Combination ordinary J width (engine.leastSquares J b width cutoff)

section Combinations

variable {near : α → α → Prop} {ordinary : α → Prop} {J : List (List α)} {width : Nat} {x : List α}

theorem Combination.inRowSpace (combined : Combination ordinary J width x) :
    InRowSpace J width x := by
  obtain ⟨weights, size, -, same⟩ := combined
  exact ⟨weights, size, same⟩

theorem Engine.StepsInRowSpace.combines {engine : Engine α} (combining : engine.StepsInRowSpace) :
    engine.Combines fun _ => True := by
  intro J b width cutoff rectangular size _ _
  obtain ⟨weights, size, same⟩ := combining J b width cutoff rectangular size
  exact ⟨weights, size, fun _ _ => trivial, same⟩

theorem Scalar.Absorbs.addProducts_near (absorbs : Scalar.Absorbs near ordinary) {zeros xs : List α}
    (zero : ∀ z ∈ zeros, z = 0) (multiples : ∀ x ∈ xs, ordinary x) (acc : α) :
    near (Scalar.addProducts acc zeros xs) acc := by
  induction zeros generalizing acc xs with
  | nil => exact absorbs.refl acc
  | cons z rest ih =>
      obtain ⟨rfl, zeros⟩ := List.forall_mem_cons.1 zero
      cases xs with
      | nil => exact absorbs.refl acc
      | cons x xs =>
          obtain ⟨first, later⟩ := List.forall_mem_cons.1 multiples
          exact absorbs.trans (ih zeros later _) (absorbs.add_mul_left acc first (absorbs.refl 0))

/-- A combination of rows is hardly different from zero where all of them are zero. -/
theorem Combination.near_zero (combined : Combination ordinary J width x)
    (absorbs : Scalar.Absorbs near ordinary) {k : Nat} (zero : ∀ row ∈ J, row.getD k 0 = 0) :
    near (x.getD k 0) 0 := by
  obtain ⟨weights, -, multiples, rfl⟩ := combined
  have column : ∀ z ∈ J.map fun row => row.getD k 0, z = 0 := by
    intro z among
    obtain ⟨row, present, rfl⟩ := List.mem_map.1 among
    exact zero row present
  rw [descentGradient, List.getD_eq_getElem?_getD, List.getElem?_map]
  cases found : (List.range width)[k]? with
  | none => exact absorbs.refl 0
  | some j =>
      obtain ⟨below, same⟩ := List.getElem?_eq_some_iff.1 found
      rw [List.getElem_range] at same
      subst same
      exact absorbs.addProducts_near column multiples 0

end Combinations

/-! ## Exact numbers -/

theorem Exact.inert : Scalar.Inert ℝ where
  add_mul_zero x y := by rw [mul_zero, add_zero]
  add_zero_mul x y := by rw [zero_mul, add_zero]

variable {J : List (List ℝ)} {width : ℕ} {x : List ℝ}

theorem InRowSpace.length_eq (combined : InRowSpace J width x) : x.length = width := by
  obtain ⟨weights, -, rfl⟩ := combined
  exact length_descentGradient

/-- A combination of rows is perpendicular to everything that the table sends to zero. -/
theorem InRowSpace.inner_eq_zero (combined : InRowSpace J width x)
    {v : EuclideanSpace ℝ (Fin width)} (nowhere : tableMap J width v = 0) :
    ⟪v, vector width x⟫_ℝ = 0 := by
  obtain ⟨weights, size, rfl⟩ := combined
  rw [vector_descentGradient size, LinearMap.adjoint_inner_right, nowhere, inner_zero_left]

/-- **Truncated least squares steps are combinations of rows.** -/
theorem Engine.ExactSteps.stepsInRowSpace {engine : Engine ℝ} (exact : engine.ExactSteps) :
    engine.StepsInRowSpace := by
  intro J b width cutoff rectangular size
  have apart := (exact.leastSquares J b width cutoff rectangular size).mem_orthogonal_ker
    (Rotation.effective_nonneg cutoff)
  rw [LinearMap.orthogonal_ker] at apart
  obtain ⟨w, reached⟩ := apart
  refine ⟨components w, length_components w, ?_⟩
  refine eq_of_vector_eq (exact.length_leastSquares _ _ _ _) length_descentGradient ?_
  rw [vector_descentGradient (length_components w), vector_components, reached]

end PlanarSketch
