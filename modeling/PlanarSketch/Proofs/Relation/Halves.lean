import PlanarSketch.Proofs.Relation.Affine

/-!
# Gradients of affine relations

The gradients of an affine relation do not depend on the point (`Relation.Affine.gradients_congr`),
and their entries are halves of whole numbers (`Relation.Affine.hasHalves`): ones from coordinates,
halves from midpoints, twos from diameters.
-/

namespace PlanarSketch

set_option autoImplicit false

namespace Relation

variable {r : Relation ℝ}

theorem gradients_xy_congr {a : PointSite} (direct : a.angleIndex? = none) (p q : Valuation ℝ) :
    a.gradients p = a.gradients q := by
  rw [PointSite.gradients, PointSite.gradients, PointSite.xyGradients, PointSite.xyGradients,
    direct]

/-- The gradients of an affine relation are the same everywhere. -/
theorem Affine.gradients_congr (affine : r.Affine) (p q : Valuation ℝ) :
    r.gradients? p = r.gradients? q := by
  cases r with
  | coincident a b | level a b | plumb a b | rightOf a b target | above a b target =>
      rw [gradients?, gradients?, gradients_xy_congr affine.1 p q, gradients_xy_congr affine.2 p q]
  | midpoint a l => rw [gradients?, gradients?, gradients_xy_congr affine p q]
  | sameRadius | radius | diameter | concentric => rfl
  | _ => cases affine

end Relation

namespace Gradient

/-- All entries of a gradient are halves of whole numbers. -/
structure HasHalves (g : Gradient ℝ) : Prop where
  exists_half : ∀ i, ∃ z : ℤ, g.entry i = z / 2

theorem hasHalves_nil : HasHalves [] := ⟨fun i => ⟨0, by simp⟩⟩

theorem HasHalves.cons {g : Gradient ℝ} (rest : g.HasHalves) (j : ℕ) (z : ℤ) :
    HasHalves ((j, (z : ℝ) / 2) :: g) := by
  refine ⟨fun i => ?_⟩
  rw [entry_cons]
  split
  · exact ⟨z, rfl⟩
  · exact rest.exists_half i

/-- A gradient that lists the entry one at some positions. -/
def Unit (g : Gradient ℝ) : Prop := g.Simple ∧ ∀ i, g.entry i = 0 ∨ g.entry i = 1

theorem unit_single (j : ℕ) : Unit [(j, 1)] := by
  refine ⟨List.nodup_singleton j, fun i => ?_⟩
  rw [entry_cons]
  split
  · exact .inr rfl
  · exact .inl rfl

theorem unit_pair {j k : ℕ} (apart : j ≠ k) : Unit [(j, 1), (k, 1)] := by
  refine ⟨by simp [Simple, apart], fun i => ?_⟩
  rw [entry_cons]
  split
  · exact .inr rfl
  · exact (unit_single k).2 i

/-- A combination of two unit gradients with halves of whole numbers. -/
theorem hasHalves_combine {g k : Gradient ℝ} (first : g.Unit) (second : k.Unit) {c d : ℝ}
    (y z : ℤ) (left : c = y / 2) (right : d = z / 2) :
    (combine [(c, g), (d, k)]).HasHalves := by
  refine ⟨fun i => ?_⟩
  have simple : ∀ t ∈ [(c, g), (d, k)], t.2.Simple := by
    simp [first.1, second.1]
  rw [entry_combine simple]
  simp only [List.map_cons, List.map_nil, List.sum_cons, List.sum_nil, add_zero, left, right]
  rcases first.2 i with zero | one
  · rcases second.2 i with zero' | one'
    · exact ⟨0, by simp [zero, zero']⟩
    · exact ⟨z, by simp [zero, one']⟩
  · rcases second.2 i with zero' | one'
    · exact ⟨y, by simp [one, zero']⟩
    · exact ⟨y + z, by rw [one, one']; push_cast; ring⟩

theorem hasHalves_ofEntries (i j : ℕ) : (ofEntries [(i, (1 : ℝ)), (j, -1)]).HasHalves := by
  refine ⟨fun k => ?_⟩
  rw [entry_ofEntries_pair]
  split
  · exact ⟨-2, by norm_num⟩
  · split
    · exact ⟨2, by norm_num⟩
    · exact ⟨0, by norm_num⟩

end Gradient

open PlanarSketch.Gradient in
/-- The entries of an affine gradient are halves of whole numbers. -/
theorem Relation.Affine.hasHalves {r : Relation ℝ} (affine : r.Affine) {p : Valuation ℝ}
    {gradients : List (Gradient ℝ)} (closed : r.gradients? p = some gradients) :
    ∀ g ∈ gradients, g.HasHalves := by
  have direct {a : PointSite} (none : a.angleIndex? = none) :
      (a.gradients p).1.Unit ∧ (a.gradients p).2.Unit := by
    rw [PointSite.gradients, PointSite.xyGradients, none]
    exact ⟨unit_single _, unit_single _⟩
  have difference {g k : Gradient ℝ} (first : g.Unit) (second : k.Unit) :
      (combine [(1, g), (-1, k)]).HasHalves :=
    hasHalves_combine first second 2 (-2) (by norm_num) (by norm_num)
  cases r with
  | coincident a b =>
      cases closed
      have first := direct affine.1
      have second := direct affine.2
      exact List.forall_mem_cons.2 ⟨difference first.1 second.1,
        List.forall_mem_singleton.2 (difference first.2 second.2)⟩
  | level a b | above a b target =>
      cases closed
      exact List.forall_mem_singleton.2 (difference (direct affine.2).2 (direct affine.1).2)
  | plumb a b | rightOf a b target =>
      cases closed
      exact List.forall_mem_singleton.2 (difference (direct affine.2).1 (direct affine.1).1)
  | midpoint a l =>
      cases closed
      have middle {g : Gradient ℝ} (point : g.Unit) {i j : ℕ} (apart : i ≠ j) :
          (combine [(1, g), (-0.5, [(i, 1), (j, 1)])]).HasHalves :=
        hasHalves_combine point (unit_pair apart) 2 (-1) (by norm_num) (by norm_num)
      exact List.forall_mem_cons.2 ⟨middle (direct affine).1 (by omega),
        List.forall_mem_singleton.2 (middle (direct affine).2 (by omega))⟩
  | sameRadius c d =>
      cases closed
      exact List.forall_mem_singleton.2 (hasHalves_ofEntries _ _)
  | concentric c d =>
      cases closed
      exact List.forall_mem_cons.2 ⟨hasHalves_ofEntries _ _,
        List.forall_mem_singleton.2 (hasHalves_ofEntries _ _)⟩
  | radius c target =>
      cases closed
      have one := hasHalves_nil.cons c.radiusIndex 2
      norm_num at one
      exact List.forall_mem_singleton.2 one
  | diameter c target =>
      cases closed
      have two := hasHalves_nil.cons c.radiusIndex 4
      have value : ((4 : ℤ) : ℝ) / 2 = Scalar.two := by norm_num [Scalar.two]
      rw [value] at two
      exact List.forall_mem_singleton.2 two
  | _ => cases affine

end PlanarSketch
