import Mathlib.Algebra.GroupWithZero.Nat
import Mathlib.Data.List.Basic

/-!
# Ranges that tile

Things that stand one behind the other, each with a size, take up ranges of positions
(`stretches`).  Such ranges tile what they take up (`tiles_stretches`): each ends before the
next begins, and every position in between is in one of them.  The parameters of entities
stand in this way, and so do the rows of blocks.
-/

namespace PlanarSketch

set_option autoImplicit false

/-- Ranges of positions, each given by its first position and the one behind its last, fill what is
between `start` and `stop` in their order, without gap or overlap. -/
structure Tiles (start stop : ℕ) (ranges : List (ℕ × ℕ)) : Prop where
  within : ∀ r ∈ ranges, start ≤ r.1 ∧ r.1 ≤ r.2 ∧ r.2 ≤ stop
  ordered : ranges.Pairwise fun r t => r.2 ≤ t.1
  covers : ∀ i, start ≤ i → i < stop → ∃ r ∈ ranges, r.1 ≤ i ∧ i < r.2

/-- The ranges of things with given sizes, one behind the other from a position on. -/
def stretches : ℕ → List ℕ → List (ℕ × ℕ)
  | _, [] => []
  | start, size :: sizes => (start, start + size) :: stretches (start + size) sizes

/-- **What stands one behind the other tiles what it takes up.** -/
theorem tiles_stretches (start : ℕ) (sizes : List ℕ) :
    Tiles start (start + sizes.sum) (stretches start sizes) := by
  induction sizes generalizing start with
  | nil =>
      exact ⟨fun _ among => absurd among List.not_mem_nil, .nil, fun i low high => by
        rw [List.sum_nil] at high
        omega⟩
  | cons size sizes ih =>
      have rest := ih (start + size)
      rw [List.sum_cons, ← Nat.add_assoc]
      refine ⟨List.forall_mem_cons.2 ⟨⟨Nat.le_refl _, Nat.le_add_right _ _, Nat.le_add_right _ _⟩,
        fun r among => ?_⟩, .cons (fun r among => (rest.within r among).1) rest.ordered,
        fun i low high => ?_⟩
      · have bounds := rest.within r among
        exact ⟨by omega, bounds.2⟩
      · by_cases first : i < start + size
        · exact ⟨_, List.mem_cons_self, low, first⟩
        · obtain ⟨r, among, here⟩ := rest.covers i (by omega) high
          exact ⟨r, List.mem_cons_of_mem _ among, here⟩

end PlanarSketch
