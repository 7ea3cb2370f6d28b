import PlanarSketch.Descent
import PlanarSketch.Proofs.System.Collapse

/-!
# Norms of stacked residuals

The residual of a system stacks the residuals of its blocks.  Over exact numbers it has a
norm exactly where all of them are defined (`System.norm_ne_none_iff`), which is where no block
divides by the length of a line that is too short (`Block.definedAt_iff`).  Rows that are
stacked from several lists have the norm of the list of their norms (`residualNorm?_flatMap`),
so a norm bounds every entry of every block (`System.exists_values`).

What a block reads under its constraint are the same rows, given as a single number when
there is one row only.  That makes no difference to its magnitude, which is the norm of the
rows either way (`Discrepancy.magnitude_ofRows`).
-/

namespace PlanarSketch

set_option autoImplicit false

open Outcome

namespace Exact

theorem length_nonneg (xs : List ℝ) : 0 ≤ Scalar.length xs := Real.sqrt_nonneg _

/-- The square of a length is the sum of the squares of the components. -/
theorem length_sq (xs : List ℝ) : Scalar.length xs ^ 2 = (xs.map fun x => x ^ 2).sum := by
  have nonneg : 0 ≤ Scalar.sumOfSquares xs := by
    rw [sumOfSquares_eq_sum]
    refine List.sum_nonneg ?_
    simp [mul_self_nonneg]
  rw [Scalar.length, sqrt, Real.sq_sqrt nonneg, sumOfSquares_eq_sum]
  simp only [sq]

theorem length_singleton (x : ℝ) : Scalar.length [x] = |x| := by
  rw [Scalar.length, sqrt, sumOfSquares_eq_sum]
  simp [Real.sqrt_mul_self_eq_abs]

theorem length_eq_of_sq {xs ys : List ℝ}
    (squares : (xs.map fun x => x ^ 2).sum = (ys.map fun y => y ^ 2).sum) :
    Scalar.length xs = Scalar.length ys := by
  rw [← length_sq, ← length_sq] at squares
  exact (sq_eq_sq₀ (length_nonneg xs) (length_nonneg ys)).1 squares

end Exact

/-! ## Norms of rows -/

/-- An exact residual has a norm when none of its entries is missing. -/
theorem residualNorm?_eq_some {rows : List (Option ℝ)} {n : ℝ} :
    residualNorm? rows = some n ↔ ∃ values, rows = values.map some ∧ Scalar.length values = n := by
  simp [residualNorm?, Option.bind_eq_some_iff, allFinite?_eq_some]

theorem residualNorm?_eq_none_iff {rows : List (Option ℝ)} :
    residualNorm? rows = none ↔ none ∈ rows := by
  rw [← allFinite?_eq_none_iff, residualNorm?]
  cases allFinite? rows with
  | none => simp
  | some values => simp

/-- **Stacked rows have the norm of their norms**, as far as these are defined. -/
theorem residualNorm?_flatMap {β : Type} (xs : List β) (f : β → List (Option ℝ)) :
    residualNorm? (xs.flatMap f) =
      (xs.mapM fun x => residualNorm? (f x)).map Scalar.length := by
  cases norms : xs.mapM fun x => residualNorm? (f x) with
  | none =>
      obtain ⟨x, among, undefined⟩ := mapM_eq_none.1 norms
      rw [Option.map_none, residualNorm?_eq_none_iff, List.mem_flatMap]
      exact ⟨x, among, residualNorm?_eq_none_iff.1 undefined⟩
  | some ns =>
      have stacked : ∃ values : List ℝ, xs.flatMap f = values.map some ∧
          (values.map fun v => v ^ 2).sum = (ns.map fun n => n ^ 2).sum := by
        have each := mapM_eq_some norms
        clear norms
        induction each with
        | nil => exact ⟨[], rfl, rfl⟩
        | cons first _ ih =>
            obtain ⟨here, rows, rfl⟩ := residualNorm?_eq_some.1 first
            obtain ⟨later, rest, squares⟩ := ih
            refine ⟨here ++ later, ?_, ?_⟩
            · rw [List.flatMap_cons, rows, rest, List.map_append]
            · rw [List.map_append, List.sum_append, List.map_cons, List.sum_cons, squares,
                Exact.length_sq]
      obtain ⟨values, rows, squares⟩ := stacked
      exact residualNorm?_eq_some.2 ⟨values, rows, Exact.length_eq_of_sq squares⟩

namespace Discrepancy

variable {α : Type}

/-- The rows of a discrepancy. -/
def rows : Discrepancy α → List (Option α)
  | single value => [value]
  | several values => values

/-- No row of a discrepancy is undefined. -/
def Defined (d : Discrepancy α) : Prop := none ∉ d.rows

@[simp] theorem rows_ofRows (values : List (Option α)) : (ofRows values).rows = values := by
  unfold ofRows
  split
  · rfl
  · rfl

/-- The magnitude of a discrepancy is the norm of its rows. -/
theorem magnitude_eq_norm (d : Discrepancy ℝ) : d.magnitude = residualNorm? d.rows := by
  cases d with
  | single value =>
      cases value with
      | none => exact (residualNorm?_eq_none_iff.2 List.mem_cons_self).symm
      | some v => exact (residualNorm?_eq_some.2 ⟨[v], rfl, Exact.length_singleton v⟩).symm
  | several values =>
      have finite : values.mapM id = allFinite? values := by
        unfold allFinite?
        congr
        funext value
        cases value with
        | none => rfl
        | some v => rfl
      rw [magnitude, finite, rows, residualNorm?]
      exact Option.map_eq_bind

theorem magnitude_ofRows (values : List (Option ℝ)) :
    (ofRows values).magnitude = residualNorm? values := by
  rw [magnitude_eq_norm, rows_ofRows]

end Discrepancy

/-! ## Norms of systems -/

/-- No row of a block is undefined at a point. -/
def Block.DefinedAt {α : Type} [Scalar α] (b : Block α) (p : Valuation α) : Prop :=
  none ∉ b.residual p

/-- The rows of a block are defined where the lines it divides by have a direction. -/
theorem Block.definedAt_iff {α : Type} [Scalar α] (b : Block α) (p : Valuation α) :
    b.DefinedAt p ↔ ¬b.Flat p := by
  refine not_congr ⟨fun missing => ?_, fun flat => ?_⟩
  · obtain ⟨k, entry⟩ := List.mem_iff_getElem?.1 missing
    have inside : k < b.rows := by
      have below := (List.getElem?_eq_some_iff.1 entry).1
      rwa [residual, Relation.length_residualRows] at below
    exact (b.getElem?_residual p inside).1 entry
  · have inside : 0 < b.rows := b.relation.rows_pos
    exact List.mem_of_getElem? ((b.getElem?_residual p inside).2 flat)

namespace System

variable {s : System ℝ} {p : Valuation ℝ}

/-- A system has a norm exactly where all its blocks are defined. -/
theorem norm_ne_none_iff :
    residualNorm? (s.residuals p) ≠ none ↔ ∀ b ∈ s.blocks, b.DefinedAt p := by
  rw [Ne, residualNorm?_eq_none_iff, residuals, List.mem_flatMap]
  simp [Block.DefinedAt]

/-- The norm of a system bounds the entries of all its blocks. -/
theorem exists_values {n : ℝ} (norm : residualNorm? (s.residuals p) = some n) {b : Block ℝ}
    (present : b ∈ s.blocks) :
    ∃ values : List ℝ, b.residual p = values.map some ∧ ∀ v ∈ values, |v| ≤ n := by
  obtain ⟨all, rows, length⟩ := residualNorm?_eq_some.1 norm
  have defined := norm_ne_none_iff.1 (by rw [norm]; exact Option.some_ne_none n) b present
  cases own : residualNorm? (b.residual p) with
  | none => exact absurd (residualNorm?_eq_none_iff.1 own) defined
  | some m =>
      obtain ⟨values, entries, -⟩ := residualNorm?_eq_some.1 own
      refine ⟨values, entries, fun v among => ?_⟩
      have listed : some v ∈ s.residuals p :=
        List.mem_flatMap.2 ⟨b, present, entries ▸ List.mem_map_of_mem among⟩
      rw [rows] at listed
      obtain ⟨w, part, same⟩ := List.mem_map.1 listed
      cases same
      exact length ▸ Exact.abs_le_length part

end System

end PlanarSketch
