import Mathlib.Data.Real.Basic
import PlanarSketch.Proofs.Descent.Progress
import PlanarSketch.Proofs.Linear.Lists
import PlanarSketch.Proofs.Relation.Halves
import PlanarSketch.Proofs.System.Equations

/-!
# Affine systems

A system whose blocks are all affine, and pair no curve with itself, is a system of linear
equations (`System.Affine`).  Its residual is defined everywhere (`System.Affine.residuals_eq`),
its derivative is the same everywhere (`System.Affine.finiteMatrix?_jacobian`), and from one
point to another the residual changes by the derivative times the displacement
(`System.Affine.vector_gaps`), whichever positions are free and however far the points are apart.
-/

namespace PlanarSketch

set_option autoImplicit false

/-! ## Equations of affine blocks -/

namespace Block

/-- How far an equation of a block is from holding; zero where that is undefined. -/
noncomputable def gap (b : Block ℝ) (p : Valuation ℝ) (k : ℕ) : ℝ :=
  ((b.residual p).getD k none).getD 0

/-- The slope of an equation of a block in closed form by a position, at the origin. -/
noncomputable def rate (b : Block ℝ) (k j : ℕ) : ℝ :=
  (((b.relation.gradients? fun _ => 0).getD []).getD k []).entry j

/-- A block is affine and pairs no curve with itself. -/
def IsAffine (b : Block ℝ) : Prop := b.relation.Affine ∧ ¬b.relation.SelfPaired

namespace IsAffine

variable {b : Block ℝ} {p q : Valuation ℝ} {step : ℝ} {k i j : ℕ}

theorem exists_gradients (affine : b.IsAffine) (p : Valuation ℝ) :
    ∃ gradients, b.relation.gradients? p = some gradients ∧
      ∀ k j, (gradients.getD k []).entry j = b.rate k j := by
  obtain ⟨gradients, closed⟩ := Relation.exists_gradients p affine.1.analytic
  refine ⟨gradients, closed, fun k j => ?_⟩
  rw [rate, affine.1.gradients_congr (fun _ => 0) p, closed]
  rfl

/-- The residual of an affine block is defined everywhere. -/
theorem getD_residual (affine : b.IsAffine) (inside : k < b.rows) (p : Valuation ℝ) :
    (b.residual p).getD k none = some (b.gap p k) := by
  obtain ⟨rows, values, -⟩ := affine.1.hasStraightRows
  have count : k < rows.length := by
    have length := Relation.length_residual p (values p)
    rw [List.length_map] at length
    rwa [length]
  simp [gap, residual, Relation.residualRows, values, count]

theorem slopeAt_eq (affine : b.IsAffine) (inside : k < b.rows) :
    b.slopeAt step p k j = some (b.rate k j) := by
  obtain ⟨gradients, closed, rates⟩ := affine.exists_gradients p
  rw [slopeAt_closed closed inside, rates]

/-- Along a position an equation changes by its slope times the way. -/
theorem gap_update (affine : b.IsAffine) (inside : k < b.rows) (p : Valuation ℝ) (i : ℕ) (x : ℝ) :
    b.gap (p.update i x) k = b.gap p k + b.rate k i * (x - p i) := by
  -- Along a position an affine row runs straight, and its gradient lists that slope.
  obtain ⟨slope, straight⟩ := exists_runsStraight affine.1 inside p i
  obtain ⟨gradients, closed, rates⟩ := affine.exists_gradients p
  have same : b.rate k i = slope := by
    rw [← rates]
    exact entry_eq_slope affine.1 affine.2 closed inside straight
  obtain ⟨start, line⟩ := straight
  have value (x : ℝ) : b.gap (p.update i x) k = slope * x + start := by
    rw [gap, List.getD_eq_getElem?_getD, line]
    rfl
  have here : b.gap p k = slope * p i + start := by
    rw [← value, Valuation.update_self]
  rw [value, here, same]
  ring

/-- **From one point to another an equation changes by its slopes times the displacements.** -/
theorem gap_eq_add_sum (affine : b.IsAffine) (inside : k < b.rows) {free : List ℕ}
    (distinct : free.Nodup) (fixed : ∀ i, i ∉ free → q i = p i) :
    b.gap q k = b.gap p k + (free.map fun i => b.rate k i * (q i - p i)).sum := by
  -- The positions are moved one by one; those that are still to come are where they were.
  induction free generalizing p with
  | nil =>
      have same : q = p := funext fun i => fixed i List.not_mem_nil
      rw [same, List.map_nil, List.sum_nil, add_zero]
  | cons i rest ih =>
      obtain ⟨fresh, others⟩ := List.nodup_cons.1 distinct
      have moved : ∀ j, j ∉ rest → q j = (p.update i (q i)) j := by
        intro j absent
        by_cases here : j = i
        · rw [here, Valuation.update, if_pos rfl]
        · rw [Valuation.update, if_neg here]
          exact fixed j fun among => (List.mem_cons.1 among).elim here absent
      have unmoved : (rest.map fun j => b.rate k j * (q j - (p.update i (q i)) j)) =
          rest.map fun j => b.rate k j * (q j - p j) := by
        refine List.map_congr_left fun j among => ?_
        have other : j ≠ i := fun here => fresh (here ▸ among)
        rw [Valuation.update, if_neg other]
      rw [ih others moved, unmoved, affine.gap_update inside, List.map_cons, List.sum_cons,
        add_assoc]

theorem exists_half (affine : b.IsAffine) (inside : k < b.rows) (j : ℕ) :
    ∃ z : ℤ, b.rate k j = z / 2 := by
  obtain ⟨gradients, closed, rates⟩ := affine.exists_gradients fun _ => 0
  have count : k < gradients.length := by rwa [Relation.length_gradients _ closed]
  have halves := (affine.1.hasHalves closed _ (List.getElem_mem count)).exists_half j
  rwa [← rates, List.getD_eq_getElem?_getD, List.getElem?_eq_getElem count]

end IsAffine

end Block

/-! ## Systems -/

namespace System

/-- How far each equation of a system is from holding. -/
noncomputable def gaps (s : System ℝ) (p : Valuation ℝ) : List ℝ :=
  s.equations.map fun e => e.1.gap p e.2

/-- The slopes of each equation of a system by some positions. -/
noncomputable def rates (s : System ℝ) (free : List ℕ) : List (List ℝ) :=
  s.equations.map fun e => free.map (e.1.rate e.2)

variable {s : System ℝ} {free : List ℕ} {p q : Valuation ℝ}

theorem length_gaps : (s.gaps p).length = s.rows := by
  rw [gaps, List.length_map, length_equations]

theorem length_rates : (s.rates free).length = s.rows := by
  rw [rates, List.length_map, length_equations]

theorem length_of_mem_rates : ∀ row ∈ s.rates free, row.length = free.length := by
  intro row among
  obtain ⟨e, -, rfl⟩ := List.mem_map.1 among
  exact List.length_map _

/-- All blocks of a system are affine, and none pairs a curve with itself. -/
def Affine (s : System ℝ) : Prop := ∀ b ∈ s.blocks, b.IsAffine

namespace Affine

variable (affine : s.Affine)

include affine

theorem residuals_eq (p : Valuation ℝ) : s.residuals p = (s.gaps p).map some := by
  rw [residuals_eq_map, gaps, List.map_map]
  refine List.map_congr_left fun ⟨b, k⟩ among => ?_
  obtain ⟨present, inside⟩ := mem_equations.1 among
  exact (affine b present).getD_residual inside p

theorem allFinite?_residuals (p : Valuation ℝ) :
    allFinite? (s.residuals p) = some (s.gaps p) :=
  allFinite?_eq_some.2 (affine.residuals_eq p)

/-- The derivative of an affine system is the same everywhere. -/
theorem finiteMatrix?_jacobian (distinct : (s.blocks.map Block.id).Nodup) (p : Valuation ℝ) :
    finiteMatrix? (s.jacobian p free) = some (s.rates free) := by
  have rows : s.jacobian p free = (s.rates free).map fun row => row.map some := by
    rw [jacobian_eq_map distinct, rates, List.map_map]
    refine List.map_congr_left fun ⟨b, k⟩ among => ?_
    obtain ⟨present, inside⟩ := mem_equations.1 among
    rw [Function.comp_apply, List.map_map]
    exact List.map_congr_left fun j _ => (affine b present).slopeAt_eq inside
  rw [rows]
  exact finiteMatrix?_map_some _

/-- A descent over an affine system has a norm at every point. -/
theorem norm_iterate (params : Array ℝ) :
    (s.iterate params).norm =
      some ‖vector (s.rates free).length (s.gaps (.ofArray params))‖ := by
  have size : (s.gaps (.ofArray params)).length = (s.rates free).length := by
    rw [length_gaps, length_rates]
  exact residualNorm?_eq_some.2 ⟨_, affine.residuals_eq _, length_eq_norm size⟩

/-- **The residual changes by the derivative times the displacement.** -/
theorem vector_gaps (distinct : free.Nodup) (fixed : ∀ i, i ∉ free → q i = p i) :
    vector (s.rates free).length (s.gaps q) =
      vector (s.rates free).length (s.gaps p) +
        tableMap (s.rates free) free.length
          (vector free.length (free.map fun i => q i - p i)) := by
  refine PiLp.ext fun i => ?_
  have below : (i : ℕ) < s.equations.length :=
    i.isLt.trans_eq (length_rates.trans length_equations.symm)
  obtain ⟨b, k, equation⟩ : ∃ b k, s.equations[(i : ℕ)] = (b, k) := ⟨_, _, rfl⟩
  obtain ⟨present, inside⟩ := mem_equations.1 (equation ▸ List.getElem_mem below)
  have entry (p : Valuation ℝ) : (s.gaps p).getD i 0 = b.gap p k := by
    simp [gaps, List.getD_eq_getElem?_getD, below, equation]
  have row : (s.rates free).getD i [] = free.map (b.rate k) := by
    simp [rates, List.getD_eq_getElem?_getD, below, equation]
  rw [PiLp.add_apply, tableMap_apply, vector_apply, vector_apply, entry, entry, row,
    (affine b present).gap_eq_add_sum inside distinct fixed]
  have products :
      (List.zipWith (· * ·) (free.map (b.rate k)) (free.map fun i => q i - p i)).sum = _ :=
    sum_zipWith_mul (List.length_map _) (List.length_map _)
  rw [List.zipWith_map, List.zipWith_self] at products
  exact congrArg (b.gap p k + ·) products

end Affine

end System

end PlanarSketch
