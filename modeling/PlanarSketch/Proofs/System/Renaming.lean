import Mathlib.Data.List.GetD
import PlanarSketch.Proofs.Linear.Grids
import PlanarSketch.Proofs.Relation.Rebinding
import PlanarSketch.Proofs.System.Equations

/-!
# Systems in another order

A block on entities at other places has the residual and the slopes of the block, at the renamed
positions (`Block.Renames.residual`, `Block.Renames.slopeAt`).  A system is reordered if its blocks
are renamed and listed in another order (`System.Reordered`).  Its residual and its derivative
then list the same entries, with rows and columns in another order
(`System.Reordered.exists_table`).
-/

namespace PlanarSketch

set_option autoImplicit false

/-- Moving a renamed position moves the position. -/
theorem Valuation.update_comp {α : Type} (ρ : Equiv.Perm ℕ) (p : Valuation α) (i : ℕ) (x : α) :
    p.update (ρ i) x ∘ ρ = Valuation.update (p ∘ ρ) i x := by
  funext j
  simp only [Function.comp_apply, Valuation.update, ρ.injective.eq_iff]

/-- The same constraint bound to entities at other places. -/
structure Block.Renames {α : Type} (ρ : Equiv.Perm ℕ) (b b' : Block α) : Prop where
  constraint : b'.constraint = b.constraint
  relation : b'.relation = b.relation.rename ρ
  follows : b.relation.Follows ρ
  positions : ∀ i, ρ i ∈ b'.positions ↔ i ∈ b.positions
  nodup : b.positions.Nodup
  nodup_renamed : b'.positions.Nodup

namespace Block.Renames

variable {ρ : Equiv.Perm ℕ}

section Residuals

variable {α : Type} {b b' : Block α} (renames : b.Renames ρ b')

include renames

theorem id : b'.id = b.id := congrArg Constraint.id renames.constraint

theorem rows : b'.rows = b.rows := by
  rw [Block.rows, Block.rows, renames.relation, Relation.rows_rename]

variable [Scalar α]

/-- **A renamed block has the residual of the block before the renaming.** -/
theorem residual (p : Valuation α) : b'.residual p = b.residual (p ∘ ρ) := by
  rw [Block.residual, Block.residual, renames.relation,
    Relation.residualRows_rename renames.follows]

theorem differenceColumn (step : α) (p : Valuation α) (i : ℕ) :
    b'.differenceColumn step p (ρ i) = b.differenceColumn step (p ∘ ρ) i := by
  unfold Block.differenceColumn
  dsimp only
  rw [renames.residual, renames.residual, Valuation.update_comp, Valuation.update_comp]
  rfl

end Residuals

variable {b b' : Block ℝ} (renames : b.Renames ρ b')

include renames

/-- **A renamed block has the slopes of the block**, by the renamed positions. -/
theorem slopeAt (step : ℝ) (p : Valuation ℝ) {k : ℕ} (inside : k < b.rows) (j : ℕ) :
    b'.slopeAt step p k (ρ j) = b.slopeAt step (p ∘ ρ) k j := by
  have inside' : k < b'.rows := renames.rows.symm ▸ inside
  cases form : b.relation.analytic with
  | true =>
      obtain ⟨gradients, closed⟩ := Relation.exists_gradients (p ∘ ρ) form
      have closed' : b'.relation.gradients? p = some (gradients.map (Gradient.rename ρ)) := by
        rw [renames.relation, Relation.gradients?_rename ρ.injective renames.follows, closed,
          Option.map_some]
      rw [slopeAt_closed closed inside, slopeAt_closed closed' inside',
        show ([] : Gradient ℝ) = Gradient.rename ρ [] from rfl, List.getD_map,
        Gradient.entry_rename ρ.injective]
      rfl
  | false =>
      have form' : b'.relation.analytic = false := by
        rw [renames.relation, Relation.analytic_rename, form]
      rw [slopeAt_open form renames.nodup inside, slopeAt_open form' renames.nodup_renamed inside',
        renames.differenceColumn]
      exact if_congr (renames.positions j) rfl rfl

end Block.Renames

namespace System

/-- The value of an equation at a point. -/
noncomputable def valueOf (p : Valuation ℝ) (e : Block ℝ × ℕ) : Option ℝ :=
  (e.1.residual p).getD e.2 none

/-- The slope of an equation at a point by a position. -/
noncomputable def slopeOf (step : ℝ) (p : Valuation ℝ) (e : Block ℝ × ℕ) (j : ℕ) : Option ℝ :=
  e.1.slopeAt step p e.2 j

/-- The same constraints in another order, bound to entities in another order. -/
structure Reordered (ρ : Equiv.Perm ℕ) (s s' : System ℝ) : Prop where
  step : s'.step = s.step
  numbered : (s.blocks.map Block.id).Nodup
  blocks : ∃ renamed, List.Forall₂ (Block.Renames ρ) s.blocks renamed ∧ renamed.Perm s'.blocks

theorem map_eq_of_forall₂ {β γ δ : Type*} {f : β → δ} {g : γ → δ} {xs : List β} {ys : List γ}
    (same : List.Forall₂ (fun x y => f x = g y) xs ys) : xs.map f = ys.map g := by
  rw [← List.forall₂_eq_eq_eq, List.forall₂_map_left_iff, List.forall₂_map_right_iff]
  exact same

namespace Reordered

variable {ρ : Equiv.Perm ℕ} {s s' : System ℝ} (reordered : Reordered ρ s s')

include reordered

theorem numbered_reordered : (s'.blocks.map Block.id).Nodup := by
  obtain ⟨renamed, renames, same⟩ := reordered.blocks
  have ids : s.blocks.map Block.id = renamed.map Block.id :=
    map_eq_of_forall₂ (renames.imp fun b b' renames => renames.id.symm)
  exact (same.map _).nodup_iff.1 (ids ▸ reordered.numbered)

/-- **The residual and the derivative of a reordered system list the same entries.** -/
theorem exists_table (p : Valuation ℝ) :
    ∃ E : List (Block ℝ × ℕ), E.Perm s'.equations ∧
      s.residuals (p ∘ ρ) = E.map (valueOf p) ∧
      s'.residuals p = s'.equations.map (valueOf p) ∧
      (∀ free, s.jacobian (p ∘ ρ) free = grid E (free.map ρ) (slopeOf s'.step p)) ∧
      ∀ free, s'.jacobian p free = grid s'.equations free (slopeOf s'.step p) := by
  obtain ⟨renamed, renames, same⟩ := reordered.blocks
  -- The equations of the renamed blocks, in the order that they had before.
  set E : List (Block ℝ × ℕ) := renamed.flatMap fun b => (List.range b.rows).map fun k => (b, k)
  have pairs : List.Forall₂
      (fun e e' : Block ℝ × ℕ => e.1.Renames ρ e'.1 ∧ e'.2 = e.2 ∧ e.2 < e.1.rows)
      s.equations E := by
    refine List.rel_flatMap renames fun b b' renames => ?_
    rw [renames.rows, List.forall₂_map_left_iff, List.forall₂_map_right_iff, List.forall₂_same]
    exact fun k inside => ⟨renames, rfl, List.mem_range.1 inside⟩
  refine ⟨E, same.flatMap_right _, ?_, residuals_eq_map, fun free => ?_, fun free => ?_⟩
  · rw [residuals_eq_map]
    refine map_eq_of_forall₂ (pairs.imp fun e e' ⟨renames, row, _⟩ => ?_)
    rw [valueOf, renames.residual, row]
  · rw [jacobian_eq_map reordered.numbered]
    refine map_eq_of_forall₂ (pairs.imp fun e e' ⟨renames, row, inside⟩ => ?_)
    rw [List.map_map]
    refine List.map_congr_left fun j _ => ?_
    rw [Function.comp_apply, slopeOf, row, renames.slopeAt _ _ inside, reordered.step]
  · exact jacobian_eq_map reordered.numbered_reordered

theorem rows_eq : s'.rows = s.rows := by
  obtain ⟨E, same, residuals, -, -, -⟩ := reordered.exists_table fun _ => 0
  have lengths := congrArg List.length residuals
  rwa [residuals_eq_map, List.length_map, List.length_map, length_equations, same.length_eq,
    length_equations, eq_comm] at lengths

end Reordered

end System

end PlanarSketch
