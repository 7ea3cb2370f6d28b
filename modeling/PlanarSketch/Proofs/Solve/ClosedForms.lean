import PlanarSketch.Proofs.Relation.Partials
import PlanarSketch.Proofs.Solve.Blocks

/-!
# Closed forms of blocks are derivatives

A row of a block has a partial derivative along a position if it is defined near the point
and changes there at a rate (`Block.HasPartial`).  The gradients that a block has in closed
form list exactly these rates (`closed_forms_are_derivatives`): for every constraint whose
entities differ, wherever no guard against short lengths applies, and by every position,
positions outside of the block included.

That the entities differ is needed.  A curve that is paired with itself has a row that is
constantly zero, and a gradient that is not.
-/

namespace PlanarSketch

set_option autoImplicit false

open Outcome

/-- A row of a block changes at a rate when a position is moved: near the point it is a function
of that position, which has the rate as its derivative. -/
inductive Block.HasPartial (b : Block ℝ) (k i : ℕ) (p : Valuation ℝ) (rate : ℝ) : Prop where
  | intro (row : ℝ → ℝ)
      (defined : ∀ᶠ x in nhds (p i), (b.residual (p.update i x))[k]? = some (some (row x)))
      (moves : HasDerivAt row rate (p i))

theorem Block.hasPartial_of_linearised {b : Block ℝ} {p : Valuation ℝ}
    {gradients : List (Gradient ℝ)} (linear : b.relation.Linearised p gradients) {k : ℕ}
    (inside : k < gradients.length) (i : ℕ) :
    b.HasPartial k i p ((gradients.getD k []).entry i) := by
  obtain ⟨rows, near, rates⟩ := linear
  have same := rates.length_eq
  refine .intro (fun x => (rows[k]) (p.update i x)) ?_ ?_
  · filter_upwards [near i] with x defined
    simp [residual, Relation.residualRows, defined, same, inside]
  · have row := List.forall₂_iff_get.1 rates |>.2 k (by omega) inside
    simpa [List.getD_eq_getElem?_getD, inside] using row i

/-- **Closed forms are derivatives.**  A block that is bound from a constraint on different
entities, and that has its derivative in closed form, has one gradient for each of its rows.
Wherever no length or distance is too short and no angle half a turn off its target, the entry of
that gradient at any position is the partial derivative of the row along that position. -/
theorem closed_forms_are_derivatives {entities : List (Entity ℝ)} {layout : Layout}
    {start p : Valuation ℝ} {c : Constraint ℝ} {b : Block ℝ}
    (laid : Layout.ofEntities entities = .ok layout)
    (compiled : Block.compile entities layout start c = .ok b) (different : c.entityIds.Nodup)
    (analytic : b.relation.analytic = true) (clear : b.relation.Unguarded p) :
    ∃ gradients, b.relation.gradients? p = some gradients ∧ gradients.length = b.rows ∧
      ∀ k < b.rows, ∀ i, b.HasPartial k i p ((gradients.getD k []).entry i) := by
  have apart : ¬b.relation.SelfPaired := by
    intro paired
    obtain ⟨id, twice⟩ := Block.entityIds_of_selfPaired laid compiled paired
    rw [twice] at different
    simp at different
  obtain ⟨gradients, closed⟩ := Relation.exists_gradients p analytic
  have count := Relation.length_gradients p closed
  refine ⟨gradients, closed, count, fun k inside i => ?_⟩
  have linear := Relation.linearised closed clear apart
  exact Block.hasPartial_of_linearised linear (by rw [count]; exact inside) i

/-! ## A line of some length -/

namespace Segment

/-- A horizontal line between two points. -/
noncomputable def entities (first last : ℝ) : List (Entity ℝ) :=
  [Exact.entity 0 (.line first 0 last 0)]

/-- The demand that the line has a length. -/
noncomputable def constraint (target : ℝ) : Constraint ℝ :=
  ⟨.whole 0, .length, [0], some target, [], .of true⟩

/-- The demand, bound to the line. -/
noncomputable def block (target : ℝ) : Block ℝ :=
  ⟨constraint target, .length ⟨0, 0⟩ target, [0, 1, 2, 3]⟩

variable {first last target : ℝ}

theorem distinct_entities : ((entities first last).map Entity.id).Nodup := by
  change ([0] : List Int).Nodup
  decide

theorem laid :
    Layout.ofEntities (entities first last) = .ok (Layout.tiling (entities first last)) :=
  Layout.ofEntities_eq_ok.2 ⟨distinct_entities, rfl⟩

theorem check_constraint (nonneg : 0 ≤ target) : (constraint target).check = .ok () := by
  change (constraint target).checkValue = .ok ()
  simp [Constraint.checkValue, constraint, ConstraintKind.valueRule, nonneg]

theorem compile_constraint (nonneg : 0 ≤ target) (long : Tolerance.geometry < |last - first|)
    (p : Valuation ℝ) :
    Block.compile (entities first last) (Layout.tiling (entities first last)) p
      (constraint target) = .ok (block target) := by
  have found : Block.placesOf (constraint target) (entities first last)
      (Layout.tiling (entities first last)) = .ok [⟨0, .line, 0⟩] := rfl
  have sound : (Exact.entity 0 (.line first 0 last 0)).degeneracy? Tolerance.geometry = none :=
    if_neg (Exact.not_hypot_le long)
  exact Block.compile_of_steps (check_constraint nonneg) found rfl
    (List.forall_mem_singleton.2 (Block.checkShape_of_found rfl sound))

theorem flat_entities : flat (entities first last) = #[first, 0, last, 0] := rfl

theorem length_line :
    (LineSite.mk 0 0).length (.ofArray (flat (entities first last))) =
      Scalar.hypot (last - first) 0 := by
  simp [LineSite.length, LineSite.direction, Valuation.ofArray, flat_entities]

end Segment

/-- The length of a line from the origin to `(1, 0)` has its derivative in closed form. -/
theorem closed_form_length :
    ∃ gradients, (Segment.block 2).relation.gradients? (.ofArray (flat (Segment.entities 0 1))) =
        some gradients ∧ gradients.length = 1 ∧
      ∀ k < 1, ∀ i, (Segment.block 2).HasPartial k i (.ofArray (flat (Segment.entities 0 1)))
        ((gradients.getD k []).entry i) := by
  have long : (Tolerance.geometry : ℝ) < |1 - 0| := by norm_num [Tolerance.geometry]
  have nonneg : (0 : ℝ) ≤ 2 := by norm_num
  have compiled := Segment.compile_constraint nonneg long (.ofArray (flat (Segment.entities 0 1)))
  have clear : (Segment.block 2).relation.Unguarded (.ofArray (flat (Segment.entities 0 1))) := by
    change tooShort _ = false
    rw [Segment.length_line]
    exact decide_eq_false (Exact.not_hypot_le long)
  exact closed_forms_are_derivatives Segment.laid compiled (List.nodup_singleton 0) rfl clear

end PlanarSketch
