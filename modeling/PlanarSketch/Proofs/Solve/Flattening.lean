import Mathlib.Data.List.Duplicate
import PlanarSketch.Proofs.Exact
import PlanarSketch.Proofs.Solve.WriteBack
import PlanarSketch.Proofs.Tiles

/-!
# Flattening and writing back

A layout gives each entity a range of the parameter vector (`Layout.Arranges`): as many
positions as its kind has parameters, one range behind the other, in the order of the
entities.  The parameters of an entity are found again at its place (`Layout.read_flat`), and
the mask of free positions is false along the places of fixed entities and nowhere else
(`Layout.mask_eq_false_iff`).

A solution is applied entity by entity, and what becomes of an entity does not depend on the
others (`Solution.Writes`).  Flattening and applying are inverse to each other
(`flattening_inverse`): what is read from entities is the vector that was written to them.
There is no layout just when an identifier occurs twice, and then the fault names such an
identifier (`Layout.ofEntities_of_duplicate`).
-/

namespace PlanarSketch

set_option autoImplicit false

open Outcome

variable {α : Type} [Scalar α]

/-! ## The ranges of a layout -/

/-- The range of positions of a place. -/
def Place.span (place : Place) : ℕ × ℕ := (place.offset, place.stop)

namespace Layout

variable {entities : List (Entity α)}

/-- A layout gives each of some entities a range of its own, in their order, and the ranges tile the
vector.  The range of an entity is found by its identifier. -/
structure Arranges (layout : Layout) (entities : List (Entity α)) : Prop where
  listed : layout.places.map (fun place => (place.id, place.kind)) =
    entities.map fun e => (e.id, e.kind)
  sizes : ∀ place ∈ layout.places, place.stop - place.offset = place.kind.paramCount
  tiles : Tiles 0 layout.size (layout.places.map Place.span)
  found : ∀ place ∈ layout.places, layout.place place.id = (.ok place : Except (Fault α) Place)

theorem map_listed_tiled (start : ℕ) (entities : List (Entity α)) :
    (tiled start entities).map (fun place => (place.id, place.kind)) =
      entities.map fun e => (e.id, e.kind) := by
  induction entities generalizing start with
  | nil => rfl
  | cons e es ih => rw [tiled, List.map_cons, List.map_cons, ih]

theorem map_span_tiled (start : ℕ) (entities : List (Entity α)) :
    (tiled start entities).map Place.span =
      stretches start (entities.map fun e => e.params.length) := by
  induction entities generalizing start with
  | nil => rfl
  | cons e es ih =>
      rw [tiled, List.map_cons, ih, List.map_cons, stretches, Place.span, Place.stop, length_params]

/-- **Entities whose identifiers differ are laid out one behind the other.** -/
theorem arranges_tiling (distinct : (entities.map Entity.id).Nodup) :
    (tiling entities).Arranges entities where
  listed := map_listed_tiled 0 entities
  sizes place _ := Nat.add_sub_cancel_left _ _
  tiles := by
    have size : extent entities = 0 + (entities.map fun e => e.params.length).sum := by
      rw [Nat.zero_add, extent, List.length_flatMap]
    rw [tiling, map_span_tiled, size]
    exact tiles_stretches 0 _
  found place among := by
    have apart : ((tiling entities).places.map Place.id).Nodup := by rwa [tiling, map_id_tiled]
    rw [Layout.place, place?, find?_of_nodup apart among]

/-- Entities two of which have one identifier have no layout. -/
theorem ofEntities_of_duplicate (twice : ¬(entities.map Entity.id).Nodup) :
    ∃ id, (entities.map Entity.id).Duplicate id ∧
      ofEntities entities = .error (.duplicateEntity id) := by
  cases laid : ofEntities entities with
  | ok layout => exact absurd (ofEntities_eq_ok.1 laid).1 twice
  | error fault =>
      obtain ⟨before, e, after, rfl, rfl, again⟩ := foldlM_push_eq_error laid
      refine ⟨e.id, ?_, rfl⟩
      rw [List.duplicate_iff_two_le_count, List.map_append, List.map_cons, List.count_append,
        List.count_cons_self]
      have earlier : 0 < (before.map Entity.id).count e.id := List.count_pos_iff.2 again
      omega

/-! ## What stands at the places -/

/-- The parameters of an entity stand at its place. -/
theorem read_flat {before after : List (Entity α)} {e : Entity α} :
    read (flat (before ++ e :: after)) ⟨e.id, e.kind, extent before⟩ = e.params := by
  rw [read, flat, List.flatMap_append, List.flatMap_cons, extent, List.drop_left, ← length_params,
    List.take_left]

/-- **The mask is false exactly along the places of fixed entities.** -/
theorem mask_eq_false_iff (distinct : (entities.map Entity.id).Nodup) {i : ℕ} :
    (entities.flatMap maskOf)[i]? = some false ↔ ∃ e ∈ entities, e.isFixed = true ∧
      ∃ place, (tiling entities).place? e.id = some place ∧ place.offset ≤ i ∧ i < place.stop := by
  constructor
  · intro masked
    have inside : i < extent entities := by
      rw [← length_flatMap_maskOf]
      exact (List.getElem?_eq_some_iff.1 masked).1
    obtain ⟨before, e, after, k, rfl, below, rfl⟩ := exists_split_of_lt_extent inside
    rw [getElem?_mask_split below, Option.some_inj, Bool.not_eq_false'] at masked
    refine ⟨e, by simp, masked, _, place?_split distinct, Nat.le_add_right _ _, ?_⟩
    rw [length_params] at below
    exact Nat.add_lt_add_left below _
  · rintro ⟨e, present, fixed, place, located, low, high⟩
    obtain ⟨before, after, rfl⟩ := List.append_of_mem present
    rw [place?_split distinct] at located
    obtain rfl := Option.some.inj located
    obtain ⟨k, rfl⟩ := Nat.exists_eq_add_of_le low
    have below : k < e.params.length := length_params e ▸ Nat.lt_of_add_lt_add_left high
    rw [getElem?_mask_split below, fixed, Bool.not_true]

end Layout

/-! ## Writing back -/

/-- What becomes of an entity when a solution is applied to it.  Only its parameters may change, to
those of its place, and an entity without a place stays as it is. -/
structure Solution.Writes (s : Solution α) (changed e : Entity α) : Prop where
  kept : changed.Matches e
  written (place : Place) : s.layout.place? e.id = some place →
    changed.params = Layout.read s.params place
  untouched : s.layout.contains e.id = false → changed = e

theorem Solution.writes_of_applyTo {s : Solution α} {e changed : Entity α}
    (made : s.applyTo e = .ok changed) : s.Writes changed e := by
  unfold applyTo at made
  split at made
  · rename_i place located
    obtain ⟨kept, params⟩ := Entity.withParams_eq_ok made
    refine ⟨kept, fun other found => ?_, fun absent => ?_⟩
    · obtain rfl := Option.some.inj (located.symm.trans found)
      exact params
    · rw [Layout.contains, located] at absent
      cases absent
  · rename_i absent
    cases made
    refine ⟨⟨rfl, rfl, rfl⟩, fun place found => ?_, fun _ => rfl⟩
    rw [absent] at found
    cases found

/-- A solution has an ordinary number for each position of a layout. -/
structure Solution.Fills (s : Solution α) (layout : Layout) : Prop where
  placed : s.layout = layout
  size : s.params.size = layout.size
  finite : ∀ x ∈ s.params.toList, Scalar.isFinite x = true

/-- A layout serves entities if their parameters can be flattened and written back with it. -/
structure Layout.Serves (layout : Layout) (entities : List (Entity α)) : Prop where
  arranged : layout.Arranges entities
  flattened : ∃ p, layout.flatten entities = .ok p ∧ p.size = layout.size ∧
    ∀ e ∈ entities, ∃ place, layout.place e.id = (.ok place : Except (Fault α) Place) ∧
      Layout.read p place = e.params
  /-- Flattening undoes applying. -/
  inverse (s : Solution α) : s.Fills layout → ∃ applied, s.apply entities = .ok applied ∧
    List.Forall₂ Entity.Matches applied entities ∧ layout.flatten applied = .ok s.params
  /-- A solution is applied to the entities one by one, among any others that have no place. -/
  mixed (s : Solution α) : s.Fills layout → ∀ others : List (Entity α),
    (∀ e ∈ others, e ∈ entities ∨ layout.contains e.id = false) →
      ∃ applied, s.apply others = .ok applied ∧ List.Forall₂ s.Writes applied others
  masked : ∃ mask, layout.freeMask entities = .ok mask ∧ mask.size = layout.size ∧
    ∀ i, mask[i]? = some false ↔ ∃ e ∈ entities, e.isFixed = true ∧
      ∃ place, layout.place? e.id = some place ∧ place.offset ≤ i ∧ i < place.stop

section Inverse

variable {entities : List (Entity α)}

theorem Layout.serves_tiling (distinct : (entities.map Entity.id).Nodup) :
    (Layout.tiling entities).Serves entities where
  arranged := Layout.arranges_tiling distinct
  flattened := by
    refine ⟨_, Layout.flatten_tiling distinct, rfl, fun e present => ?_⟩
    obtain ⟨before, after, rfl⟩ := List.append_of_mem present
    exact ⟨_, Layout.place_split distinct, Layout.read_flat⟩
  inverse s := by
    rintro ⟨layout, size, finite⟩
    obtain ⟨applied, made⟩ := s.exists_apply finite layout size distinct
    obtain ⟨same, params⟩ := s.apply_spec layout size distinct made
    refine ⟨applied, made, same, ?_⟩
    have apart : (applied.map Entity.id).Nodup := by rwa [map_id_of_matches same]
    rw [← Layout.tiling_of_matches same, Layout.flatten_tiling apart, ← params]
    rfl
  mixed s := by
    rintro ⟨layout, size, finite⟩ others known
    have each : ∀ e ∈ others, ∃ changed, s.applyTo e = .ok changed := by
      intro e among
      rcases known e among with present | absent
      · exact s.exists_applyTo finite layout size distinct present
      · have unplaced : s.layout.place? e.id = none := by
          rw [layout]
          exact Option.isNone_iff_eq_none.1 (Option.isSome_eq_false_iff.1 absent)
        exact ⟨e, by rw [Solution.applyTo, unplaced]⟩
    obtain ⟨applied, made⟩ := exists_mapM each
    exact ⟨applied, made, forall₂_of_mapM made fun e _ changed => Solution.writes_of_applyTo⟩
  masked := by
    refine ⟨_, Layout.freeMask_tiling distinct, Layout.length_flatMap_maskOf entities, fun i => ?_⟩
    rw [List.getElem?_toArray, Layout.mask_eq_false_iff distinct]

/-- **Flattening and applying are inverse to each other.**  Entities with different identifiers have
a layout: ranges of the sizes of their kinds, in their order, that tile the parameter vector.  Their
parameters are read from the flat vector at their ranges.  Any vector of ordinary numbers that is
written back is read again by flattening, while identifiers, kinds, marks and order are kept; what
is not in the layout stays as it is.  The mask is false exactly along the ranges of fixed entities.
When an identifier occurs twice there is no layout, but a fault that names such an identifier. -/
theorem flattening_inverse (entities : List (Entity α)) :
    ((entities.map Entity.id).Nodup →
      ∃ layout, Layout.ofEntities entities = .ok layout ∧ layout.Serves entities) ∧
    (¬(entities.map Entity.id).Nodup →
      ∃ id, (entities.map Entity.id).Duplicate id ∧
        Layout.ofEntities entities = .error (.duplicateEntity id)) :=
  ⟨fun distinct => ⟨_, Layout.ofEntities_eq_ok.2 ⟨distinct, rfl⟩, Layout.serves_tiling distinct⟩,
    Layout.ofEntities_of_duplicate⟩

end Inverse

/-- A line and a point are laid out, and the same point twice is not. -/
theorem flattening_inverse_line_point :
    (∃ layout, Layout.ofEntities [Exact.entity 4 (.line 0 0 1 0), Exact.entity 2 (.point 0 1)] =
        .ok layout ∧
      layout.Serves [Exact.entity 4 (.line 0 0 1 0), Exact.entity 2 (.point 0 1)]) ∧
    ∃ id, ([2, 2] : List Int).Duplicate id ∧
      Layout.ofEntities [Exact.entity 2 (.point 0 1), Exact.entity 2 (.point 0 1)] =
        .error (.duplicateEntity id) :=
  ⟨(flattening_inverse _).1 (show ([4, 2] : List Int).Nodup by decide),
    (flattening_inverse [Exact.entity 2 (.point 0 1), Exact.entity 2 (.point 0 1)]).2
      (show ¬([2, 2] : List Int).Nodup by decide)⟩

end PlanarSketch
