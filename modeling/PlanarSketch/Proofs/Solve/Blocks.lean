import PlanarSketch.Proofs.Relation.Reads
import PlanarSketch.Proofs.Solve.Preparation
import PlanarSketch.Proofs.System.Norms

/-!
# Blocks at their places

The slots of a bound constraint stand at the places of its entities, one slot for each
identifier.  Places of different entities begin at different positions, so a relation pairs
a curve with itself only when its constraint names one entity twice
(`Block.entityIds_of_selfPaired`).  The positions of a block are those of its places, which
is all that its residual depends on (`Block.residual_congr`).
-/

namespace PlanarSketch.Block

set_option autoImplicit false

open Outcome

variable {α : Type} [Scalar α] {entities others : List (Entity α)} {layout : Layout}
variable {p : Valuation α} {c : Constraint α} {b : Block α}

omit [Scalar α] in
theorem map_place_slotsOf (c : Constraint α) (places : List Place) :
    (slotsOf c places).map Slot.place = places := by
  unfold slotsOf
  rw [List.map_map]
  exact List.zipIdx_map_fst 0 places

/-- The places of a constraint are those that the layout has for its identifiers. -/
theorem placesOf_eq_ok {places : List Place} (found : placesOf c entities layout = .ok places) :
    List.Forall₂ (fun id place => layout.place? id = some place) c.entityIds places := by
  refine (mapM_eq_ok.1 found).imp fun id place placed => ?_
  split at placed
  · rename_i located
    cases placed
    exact located
  · cases placed

omit [Scalar α] in
/-- The located places are the places of the identifiers. -/
theorem mem_located_iff {ids : List Int} {places : List Place} {place : Place}
    (located : List.Forall₂ (fun id place => layout.place? id = some place) ids places) :
    place ∈ places ↔ ∃ id ∈ ids, layout.place? id = some place := by
  induction located with
  | nil => simp
  | cons found _ ih =>
      rw [List.mem_cons, List.exists_mem_cons_iff, found, Option.some_inj, ih, eq_comm]

omit [Scalar α] in
theorem mem_places_of_located {ids : List Int} {places : List Place}
    (located : List.Forall₂ (fun id place => layout.place? id = some place) ids places) :
    ∀ place ∈ places, place ∈ layout.places := by
  intro place among
  obtain ⟨id, -, found⟩ := (mem_located_iff located).1 among
  exact (place?_eq_some found).1

/-- What a compiled block is made of. -/
theorem compile_binds (compiled : compile entities layout p c = .ok b) :
    ∃ places, List.Forall₂ (fun id place => layout.place? id = some place) c.entityIds places ∧
      c.Binds p (slotsOf c places) b.relation ∧ b.positions = coveredBy layout places ∧
      b.constraint = c := by
  obtain ⟨places, found, related, -, same, positions⟩ := compile_eq_ok compiled
  exact ⟨places, placesOf_eq_ok found, Constraint.binds_of_relation related, positions, same⟩

theorem check_of_compiled (compiled : compile entities layout p c = .ok b) : c.check = .ok () := by
  unfold compile at compiled
  obtain ⟨⟨⟩, checked, -⟩ := bind_eq_ok.1 compiled
  exact checked

/-- A block has as many rows as its constraint adds equations. -/
theorem rows_of_compiled (compiled : compile entities layout p c = .ok b) : b.rows = c.rows := by
  obtain ⟨places, -, bound, -, -⟩ := compile_binds compiled
  exact bound.rows

/-- A block is defined at the geometry that it was bound to, since binding refuses lines that are
too short. -/
theorem definedAt_of_compiled (distinct : (entities.map Entity.id).Nodup)
    (compiled : compile entities (Layout.tiling entities) p c = .ok b) :
    b.DefinedAt (.ofArray (flat entities)) := by
  rw [definedAt_iff]
  rintro ⟨l, divides, short⟩
  exact compile_lines_long distinct compiled l (Relation.mem_lines_of_mem_divisors divides) short

/-- A block that pairs a curve with itself names one entity twice. -/
theorem entityIds_of_selfPaired (laid : Layout.ofEntities entities = .ok layout)
    (compiled : compile entities layout p c = .ok b) (paired : b.relation.SelfPaired) :
    ∃ id, c.entityIds = [id, id] := by
  obtain ⟨-, rfl⟩ := Layout.ofEntities_eq_ok.1 laid
  obtain ⟨places, located, bound, -, -⟩ := compile_binds compiled
  obtain ⟨s, t, slots, same⟩ := bound.slots_of_selfPaired paired
  have two : places = [s.place, t.place] := by
    rw [← map_place_slotsOf c places, slots]
    rfl
  rw [two] at located
  obtain ⟨first, rest, here, later, ids⟩ := List.forall₂_cons_right_iff.1 located
  obtain ⟨second, rest, there, none, rfl⟩ := List.forall₂_cons_right_iff.1 later
  cases none
  obtain ⟨first_placed, first_id⟩ := place?_eq_some here
  obtain ⟨second_placed, second_id⟩ := place?_eq_some there
  have equal : s.place = t.place := Layout.eq_of_offset_eq first_placed second_placed same
  refine ⟨first, ?_⟩
  rw [ids, ← second_id, ← equal, first_id]

/-! ## Positions -/

omit [Scalar α] in
theorem mem_coveredBy {places : List Place} {i : Nat} :
    i ∈ coveredBy layout places ↔
      i < layout.size ∧ ∃ place ∈ places, place.offset ≤ i ∧ i < place.stop := by
  simp [coveredBy]

/-- The positions of a block are those of the entities of its constraint. -/
theorem mem_positions_iff (laid : Layout.ofEntities others = .ok layout)
    (compiled : compile entities layout p c = .ok b) {i : Nat} :
    i ∈ b.positions ↔ ∃ id ∈ c.entityIds, ∃ place : Place,
      layout.place? id = some place ∧ place.offset ≤ i ∧ i < place.stop := by
  obtain ⟨-, rfl⟩ := Layout.ofEntities_eq_ok.1 laid
  obtain ⟨places, located, -, positions, -⟩ := compile_binds compiled
  rw [positions, mem_coveredBy]
  constructor
  · rintro ⟨-, place, among, here⟩
    obtain ⟨id, named, found⟩ := (mem_located_iff located).1 among
    exact ⟨id, named, place, found, here⟩
  · rintro ⟨id, named, place, found, here⟩
    have bounds := Layout.bounds_of_mem_tiled (place?_eq_some found).1
    refine ⟨?_, place, (mem_located_iff located).2 ⟨id, named, found⟩, here⟩
    change i < Layout.extent others
    omega

theorem nodup_positions (compiled : compile entities layout p c = .ok b) : b.positions.Nodup := by
  obtain ⟨places, -, -, -, -, positions⟩ := compile_eq_ok compiled
  rw [positions]
  exact List.Nodup.filter _ List.nodup_range

/-- What a block reads is among its positions. -/
theorem mem_positions_of_reads (laid : Layout.ofEntities others = .ok layout)
    (compiled : compile entities layout p c = .ok b) {i : Nat} (read : i ∈ b.relation.reads) :
    i ∈ b.positions := by
  obtain ⟨places, located, bound, -, -⟩ := compile_binds compiled
  obtain ⟨s, slot, inside⟩ := bound.reads i read
  have among : s.place ∈ places := by
    rw [← map_place_slotsOf c places]
    exact List.mem_map_of_mem slot
  obtain ⟨id, named, found⟩ := (mem_located_iff located).1 among
  exact (mem_positions_iff laid compiled).2 ⟨id, named, s.place, found, inside⟩

/-- A residual depends on the positions of its block and on no others. -/
theorem residual_congr (laid : Layout.ofEntities others = .ok layout)
    (compiled : compile entities layout p c = .ok b) {q q' : Valuation α}
    (same : ∀ i ∈ b.positions, q i = q' i) : b.residual q = b.residual q' := by
  rw [residual, residual, Relation.residualRows, Relation.residualRows,
    Relation.residual_congr fun i read => same i (mem_positions_of_reads laid compiled read)]

/-- A residual is the same wherever a position is that does not belong to the block. -/
theorem residual_update (laid : Layout.ofEntities others = .ok layout)
    (compiled : compile entities layout p c = .ok b) {i : Nat} (outside : i ∉ b.positions)
    (q : Valuation α) (x : α) : b.residual (q.update i x) = b.residual q := by
  refine residual_congr laid compiled fun j inside => if_neg ?_
  rintro rfl
  exact outside inside

/-! ## Curves -/

/-- The curve of a slot at the place of an entity is that entity. -/
theorem curve_of_slot {before after : List (Entity α)} {e : Entity α} {s : Slot}
    {k : CurveSite} (distinct : ((before ++ e :: after).map Entity.id).Nodup)
    (placed : (Layout.tiling (before ++ e :: after)).place? e.id = some s.place)
    (curve : s.curve? = some k) :
    e.kind.isCurve = true ∧ k = ⟨e.id, Layout.extent before⟩ := by
  rw [Layout.place?_split distinct] at placed
  have place := Option.some.inj placed
  obtain ⟨round, rfl⟩ := Constraint.curve_eq_some curve
  unfold Slot.kind at round
  rw [← place] at round ⊢
  exact ⟨round, rfl⟩

/-- The radius of a curve, read from the flat parameters, is the radius of the entity there. -/
theorem radius_flat {before after : List (Entity α)} {e : Entity α} {r : α} {id : Int}
    (size : e.radius = .ok r) :
    (CurveSite.mk id (Layout.extent before)).radius (.ofArray (flat (before ++ e :: after))) =
      r := by
  have value (k : Nat) (inside : k < e.params.length) :
      Valuation.ofArray (flat (before ++ e :: after)) (Layout.extent before + k) = e.params[k] :=
    Layout.getD_flatten_split inside
  unfold Entity.radius at size
  unfold Entity.params at value
  cases shape : e.shape with
  | circle cx cy radius | arc cx cy radius start stop =>
      rw [shape] at size value
      cases size
      exact value 2 (by simp [Shape.params])
  | point x y | line x₁ y₁ x₂ y₂ =>
      rw [shape] at size
      cases size

/-- An entity that stands for a curve of a block has the radius that the block reads. -/
theorem curve_entity {fs : List (Entity α)} {f : Entity α} (distinct : (fs.map Entity.id).Nodup)
    (tiling : Layout.tiling entities = Layout.tiling fs)
    (compiled : compile entities (Layout.tiling entities) p c = .ok b) {k : CurveSite}
    (among : k ∈ b.relation.curves) (present : f ∈ fs) (same : k.entity = f.id) :
    f.radius = .ok (k.radius (.ofArray (flat fs))) := by
  obtain ⟨places, found, related, -, -, -⟩ := compile_eq_ok compiled
  obtain ⟨s, slot, curve⟩ := (Constraint.binds_of_relation related).sites.2.2 k among
  obtain ⟨-, rfl⟩ := Constraint.curve_eq_some curve
  have placed := place?_of_slot tiling found slot same
  obtain ⟨before, after, rfl⟩ := List.append_of_mem present
  obtain ⟨round, site⟩ := curve_of_slot distinct placed curve
  rw [site]
  cases shape : f.shape with
  | circle cx cy r | arc cx cy r start stop =>
      have size : f.radius = .ok r := by rw [Entity.radius, shape]
      rw [radius_flat size, size]
  | point x y | line x₁ y₁ x₂ y₂ =>
      rw [Entity.kind, shape] at round
      cases round

/-- Every curve of a block is an entity of its sketch. -/
theorem exists_curve_entity (compiled : compile entities layout p c = .ok b) {k : CurveSite}
    (among : k ∈ b.relation.curves) : ∃ e ∈ entities, k.entity = e.id := by
  obtain ⟨places, found, related, -, -, -⟩ := compile_eq_ok compiled
  obtain ⟨s, slot, curve⟩ := (Constraint.binds_of_relation related).sites.2.2 k among
  obtain ⟨-, rfl⟩ := Constraint.curve_eq_some curve
  obtain ⟨e, present, placed⟩ := slot_entity found slot
  exact ⟨e, present, (place?_eq_some placed).2⟩

end PlanarSketch.Block
