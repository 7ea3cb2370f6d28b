import Mathlib.Data.List.Nodup
import Mathlib.Data.List.Pairwise
import PlanarSketch.Layout
import PlanarSketch.Proofs.Outcome

/-!
# Layouts tile the parameter vector

Entities whose identifiers differ are laid out without gaps, one after the other
(`Layout.tiling`), and this is the only way in which a layout comes to be
(`Layout.ofEntities_eq_ok`).  The place of an entity begins behind the parameters of all
entities before it (`Layout.place?_split`).  Both the flat vector and the mask of free
positions are filled entity by entity (`Layout.foldlM_fill`), so flattening yields the
parameters one after the other (`Layout.flatten_tiling`), and a mask is free along the
entities that may be moved (`Layout.freeMask_tiling`).

An entity is addressed through a split of the list, `before ++ e :: after`, since what
stands in front of it is what its offset counts.
-/

namespace PlanarSketch.Layout

set_option autoImplicit false

open Outcome

variable {α : Type} [Scalar α]

/-- The number of parameters of some entities. -/
def extent (entities : List (Entity α)) : Nat := (entities.flatMap Entity.params).length

/-- Consecutive places for entities from a position on. -/
def tiled : Nat → List (Entity α) → List Place
  | _, [] => []
  | start, e :: es => ⟨e.id, e.kind, start⟩ :: tiled (start + e.params.length) es

/-- The layout of entities whose identifiers differ. -/
def tiling (entities : List (Entity α)) : Layout := ⟨tiled 0 entities, extent entities⟩

theorem length_params (e : Entity α) : e.params.length = e.kind.paramCount := e.shape.length_params

theorem extent_cons (e : Entity α) (es : List (Entity α)) :
    extent (e :: es) = e.params.length + extent es := by
  simp [extent]

theorem tiled_append (start : Nat) (es fs : List (Entity α)) :
    tiled start (es ++ fs) = tiled start es ++ tiled (start + extent es) fs := by
  induction es generalizing start with
  | nil => rfl
  | cons e es ih =>
      rw [List.cons_append, tiled, tiled, ih, extent_cons, Nat.add_assoc]
      rfl

theorem map_id_tiled (start : Nat) (es : List (Entity α)) :
    (tiled start es).map Place.id = es.map Entity.id := by
  induction es generalizing start with
  | nil => rfl
  | cons e es ih => rw [tiled, List.map_cons, List.map_cons, ih]

/-! ## Places -/

omit [Scalar α] in
theorem contains_iff {layout : Layout} {id : Int} :
    layout.contains id = true ↔ id ∈ layout.places.map Place.id := by
  unfold contains place?
  rw [List.find?_isSome, List.mem_map]
  simp only [beq_iff_eq]

/-- Entities are pushed one behind the other, as long as none has an identifier of another. -/
theorem foldlM_push_eq_ok {layout pushed : Layout} {es : List (Entity α)} :
    es.foldlM push layout = .ok pushed ↔
      (layout.places.map Place.id).Disjoint (es.map Entity.id) ∧ (es.map Entity.id).Nodup ∧
        pushed = ⟨layout.places ++ tiled layout.size es, layout.size + extent es⟩ := by
  induction es generalizing layout with
  | nil =>
      rw [List.foldlM_nil]
      refine ⟨fun same => ⟨List.disjoint_nil_right _, List.nodup_nil, ?_⟩, fun h => ?_⟩
      · cases same
        simp [tiled, extent]
      · rw [h.2.2]
        simp [tiled, extent, pure, Except.pure]
  | cons e es ih =>
      rw [List.foldlM_cons, bind_eq_ok, List.map_cons, List.nodup_cons, List.disjoint_cons_right]
      by_cases taken : layout.contains e.id = true
      · simp [push, taken, contains_iff.1 taken]
      · have absent : e.id ∉ layout.places.map Place.id := fun among => taken (contains_iff.2 among)
        have pushes : push layout e = .ok ⟨layout.places ++ [⟨e.id, e.kind, layout.size⟩],
            layout.size + e.kind.paramCount⟩ := by
          simp [push, taken]
        simp only [pushes, Except.ok.injEq, exists_eq_left']
        rw [ih, List.map_append, List.disjoint_append_left, extent_cons, tiled, length_params]
        simp only [List.map_cons, List.map_nil, List.singleton_disjoint, List.append_assoc,
          List.singleton_append, Nat.add_assoc]
        exact ⟨fun ⟨⟨fresh, other⟩, rest, same⟩ => ⟨⟨absent, fresh⟩, ⟨other, rest⟩, same⟩,
          fun ⟨⟨_, fresh⟩, ⟨other, rest⟩, same⟩ => ⟨⟨fresh, other⟩, rest, same⟩⟩

/-- Entities are laid out when their identifiers differ, and then without gaps. -/
theorem ofEntities_eq_ok {entities : List (Entity α)} {layout : Layout} :
    ofEntities entities = .ok layout ↔
      (entities.map Entity.id).Nodup ∧ layout = tiling entities := by
  rw [ofEntities, foldlM_push_eq_ok]
  simp [empty, tiling]

/-- Entities that are not laid out have an identifier that a place, or an entity before, has. -/
theorem foldlM_push_eq_error {layout : Layout} {es : List (Entity α)} {fault : Fault α}
    (refused : es.foldlM push layout = .error fault) :
    ∃ before e after, es = before ++ e :: after ∧ fault = .duplicateEntity e.id ∧
      e.id ∈ layout.places.map Place.id ++ before.map Entity.id := by
  induction es generalizing layout with
  | nil => cases refused
  | cons e es ih =>
      rw [List.foldlM_cons, bind_eq_error] at refused
      rcases refused with first | ⟨pushed, first, rest⟩
      · unfold push at first
        split at first
        · rename_i taken
          cases first
          exact ⟨[], e, es, rfl, rfl, List.mem_append_left _ (contains_iff.1 taken)⟩
        · cases first
      · obtain ⟨before, f, after, rfl, named, twice⟩ := ih rest
        have grown : pushed.places = layout.places ++ [⟨e.id, e.kind, layout.size⟩] := by
          unfold push at first
          split at first
          · cases first
          · cases first
            rfl
        refine ⟨e :: before, f, after, rfl, named, ?_⟩
        rw [grown, List.map_append, List.append_assoc] at twice
        exact twice

theorem id_not_mem_before {before after : List (Entity α)} {e : Entity α}
    (distinct : ((before ++ e :: after).map Entity.id).Nodup) : e.id ∉ before.map Entity.id := by
  simp only [List.map_append, List.map_cons, List.nodup_middle, List.nodup_cons, List.mem_append,
    not_or] at distinct
  exact distinct.1.1

/-- The place of an entity begins behind the parameters of the entities before it. -/
theorem place?_split {before after : List (Entity α)} {e : Entity α}
    (distinct : ((before ++ e :: after).map Entity.id).Nodup) :
    (tiling (before ++ e :: after)).place? e.id = some ⟨e.id, e.kind, extent before⟩ := by
  have other : ∀ place ∈ tiled 0 before, ¬(place.id == e.id) = true := by
    intro place among same
    refine id_not_mem_before distinct ?_
    rw [← map_id_tiled 0, ← beq_iff_eq.1 same]
    exact List.mem_map_of_mem among
  rw [place?, tiling, tiled_append, List.find?_append, List.find?_eq_none.2 other, Nat.zero_add,
    tiled, Option.none_or, List.find?_cons_of_pos (by simp)]

theorem place_split {before after : List (Entity α)} {e : Entity α}
    (distinct : ((before ++ e :: after).map Entity.id).Nodup) :
    ((tiling (before ++ e :: after)).place e.id : Except (Fault α) Place) =
      .ok ⟨e.id, e.kind, extent before⟩ := by
  rw [place, place?_split distinct]

theorem bounds_of_mem_tiled {start : Nat} {es : List (Entity α)} {place : Place}
    (among : place ∈ tiled start es) :
    start ≤ place.offset ∧ place.stop ≤ start + extent es := by
  induction es generalizing start with
  | nil => cases among
  | cons e es ih =>
      rw [extent_cons]
      rcases List.mem_cons.1 among with rfl | later
      · have size := length_params e
        unfold Place.stop
        dsimp only
        omega
      · have bounds := ih later
        omega

/-- Every position of a layout belongs to an entity, behind the entities before it. -/
theorem exists_split_of_lt_extent {es : List (Entity α)} {i : Nat} (inside : i < extent es) :
    ∃ before e after k, es = before ++ e :: after ∧ k < e.params.length ∧
      i = extent before + k := by
  induction es generalizing i with
  | nil => exact absurd inside (Nat.not_lt_zero i)
  | cons f es ih =>
      by_cases first : i < f.params.length
      · exact ⟨[], f, es, i, rfl, first, (Nat.zero_add i).symm⟩
      · rw [extent_cons] at inside
        obtain ⟨before, e, after, k, rfl, below, place⟩ := ih (i := i - f.params.length) (by omega)
        exact ⟨f :: before, e, after, k, rfl, below, by rw [extent_cons]; omega⟩

/-- Each place ends before the next one begins. -/
theorem pairwise_tiled (start : Nat) (es : List (Entity α)) :
    (tiled start es).Pairwise fun a b => a.stop ≤ b.offset := by
  induction es generalizing start with
  | nil => exact List.Pairwise.nil
  | cons e es ih =>
      refine List.pairwise_cons.2 ⟨fun place later => ?_, ih _⟩
      have behind := (bounds_of_mem_tiled later).1
      rwa [length_params] at behind

omit [Scalar α] in
/-- What is read at a place has the right length, if the vector is long enough. -/
theorem length_read {β : Type} {p : Array β} {place : Place} (inside : place.stop ≤ p.size) :
    (read p place).length = place.kind.paramCount := by
  unfold Place.stop at inside
  rw [read, List.length_take, List.length_drop, Array.length_toList]
  omega

omit [Scalar α] in
theorem paramCount_pos (kind : EntityKind) : 0 < kind.paramCount := by
  cases kind with
  | _ => exact Nat.zero_lt_succ _

/-- No two places share a position. -/
theorem eq_of_overlap {es : List (Entity α)} {a b : Place} {i : Nat}
    (first : a ∈ (tiling es).places) (second : b ∈ (tiling es).places)
    (here : a.offset ≤ i ∧ i < a.stop) (there : b.offset ≤ i ∧ i < b.stop) : a = b := by
  -- To share a position is symmetric, so it is enough to look at places in their order.
  let apart (a b : Place) : Prop :=
    (a.offset ≤ i ∧ i < a.stop) → (b.offset ≤ i ∧ i < b.stop) → a = b
  have : Std.Symm apart := ⟨fun a b same there here => (same here there).symm⟩
  have pairs : (tiling es).places.Pairwise apart := by
    refine (pairwise_tiled 0 es).imp fun {a b} before here there => ?_
    omega
  exact pairs.forall_of_forall (fun a _ _ _ => rfl) first second here there

/-- No two places begin at one position. -/
theorem eq_of_offset_eq {es : List (Entity α)} {a b : Place} (first : a ∈ (tiling es).places)
    (second : b ∈ (tiling es).places) (same : a.offset = b.offset) : a = b :=
  eq_of_overlap first second
    ⟨Nat.le_refl _, Nat.lt_add_of_pos_right (paramCount_pos a.kind)⟩
    ⟨Nat.le_of_eq same.symm, same ▸ Nat.lt_add_of_pos_right (paramCount_pos b.kind)⟩

/-! ## Filling a vector -/

/-- Values are overwritten in the middle of a vector, and the rest of it stays. -/
theorem overwrite_segment {β : Type} (before old new after : List β)
    (same : old.length = new.length) :
    overwrite (before ++ old ++ after).toArray before.length new =
      (before ++ new ++ after).toArray := by
  induction new generalizing before old with
  | nil =>
      rw [List.length_nil, List.length_eq_zero_iff] at same
      rw [same, overwrite]
  | cons x new ih =>
      cases old with
      | nil => cases same
      | cons y old =>
          have rest := ih (before ++ [x]) old (Nat.succ.inj same)
          rw [List.length_append, List.length_singleton] at rest
          have first : (before ++ y :: old ++ after).toArray.setIfInBounds before.length x =
              (before ++ [x] ++ old ++ after).toArray := by simp
          rw [overwrite, first, rest]
          simp

/-- A step that puts the values of each entity where blanks were, at the place of the entity, fills
a vector entity by entity. -/
theorem foldlM_fill {β : Type} {step : Layout → Array β → Entity α → Except (Fault α) (Array β)}
    {values : Entity α → List β} {blank : β}
    (fills : ∀ before e after rest, ((before ++ e :: after).map Entity.id).Nodup →
      step (tiling (before ++ e :: after))
          (before.flatMap values ++ List.replicate e.params.length blank ++ rest).toArray e =
        .ok (before.flatMap values ++ values e ++ rest).toArray)
    (before after : List (Entity α)) (distinct : ((before ++ after).map Entity.id).Nodup) :
    after.foldlM (step (tiling (before ++ after)))
        (before.flatMap values ++ List.replicate (extent after) blank).toArray =
      .ok ((before ++ after).flatMap values).toArray := by
  -- What is filled grows at the end of `before`; the layout, which is that of all entities, stays.
  induction after generalizing before with
  | nil => simp [extent, pure, Except.pure]
  | cons e after ih =>
      have first := fills before e after (List.replicate (extent after) blank) distinct
      have regroup : before ++ e :: after = (before ++ [e]) ++ after := by simp
      rw [extent_cons, List.replicate_add, ← List.append_assoc, List.foldlM_cons, first]
      rw [regroup] at distinct ⊢
      have rest := ih (before ++ [e]) distinct
      rw [List.flatMap_append, List.flatMap_singleton] at rest
      exact rest

/-- Flattening yields the parameters of the entities, one after the other. -/
theorem flatten_tiling {entities : List (Entity α)} (distinct : (entities.map Entity.id).Nodup) :
    (tiling entities).flatten entities = .ok (entities.flatMap Entity.params).toArray := by
  have fills (before : List (Entity α)) (e : Entity α) (after : List (Entity α)) (rest : List α)
      (distinct : ((before ++ e :: after).map Entity.id).Nodup) :
      write (tiling (before ++ e :: after))
          (before.flatMap Entity.params ++ List.replicate e.params.length 0 ++ rest).toArray e =
        .ok (before.flatMap Entity.params ++ e.params ++ rest).toArray := by
    unfold write
    rw [place_split distinct]
    dsimp only
    rw [if_pos (length_params e), extent, overwrite_segment _ _ _ _ List.length_replicate]
  rw [flatten, ← List.toArray_replicate]
  exact foldlM_fill fills [] entities distinct

/-- The mask of one entity: free all along, or nowhere. -/
def maskOf (e : Entity α) : List Bool := List.replicate e.params.length (!e.isFixed)

theorem length_flatMap_maskOf (entities : List (Entity α)) :
    (entities.flatMap maskOf).length = extent entities := by
  simp [extent, maskOf, List.length_flatMap]

/-- A mask is free along the entities that may be moved. -/
theorem freeMask_tiling {entities : List (Entity α)} (distinct : (entities.map Entity.id).Nodup) :
    (tiling entities).freeMask entities = .ok (entities.flatMap maskOf).toArray := by
  have fills (before : List (Entity α)) (e : Entity α) (after : List (Entity α))
      (rest : List Bool) (distinct : ((before ++ e :: after).map Entity.id).Nodup) :
      clearFixed (tiling (before ++ e :: after))
          (before.flatMap maskOf ++ List.replicate e.params.length true ++ rest).toArray e =
        .ok (before.flatMap maskOf ++ maskOf e ++ rest).toArray := by
    unfold clearFixed
    cases fixed : e.isFixed with
    | false => simp [maskOf, fixed]
    | true =>
        rw [place_split distinct, if_pos rfl]
        dsimp only
        rw [← length_flatMap_maskOf, overwrite_segment _ _ _ _ (by simp [length_params])]
        simp [maskOf, fixed, length_params]
  rw [freeMask, ← List.toArray_replicate]
  exact foldlM_fill fills [] entities distinct

/-- The mask is, at each position of an entity, what the mark of the entity says. -/
theorem getElem?_mask_split {before after : List (Entity α)} {e : Entity α} {k : Nat}
    (inside : k < e.params.length) :
    ((before ++ e :: after).flatMap maskOf)[extent before + k]? = some (!e.isFixed) := by
  rw [← length_flatMap_maskOf, List.flatMap_append, List.flatMap_cons, maskOf]
  simp [List.getElem?_append_right, List.getElem?_append_left, inside]

/-- No position of a fixed entity is free. -/
theorem not_mem_freePositions {before after : List (Entity α)} {e : Entity α} {k : Nat}
    (fixed : e.isFixed = true) (inside : k < e.params.length) :
    extent before + k ∉ freePositions ((before ++ e :: after).flatMap maskOf).toArray := by
  intro free
  rw [freePositions, List.mem_filter, Array.getD_eq_getD_getElem?, List.getElem?_toArray,
    getElem?_mask_split inside, fixed] at free
  exact Bool.false_ne_true free.2

/-- The parameters of an entity stand at its place in the flat vector. -/
theorem getD_flatten_split {before after : List (Entity α)} {e : Entity α} {k : Nat}
    (inside : k < e.params.length) :
    ((before ++ e :: after).flatMap Entity.params).toArray.getD (extent before + k) 0 =
      e.params[k] := by
  rw [List.flatMap_append, List.flatMap_cons]
  simp [Array.getD_eq_getD_getElem?, extent, List.getElem?_append_right,
    List.getElem?_append_left inside, List.getElem?_eq_getElem inside]

end PlanarSketch.Layout
