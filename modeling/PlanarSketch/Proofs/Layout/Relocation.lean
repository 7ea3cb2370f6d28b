import PlanarSketch.Block
import PlanarSketch.Proofs.Layout.Tiling
import PlanarSketch.Proofs.Order
import PlanarSketch.Proofs.Relation.Rebinding

/-!
# Entities in another order

The parameter vector has a cell for each parameter of each entity (`Layout.cells`).  The same
entities in another order have the same cells at other positions, and a bijection of positions
says where each cell has gone (`Layout.Relocates`, `Layout.exists_relocates`).  It keeps the
parameters of an entity together and brings the place of an entity to its place
(`Layout.Relocates.place?_eq`), values to values (`Layout.Relocates.getElem?_flatMap`), and free
positions to free positions (`Layout.Relocates.free_perm`).
-/

namespace PlanarSketch.Layout

set_option autoImplicit false

variable {α : Type} [Scalar α]

/-- The cells of the parameter vector: an entity with the index of one of its parameters. -/
def cells (entities : List (Entity α)) : List (Entity α × ℕ) :=
  entities.flatMap fun e => (List.range e.params.length).map fun k => (e, k)

theorem length_cells (entities : List (Entity α)) : (cells entities).length = extent entities := by
  simp [cells, extent, List.length_flatMap]

/-- The cells of an entity stand behind those of the entities before it. -/
theorem getElem?_cells_split {before after : List (Entity α)} {e : Entity α} {k : ℕ}
    (inside : k < e.params.length) :
    (cells (before ++ e :: after))[extent before + k]? = some (e, k) := by
  have behind := (length_cells before).le.trans (Nat.le_add_right _ k)
  rw [cells, List.flatMap_append, ← cells, List.getElem?_append_right behind, length_cells,
    Nat.add_sub_cancel_left, List.flatMap_cons, List.getElem?_append_left (by simpa using inside)]
  simp [inside]

theorem nodup_cells {entities : List (Entity α)} (distinct : (entities.map Entity.id).Nodup) :
    (cells entities).Nodup := by
  refine List.nodup_flatMap.2 ⟨fun e _ => ?_, ?_⟩
  · exact List.nodup_range.map fun k l same => (Prod.mk.inj same).2
  · refine (List.pairwise_map.1 distinct).imp fun {e f} other cell among also => ?_
    obtain ⟨k, -, rfl⟩ := List.mem_map.1 among
    obtain ⟨l, -, same⟩ := List.mem_map.1 also
    exact other (congrArg Entity.id (Prod.mk.inj same).1.symm)

/-- Values that each entity lists, one for each parameter, are listed cell by cell. -/
theorem flatMap_eq_map_cells {β : Type} {values : Entity α → List β} (blank : β)
    (sizes : ∀ e, (values e).length = e.params.length) (entities : List (Entity α)) :
    entities.flatMap values = (cells entities).map fun c => (values c.1).getD c.2 blank := by
  rw [cells, List.map_flatMap]
  refine List.flatMap_congr fun e _ => ?_
  rw [List.map_map]
  refine List.ext_getElem (by simp [sizes]) fun k inside _ => ?_
  simp [inside]

theorem mem_freePositions {mask : List Bool} {i : ℕ} :
    i ∈ freePositions mask.toArray ↔ mask[i]? = some true := by
  unfold freePositions
  rw [List.mem_filter, List.mem_range, List.size_toArray, Array.getD_eq_getD_getElem?,
    List.getElem?_toArray]
  cases found : mask[i]? with
  | none => simp
  | some b => simp [(List.getElem?_eq_some_iff.1 found).1]

/-- A bijection of positions that brings every cell to where it stands in another order. -/
def Relocates (ρ : Equiv.Perm ℕ) (entities entities' : List (Entity α)) : Prop :=
  ∀ i, (cells entities')[ρ i]? = (cells entities)[i]?

variable {ρ : Equiv.Perm ℕ} {entities entities' : List (Entity α)}

/-- Entities in another order have their cells at other positions. -/
theorem exists_relocates (same : entities.Perm entities') :
    ∃ ρ : Equiv.Perm ℕ, Relocates ρ entities entities' :=
  exists_perm_getElem? (same.flatMap_right _)

namespace Relocates

variable (relocates : Relocates ρ entities entities')

include relocates

theorem lt_extent_iff (i : ℕ) : ρ i < extent entities' ↔ i < extent entities := by
  rw [← length_cells, ← length_cells, ← not_iff_not, not_lt, not_lt, ← List.getElem?_eq_none_iff,
    ← List.getElem?_eq_none_iff, relocates]

/-- Values of entities are found where their cells have gone. -/
theorem getElem?_flatMap {β : Type} {values : Entity α → List β} (blank : β)
    (sizes : ∀ e, (values e).length = e.params.length) (i : ℕ) :
    (entities'.flatMap values)[ρ i]? = (entities.flatMap values)[i]? := by
  rw [flatMap_eq_map_cells blank sizes, flatMap_eq_map_cells blank sizes, List.getElem?_map,
    List.getElem?_map, relocates]

variable (distinct : (entities'.map Entity.id).Nodup)

include distinct

/-- The cells of an entity go to the cells of that entity. -/
theorem apply_split {before after before' after' : List (Entity α)} {e : Entity α} {k : ℕ}
    (split : entities = before ++ e :: after) (split' : entities' = before' ++ e :: after')
    (inside : k < e.params.length) : ρ (extent before + k) = extent before' + k := by
  have here := relocates (extent before + k)
  have there : (cells entities')[extent before' + k]? = some (e, k) := by
    rw [split', getElem?_cells_split inside]
  rw [split, getElem?_cells_split inside, ← there] at here
  have bound : extent before' + k < (cells entities').length :=
    (List.getElem?_eq_some_iff.1 there).1
  exact ((List.getElem?_inj bound (nodup_cells distinct)).1 here.symm).symm

variable (same : entities.Perm entities')

include same

/-- **The place of an entity goes to its place**, with its parameters together. -/
theorem place?_eq (id : Int) :
    (tiling entities').place? id = ((tiling entities).place? id).map (Place.rename ρ) ∧
      ∀ place, (tiling entities).place? id = some place → place.Follows ρ := by
  have distinct₀ : (entities.map Entity.id).Nodup := (same.map _).nodup_iff.2 distinct
  -- An entity that is there stands behind those before it, in either order.
  by_cases present : id ∈ entities.map Entity.id
  · obtain ⟨e, among, rfl⟩ := List.mem_map.1 present
    obtain ⟨before, after, split⟩ := List.append_of_mem among
    obtain ⟨before', after', split'⟩ := List.append_of_mem (same.mem_iff.1 among)
    have placed : (tiling entities).place? e.id = some ⟨e.id, e.kind, extent before⟩ := by
      rw [split] at distinct₀ ⊢
      exact place?_split distinct₀
    have placed' : (tiling entities').place? e.id = some ⟨e.id, e.kind, extent before'⟩ := by
      have distinct' := distinct
      rw [split'] at distinct' ⊢
      exact place?_split distinct'
    have moved (k : ℕ) (inside : k < e.kind.paramCount) :
        ρ (extent before + k) = extent before' + k :=
      relocates.apply_split distinct split split' (length_params e ▸ inside)
    have first : ρ (extent before) = extent before' := moved 0 (paramCount_pos e.kind)
    refine ⟨?_, fun place found => ?_⟩
    · rw [placed, placed', Option.map_some, Place.rename, first]
    · rw [placed, Option.some.injEq] at found
      subst found
      intro k inside
      change ρ (extent before + k) = ρ (extent before) + k
      rw [moved k inside, first]
  · have absent {es : List (Entity α)} (missing : id ∉ es.map Entity.id) :
        (tiling es).place? id = none := by
      rw [← map_id_tiled 0] at missing
      exact Option.not_isSome_iff_eq_none.1 fun found => missing (contains_iff.1 found)
    have missing : id ∉ entities'.map Entity.id := fun among =>
      present ((same.map _).mem_iff.2 among)
    rw [absent present, absent missing]
    exact ⟨rfl, fun place found => by cases found⟩

omit distinct same in
theorem mem_coveredBy_iff {places : List Place} (follow : ∀ place ∈ places, place.Follows ρ)
    (i : ℕ) :
    ρ i ∈ Block.coveredBy (tiling entities') (places.map (Place.rename ρ)) ↔
      i ∈ Block.coveredBy (tiling entities) places := by
  have covered {place : Place} (follows : place.Follows ρ) :
      ρ place.offset ≤ ρ i ∧ ρ i < (place.rename ρ).stop ↔
        place.offset ≤ i ∧ i < place.stop := by
    unfold Place.stop
    constructor
    · rintro ⟨start, stop⟩
      obtain ⟨k, behind⟩ := Nat.exists_eq_add_of_le start
      -- The position comes from the one that stands as far behind the old offset.
      have inside : k < place.kind.paramCount := by
        change ρ i < ρ place.offset + place.kind.paramCount at stop
        omega
      have here : i = place.offset + k := ρ.injective (behind.trans (follows k inside).symm)
      omega
    · rintro ⟨start, stop⟩
      obtain ⟨k, rfl⟩ := Nat.exists_eq_add_of_le start
      have inside : k < place.kind.paramCount := by omega
      rw [follows k inside]
      change _ ∧ _ < ρ place.offset + place.kind.paramCount
      omega
  unfold Block.coveredBy
  simp only [List.mem_filter, List.mem_range, List.any_eq_true, List.mem_map, Bool.and_eq_true,
    decide_eq_true_eq, exists_exists_and_eq_and]
  refine and_congr (relocates.lt_extent_iff i) (exists_congr fun place => and_congr_right ?_)
  exact fun among => covered (follow place among)

omit distinct same in
/-- **Free positions go to free positions**; only the order in which they are listed changes. -/
theorem free_perm :
    (freePositions (entities'.flatMap maskOf).toArray).Perm
      ((freePositions (entities.flatMap maskOf).toArray).map ρ) := by
  have sizes (e : Entity α) : (maskOf e).length = e.params.length := List.length_replicate
  have nodup (es : List (Entity α)) : (freePositions (es.flatMap maskOf).toArray).Nodup :=
    List.nodup_range.filter _
  refine (List.perm_ext_iff_of_nodup (nodup _) ((nodup _).map ρ.injective)).2 fun j => ?_
  obtain ⟨i, rfl⟩ := ρ.surjective j
  rw [mem_freePositions, relocates.getElem?_flatMap false sizes, ← mem_freePositions,
    List.mem_map_of_injective ρ.injective]

end Relocates

end PlanarSketch.Layout
