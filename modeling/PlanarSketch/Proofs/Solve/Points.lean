import PlanarSketch.Proofs.Solve.Acceptance
import PlanarSketch.Proofs.Solve.Flattening

/-!
# The two ways of reading a point

A point is read off the record of its entity, by a name, when entities are drawn, dragged or
looked at for relations, and off the long vector, by a position, when relations are evaluated.
Both come to the same (`points_agree`).  Wherever the parameters of a shape stand in a vector
(`Valuation.Holds`), a site that begins there has the coordinates that the shape itself gives
for the same anchor (`Shape.pointAt?_eq_xy`); flattening puts the parameters of every entity
where its layout says.

The coordinates of a site depend on four positions or on two (`PointSite.indices`), and all of
them belong to its entity (`PointSite.indices_inside`).  A name is refused for the one way of
reading just when it is refused for the other, so that a constraint is bound when, among other
things, each entity that it uses as a point answers to the name it is given
(`Constraint.acceptable_iff_served`).
-/

namespace PlanarSketch

set_option autoImplicit false

open Outcome

/-! ## What a site reads -/

namespace PointSite

/-- The positions that the coordinates of a point are computed from. -/
def indices (s : PointSite) : List Nat :=
  match s.angleIndex? with
  | some a => [s.base, s.base + 1, s.base + 2, a]
  | none => [s.coordinateIndex, s.coordinateIndex + 1]

/-- **A point is computed from parameters of its entity.** -/
theorem indices_inside (s : PointSite) :
    ∀ i ∈ s.indices, s.base ≤ i ∧ i < s.base + s.kind.paramCount := by
  obtain ⟨entity, base, kind, anchor⟩ := s
  cases kind with
  | point | circle | line | arc =>
      cases anchor with
      | own | center | start | stop =>
          simp [indices, angleIndex?, coordinateIndex, EntityKind.paramCount,
            EntityKind.paramNames, Nat.le_add_right_of_le]

variable {α : Type} [Scalar α]

/-- The coordinates of a point depend on nothing else. -/
theorem xy_eq_of_indices {s : PointSite} {p q : Valuation α} (same : ∀ i ∈ s.indices, p i = q i) :
    s.xy p = s.xy q := by
  unfold indices at same
  unfold xy
  cases angle : s.angleIndex? with
  | none =>
      rw [angle] at same
      simp only [same s.coordinateIndex (by simp), same (s.coordinateIndex + 1) (by simp)]
  | some a =>
      rw [angle] at same
      simp only [same s.base (by simp), same (s.base + 1) (by simp), same (s.base + 2) (by simp),
        same a (by simp)]

end PointSite

variable {α : Type} [Scalar α]

/-! ## Where parameters stand -/

/-- Some numbers stand in a vector, one behind the other from a position on. -/
def Valuation.Holds (p : Valuation α) (base : Nat) (xs : List α) : Prop :=
  ∀ k (inside : k < xs.length), p (base + k) = xs[k]

/-- **A site has the coordinates that its shape has at its anchor.** -/
theorem Shape.pointAt?_eq_xy {shape : Shape α} {anchor : Anchor} {p : Valuation α} {base : Nat}
    (named : anchor ∈ shape.kind.anchors) (held : p.Holds base shape.params) (id : Int) :
    shape.pointAt? anchor = some (PointSite.xy ⟨id, base, shape.kind, anchor⟩ p) := by
  cases shape with
  | point x y =>
      obtain rfl : p base = x := held 0 (by simp [params])
      obtain rfl : p (base + 1) = y := held 1 (by simp [params])
      obtain rfl := List.mem_singleton.1 named
      rfl
  | line x₁ y₁ x₂ y₂ =>
      obtain rfl : p base = x₁ := held 0 (by simp [params])
      obtain rfl : p (base + 1) = y₁ := held 1 (by simp [params])
      obtain rfl : p (base + 2) = x₂ := held 2 (by simp [params])
      obtain rfl : p (base + 3) = y₂ := held 3 (by simp [params])
      obtain rfl | rfl := List.mem_pair.1 named
      · rfl
      · rfl
  | circle cx cy r =>
      obtain rfl : p base = cx := held 0 (by simp [params])
      obtain rfl : p (base + 1) = cy := held 1 (by simp [params])
      obtain rfl | rfl := List.mem_pair.1 named
      · rfl
      · rfl
  | arc cx cy r start stop =>
      obtain rfl : p base = cx := held 0 (by simp [params])
      obtain rfl : p (base + 1) = cy := held 1 (by simp [params])
      obtain rfl : p (base + 2) = r := held 2 (by simp [params])
      obtain rfl : p (base + 3) = start := held 3 (by simp [params])
      obtain rfl : p (base + 4) = stop := held 4 (by simp [params])
      cases anchor with
      | own | center | start | stop => rfl

namespace Entity

variable {e : Entity α} {selector : String}

theorem anchor?_of_unknown (unknown : selector ∉ e.kind.pointNames) :
    e.kind.anchor? selector = none := by
  rwa [EntityKind.mem_pointNames_iff, ← Option.isSome_iff_exists, Option.not_isSome_iff_eq_none]
    at unknown

/-- A name that an entity has no point of is refused. -/
theorem pointAt_of_unknown (unknown : selector ∉ e.kind.pointNames) :
    e.pointAt selector = .error (.noPoint e.kind (.text selector)) := by
  rw [pointAt, anchor?_of_unknown unknown, Option.bind_none]

/-- A point is read off a vector and off the record of its entity alike: a site at the place of the
entity has the coordinates that the entity has by a name, its coordinates are the same together
with their gradients, and they depend on parameters of the entity only. -/
structure ReadAt (e : Entity α) (place : Place) (p : Valuation α) (selector : String)
    (s : PointSite) : Prop where
  base : s.base = place.offset
  kind : s.kind = e.kind
  coordinates : e.pointAt selector = .ok (s.xy p)
  graded (q : Valuation α) : (s.xyGradients q).1 = s.xy q
  inside : ∀ i ∈ s.indices, place.offset ≤ i ∧ i < place.stop
  depends (q r : Valuation α) : (∀ i ∈ s.indices, q i = r i) → s.xy q = s.xy r

/-- An entity answers to a name in a role: as a point if it has that point. -/
def Answers (e : Entity α) (selector : String) : SlotRole → Prop
  | .point => ∃ xy, e.pointAt selector = .ok xy
  | role => e.kind.Fills selector role

theorem exists_readAt {p : Valuation α} (place : Place) (kind : place.kind = e.kind)
    (held : p.Holds place.offset e.params) (known : selector ∈ e.kind.pointNames) :
    ∃ s, (Slot.mk place selector).point? = some s ∧ e.ReadAt place p selector s := by
  obtain ⟨anchor, found⟩ := EntityKind.mem_pointNames_iff.1 known
  have named := (EntityKind.anchor?_eq_some.1 found).1
  have same := Shape.pointAt?_eq_xy named held place.id
  refine ⟨⟨place.id, place.offset, e.kind, anchor⟩, ?_, rfl, rfl, ?_, fun q => ?_, ?_,
    fun q r => PointSite.xy_eq_of_indices⟩
  · rw [Slot.point?, Slot.kind, kind, found, Option.map_some]
  · rw [pointAt, found, Option.bind_some, same]
    rfl
  · rw [PointSite.xyGradients_eq]
  · rw [Place.stop, kind]
    exact PointSite.indices_inside _

/-- **An entity answers to a name in a role just when it fills the role.** -/
theorem answers_iff {role : SlotRole} :
    e.Answers selector role ↔ e.kind.Fills selector role := by
  cases role with
  | line | curve => rfl
  | point =>
      constructor
      · rintro ⟨xy, answered⟩
        by_contra unknown
        rw [pointAt_of_unknown unknown] at answered
        cases answered
      · intro known
        -- The record itself is a vector that holds the parameters.
        have held : Valuation.Holds (e.params.getD · 0) 0 e.params := fun k inside => by
          simp [inside]
        obtain ⟨s, -, read⟩ := exists_readAt ⟨e.id, e.kind, 0⟩ rfl held known
        exact ⟨_, read.coordinates⟩

end Entity

/-- What a constraint asks of entities, with points asked for by their names. -/
structure Constraint.Served (entities : List (Entity α)) (c : Constraint α) : Prop where
  checked : c.check = .ok ()
  present : ∀ id ∈ c.entityIds, id ∈ entities.map Entity.id
  usage : ∃ u ∈ c.kind.usages, List.Forall₂ (fun m role => m.entity.Answers m.selector role ∧
    (c.kind.Relies m.entity.kind m.selector role →
      m.entity.degeneracy? Tolerance.geometry = none)) (c.mentions entities) u.roles

/-- The points of entities are the same on the flat vector as on their records.  Each entity has its
place in the vector, where a constraint finds a site for each name of a point; other names are
refused, both by the entity and in a constraint, and nothing else about names can keep a constraint
from being bound. -/
structure Layout.ReadsPoints (layout : Layout) (start : Array α) (entities : List (Entity α)) :
    Prop where
  read : ∀ e ∈ entities, ∃ place, layout.place? e.id = some place ∧ place.stop ≤ start.size ∧
    ∀ selector ∈ e.kind.pointNames, ∀ c : Constraint α, ∃ s,
      c.pointIn ⟨place, selector⟩ = .ok s ∧ e.ReadAt place (.ofArray start) selector s
  refused : ∀ e ∈ entities, ∀ selector ∉ e.kind.pointNames,
    e.pointAt selector = .error (.noPoint e.kind (.text selector)) ∧
      ∀ place, layout.place? e.id = some place → ∀ c : Constraint α,
        c.pointIn ⟨place, selector⟩ =
          .error (.slot c.kind c.identifier e.id e.kind selector .point)
  bound (c : Constraint α) :
    (∃ b, Block.compile entities layout (.ofArray start) c = .ok b) ↔ c.Served entities

section Agreement

variable {entities : List (Entity α)}

theorem Constraint.acceptable_iff_served {c : Constraint α} :
    c.Acceptable entities ↔ c.Served entities := by
  have suits (m : Mention α) (role : SlotRole) : m.Suits c.kind role ↔
      m.entity.Answers m.selector role ∧ (c.kind.Relies m.entity.kind m.selector role →
        m.entity.degeneracy? Tolerance.geometry = none) := by
    rw [Entity.answers_iff, Mention.Suits]
  constructor
  · rintro ⟨arity, selectors, value, present, u, listed, used⟩
    exact ⟨check_eq_ok.2 ⟨arity, selectors, value⟩, present, u, listed,
      used.imp fun m role => (suits m role).1⟩
  · rintro ⟨checked, present, u, listed, used⟩
    obtain ⟨arity, selectors, value⟩ := check_eq_ok.1 checked
    exact ⟨arity, selectors, value, present, u, listed, used.imp fun m role => (suits m role).2⟩

/-- The parameters of an entity stand at its place in the flat vector. -/
theorem Layout.holds_flat {before after : List (Entity α)} {e : Entity α} :
    (Valuation.ofArray (flat (before ++ e :: after))).Holds (extent before) e.params :=
  fun _ inside => getD_flatten_split inside

theorem Layout.readsPoints_tiling (distinct : (entities.map Entity.id).Nodup) :
    (tiling entities).ReadsPoints (flat entities) entities where
  read e present := by
    obtain ⟨before, after, rfl⟩ := List.append_of_mem present
    have located := place?_split distinct
    refine ⟨_, located, ?_, fun selector known c => ?_⟩
    · have listed : _ ∈ tiled 0 (before ++ e :: after) := List.mem_of_find?_eq_some located
      exact (bounds_of_mem_tiled listed).2.trans_eq (Nat.zero_add _)
    · obtain ⟨s, found, read⟩ := Entity.exists_readAt ⟨e.id, e.kind, extent before⟩ rfl holds_flat
        known
      exact ⟨s, Constraint.pointIn_eq_ok.2 found, read⟩
  refused e present selector unknown := by
    refine ⟨Entity.pointAt_of_unknown unknown, fun place located c => ?_⟩
    obtain ⟨before, after, rfl⟩ := List.append_of_mem present
    rw [place?_split distinct] at located
    cases located
    rw [Constraint.pointIn, Slot.point?, Slot.kind, Entity.anchor?_of_unknown unknown]
    rfl
  bound c := (Block.exists_compile_iff distinct _).trans Constraint.acceptable_iff_served

/-- **The two ways of reading a point agree.**  Entities with different identifiers have a layout
and a flat vector.  For every entity and every name of a point on it, the site at the place of the
entity has the coordinates on the flat vector that the entity has by that name; on any vector, it
has the same coordinates with their gradients as without them, and these depend only on positions
at the place of the entity.  Names that an entity has no point of are refused in a constraint as by
the entity, and a constraint is bound just when all the entities that it uses as points answer to
their names, next to what it asks of lines, of curves and of its own form. -/
theorem points_agree (distinct : (entities.map Entity.id).Nodup) :
    ∃ layout start, Layout.ofEntities entities = .ok layout ∧
      layout.flatten entities = .ok start ∧ layout.ReadsPoints start entities :=
  ⟨_, _, Layout.ofEntities_eq_ok.2 ⟨distinct, rfl⟩, Layout.flatten_tiling distinct,
    Layout.readsPoints_tiling distinct⟩

end Agreement

/-- The far end of an arc that stands behind a line, read in both ways. -/
theorem points_agree_arc :
    let entities := [Exact.entity 4 (.line 0 0 1 0), Exact.entity 2 (.arc 3 0 1 0 2)]
    ∃ layout start place s, Layout.ofEntities entities = .ok layout ∧
      layout.flatten entities = .ok start ∧ layout.place? 2 = some place ∧
      (Slot.mk place "end").point? = some s ∧
      (Exact.entity 2 (.arc 3 0 1 0 2)).ReadAt place (.ofArray start) "end" s := by
  intro entities
  have distinct : (entities.map Entity.id).Nodup := by
    change ([4, 2] : List Int).Nodup
    decide
  obtain ⟨layout, start, laid, written, points⟩ := points_agree distinct
  have present : Exact.entity 2 (.arc 3 0 1 0 2) ∈ entities := by simp [entities]
  obtain ⟨place, located, -, read⟩ := points.read _ present
  have named : "end" ∈ EntityKind.arc.pointNames := by decide
  obtain ⟨s, found, same⟩ := read "end" named ⟨.whole 0, .coincident, [], none, [], .of true⟩
  exact ⟨layout, start, place, s, laid, written, located, Constraint.pointIn_eq_ok.1 found, same⟩

end PlanarSketch
