import Mathlib.Data.Real.Basic
import PlanarSketch.Proofs.Conflict.Contradictions
import PlanarSketch.Proofs.Inference.Repetition
import PlanarSketch.Proofs.Solve.Figures

/-!
# What is inferred is nearly met

The inference looks at entities: at the direction of length one in which a line runs, and at the
points that an entity shares with others.  The residual of a constraint looks at parameters.  Both
see the same figures (`Entity.exists_site`, `Constraint.figures_pair`), so what is measured of a
suggestion when it is made is what its residual is once it is bound.

A suggestion is near to what it suggests (`Inference.suggestions_near`), up to a limit on the sine
or cosine of an angle, or on a distance.  The residual of an inferred constraint is the number that
was compared with the limit; for an alignment it is that number times the length of the line
(`Inference.nearlyMet_of_infer`).
-/

namespace PlanarSketch

set_option autoImplicit false

open Complex Inference
open scoped InnerProductSpace

/-! ## Lines and their directions -/

noncomputable section

namespace Entity

/-- An entity as a figure, with the name of the point that is meant on it. -/
def figure (e : Entity ℝ) (selector : String) : Figure := ⟨e.shape, selector⟩

/-- Whether an entity is a line that is not degenerate, and runs in a direction of length one. -/
def Runs (e : Entity ℝ) (u : ℂ) : Prop :=
  ∃ edge, (e.figure "").edge? = some edge ∧ Tolerance.geometry < edge.length ∧
    u = edge.direction / edge.length

end Entity

end

theorem cross_comm (a b : ℂ) : cross a b = -cross b a := by
  simp only [cross]
  ring

theorem cross_div (a b : ℂ) (r s : ℝ) : cross (a / r) (b / s) = cross a b / (r * s) := by
  simp only [cross, div_ofReal_re, div_ofReal_im]
  ring

theorem inner_div (a b : ℂ) (r s : ℝ) : ⟪a / r, b / s⟫_ℝ = ⟪a, b⟫_ℝ / (r * s) := by
  simp only [inner_eq, div_ofReal_re, div_ofReal_im]
  ring

/-- The length of an edge is that of the difference of its ends. -/
theorem Exact.hypot_eq_length (x₁ y₁ x₂ y₂ : ℝ) :
    Scalar.hypot (x₂ - x₁) (y₂ - y₁) = Edge.length ⟨⟨x₁, y₁⟩, ⟨x₂, y₂⟩⟩ := by
  rw [Edge.length_eq_norm]
  exact Exact.hypot_eq_norm _ _

theorem Entity.length_of_edge {e : Entity ℝ} {edge : Edge}
    (drawn : (e.figure "").edge? = some edge) : e.length = .ok edge.length := by
  unfold Entity.figure Figure.edge? at drawn
  unfold Entity.length
  cases shape : e.shape with
  | line x₁ y₁ x₂ y₂ =>
      rw [shape] at drawn
      cases drawn
      exact congrArg Except.ok (Exact.hypot_eq_length x₁ y₁ x₂ y₂)
  | _ =>
      rw [shape] at drawn
      cases drawn

/-- Rays are seen of the lines that run in some direction. -/
theorem ray?_eq_some_iff {e : Entity ℝ} {r : Ray ℝ} :
    ray? e = some r ↔ r.id = e.id ∧ e.Runs ⟨r.ux, r.uy⟩ := by
  unfold Entity.Runs Entity.figure Figure.edge? ray?
  cases e.shape with
  | line x₁ y₁ x₂ y₂ =>
      simp only [Exact.hypot_eq_length, if_true, Option.some.injEq, exists_eq_left']
      split
      · rename_i short
        exact iff_of_false nofun fun both => both.2.1.not_ge short
      · rename_i long
        rw [Option.some_inj, Complex.ext_iff, div_ofReal_re, div_ofReal_im]
        constructor
        · rintro rfl
          exact ⟨rfl, not_le.1 long, rfl, rfl⟩
        · obtain ⟨id, ux, uy⟩ := r
          rintro ⟨rfl, -, rfl, rfl⟩
          rfl
  | _ => simp

/-- What runs in some direction is a line. -/
theorem Entity.Runs.kind {e : Entity ℝ} {u : ℂ} (runs : e.Runs u) : e.kind = .line :=
  (line_of_ray (ray?_eq_some_iff (r := ⟨e.id, u.re, u.im⟩).2 ⟨rfl, runs⟩)).1

/-! ## Sites at the current geometry -/

section Sites

variable {entities : List (Entity ℝ)} (distinct : (entities.map Entity.id).Nodup)
include distinct

/-- The slot of an entity holds the figure that the entity is. -/
theorem exists_slot {e : Entity ℝ} (present : e ∈ entities) (selector : String) :
    ∃ s : Slot, (Layout.tiling entities).place? e.id = some s.place ∧ s.selector = selector ∧
      s.figure (.ofArray (flat entities)) = e.figure selector := by
  obtain ⟨place, placed, -, -⟩ := Block.place_of_entity distinct present
  refine ⟨⟨place, selector⟩, placed, rfl, ?_⟩
  rw [Slot.figure, Entity.figure, Place.shape_flat distinct present placed]

/-- An entity that is drawn along an edge is placed as a line along that edge. -/
theorem Entity.exists_site {e : Entity ℝ} {edge : Edge} (present : e ∈ entities)
    (drawn : (e.figure "").edge? = some edge) :
    ∃ l, (Layout.tiling entities).line? e.id = some l ∧
      l.edge (.ofArray (flat entities)) = edge := by
  obtain ⟨s, placed, whole, figure⟩ := exists_slot distinct present ""
  rw [← figure, Slot.edge?_figure, Option.map_eq_some_iff] at drawn
  obtain ⟨l, line, same⟩ := drawn
  refine ⟨l, ?_, same⟩
  rw [Layout.line?, placed, Option.bind_some, ← whole]
  exact line

/-- A line that runs in some direction is placed as a line that runs in that direction. -/
theorem Entity.Runs.exists_site {e : Entity ℝ} {u : ℂ} (runs : e.Runs u) (present : e ∈ entities) :
    ∃ l, (Layout.tiling entities).line? e.id = some l ∧
      Tolerance.geometry < l.length (.ofArray (flat entities)) ∧
      u = (l.edge (.ofArray (flat entities))).direction /
        (l.edge (.ofArray (flat entities))).length := by
  obtain ⟨edge, drawn, long, way⟩ := runs
  obtain ⟨l, line, rfl⟩ := Entity.exists_site distinct present drawn
  exact ⟨l, line, by rwa [LineSite.length_eq_edge], way⟩

/-- A constraint on two entities is about the figures that they are. -/
theorem Constraint.figures_pair {c : Constraint ℝ} {e f : Entity ℝ} (first : e ∈ entities)
    (second : f ∈ entities) (ids : c.entityIds = [e.id, f.id]) :
    c.figures (Layout.tiling entities) (.ofArray (flat entities)) =
      [e.figure (c.selector 0), f.figure (c.selector 1)] := by
  obtain ⟨s, placed, named, figure⟩ := exists_slot distinct first (c.selector 0)
  obtain ⟨t, placed', named', figure'⟩ := exists_slot distinct second (c.selector 1)
  rw [Constraint.figures, ids, ← figure, ← figure']
  simp [placed, placed', Slot.figure, named, named']

end Sites

/-! ## What the suggested kinds are bound to -/

namespace Constraint

section Bound

variable {α : Type} [Scalar α] {c : Constraint α} {p : Valuation α} {slots : List Slot}
  {r : Relation α}

theorem Binds.eq_level (bound : c.Binds p slots r) (kind : c.kind = .horizontal) :
    ∃ a b, Aligns slots a b ∧ r = .level a b := by
  cases bound with
  | level _ pair => exact ⟨_, _, pair, rfl⟩
  | _ other => cases other.symm.trans kind

theorem Binds.eq_plumb (bound : c.Binds p slots r) (kind : c.kind = .vertical) :
    ∃ a b, Aligns slots a b ∧ r = .plumb a b := by
  cases bound with
  | plumb _ pair => exact ⟨_, _, pair, rfl⟩
  | _ other => cases other.symm.trans kind

theorem Binds.eq_coincident (bound : c.Binds p slots r) (kind : c.kind = .coincident) :
    ∃ s t a b, slots = [s, t] ∧ s.point? = some a ∧ t.point? = some b ∧ r = .coincident a b := by
  cases bound with
  | coincident _ first second => exact ⟨_, _, _, _, rfl, first, second, rfl⟩
  | _ other => cases other.symm.trans kind

end Bound

end Constraint

/-- The residual of the alignment of a line is how far its ends are apart along one axis. -/
theorem Block.residual_of_alignment {entities : List (Entity ℝ)} {layout : Layout}
    {start : Valuation ℝ} {c : Constraint ℝ} {b : Block ℝ}
    (compiled : compile entities layout start c = .ok b) {i : Int} {l : LineSite}
    (ids : c.entityIds = [i]) (whole : c.selector 0 = "") (line : layout.line? i = some l)
    (p : Valuation ℝ) :
    (c.kind = .horizontal → b.residual p = [some (l.edge p).direction.im]) ∧
      (c.kind = .vertical → b.residual p = [some (l.edge p).direction.re]) := by
  obtain ⟨places, located, bound, -, -⟩ := compile_binds compiled
  rw [ids] at located
  obtain ⟨place, rest, placed, none, rfl⟩ := List.forall₂_cons_left_iff.1 located
  cases none
  have slots : slotsOf c [place] = [⟨place, ""⟩] := by
    rw [← whole]
    rfl
  rw [slots] at bound
  rw [Layout.line?, placed, Option.bind_some] at line
  have ends {x y : PointSite} (pair : Constraint.Aligns [⟨place, ""⟩] x y) :
      l.edge p = ⟨x.location p, y.location p⟩ := by
    have read := pair.ends?_figures p
    rw [List.map_singleton, Figure.ends?, Slot.edge?_figure, line] at read
    exact Option.some.inj read
  constructor
  · intro kind
    obtain ⟨x, y, pair, level⟩ := bound.eq_level kind
    rw [residual, level, ends pair]
    rfl
  · intro kind
    obtain ⟨x, y, pair, plumb⟩ := bound.eq_plumb kind
    rw [residual, plumb, ends pair]
    rfl

/-- A relation between the directions of two lines is bound to these lines. -/
theorem Block.relation_of_directions {α : Type} [Scalar α] {entities : List (Entity α)}
    {layout : Layout} {start : Valuation α} {c : Constraint α} {b : Block α}
    (compiled : compile entities layout start c = .ok b) {i j : Int} {l m : LineSite}
    (ids : c.entityIds = [i, j]) (here : layout.line? i = some l)
    (there : layout.line? j = some m) :
    (c.kind = .parallel → b.relation = .parallel l m) ∧
      (c.kind = .perpendicular → b.relation = .perpendicular l m) := by
  have lines (pairs : c.PairsLines) : b.relation.lines = [l, m] := by
    obtain ⟨i', j', l', m', ids', -, -, here', there', lines⟩ := lines_of_pairsLines compiled pairs
    cases ids.symm.trans ids'
    cases here.symm.trans here'
    cases there.symm.trans there'
    exact lines
  obtain ⟨places, -, bound, -, -⟩ := compile_binds compiled
  constructor
  · intro kind
    obtain ⟨l', m', parallel⟩ := bound.eq_parallel kind
    have same := lines (.inl kind)
    rw [parallel] at same ⊢
    cases same
    rfl
  · intro kind
    obtain ⟨l', m', perpendicular⟩ := bound.eq_perpendicular kind
    have same := lines (.inr (.inl kind))
    rw [perpendicular] at same ⊢
    cases same
    rfl

/-! ## Points that can coincide -/

namespace EntityKind

/-- The anchors of an entity of a kind that can coincide with others. -/
def snapAnchors : EntityKind → List Anchor
  | point => [.own]
  | line | arc => [.start, .stop]
  | circle => []

/-- The names of the points of an entity of a kind that can coincide with others. -/
def snapNames (kind : EntityKind) : List String := kind.snapAnchors.map Anchor.name

theorem snapAnchors_subset (kind : EntityKind) : kind.snapAnchors ⊆ kind.anchors := by
  cases kind with
  | _ => decide

end EntityKind

/-- A shape has the points that can coincide with others. -/
theorem Shape.exists_pointAt? {α : Type} [Scalar α] (s : Shape α) {a : Anchor}
    (anchor : a ∈ s.kind.snapAnchors) : ∃ xy, s.pointAt? a = some xy := by
  cases s with
  | circle => cases anchor
  | _ =>
      simp only [kind, EntityKind.snapAnchors, List.mem_cons, List.not_mem_nil, or_false] at anchor
      rcases anchor with rfl | rfl <;> exact ⟨_, rfl⟩

section Snapping

variable {α : Type} [Scalar α] {e : Entity α}

theorem pointAt_name {a : Anchor} (known : a ∈ e.kind.anchors) {xy : α × α} :
    e.pointAt a.name = .ok xy ↔ e.shape.pointAt? a = some xy := by
  rw [Entity.pointAt, EntityKind.anchor?_eq_some.2 ⟨known, rfl⟩, Option.bind_some]
  split
  · rename_i found
    rw [found, Except.ok.injEq, Option.some_inj]
  · rename_i none
    rw [none]
    exact iff_of_false nofun nofun

/-- The points that can coincide are those with certain names. -/
theorem mem_snapPoints_iff {p : SnapPoint α} :
    p ∈ snapPoints e ↔
      p.id = e.id ∧ p.selector ∈ e.kind.snapNames ∧ e.pointAt p.selector = .ok (p.x, p.y) := by
  have points : snapPoints e = e.kind.snapAnchors.filterMap fun a =>
      (e.shape.pointAt? a).map fun xy => ⟨e.id, a.name, xy.1, xy.2⟩ := by
    unfold snapPoints
    cases e.kind with
    | _ => rfl
  rw [points, EntityKind.snapNames, List.mem_filterMap, List.mem_map]
  constructor
  · rintro ⟨a, anchor, found⟩
    obtain ⟨xy, located, rfl⟩ := Option.map_eq_some_iff.1 found
    exact ⟨rfl, ⟨a, anchor, rfl⟩, (pointAt_name (e.kind.snapAnchors_subset anchor)).2 located⟩
  · obtain ⟨id, selector, x, y⟩ := p
    rintro ⟨rfl, ⟨a, anchor, rfl⟩, located⟩
    exact ⟨a, anchor, Option.map_eq_some_iff.2
      ⟨_, (pointAt_name (e.kind.snapAnchors_subset anchor)).1 located, rfl⟩⟩

/-- Every point that can coincide is somewhere. -/
theorem exists_pointAt {selector : String} (named : selector ∈ e.kind.snapNames) :
    ∃ xy, e.pointAt selector = .ok xy := by
  obtain ⟨a, anchor, rfl⟩ := List.mem_map.1 named
  obtain ⟨xy, located⟩ := e.shape.exists_pointAt? anchor
  exact ⟨xy, (pointAt_name (e.kind.snapAnchors_subset anchor)).2 located⟩

end Snapping

theorem point?_figure_of_pointAt {e : Entity ℝ} {selector : String} {a : ℂ}
    (located : e.pointAt selector = .ok (a.re, a.im)) : (e.figure selector).point? = some a := by
  unfold Entity.pointAt Entity.kind at located
  unfold Entity.figure Figure.point?
  dsimp only
  split at located
  · rename_i xy found
    cases located
    rw [found]
    rfl
  · cases located

/-! ## What suggestions are near to -/

namespace Inference

variable {limits : Limits ℝ} {entities : List (Entity ℝ)} {s : Suggestion}

/-- Whether a direction is near to one of the axes. -/
def Limits.Aligns (limits : Limits ℝ) (u : ℂ) : Prop :=
  |u.im| < limits.angle ∨ |u.re| < limits.angle

theorem Ray.alignment?_eq_some_iff {r : Ray ℝ} {kind : ConstraintKind} :
    r.alignment? limits = some kind ↔ kind = .horizontal ∧ |r.uy| < limits.angle ∨
      kind = .vertical ∧ ¬|r.uy| < limits.angle ∧ |r.ux| < limits.angle := by
  change (if |r.uy| < limits.angle then some ConstraintKind.horizontal
    else if |r.ux| < limits.angle then some .vertical else none) = some kind ↔ _
  split_ifs <;> simp_all [eq_comm]

theorem Ray.relation?_eq_some_iff {a b : Ray ℝ} {kind : ConstraintKind} :
    a.relation? limits b = some kind ↔
      kind = .parallel ∧ |cross ⟨a.ux, a.uy⟩ ⟨b.ux, b.uy⟩| < limits.angle ∨
      kind = .perpendicular ∧ ¬|cross ⟨a.ux, a.uy⟩ ⟨b.ux, b.uy⟩| < limits.angle ∧
        |⟪(⟨a.ux, a.uy⟩ : ℂ), ⟨b.ux, b.uy⟩⟫_ℝ| < limits.angle := by
  rw [inner_eq]
  change (if |cross ⟨a.ux, a.uy⟩ ⟨b.ux, b.uy⟩| < limits.angle then some ConstraintKind.parallel
    else if |a.ux * b.ux + a.uy * b.uy| < limits.angle then some .perpendicular else none) =
      some kind ↔ _
  split_ifs <;> simp_all [eq_comm]

theorem Ray.aligned_iff {r : Ray ℝ} :
    r.aligned limits = true ↔ limits.Aligns ⟨r.ux, r.uy⟩ := by
  simp only [Ray.aligned, Option.isSome_iff_exists, Ray.alignment?_eq_some_iff, Limits.Aligns]
  constructor
  · rintro ⟨kind, ⟨-, level⟩ | ⟨-, -, upright⟩⟩
    · exact .inl level
    · exact .inr upright
  · intro aligned
    by_cases level : |r.uy| < limits.angle
    · exact ⟨_, .inl ⟨rfl, level⟩⟩
    · exact ⟨_, .inr ⟨rfl, level, aligned.resolve_left level⟩⟩

/-- What a suggestion is near to: an axis, lines that are parallel or perpendicular, or points that
are one. -/
inductive Suggestion.Near (limits : Limits ℝ) (entities : List (Entity ℝ)) : Suggestion → Prop
  | aligned {e : Entity ℝ} {u : ℂ} {kind : ConstraintKind} (present : e ∈ entities)
      (runs : e.Runs u)
      (near : kind = .horizontal ∧ |u.im| < limits.angle ∨
        kind = .vertical ∧ |u.re| < limits.angle) : Near limits entities ⟨kind, [e.id], []⟩
  | paired {e f : Entity ℝ} {u v : ℂ} {kind : ConstraintKind} (first : e ∈ entities)
      (second : f ∈ entities) (runs : e.Runs u) (along : f.Runs v)
      (near : kind = .parallel ∧ |cross u v| < limits.angle ∨
        kind = .perpendicular ∧ |⟪u, v⟫_ℝ| < limits.angle) :
      Near limits entities ⟨kind, [e.id, f.id], []⟩
  | touching {e f : Entity ℝ} {x y : String} {a b : ℂ} (first : e ∈ entities)
      (second : f ∈ entities) (point : e.pointAt x = .ok (a.re, a.im))
      (other : f.pointAt y = .ok (b.re, b.im)) (near : dist a b < limits.distance) :
      Near limits entities ⟨.coincident, [e.id, f.id], [x, y]⟩

theorem near_of_alignment (found : s ∈ alignments limits (entities.filterMap ray?)) :
    s.Near limits entities := by
  obtain ⟨r, among, made⟩ := List.mem_filterMap.1 found
  obtain ⟨kind, aligned, rfl⟩ := Option.map_eq_some_iff.1 made
  obtain ⟨e, present, seen⟩ := List.mem_filterMap.1 among
  obtain ⟨id, runs⟩ := ray?_eq_some_iff.1 seen
  rw [id]
  exact .aligned present runs ((Ray.alignment?_eq_some_iff.1 aligned).imp_right
    fun upright => ⟨upright.1, upright.2.2⟩)

theorem near_of_angle (found : s ∈ angles limits (entities.filterMap ray?)) :
    s.Near limits entities := by
  obtain ⟨a, left, b, right, made⟩ := mem_overPairs found
  split at made
  · cases made
  · obtain ⟨kind, related, rfl⟩ := Option.map_eq_some_iff.1 made
    obtain ⟨e, first, seen⟩ := List.mem_filterMap.1 left
    obtain ⟨f, second, watched⟩ := List.mem_filterMap.1 right
    obtain ⟨id, runs⟩ := ray?_eq_some_iff.1 seen
    obtain ⟨id', along⟩ := ray?_eq_some_iff.1 watched
    rw [id, id']
    exact .paired first second runs along ((Ray.relation?_eq_some_iff.1 related).imp_right
      fun upright => ⟨upright.1, upright.2.2⟩)

theorem hypot_sub_eq_dist (p q : SnapPoint ℝ) :
    Scalar.hypot (q.x - p.x) (q.y - p.y) = dist (⟨p.x, p.y⟩ : ℂ) ⟨q.x, q.y⟩ := by
  rw [dist_comm, Complex.dist_eq]
  exact Exact.hypot_eq_norm _ _

theorem near_of_coincidence (found : s ∈ coincidences limits (entities.flatMap snapPoints)) :
    s.Near limits entities := by
  obtain ⟨p, left, q, right, made⟩ := mem_overPairs found
  split at made
  · cases made
  · split at made
    · rename_i near
      cases made
      rw [hypot_sub_eq_dist] at near
      obtain ⟨e, first, point⟩ := List.mem_flatMap.1 left
      obtain ⟨f, second, other⟩ := List.mem_flatMap.1 right
      obtain ⟨id, -, here⟩ := mem_snapPoints_iff.1 point
      obtain ⟨id', -, there⟩ := mem_snapPoints_iff.1 other
      rw [id, id']
      exact .touching first second here there near
    · cases made

/-- **What is suggested is nearly met.** -/
theorem suggestions_near (found : s ∈ suggestions limits entities) : s.Near limits entities := by
  rcases List.mem_append.1 found with early | found
  · rcases List.mem_append.1 early with found | found
    · exact near_of_alignment found
    · exact near_of_angle found
  · exact near_of_coincidence found

/-! ## Residuals of what is suggested -/

section Residuals

variable (distinct : (entities.map Entity.id).Nodup) {existing : List (Constraint ℝ)} {next : Int}
  {c : Constraint ℝ} {b : Block ℝ}

include distinct

/-- A constraint that names lines only can be bound as far as degenerate arcs are concerned. -/
theorem onSoundArcs_of_lines
    (lines : ∀ id ∈ c.entityIds, ∃ e ∈ entities, e.id = id ∧ e.kind = .line) :
    c.OnSoundArcs entities := by
  intro f present named arc
  obtain ⟨e, there, same, line⟩ := lines f.id named
  rw [List.inj_on_of_nodup_map distinct there present same] at line
  cases line.symm.trans arc

/-- What is inferred of lines as a whole is bound. -/
theorem exists_compile_of_infer (inferred : c ∈ infer limits entities existing next)
    (lines : c.kind ≠ .coincident) (p : Valuation ℝ) :
    ∃ b, Block.compile entities (Layout.tiling entities) p c = .ok b := by
  refine (compile_iff_of_infer distinct inferred p).1.2 (onSoundArcs_of_lines distinct ?_)
  obtain ⟨s, among, n, rfl⟩ := mem_accept inferred
  cases suggestions_near among with
  | aligned present runs near =>
      exact List.forall_mem_singleton.2 ⟨_, present, rfl, runs.kind⟩
  | paired first second runs along near =>
      exact List.forall_mem_cons.2 ⟨⟨_, first, rfl, runs.kind⟩,
        List.forall_mem_singleton.2 ⟨_, second, rfl, along.kind⟩⟩
  | touching => exact absurd rfl lines

/-- The residual of a relation between directions is that of the directions of length one. -/
theorem residual_of_directions {p : Valuation ℝ}
    (compiled : Block.compile entities (Layout.tiling entities) p c = .ok b) {e f : Entity ℝ}
    {u v : ℂ} (first : e ∈ entities) (second : f ∈ entities) (ids : c.entityIds = [e.id, f.id])
    (runs : e.Runs u) (along : f.Runs v) :
    (c.kind = .parallel → b.residual (.ofArray (flat entities)) = [some (cross u v)]) ∧
      (c.kind = .perpendicular → b.residual (.ofArray (flat entities)) = [some ⟪u, v⟫_ℝ]) := by
  obtain ⟨l, line, long, rfl⟩ := runs.exists_site distinct first
  obtain ⟨m, line', long', rfl⟩ := along.exists_site distinct second
  obtain ⟨parallel, perpendicular⟩ := Block.relation_of_directions compiled ids line line'
  rw [cross_div, inner_div]
  constructor
  · intro kind
    rw [Block.residual, parallel kind,
      Relation.residualRows_eq_some.2 (Relation.residual_parallel long long')]
    rfl
  · intro kind
    rw [Block.residual, perpendicular kind,
      Relation.residualRows_eq_some.2 (Relation.residual_perpendicular long long')]
    rfl

/-- The residual of a coincidence is how far the points are apart along each axis. -/
theorem residual_of_coincidence {p : Valuation ℝ}
    (compiled : Block.compile entities (Layout.tiling entities) p c = .ok b)
    (kind : c.kind = .coincident) {e f : Entity ℝ} {x y : ℂ} (first : e ∈ entities)
    (second : f ∈ entities) (ids : c.entityIds = [e.id, f.id])
    (here : e.pointAt (c.selector 0) = .ok (x.re, x.im))
    (there : f.pointAt (c.selector 1) = .ok (y.re, y.im)) :
    b.residual (.ofArray (flat entities)) = [some (x - y).re, some (x - y).im] := by
  obtain ⟨places, located, bound, -, -⟩ := Block.compile_binds compiled
  obtain ⟨s, t, site, site', slots, point, point', coincident⟩ := bound.eq_coincident kind
  have figures := Constraint.figures_pair distinct first second ids
  rw [Constraint.figures_eq located, slots] at figures
  obtain ⟨figure, rest⟩ := List.cons.inj figures
  have figure' := (List.cons.inj rest).1
  have read := point?_figure_of_pointAt here
  have read' := point?_figure_of_pointAt there
  rw [← figure, Slot.point?_figure, point, Option.map_some] at read
  rw [← figure', Slot.point?_figure, point', Option.map_some] at read'
  cases read
  cases read'
  rw [Block.residual, coincident]
  rfl

end Residuals

/-- What it means that a constraint is nearly met: a relation between directions up to an angle, an
alignment up to an angle over the length of its line, a coincidence up to a distance. -/
inductive NearlyMet (limits : Limits ℝ) (entities : List (Entity ℝ)) (layout : Layout)
    (start : Valuation ℝ) (c : Constraint ℝ) : Prop
  | direction {b : Block ℝ} {r : ℝ} (kind : c.kind = .parallel ∨ c.kind = .perpendicular)
      (compiled : Block.compile entities layout start c = .ok b)
      (residual : b.residual start = [some r]) (near : |r| < limits.angle)
  | alignment {b : Block ℝ} {r length : ℝ} {e : Entity ℝ}
      (kind : c.kind = .horizontal ∨ c.kind = .vertical) (present : e ∈ entities)
      (ids : c.entityIds = [e.id]) (measured : e.length = .ok length)
      (compiled : Block.compile entities layout start c = .ok b)
      (residual : b.residual start = [some r]) (near : |r| < limits.angle * length)
  | coincidence (kind : c.kind = .coincident)
      (near : ∀ b, Block.compile entities layout start c = .ok b →
        ∃ x y, b.residual start = [some x, some y] ∧ ‖(⟨x, y⟩ : ℂ)‖ < limits.distance)

/-- **What is inferred is nearly met.** -/
theorem nearlyMet_of_infer (distinct : (entities.map Entity.id).Nodup)
    {existing : List (Constraint ℝ)} {next : Int} {c : Constraint ℝ}
    (inferred : c ∈ infer limits entities existing next) :
    NearlyMet limits entities (Layout.tiling entities) (.ofArray (flat entities)) c := by
  have bound := exists_compile_of_infer distinct inferred
  obtain ⟨s, among, n, rfl⟩ := mem_accept inferred
  cases suggestions_near among with
  | aligned present runs near =>
      obtain ⟨edge, drawn, long, rfl⟩ := runs
      have positive : 0 < edge.length := by
        refine lt_trans ?_ long
        norm_num [Tolerance.geometry]
      rw [div_ofReal_im, div_ofReal_re, abs_div, abs_div, abs_of_pos positive,
        div_lt_iff₀ positive, div_lt_iff₀ positive] at near
      have measured := Entity.length_of_edge drawn
      obtain ⟨l, line, rfl⟩ := Entity.exists_site distinct present drawn
      rcases near with ⟨rfl, near⟩ | ⟨rfl, near⟩
      · have lines : ConstraintKind.horizontal ≠ .coincident := by decide
        obtain ⟨b, compiled⟩ := bound lines (.ofArray (flat entities))
        exact .alignment (.inl rfl) present rfl measured compiled
          ((Block.residual_of_alignment compiled rfl rfl line _).1 rfl) near
      · have lines : ConstraintKind.vertical ≠ .coincident := by decide
        obtain ⟨b, compiled⟩ := bound lines (.ofArray (flat entities))
        exact .alignment (.inr rfl) present rfl measured compiled
          ((Block.residual_of_alignment compiled rfl rfl line _).2 rfl) near
  | paired first second runs along near =>
      rcases near with ⟨rfl, near⟩ | ⟨rfl, near⟩
      · have lines : ConstraintKind.parallel ≠ .coincident := by decide
        obtain ⟨b, compiled⟩ := bound lines (.ofArray (flat entities))
        exact .direction (.inl rfl) compiled
          ((residual_of_directions distinct compiled first second rfl runs along).1 rfl) near
      · have lines : ConstraintKind.perpendicular ≠ .coincident := by decide
        obtain ⟨b, compiled⟩ := bound lines (.ofArray (flat entities))
        exact .direction (.inr rfl) compiled
          ((residual_of_directions distinct compiled first second rfl runs along).2 rfl) near
  | touching first second point other near =>
      refine .coincidence rfl fun b compiled => ⟨_, _,
        residual_of_coincidence distinct compiled rfl first second rfl point other, ?_⟩
      rwa [Complex.dist_eq] at near

end Inference

end PlanarSketch
