import PlanarSketch.Proofs.Relation.Zeros
import PlanarSketch.Proofs.Solve.Answers
import PlanarSketch.Proofs.Solve.Blocks

/-!
# Figures

A vector of parameters encodes a shape at each place of a layout (`Place.shape`), and for the
vector that entities are flattened to these are the shapes of the entities
(`Place.shape_flat`).  What a constraint is about are such shapes, each with the name of a
point on it: its figures.  A figure may stand for a point of the plane, for an edge or for a
circle, and what it stands for is where the site of its slot is found
(`Slot.point?_figure`, `Slot.edge?_figure`, `Slot.circle?_figure`).

`Constraint.Holds` says of figures what a constraint of each kind is meant to demand, in the terms
of plane geometry.  Nothing in it depends on how the demand is computed, but for the branch
that has been chosen: the side of a line, or the way in which circles touch.
-/

namespace PlanarSketch

set_option autoImplicit false

open Complex EuclideanGeometry Affine

/-! ## Shapes at places -/

section Shapes

variable {α : Type}

/-- The shape that a valuation encodes at a place. -/
def Place.shape (place : Place) (p : Valuation α) : Shape α :=
  let x (k : Nat) := p (place.offset + k)
  match place.kind with
  | .point => .point (x 0) (x 1)
  | .line => .line (x 0) (x 1) (x 2) (x 3)
  | .circle => .circle (x 0) (x 1) (x 2)
  | .arc => .arc (x 0) (x 1) (x 2) (x 3) (x 4)

@[simp] theorem Place.kind_shape (place : Place) (p : Valuation α) :
    (place.shape p).kind = place.kind := by
  unfold shape
  cases place.kind with
  | _ => rfl

/-- The parameters of the shape at a place are the values at its positions. -/
theorem Place.params_shape (place : Place) (p : Valuation α) :
    (place.shape p).params = place.positions.map p := by
  unfold shape positions
  cases place.kind with
  | _ => rfl

variable [Scalar α]

/-- **The vector of some entities encodes their shapes.** -/
theorem Place.shape_flat {entities : List (Entity α)} (distinct : (entities.map Entity.id).Nodup)
    {e : Entity α} (present : e ∈ entities) {place : Place}
    (placed : (Layout.tiling entities).place? e.id = some place) :
    place.shape (.ofArray (flat entities)) = e.shape := by
  obtain ⟨before, after, rfl⟩ := List.append_of_mem present
  rw [Layout.place?_split distinct] at placed
  cases placed
  have params : (Place.shape ⟨e.id, e.kind, Layout.extent before⟩
      (.ofArray (flat (before ++ e :: after)))).params = e.params := by
    rw [params_shape]
    refine List.ext_getElem ?_ fun k inside fits => ?_
    · simp [positions, Layout.length_params]
    · simp only [positions, List.getElem_map, List.getElem_range', one_mul]
      exact Layout.getD_flatten_split fits
  have read := Shape.ofParams?_params
    (Place.shape ⟨e.id, e.kind, Layout.extent before⟩ (.ofArray (flat (before ++ e :: after))))
  rw [kind_shape, params] at read
  exact (Option.some.inj ((Shape.ofParams?_params e.shape).symm.trans read)).symm

end Shapes

/-! ## What figures stand for -/

/-- A shape in the plane, and the name of the point that is meant on it. -/
structure Figure where
  shape : Shape ℝ
  selector : String

noncomputable section

namespace Figure

/-- The point that a figure stands for. -/
def point? (f : Figure) : Option ℂ :=
  ((f.shape.kind.anchor? f.selector).bind f.shape.pointAt?).map fun xy => ⟨xy.1, xy.2⟩

/-- The edge that a figure stands for: a line, as a whole. -/
def edge? (f : Figure) : Option Edge :=
  match f.shape with
  | .line x₁ y₁ x₂ y₂ => if f.selector = "" then some ⟨⟨x₁, y₁⟩, ⟨x₂, y₂⟩⟩ else none
  | _ => none

/-- The circle that a figure stands for; an arc is part of one. -/
def circle? (f : Figure) : Option (Sphere ℂ) :=
  match f.shape with
  | .circle cx cy r | .arc cx cy r _ _ =>
    if f.selector = "" ∨ f.selector = "center" then some ⟨⟨cx, cy⟩, r⟩ else none
  | _ => none

/-- The two points that figures stand for: two points, or the ends of one line. -/
def ends? : List Figure → Option Edge
  | [f] => f.edge?
  | [f, g] => f.point?.bind fun a => g.point?.map fun b => ⟨a, b⟩
  | _ => none

end Figure

/-- What a constraint demands of figures: the relation that its kind is named for.  A signed
distance is taken on one side of the line; circles touch from outside, or one inside the other. -/
def Constraint.Holds (c : Constraint ℝ) (side : Branch) (outside : Bool)
    (figures : List Figure) : Prop :=
  match c.kind, figures with
  | .horizontal, figures => ∃ e ∈ Figure.ends? figures, e.first.im = e.second.im
  | .vertical, figures => ∃ e ∈ Figure.ends? figures, e.first.re = e.second.re
  | .horizontalDistance, figures =>
    ∃ e ∈ Figure.ends? figures, e.second.re - e.first.re = c.target
  | .verticalDistance, figures =>
    ∃ e ∈ Figure.ends? figures, e.second.im - e.first.im = c.target
  | .coincident, [f, g] => ∃ a ∈ f.point?, ∃ b ∈ g.point?, a = b
  | .distance, [f, g] =>
    (∃ a ∈ f.point?, ∃ b ∈ g.point?, dist a b = c.target) ∨
      (∃ a ∈ f.point?, ∃ e ∈ g.edge?, side.sign * e.offset a = c.target) ∨
      ∃ e ∈ f.edge?, ∃ a ∈ g.point?, side.sign * e.offset a = c.target
  | .parallel, [f, g] => ∃ d ∈ f.edge?, ∃ e ∈ g.edge?, d.line ∥ e.line
  | .perpendicular, [f, g] => ∃ d ∈ f.edge?, ∃ e ∈ g.edge?, d.line.direction ⟂ e.line.direction
  | .angle, [f, g] => ∃ d ∈ f.edge?, ∃ e ∈ g.edge?, d.turn e = (c.target : ℝ)
  | .collinear, [f, g] => ∃ d ∈ f.edge?, ∃ e ∈ g.edge?, e.first ∈ d.line ∧ e.second ∈ d.line
  | .equal, [f, g] =>
    (∃ d ∈ f.edge?, ∃ e ∈ g.edge?, d.length = e.length) ∨
      ∃ k ∈ f.circle?, ∃ m ∈ g.circle?, k.radius = m.radius
  | .length, [f] => ∃ e ∈ f.edge?, e.length = c.target
  | .radius, [f] => ∃ k ∈ f.circle?, k.radius = c.target
  | .diameter, [f] => ∃ k ∈ f.circle?, k.radius + k.radius = c.target
  | .concentric, [f, g] => ∃ k ∈ f.circle?, ∃ m ∈ g.circle?, k.center = m.center
  | .midpoint, [f, g] => ∃ a ∈ f.point?, ∃ e ∈ g.edge?, a = e.middle
  | .pointOnLine, [f, g] => ∃ a ∈ f.point?, ∃ e ∈ g.edge?, a ∈ e.line
  | .symmetric, [f, g, h] =>
    ∃ a ∈ f.point?, ∃ b ∈ g.point?, ∃ e ∈ h.edge?, e.mirror a = b
  | .tangent, [f, g] =>
    (∃ e ∈ f.edge?, ∃ k ∈ g.circle?, side.sign * e.offset k.center = k.radius) ∨
      (∃ k ∈ f.circle?, ∃ e ∈ g.edge?, side.sign * e.offset k.center = k.radius) ∨
      ∃ k ∈ f.circle?, ∃ m ∈ g.circle?, dist k.center m.center =
        if outside then k.radius + m.radius else side.sign * (k.radius - m.radius)
  | _, _ => False

/-! ## Slots as figures -/

/-- What a slot holds in the plane. -/
def Slot.figure (p : Valuation ℝ) (s : Slot) : Figure := ⟨s.place.shape p, s.selector⟩

end

namespace Slot

variable (p : Valuation ℝ) (s : Slot)

/-- A figure stands for the point of its slot. -/
@[simp] theorem point?_figure : (s.figure p).point? = s.point?.map fun a => a.location p := by
  unfold Figure.point? figure point? kind
  dsimp only
  rw [Place.kind_shape]
  cases named : s.place.kind.anchor? s.selector with
  | none => rfl
  | some anchor =>
      have known : s.place.kind.anchors.contains anchor = true :=
        (Option.filter_eq_some_iff.1 named).2
      unfold Place.shape PointSite.location PointSite.xy PointSite.angleIndex?
        PointSite.coordinateIndex
      cases kind : s.place.kind with
      | point | line | circle | arc =>
          rw [kind] at known
          cases anchor with
          | own | center | start | stop =>
              first
              | rfl
              | cases known

/-- A figure stands for the line of its slot. -/
@[simp] theorem edge?_figure : (s.figure p).edge? = s.line?.map fun l => l.edge p := by
  unfold Figure.edge? figure line? isLine kind Place.shape
  cases kind : s.place.kind with
  | line =>
      by_cases whole : s.selector = ""
      · simp [whole, LineSite.edge]
      · simp [whole]
  | _ => rfl

/-- A figure stands for the curve of its slot. -/
@[simp] theorem circle?_figure : (s.figure p).circle? = s.curve?.map fun k => k.circle p := by
  unfold Figure.circle? figure curve? kind Place.shape
  cases kind : s.place.kind with
  | circle | arc =>
      by_cases named : s.selector = "" ∨ s.selector = "center"
      · simp [named, EntityKind.isCurve, CurveSite.circle, CurveSite.center, CurveSite.radius,
          CurveSite.radiusIndex]
      · simp [named, EntityKind.isCurve]
  | _ => rfl

end Slot

/-! ## Bound constraints -/

namespace Constraint

variable {c : Constraint ℝ} {p : Valuation ℝ} {slots : List Slot} {r : Relation ℝ}

theorem Aligns.ends?_figures {a b : PointSite} (pair : Aligns slots a b) (q : Valuation ℝ) :
    Figure.ends? (slots.map (Slot.figure q)) = some ⟨a.location q, b.location q⟩ := by
  cases pair with
  | ends line =>
      rw [List.map_singleton, Figure.ends?, Slot.edge?_figure, line]
      rfl
  | points first second =>
      rw [List.map_cons, List.map_singleton, Figure.ends?, Slot.point?_figure, Slot.point?_figure,
        first, second]
      rfl

/-- A line is no point. -/
theorem point?_eq_none_of_line {s : Slot} {l : LineSite} (line : s.line? = some l) :
    s.point? = none := by
  cases point : s.point? with
  | none => rfl
  | some a =>
      have whole := isLine_of_line line
      rw [not_isLine_of_point point] at whole
      cases whole

theorem line?_eq_none_of_point {s : Slot} {a : PointSite} (point : s.point? = some a) :
    s.line? = none := by
  cases line : s.line? with
  | none => rfl
  | some l =>
      rw [point?_eq_none_of_line line] at point
      cases point

theorem line?_eq_none_of_curve {s : Slot} {k : CurveSite} (curve : s.curve? = some k) :
    s.line? = none := by
  cases line : s.line? with
  | none => rfl
  | some l =>
      have whole := isLine_of_line line
      rw [not_isLine_of_curve curve] at whole
      cases whole

theorem curve?_eq_none_of_line {s : Slot} {l : LineSite} (line : s.line? = some l) :
    s.curve? = none := by
  cases curve : s.curve? with
  | none => rfl
  | some k =>
      rw [line?_eq_none_of_curve curve] at line
      cases line

/-- **A bound relation holds between the sites of its slots exactly when the figures there stand in
the relation that the kind is named for.** -/
theorem Binds.holds_iff (bound : c.Binds p slots r) (q : Valuation ℝ) :
    r.Holds q ↔ c.Holds r.branch (r.form == "cc_ext") (slots.map (Slot.figure q)) := by
  unfold Constraint.Holds
  cases bound with
  | level kind pair | plumb kind pair | rightOf kind pair | above kind pair =>
      simp [kind, Relation.Holds, pair.ends?_figures q]
  | coincident kind first second =>
      rw [Relation.Holds, eq_comm]
      simp [kind, first, second]
  | apart kind first second =>
      simp [kind, Relation.Holds, first, second, line?_eq_none_of_point first,
        line?_eq_none_of_point second]
  | offLine kind order point line =>
      -- Whichever slot comes first, only one way to read the two figures is left.
      rcases order with rfl | rfl
      · simp [kind, Relation.Holds, Relation.branch, point, line, line?_eq_none_of_point point,
          point?_eq_none_of_line line]
      · simp [kind, Relation.Holds, Relation.branch, point, line, line?_eq_none_of_point point,
          point?_eq_none_of_line line]
  | parallel kind first second | perpendicular kind first second | angle kind first second
  | collinear kind first second =>
      simp [kind, Relation.Holds, first, second]
  | sameLength kind first second =>
      simp [kind, Relation.Holds, first, second, curve?_eq_none_of_line first]
  | sameRadius kind first second =>
      simp [kind, Relation.Holds, first, second, line?_eq_none_of_curve first]
  | length kind line => simp [kind, Relation.Holds, line]
  | radius kind curve | diameter kind curve => simp [kind, Relation.Holds, curve]
  | concentric kind first second => simp [kind, Relation.Holds, first, second]
  | midpoint kind point line | onLine kind point line => simp [kind, Relation.Holds, point, line]
  | mirror kind first second line =>
      rw [Relation.Holds, eq_comm]
      simp [kind, first, second, line]
  | tangentLine kind order line curve =>
      rcases order with rfl | rfl
      · simp [kind, Relation.Holds, Relation.branch, curve, line, line?_eq_none_of_curve curve,
          curve?_eq_none_of_line line]
      · simp [kind, Relation.Holds, Relation.branch, curve, line, line?_eq_none_of_curve curve,
          curve?_eq_none_of_line line]
  | touching kind first second =>
      unfold curvesTouching
      dsimp only
      split
      · simp [kind, Relation.Holds, Relation.form, first, second, line?_eq_none_of_curve first,
          line?_eq_none_of_curve second]
      · simp [kind, Relation.Holds, Relation.form, Relation.branch, first, second,
          line?_eq_none_of_curve first, line?_eq_none_of_curve second]

/-- The figures of a constraint: the shapes of its entities, at a vector of parameters. -/
def figures (c : Constraint ℝ) (layout : Layout) (p : Valuation ℝ) : List Figure :=
  c.entityIds.zipIdx.filterMap fun (id, i) =>
    (layout.place? id).map fun place => ⟨place.shape p, c.selector i⟩

/-- The figures of a bound constraint are those of its slots. -/
theorem figures_eq {layout : Layout} {places : List Place}
    (located : List.Forall₂ (fun id place => layout.place? id = some place) c.entityIds places)
    (q : Valuation ℝ) :
    c.figures layout q = (Block.slotsOf c places).map (Slot.figure q) := by
  unfold figures Block.slotsOf
  -- The number of the first slot is arbitrary, since it moves on along the list.
  generalize 0 = first
  generalize c.entityIds = ids at located ⊢
  induction located generalizing first with
  | nil => rfl
  | cons found _ ih =>
      simp only [List.zipIdx_cons, List.filterMap_cons, List.map_cons, found, Option.map_some, ih]
      rfl

end Constraint

/-- **The residual of a constraint is zero exactly where its relation holds.**  For every constraint
that is bound, whatever its kind and form, and for every vector of parameters at which the lines
that it divides by are longer than the smallest length: all rows of its residual are zero if and
only if the shapes that the vector encodes stand in the relation that the kind is named for, on
the branch that was chosen when the constraint was bound. -/
theorem residual_zero_iff {entities : List (Entity ℝ)} {layout : Layout} {start : Valuation ℝ}
    {c : Constraint ℝ} {b : Block ℝ} (compiled : Block.compile entities layout start c = .ok b)
    {p : Valuation ℝ} (long : ∀ l ∈ b.relation.divisors, Tolerance.geometry < l.length p) :
    (∀ v ∈ b.residual p, v = some 0) ↔
      c.Holds b.relation.branch (b.relation.form == "cc_ext") (c.figures layout p) := by
  obtain ⟨places, located, bound, -, -⟩ := Block.compile_binds compiled
  rw [Constraint.figures_eq located, ← bound.holds_iff p]
  exact Relation.rows_zero_iff_holds long

/-- The residual of a point on a line of length one is zero at the initial parameters, because the
point is at the start of the line. -/
theorem residual_zero_iff_incidence :
    ((∀ v ∈ Incidence.block.residual (.ofArray (flat (Incidence.entities 1))), v = some 0) ↔
        Incidence.constraint.Holds .plus false
          (Incidence.constraint.figures (Layout.tiling (Incidence.entities 1))
            (.ofArray (flat (Incidence.entities 1))))) ∧
      Incidence.block.residual (.ofArray (flat (Incidence.entities 1))) = [some 0] := by
  have long : (Tolerance.geometry : ℝ) < 1 := by norm_num [Tolerance.geometry]
  refine ⟨residual_zero_iff
    (Incidence.compile_constraint long (.ofArray (flat (Incidence.entities 1)))) ?_,
    Incidence.residual_block long⟩
  intro l divides
  cases List.mem_singleton.1 divides
  simpa [LineSite.length, LineSite.direction, Valuation.ofArray, Incidence.flat_entities] using
    Incidence.straight long

end PlanarSketch
