import Mathlib.Data.List.Nodup
import PlanarSketch.Proofs.Relation.Sites
import PlanarSketch.Relation.Slope

/-!
# The vocabulary of constraints

What constraints can be said of is a table, kind by kind: the roles that the entities of a
constraint fill, in order, and the forms that its equations take (`ConstraintKind.usages`).
A role is filled by an entity together with the name of a point on it
(`EntityKind.Fills`), and some roles rely on the geometry of their entity
(`ConstraintKind.Relies`).  None of this refers to how constraints are bound.

Binding follows the table.  What a constraint is bound to is described by one of the usages
of its kind (`Constraint.Binds.usage`), and slots that fill the roles of a usage can be bound
(`Constraint.exists_binds`).  No slots fill the roles of two usages of one kind, since only a
line as a whole is used as a line, and which entities are used as lines tells the usages of
a kind apart (`ConstraintKind.usage_unique`).
-/

namespace PlanarSketch

set_option autoImplicit false

/-! ## The table -/

/-- One way to use a kind of constraints: the roles of the entities in their order, and the forms
that the equations then have. -/
structure Usage where
  roles : List SlotRole
  forms : List String

namespace EntityKind

/-- The names by which a constraint can mean a point on an entity of a kind. -/
def pointNames : EntityKind → List String
  | point => [""]
  | line => ["start", "end"]
  | circle => ["", "center"]
  | arc => ["", "center", "start", "end"]

/-- Whether an entity of a kind, with a name selecting a point on it, fills a role. -/
def Fills (kind : EntityKind) (selector : String) : SlotRole → Prop
  | .point => selector ∈ kind.pointNames
  | .line => kind = line ∧ selector = ""
  | .curve => (kind = circle ∨ kind = arc) ∧ (selector = "" ∨ selector = "center")

end EntityKind

namespace ConstraintKind

/-- All ways to use a kind of constraints. -/
def usages : ConstraintKind → List Usage
  | horizontal | vertical | horizontalDistance | verticalDistance =>
    [⟨[.line], ["pp"]⟩, ⟨[.point, .point], ["pp"]⟩]
  | coincident => [⟨[.point, .point], ["pp"]⟩]
  | distance =>
    [⟨[.point, .point], ["pp"]⟩, ⟨[.point, .line], ["pl"]⟩, ⟨[.line, .point], ["pl"]⟩]
  | parallel | perpendicular | angle | collinear => [⟨[.line, .line], ["ll"]⟩]
  | equal => [⟨[.line, .line], ["ll"]⟩, ⟨[.curve, .curve], ["cc"]⟩]
  | length => [⟨[.line], ["l"]⟩]
  | radius | diameter => [⟨[.curve], ["c"]⟩]
  | concentric => [⟨[.curve, .curve], ["cc"]⟩]
  | midpoint | pointOnLine => [⟨[.point, .line], ["pl"]⟩]
  | symmetric => [⟨[.point, .point, .line], ["ppl"]⟩]
  | tangent =>
    [⟨[.line, .curve], ["lc"]⟩, ⟨[.curve, .line], ["lc"]⟩,
      ⟨[.curve, .curve], ["cc_ext", "cc_int"]⟩]

/-- The kinds for which a single line stands for its two ends. -/
def alignments : List ConstraintKind := [horizontal, vertical, horizontalDistance, verticalDistance]

/-- Whether a kind of constraints relies on the geometry of an entity in a role.  It does on the
ends of arcs, on lines that do not merely stand for their ends, and on curves that are touched. -/
def Relies (kind : ConstraintKind) (entity : EntityKind) (selector : String) : SlotRole → Prop
  | .point => entity = .arc ∧ (selector = "start" ∨ selector = "end")
  | .line => kind ∉ alignments
  | .curve => kind = tangent

end ConstraintKind

/-! ## Slots in their roles -/

theorem Anchor.ofName?_eq_some {name : String} {a : Anchor} :
    Anchor.ofName? name = some a ↔ a.name = name := by
  constructor
  · intro found
    simpa using List.find?_some found
  · rintro rfl
    cases a with
    | _ => decide

theorem EntityKind.anchor?_eq_some {kind : EntityKind} {name : String} {a : Anchor} :
    kind.anchor? name = some a ↔ a ∈ kind.anchors ∧ a.name = name := by
  rw [anchor?, Option.filter_eq_some_iff, Anchor.ofName?_eq_some, List.contains_iff_mem, and_comm]

/-- The names of points are the names that anchors are found by. -/
theorem EntityKind.mem_pointNames_iff {kind : EntityKind} {name : String} :
    name ∈ kind.pointNames ↔ ∃ a, kind.anchor? name = some a := by
  have named : kind.pointNames = kind.anchors.map Anchor.name := by
    cases kind with
    | _ => rfl
  simp only [anchor?_eq_some, named, List.mem_map]

namespace Slot

variable {s : Slot} {role : SlotRole}

/-- Whether a slot fills a role. -/
def Fills (s : Slot) (role : SlotRole) : Prop := s.kind.Fills s.selector role

/-- Whether a kind of constraints relies on the geometry of the entity in a slot. -/
def Relied (kind : ConstraintKind) (s : Slot) (role : SlotRole) : Prop :=
  kind.Relies s.kind s.selector role

theorem exists_point_iff : (∃ a, s.point? = some a) ↔ s.Fills .point := by
  rw [Fills, EntityKind.Fills, EntityKind.mem_pointNames_iff]
  simp [point?, Option.map_eq_some_iff]

theorem exists_line_iff : (∃ l, s.line? = some l) ↔ s.Fills .line := by
  simp [line?, isLine, Fills, EntityKind.Fills]

theorem exists_curve_iff : (∃ k, s.curve? = some k) ↔ s.Fills .curve := by
  have round : s.kind.isCurve = true ↔ s.kind = .circle ∨ s.kind = .arc := by
    cases s.kind with
    | _ => decide
  simp [curve?, Fills, EntityKind.Fills, round]

/-- What a slot stands for in a role. -/
def Site : SlotRole → Type
  | .point => PointSite
  | .line => LineSite
  | .curve => CurveSite

/-- The site of a slot in a role, if it can fill it. -/
def site? (s : Slot) : (role : SlotRole) → Option (Site role)
  | .point => s.point?
  | .line => s.line?
  | .curve => s.curve?

theorem exists_site_iff : (∃ site, s.site? role = some site) ↔ s.Fills role := by
  cases role with
  | point => exact exists_point_iff
  | line => exact exists_line_iff
  | curve => exact exists_curve_iff

section Inversion

variable {slots : List Slot} {first second third : SlotRole}

theorem exists_single (fills : List.Forall₂ Fills slots [first]) :
    ∃ (s : Slot) (x : Site first), slots = [s] ∧ s.site? first = some x := by
  obtain ⟨s, rest, here, last, rfl⟩ := List.forall₂_cons_right_iff.1 fills
  cases last
  obtain ⟨x, found⟩ := exists_site_iff.2 here
  exact ⟨s, x, rfl, found⟩

theorem exists_pair (fills : List.Forall₂ Fills slots [first, second]) :
    ∃ (s t : Slot) (x : Site first) (y : Site second),
      slots = [s, t] ∧ s.site? first = some x ∧ t.site? second = some y := by
  obtain ⟨s, rest, here, later, rfl⟩ := List.forall₂_cons_right_iff.1 fills
  obtain ⟨x, found⟩ := exists_site_iff.2 here
  obtain ⟨t, y, rfl, last⟩ := exists_single later
  exact ⟨s, t, x, y, rfl, found, last⟩

theorem exists_triple (fills : List.Forall₂ Fills slots [first, second, third]) :
    ∃ (s t u : Slot) (x : Site first) (y : Site second) (z : Site third),
      slots = [s, t, u] ∧ s.site? first = some x ∧ t.site? second = some y ∧
        u.site? third = some z := by
  obtain ⟨s, rest, here, later, rfl⟩ := List.forall₂_cons_right_iff.1 fills
  obtain ⟨x, found⟩ := exists_site_iff.2 here
  obtain ⟨t, u, y, z, rfl, others⟩ := exists_pair later
  exact ⟨s, t, u, x, y, z, rfl, found, others⟩

end Inversion

/-- Only a line as a whole is used as a line, and it has no other use. -/
theorem eq_line_iff (fills : s.Fills role) : role = .line ↔ s.isLine = true := by
  cases role with
  | line =>
      obtain ⟨l, line⟩ := exists_line_iff.2 fills
      exact iff_of_true rfl (Constraint.isLine_of_line line)
  | point =>
      obtain ⟨a, point⟩ := exists_point_iff.2 fills
      exact iff_of_false (by decide) (by simp [Constraint.not_isLine_of_point point])
  | curve =>
      obtain ⟨k, curve⟩ := exists_curve_iff.2 fills
      exact iff_of_false (by decide) (by simp [Constraint.not_isLine_of_curve curve])

end Slot

/-- The slots that hold lines as a whole are those in the role of a line. -/
theorem Slot.map_isLine {slots : List Slot} {roles : List SlotRole}
    (fills : List.Forall₂ Slot.Fills slots roles) :
    roles.map (fun role => decide (role = .line)) = slots.map Slot.isLine := by
  induction fills with
  | nil => rfl
  | cons first _ ih =>
      rw [List.map_cons, List.map_cons, ih, Bool.eq_iff_iff.2 (decide_eq_true_iff.trans
        (eq_line_iff first))]

/-- **Slots are used in one way at most**, given the kind of a constraint. -/
theorem ConstraintKind.usage_unique {kind : ConstraintKind} {slots : List Slot} {u v : Usage}
    (first : u ∈ kind.usages) (second : v ∈ kind.usages)
    (fills : List.Forall₂ Slot.Fills slots u.roles)
    (fills' : List.Forall₂ Slot.Fills slots v.roles) : u = v := by
  have differ : (kind.usages.map fun u => u.roles.map fun role => decide (role = .line)).Nodup := by
    cases kind with
    | _ => decide
  refine List.inj_on_of_nodup_map differ first second ?_
  rw [Slot.map_isLine fills, Slot.map_isLine fills']

/-! ## Bound relations in the table -/

variable {α : Type}

namespace Relation

/-- The curves that are touched. -/
def touched : Relation α → List CurveSite
  | tangentLine _ c _ => [c]
  | tangentOuter c d | tangentInner c d _ => [c, d]
  | _ => []

theorem forall_mem_watched {r : Relation α} {P : Int → Prop} :
    (∀ id ∈ r.watched, P id) ↔ (∀ a ∈ r.points, ∀ id ∈ watchedPoint a, P id) ∧
      (∀ l ∈ r.lines, P l.entity) ∧ ∀ k ∈ r.touched, P k.entity := by
  unfold watched
  rw [List.forall_mem_append, List.forall_mem_append, and_assoc]
  refine and_congr ?_ (and_congr ?_ ?_)
  · simp only [List.mem_flatMap, forall_exists_index, and_imp]
    exact ⟨fun all a among id here => all id a among here,
      fun all id a among here => all a among id here⟩
  · simp
  · cases r with
    | _ => simp [touched]

end Relation

/-- What a usage of a kind says of a relation between slots: each slot fills its role, the
equations have one of the forms, and the entities are watched whose geometry is relied on. -/
structure Usage.Describes (u : Usage) (kind : ConstraintKind) (slots : List Slot)
    (r : Relation α) : Prop where
  fills : List.Forall₂ Slot.Fills slots u.roles
  form : r.form ∈ u.forms
  watched (P : Int → Prop) : (∀ id ∈ r.watched, P id) ↔
    List.Forall₂ (fun s role => s.Relied kind role → P s.place.id) slots u.roles

/-- Two entities can be named in the other order if their roles are exchanged as well. -/
theorem Usage.Describes.swap {first second : SlotRole} {forms : List String}
    {kind : ConstraintKind} {s t : Slot} {r : Relation α}
    (described : Usage.Describes ⟨[first, second], forms⟩ kind [s, t] r) :
    Usage.Describes ⟨[second, first], forms⟩ kind [t, s] r where
  fills := by simpa [and_comm] using described.fills
  form := described.form
  watched P := by simpa [and_comm] using described.watched P

namespace Constraint

section Sites

variable {s : Slot}

theorem fills_point {a : PointSite} (point : s.point? = some a) : s.Fills .point :=
  Slot.exists_point_iff.1 ⟨a, point⟩

theorem fills_line {l : LineSite} (line : s.line? = some l) : s.Fills .line :=
  Slot.exists_line_iff.1 ⟨l, line⟩

theorem fills_curve {k : CurveSite} (curve : s.curve? = some k) : s.Fills .curve :=
  Slot.exists_curve_iff.1 ⟨k, curve⟩

theorem entity_of_line {l : LineSite} (line : s.line? = some l) : l.entity = s.place.id := by
  rw [(line_eq_some line).2]

theorem entity_of_curve {k : CurveSite} (curve : s.curve? = some k) : k.entity = s.place.id := by
  rw [(curve_eq_some curve).2]

/-- Of points only the ends of arcs are watched. -/
theorem forall_mem_watchedPoint {a : PointSite} (point : s.point? = some a) {P : Int → Prop} :
    (∀ id ∈ Relation.watchedPoint a, P id) ↔
      (s.kind = .arc ∧ (s.selector = "start" ∨ s.selector = "end") → P s.place.id) := by
  obtain ⟨anchor, named, rfl⟩ := Option.map_eq_some_iff.1 point
  obtain ⟨⟨id, entity, offset⟩, selector⟩ := s
  obtain ⟨-, rfl⟩ := EntityKind.anchor?_eq_some.1 named
  cases entity with
  | arc =>
      cases anchor with
      | _ => simp [Relation.watchedPoint, PointSite.angleIndex?, Slot.kind, Anchor.name]
  | _ => simp [Relation.watchedPoint, PointSite.angleIndex?, Slot.kind]

end Sites

section Shapes

variable {kind : ConstraintKind} {r : Relation α} {s t : Slot} {form : String}

theorem describes_points {a b : PointSite} (first : s.point? = some a) (second : t.point? = some b)
    (points : r.points = [a, b]) (lines : r.lines = []) (touched : r.touched = [])
    (formed : r.form = form) : Usage.Describes ⟨[.point, .point], [form]⟩ kind [s, t] r where
  fills := .cons (fills_point first) (.cons (fills_point second) .nil)
  form := List.mem_singleton.2 formed
  watched P := by
    simp [Relation.forall_mem_watched, points, lines, touched, forall_mem_watchedPoint first,
      forall_mem_watchedPoint second, Slot.Relied, ConstraintKind.Relies]

/-- A line whose two ends are meant is not watched. -/
theorem describes_ends {l : LineSite} (line : s.line? = some l)
    (alignment : kind ∈ ConstraintKind.alignments) (points : r.points = [l.first, l.second])
    (lines : r.lines = []) (touched : r.touched = []) (formed : r.form = form) :
    Usage.Describes ⟨[.line], [form]⟩ kind [s] r where
  fills := .cons (fills_line line) .nil
  form := List.mem_singleton.2 formed
  watched P := by
    have first : Relation.watchedPoint l.first = [] := rfl
    have second : Relation.watchedPoint l.second = [] := rfl
    simp [Relation.forall_mem_watched, points, lines, touched, first, second, Slot.Relied,
      ConstraintKind.Relies, alignment]

theorem describes_point_line {a : PointSite} {l : LineSite} (point : s.point? = some a)
    (line : t.line? = some l) (whole : kind ∉ ConstraintKind.alignments)
    (points : r.points = [a]) (lines : r.lines = [l]) (touched : r.touched = [])
    (formed : r.form = form) : Usage.Describes ⟨[.point, .line], [form]⟩ kind [s, t] r where
  fills := .cons (fills_point point) (.cons (fills_line line) .nil)
  form := List.mem_singleton.2 formed
  watched P := by
    simp [Relation.forall_mem_watched, points, lines, touched, forall_mem_watchedPoint point,
      entity_of_line line, Slot.Relied, ConstraintKind.Relies, whole]

theorem describes_lines {l m : LineSite} (first : s.line? = some l) (second : t.line? = some m)
    (whole : kind ∉ ConstraintKind.alignments) (points : r.points = []) (lines : r.lines = [l, m])
    (touched : r.touched = []) (formed : r.form = form) :
    Usage.Describes ⟨[.line, .line], [form]⟩ kind [s, t] r where
  fills := .cons (fills_line first) (.cons (fills_line second) .nil)
  form := List.mem_singleton.2 formed
  watched P := by
    simp [Relation.forall_mem_watched, points, lines, touched, entity_of_line first,
      entity_of_line second, Slot.Relied, ConstraintKind.Relies, whole]

theorem describes_curves {a b : CurveSite} {forms : List String} (first : s.curve? = some a)
    (second : t.curve? = some b) (points : r.points = []) (lines : r.lines = [])
    (touched : r.touched = if kind = .tangent then [a, b] else []) (formed : r.form ∈ forms) :
    Usage.Describes ⟨[.curve, .curve], forms⟩ kind [s, t] r where
  fills := .cons (fills_curve first) (.cons (fills_curve second) .nil)
  form := formed
  watched P := by
    by_cases tangent : kind = .tangent
    · simp [Relation.forall_mem_watched, points, lines, touched, entity_of_curve first,
        entity_of_curve second, Slot.Relied, ConstraintKind.Relies, tangent]
    · simp [Relation.forall_mem_watched, points, lines, touched, Slot.Relied,
        ConstraintKind.Relies, tangent]

end Shapes

variable [Scalar α] {c : Constraint α} {p : Valuation α} {slots : List Slot} {r : Relation α}

theorem describes_touching {s t : Slot} {a b : CurveSite} (first : s.curve? = some a)
    (second : t.curve? = some b) :
    Usage.Describes ⟨[.curve, .curve], ["cc_ext", "cc_int"]⟩ .tangent [s, t]
      (curvesTouching p a b) := by
  unfold curvesTouching
  dsimp only
  split
  · exact describes_curves first second rfl rfl rfl List.mem_cons_self
  · exact describes_curves first second rfl rfl rfl (List.mem_cons_of_mem _ List.mem_cons_self)

omit [Scalar α] in
theorem describes_tangentLine {s t : Slot} {l : LineSite} {k : CurveSite} {side : Branch}
    (line : s.line? = some l) (curve : t.curve? = some k) :
    Usage.Describes ⟨[.line, .curve], ["lc"]⟩ .tangent [s, t]
      (.tangentLine l k side : Relation α) where
  fills := .cons (fills_line line) (.cons (fills_curve curve) .nil)
  form := List.mem_singleton_self _
  watched P := by
    simp [Relation.forall_mem_watched, Relation.points, Relation.lines, Relation.touched,
      entity_of_line line, entity_of_curve curve, Slot.Relied, ConstraintKind.Relies,
      ConstraintKind.alignments]

/-- **A bound relation is described by a usage of the kind of its constraint.** -/
theorem Binds.usage (bound : c.Binds p slots r) :
    ∃ u ∈ c.kind.usages, u.Describes c.kind slots r := by
  cases bound with
  | level kind pair | plumb kind pair | rightOf kind pair | above kind pair =>
      rw [kind]
      cases pair with
      | ends line =>
          exact ⟨_, List.mem_cons_self, describes_ends line (by decide) rfl rfl rfl rfl⟩
      | points first second =>
          exact ⟨_, List.mem_cons_of_mem _ List.mem_cons_self,
            describes_points first second rfl rfl rfl rfl⟩
  | coincident kind first second | apart kind first second =>
      rw [kind]
      exact ⟨_, List.mem_cons_self, describes_points first second rfl rfl rfl rfl⟩
  | offLine kind order point line =>
      rw [kind]
      rcases order with rfl | rfl
      · exact ⟨_, List.mem_cons_of_mem _ List.mem_cons_self,
          describes_point_line point line (by decide) rfl rfl rfl rfl⟩
      · refine ⟨_, List.mem_cons_of_mem _ (List.mem_cons_of_mem _ List.mem_cons_self), .swap ?_⟩
        exact describes_point_line point line (by decide) rfl rfl rfl rfl
  | parallel kind first second | perpendicular kind first second | angle kind first second
  | collinear kind first second | sameLength kind first second =>
      rw [kind]
      exact ⟨_, List.mem_cons_self, describes_lines first second (by decide) rfl rfl rfl rfl⟩
  | sameRadius kind first second =>
      rw [kind]
      exact ⟨_, List.mem_cons_of_mem _ List.mem_cons_self,
        describes_curves first second rfl rfl rfl (List.mem_singleton_self _)⟩
  | concentric kind first second =>
      rw [kind]
      exact ⟨_, List.mem_cons_self,
        describes_curves first second rfl rfl rfl (List.mem_singleton_self _)⟩
  | length kind line =>
      rw [kind]
      refine ⟨_, List.mem_cons_self, .cons (fills_line line) .nil, List.mem_cons_self, fun P => ?_⟩
      simp [Relation.forall_mem_watched, Relation.points, Relation.lines, Relation.touched,
        entity_of_line line, Slot.Relied, ConstraintKind.Relies, ConstraintKind.alignments]
  | radius kind curve | diameter kind curve =>
      rw [kind]
      refine ⟨_, List.mem_cons_self, .cons (fills_curve curve) .nil, List.mem_cons_self,
        fun P => ?_⟩
      simp [Relation.forall_mem_watched, Relation.points, Relation.lines, Relation.touched,
        Slot.Relied, ConstraintKind.Relies]
  | midpoint kind point line | onLine kind point line =>
      rw [kind]
      exact ⟨_, List.mem_cons_self, describes_point_line point line (by decide) rfl rfl rfl rfl⟩
  | mirror kind first second line =>
      rw [kind]
      refine ⟨_, List.mem_cons_self,
        .cons (fills_point first) (.cons (fills_point second) (.cons (fills_line line) .nil)),
        List.mem_cons_self, fun P => ?_⟩
      simp [Relation.forall_mem_watched, Relation.points, Relation.lines, Relation.touched,
        forall_mem_watchedPoint first, forall_mem_watchedPoint second, entity_of_line line,
        Slot.Relied, ConstraintKind.Relies, ConstraintKind.alignments, and_assoc]
  | tangentLine kind order line curve =>
      rw [kind]
      rcases order with rfl | rfl
      · exact ⟨_, List.mem_cons_self, describes_tangentLine line curve⟩
      · exact ⟨_, List.mem_cons_of_mem _ List.mem_cons_self,
          (describes_tangentLine line curve).swap⟩
  | touching kind first second =>
      rw [kind]
      exact ⟨_, List.mem_cons_of_mem _ (List.mem_cons_of_mem _ List.mem_cons_self),
        describes_touching first second⟩

omit [Scalar α] in
/-- The roles of an alignment are filled by its two points. -/
theorem exists_aligns {u : Usage} (listed : u ∈ ConstraintKind.horizontal.usages)
    (fills : List.Forall₂ Slot.Fills slots u.roles) : ∃ a b, Aligns slots a b := by
  rcases List.mem_pair.1 listed with rfl | rfl
  · obtain ⟨s, l, rfl, line⟩ := Slot.exists_single fills
    exact ⟨_, _, .ends line⟩
  · obtain ⟨s, t, a, b, rfl, first, second⟩ := Slot.exists_pair fills
    exact ⟨a, b, .points first second⟩

/-- A bound relation is described by whatever usage of the kind its slots fit. -/
theorem Binds.describes (bound : c.Binds p slots r) {u : Usage} (listed : u ∈ c.kind.usages)
    (fills : List.Forall₂ Slot.Fills slots u.roles) : u.Describes c.kind slots r := by
  obtain ⟨v, listed', described⟩ := bound.usage
  rwa [ConstraintKind.usage_unique listed listed' fills described.fills]

/-- The derivative of a bound relation is obtained as the table of kinds says. -/
theorem Binds.analytic_iff (bound : c.Binds p slots r) :
    r.analytic = true ↔
      c.kind.derivative = .analytic ∨ c.kind.derivative = .mixed ∧ r.form = "pp" := by
  cases bound with
  | touching kind first second =>
      rw [kind]
      unfold curvesTouching
      dsimp only
      split
      · simp [Relation.analytic, ConstraintKind.derivative]
      · simp [Relation.analytic, ConstraintKind.derivative]
  | _ kind =>
      rw [kind]
      simp [Relation.analytic, ConstraintKind.derivative, Relation.form]

/-- **Slots that fill the roles of a usage are bound.** -/
theorem exists_binds {u : Usage} (listed : u ∈ c.kind.usages)
    (fills : List.Forall₂ Slot.Fills slots u.roles) (p : Valuation α) :
    ∃ r, c.Binds p slots r := by
  cases kind : c.kind with
  | horizontal =>
      rw [kind] at listed
      obtain ⟨a, b, pair⟩ := exists_aligns listed fills
      exact ⟨_, .level kind pair⟩
  | vertical =>
      rw [kind] at listed
      obtain ⟨a, b, pair⟩ := exists_aligns listed fills
      exact ⟨_, .plumb kind pair⟩
  | horizontalDistance =>
      rw [kind] at listed
      obtain ⟨a, b, pair⟩ := exists_aligns listed fills
      exact ⟨_, .rightOf kind pair⟩
  | verticalDistance =>
      rw [kind] at listed
      obtain ⟨a, b, pair⟩ := exists_aligns listed fills
      exact ⟨_, .above kind pair⟩
  | coincident =>
      cases List.mem_singleton.1 (kind ▸ listed)
      obtain ⟨s, t, a, b, rfl, first, second⟩ := Slot.exists_pair fills
      exact ⟨_, .coincident kind first second⟩
  | distance =>
      rw [kind] at listed
      simp only [ConstraintKind.usages, List.mem_cons, List.not_mem_nil, or_false] at listed
      rcases listed with rfl | rfl | rfl
      · obtain ⟨s, t, a, b, rfl, first, second⟩ := Slot.exists_pair fills
        exact ⟨_, .apart kind first second⟩
      · obtain ⟨s, t, a, l, rfl, point, line⟩ := Slot.exists_pair fills
        exact ⟨_, .offLine kind (.inl rfl) point line⟩
      · obtain ⟨s, t, l, a, rfl, line, point⟩ := Slot.exists_pair fills
        exact ⟨_, .offLine kind (.inr rfl) point line⟩
  | parallel =>
      cases List.mem_singleton.1 (kind ▸ listed)
      obtain ⟨s, t, l, m, rfl, first, second⟩ := Slot.exists_pair fills
      exact ⟨_, .parallel kind first second⟩
  | perpendicular =>
      cases List.mem_singleton.1 (kind ▸ listed)
      obtain ⟨s, t, l, m, rfl, first, second⟩ := Slot.exists_pair fills
      exact ⟨_, .perpendicular kind first second⟩
  | angle =>
      cases List.mem_singleton.1 (kind ▸ listed)
      obtain ⟨s, t, l, m, rfl, first, second⟩ := Slot.exists_pair fills
      exact ⟨_, .angle kind first second⟩
  | collinear =>
      cases List.mem_singleton.1 (kind ▸ listed)
      obtain ⟨s, t, l, m, rfl, first, second⟩ := Slot.exists_pair fills
      exact ⟨_, .collinear kind first second⟩
  | equal =>
      rw [kind] at listed
      rcases List.mem_pair.1 listed with rfl | rfl
      · obtain ⟨s, t, l, m, rfl, first, second⟩ := Slot.exists_pair fills
        exact ⟨_, .sameLength kind first second⟩
      · obtain ⟨s, t, a, b, rfl, first, second⟩ := Slot.exists_pair fills
        exact ⟨_, .sameRadius kind first second⟩
  | length =>
      cases List.mem_singleton.1 (kind ▸ listed)
      obtain ⟨s, l, rfl, line⟩ := Slot.exists_single fills
      exact ⟨_, .length kind line⟩
  | radius =>
      cases List.mem_singleton.1 (kind ▸ listed)
      obtain ⟨s, k, rfl, curve⟩ := Slot.exists_single fills
      exact ⟨_, .radius kind curve⟩
  | diameter =>
      cases List.mem_singleton.1 (kind ▸ listed)
      obtain ⟨s, k, rfl, curve⟩ := Slot.exists_single fills
      exact ⟨_, .diameter kind curve⟩
  | concentric =>
      cases List.mem_singleton.1 (kind ▸ listed)
      obtain ⟨s, t, a, b, rfl, first, second⟩ := Slot.exists_pair fills
      exact ⟨_, .concentric kind first second⟩
  | midpoint =>
      cases List.mem_singleton.1 (kind ▸ listed)
      obtain ⟨s, t, a, l, rfl, point, line⟩ := Slot.exists_pair fills
      exact ⟨_, .midpoint kind point line⟩
  | pointOnLine =>
      cases List.mem_singleton.1 (kind ▸ listed)
      obtain ⟨s, t, a, l, rfl, point, line⟩ := Slot.exists_pair fills
      exact ⟨_, .onLine kind point line⟩
  | symmetric =>
      cases List.mem_singleton.1 (kind ▸ listed)
      obtain ⟨s, t, v, a, b, l, rfl, first, second, line⟩ := Slot.exists_triple fills
      exact ⟨_, .mirror kind first second line⟩
  | tangent =>
      rw [kind] at listed
      simp only [ConstraintKind.usages, List.mem_cons, List.not_mem_nil, or_false] at listed
      rcases listed with rfl | rfl | rfl
      · obtain ⟨s, t, l, k, rfl, line, curve⟩ := Slot.exists_pair fills
        exact ⟨_, .tangentLine kind (.inl rfl) line curve⟩
      · obtain ⟨s, t, k, l, rfl, curve, line⟩ := Slot.exists_pair fills
        exact ⟨_, .tangentLine kind (.inr rfl) line curve⟩
      · obtain ⟨s, t, a, b, rfl, first, second⟩ := Slot.exists_pair fills
        exact ⟨_, .touching kind first second⟩

end Constraint

end PlanarSketch
