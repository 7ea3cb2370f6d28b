import PlanarSketch.Proofs.Relation.Renaming
import PlanarSketch.Proofs.Relation.Sites

/-!
# Binding to entities at other places

A constraint is bound to slots, and a slot holds an entity at its place.  If the entities stand at
other places, where a renaming of positions has brought them, then the constraint becomes the
renamed relation (`Constraint.relation_rename`).  Its branch is the same, since it is chosen by the
geometry; and it watches the same entities (`Relation.watched_rename`).
-/

namespace PlanarSketch

set_option autoImplicit false

variable {α : Type} {f : ℕ → ℕ}

/-- A place with its first position renamed. -/
def Place.rename (f : ℕ → ℕ) (place : Place) : Place := { place with offset := f place.offset }

/-- A slot with its entity at the renamed place. -/
def Slot.rename (f : ℕ → ℕ) (s : Slot) : Slot := { s with place := s.place.rename f }

/-- A renaming keeps the parameters of the entity at a place together. -/
def Place.Follows (f : ℕ → ℕ) (place : Place) : Prop :=
  PlanarSketch.Follows f place.offset place.kind.paramCount

/-! ## Watched entities -/

namespace Relation

theorem watchedPoint_rename (f : ℕ → ℕ) (a : PointSite) :
    watchedPoint (a.rename f) = watchedPoint a := by
  obtain ⟨entity, base, kind, anchor⟩ := a
  cases kind with
  | arc =>
      cases anchor with
      | _ => rfl
  | point | line | circle => rfl

theorem watched_rename (f : ℕ → ℕ) (r : Relation α) : (r.rename f).watched = r.watched := by
  cases r with
  | _ =>
      simp [watched, points, lines, rename, watchedPoint_rename, LineSite.rename, CurveSite.rename]

end Relation

/-! ## Sites of slots -/

namespace Slot

variable {s : Slot}

theorem point?_rename (s : Slot) : (s.rename f).point? = s.point?.map (PointSite.rename f) := by
  unfold point?
  rw [Option.map_map]
  rfl

theorem line?_rename (s : Slot) : (s.rename f).line? = s.line?.map (LineSite.rename f) := by
  unfold line?
  rw [apply_ite (Option.map (LineSite.rename f))]
  rfl

theorem curve?_rename (s : Slot) : (s.rename f).curve? = s.curve?.map (CurveSite.rename f) := by
  unfold curve?
  rw [apply_ite (Option.map (CurveSite.rename f))]
  rfl

theorem point_rename {a : PointSite} (point : s.point? = some a) :
    (s.rename f).point? = some (a.rename f) := by
  rw [point?_rename, point, Option.map_some]

theorem line_rename {l : LineSite} (line : s.line? = some l) :
    (s.rename f).line? = some (l.rename f) := by
  rw [line?_rename, line, Option.map_some]

theorem curve_rename {k : CurveSite} (curve : s.curve? = some k) :
    (s.rename f).curve? = some (k.rename f) := by
  rw [curve?_rename, curve, Option.map_some]

theorem follows_of_point {a : PointSite} (follows : s.place.Follows f)
    (at_slot : Constraint.At s a) : a.Follows f := by
  obtain ⟨-, base, kind⟩ := at_slot
  unfold PointSite.Follows
  rw [base, kind]
  exact follows

theorem follows_of_line {l : LineSite} (follows : s.place.Follows f) (line : s.line? = some l) :
    l.Follows f := by
  obtain ⟨kind, rfl⟩ := Constraint.line_eq_some line
  have size : s.place.kind.paramCount = 4 := by
    rw [show s.place.kind = .line from kind]
    rfl
  unfold Place.Follows at follows
  rw [size] at follows
  exact LineSite.follows_of_four follows

theorem follows_of_curve {k : CurveSite} (follows : s.place.Follows f)
    (curve : s.curve? = some k) : k.Follows f := by
  obtain ⟨round, rfl⟩ := Constraint.curve_eq_some curve
  have size : 3 ≤ s.place.kind.paramCount := by
    change s.place.kind.isCurve = true at round
    cases kind : s.place.kind with
    | circle | arc => decide
    | point | line => simp [kind, EntityKind.isCurve] at round
  exact CurveSite.follows_of_three fun k inside => follows k (inside.trans_le size)

end Slot

/-! ## Bound relations -/

namespace Constraint

variable {slots : List Slot}

theorem Aligns.rename {a b : PointSite} (pair : Aligns slots a b) :
    Aligns (slots.map (Slot.rename f)) (a.rename f) (b.rename f) := by
  cases pair with
  | ends line => exact .ends (Slot.line_rename line)
  | points first second => exact .points (Slot.point_rename first) (Slot.point_rename second)

theorem mem_of_order {s t : Slot} (order : slots = [s, t] ∨ slots = [t, s]) :
    s ∈ slots ∧ t ∈ slots := by
  rcases order with rfl | rfl
  · simp
  · simp

theorem order_rename {s t : Slot} (order : slots = [s, t] ∨ slots = [t, s]) :
    slots.map (Slot.rename f) = [s.rename f, t.rename f] ∨
      slots.map (Slot.rename f) = [t.rename f, s.rename f] :=
  order.imp (congrArg (List.map (Slot.rename f))) (congrArg (List.map (Slot.rename f)))

variable [Scalar α] {c : Constraint α} {p : Valuation α} {r : Relation α}

theorem Binds.follows (bound : c.Binds p slots r) (follows : ∀ s ∈ slots, s.place.Follows f) :
    r.Follows f := by
  obtain ⟨points, lines, curves⟩ := bound.sites
  refine ⟨fun a among => ?_, fun l among => ?_, fun k among => ?_⟩
  · obtain ⟨s, slot, at_slot⟩ := points a among
    exact Slot.follows_of_point (follows s slot) at_slot
  · obtain ⟨s, slot, line⟩ := lines l among
    exact Slot.follows_of_line (follows s slot) line
  · obtain ⟨s, slot, curve⟩ := curves k among
    exact Slot.follows_of_curve (follows s slot) curve

theorem rename_curvesTouching {a b : CurveSite} (first : a.Follows f) (second : b.Follows f) :
    (curvesTouching (p ∘ f) a b).rename f = curvesTouching p (a.rename f) (b.rename f) := by
  have radius {k : CurveSite} (follows : k.Follows f) :
      (k.rename f).radius p = k.radius (p ∘ f) := by
    simp only [CurveSite.radius, CurveSite.radiusIndex, CurveSite.rename, Function.comp_apply,
      follows.2]
  have gap : (a.rename f).centerDistance (b.rename f) p = a.centerDistance b (p ∘ f) := by
    simp only [CurveSite.centerDistance, CurveSite.rename, Function.comp_apply, first.1, second.1]
  unfold curvesTouching
  simp only [radius first, radius second, gap]
  split
  · rfl
  · rfl

/-- What a constraint becomes at one place it becomes at the other. -/
theorem Binds.rename (bound : c.Binds (p ∘ f) slots r)
    (follows : ∀ s ∈ slots, s.place.Follows f) :
    c.Binds p (slots.map (Slot.rename f)) (r.rename f) := by
  -- Sites are renamed with their slots.  Where a branch is read off the geometry, it is the same,
  -- because the renamed sites read the same values.
  cases bound with
  | level kind pair => exact .level kind pair.rename
  | plumb kind pair => exact .plumb kind pair.rename
  | rightOf kind pair => exact .rightOf kind pair.rename
  | above kind pair => exact .above kind pair.rename
  | coincident kind first second =>
      exact .coincident kind (Slot.point_rename first) (Slot.point_rename second)
  | apart kind first second =>
      exact .apart kind (Slot.point_rename first) (Slot.point_rename second)
  | @offLine s t slots a l kind order point line =>
      have among := mem_of_order order
      have bound := Binds.offLine (p := p) kind (order_rename (f := f) order)
        (Slot.point_rename point) (Slot.line_rename line)
      rwa [LineSite.signedDistance?_rename (Slot.follows_of_line (follows t among.2) line),
        PointSite.xy_rename (Slot.follows_of_point (follows s among.1) (at_of_point point))]
        at bound
  | parallel kind first second =>
      exact .parallel kind (Slot.line_rename first) (Slot.line_rename second)
  | perpendicular kind first second =>
      exact .perpendicular kind (Slot.line_rename first) (Slot.line_rename second)
  | angle kind first second =>
      exact .angle kind (Slot.line_rename first) (Slot.line_rename second)
  | collinear kind first second =>
      exact .collinear kind (Slot.line_rename first) (Slot.line_rename second)
  | sameLength kind first second =>
      exact .sameLength kind (Slot.line_rename first) (Slot.line_rename second)
  | sameRadius kind first second =>
      exact .sameRadius kind (Slot.curve_rename first) (Slot.curve_rename second)
  | length kind line => exact .length kind (Slot.line_rename line)
  | radius kind curve => exact .radius kind (Slot.curve_rename curve)
  | diameter kind curve => exact .diameter kind (Slot.curve_rename curve)
  | concentric kind first second =>
      exact .concentric kind (Slot.curve_rename first) (Slot.curve_rename second)
  | midpoint kind point line =>
      exact .midpoint kind (Slot.point_rename point) (Slot.line_rename line)
  | onLine kind point line =>
      exact .onLine kind (Slot.point_rename point) (Slot.line_rename line)
  | mirror kind first second line =>
      exact .mirror kind (Slot.point_rename first) (Slot.point_rename second)
        (Slot.line_rename line)
  | @tangentLine s t slots l k kind order line curve =>
      have among := mem_of_order order
      have bound := Binds.tangentLine (p := p) kind (order_rename (f := f) order)
        (Slot.line_rename line) (Slot.curve_rename curve)
      have center : (k.rename f).center p = k.center (p ∘ f) := by
        have round := Slot.follows_of_curve (follows t among.2) curve
        simp only [CurveSite.center, CurveSite.rename, Function.comp_apply, round.1]
      rwa [LineSite.signedDistance?_rename (Slot.follows_of_line (follows s among.1) line), center]
        at bound
  | @touching s t a b kind first second =>
      rw [rename_curvesTouching
        (Slot.follows_of_curve (follows s List.mem_cons_self) first)
        (Slot.follows_of_curve (follows t (List.mem_cons_of_mem s List.mem_cons_self)) second)]
      exact .touching kind (Slot.curve_rename first) (Slot.curve_rename second)

/-- **A constraint on entities at other places becomes the renamed relation.** -/
theorem relation_rename (related : c.relation (p ∘ f) slots = .ok r)
    (follows : ∀ s ∈ slots, s.place.Follows f) :
    c.relation p (slots.map (Slot.rename f)) = .ok (r.rename f) :=
  relation_of_binds ((binds_of_relation related).rename follows)

end Constraint

end PlanarSketch
