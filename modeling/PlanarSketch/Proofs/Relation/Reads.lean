import PlanarSketch.Proofs.Relation.Sites
import PlanarSketch.Relation.Residual

/-!
# What a relation reads

A residual reads the parameters of the sites that its relation is about, and no others: it is
the same at two valuations that agree there (`Relation.residual_congr`).  The sites of a bound
relation stand at the places of its slots, so everything that is read belongs to an entity of
the constraint (`Constraint.Binds.reads`).
-/

namespace PlanarSketch

set_option autoImplicit false

/-- The positions of the parameters of the entity that a point is on. -/
def PointSite.reads (a : PointSite) : List Nat := List.range' a.base a.kind.paramCount

/-- The positions of the ends of a line. -/
def LineSite.reads (l : LineSite) : List Nat := List.range' l.base 4

/-- The positions of the center and the radius of a curve. -/
def CurveSite.reads (c : CurveSite) : List Nat := List.range' c.base 3

/-- The positions that the residual of a relation may depend on. -/
def Relation.reads {α : Type} (r : Relation α) : List Nat :=
  r.points.flatMap PointSite.reads ++ r.lines.flatMap LineSite.reads ++
    r.curves.flatMap CurveSite.reads

variable {α : Type} {p q : Valuation α}

theorem Relation.mem_reads {r : Relation α} {i : Nat} :
    i ∈ r.reads ↔ (∃ a ∈ r.points, i ∈ a.reads) ∨ (∃ l ∈ r.lines, i ∈ l.reads) ∨
      ∃ c ∈ r.curves, i ∈ c.reads := by
  simp only [reads, List.mem_append, List.mem_flatMap, or_assoc]

/-- The end of an arc is computed from its radius and one of its angles. -/
theorem PointSite.mem_reads_of_angleIndex {a : PointSite} {i : Nat}
    (angle : a.angleIndex? = some i) : a.base + 2 ∈ a.reads ∧ i ∈ a.reads := by
  have size : EntityKind.arc.paramCount = 5 := rfl
  unfold angleIndex? at angle
  unfold reads
  split at angle
  · rename_i arc _
    cases angle
    rw [arc, size, List.mem_range'_1, List.mem_range'_1]
    omega
  · rename_i arc _
    cases angle
    rw [arc, size, List.mem_range'_1, List.mem_range'_1]
    omega
  · cases angle

theorem Valuation.eq_of_range {base count : Nat} (same : ∀ i ∈ List.range' base count, p i = q i)
    {k : Nat} (inside : k < count) : p (base + k) = q (base + k) :=
  same _ (List.mem_range'_1.2 ⟨Nat.le_add_right _ _, Nat.add_lt_add_left inside base⟩)

/-- Two valuations agree on the ends of a line. -/
def LineSite.Agrees (l : LineSite) (p q : Valuation α) : Prop :=
  (p l.base = q l.base ∧ p (l.base + 1) = q (l.base + 1)) ∧
    p (l.base + 2) = q (l.base + 2) ∧ p (l.base + 3) = q (l.base + 3)

/-- Two valuations agree on the center and the radius of a curve. -/
def CurveSite.Agrees (c : CurveSite) (p q : Valuation α) : Prop :=
  (p c.base = q c.base ∧ p (c.base + 1) = q (c.base + 1)) ∧ p (c.base + 2) = q (c.base + 2)

theorem LineSite.agrees_of_reads {l : LineSite} (same : ∀ i ∈ l.reads, p i = q i) :
    l.Agrees p q := by
  have near (k : Nat) (inside : k < 4) : p (l.base + k) = q (l.base + k) :=
    Valuation.eq_of_range same inside
  exact ⟨⟨near 0 (by decide), near 1 (by decide)⟩, near 2 (by decide), near 3 (by decide)⟩

theorem CurveSite.agrees_of_reads {c : CurveSite} (same : ∀ i ∈ c.reads, p i = q i) :
    c.Agrees p q := by
  have near (k : Nat) (inside : k < 3) : p (c.base + k) = q (c.base + k) :=
    Valuation.eq_of_range same inside
  exact ⟨⟨near 0 (by decide), near 1 (by decide)⟩, near 2 (by decide)⟩

variable [Scalar α]

namespace LineSite.Agrees

variable {l m : LineSite}

theorem direction (same : l.Agrees p q) : l.direction p = l.direction q := by
  obtain ⟨⟨x, y⟩, x', y'⟩ := same
  rw [LineSite.direction, LineSite.direction, x, y, x', y']

theorem length (same : l.Agrees p q) : l.length p = l.length q := by
  rw [LineSite.length, LineSite.length, same.direction]

theorem signedDistance? (same : l.Agrees p q) (xy : α × α) :
    l.signedDistance? p xy = l.signedDistance? q xy := by
  rw [LineSite.signedDistance?, LineSite.signedDistance?, same.direction, same.1.1, same.1.2]

theorem linePair (first : l.Agrees p q) (second : m.Agrees p q) :
    LinePair.of l m p = LinePair.of l m q := by
  rw [LinePair.of, LinePair.of, first.direction, second.direction]

end LineSite.Agrees

theorem PointSite.xy_congr {a : PointSite} (same : ∀ i ∈ a.reads, p i = q i) :
    a.xy p = a.xy q := by
  obtain ⟨entity, base, kind, anchor⟩ := a
  have near (k : Nat) (inside : k < kind.paramCount) : p (base + k) = q (base + k) :=
    Valuation.eq_of_range same inside
  cases kind with
  | arc =>
      have center := And.intro (near 0 (by decide)) (near 1 (by decide))
      have size := near 2 (by decide)
      have turns := And.intro (near 3 (by decide)) (near 4 (by decide))
      rw [Nat.add_zero] at center
      cases anchor with
      | start | stop | own | center =>
          simp only [xy, angleIndex?, coordinateIndex, center, size, turns]
  | line =>
      have start := And.intro (near 0 (by decide)) (near 1 (by decide))
      have stop := And.intro (near 2 (by decide)) (near 3 (by decide))
      rw [Nat.add_zero] at start
      cases anchor with
      | start | stop | own | center => simp only [xy, angleIndex?, coordinateIndex, start, stop]
  | point | circle =>
      have first := near 0 (by decide)
      have second := near 1 (by decide)
      rw [Nat.add_zero] at first
      simp only [xy, angleIndex?, coordinateIndex, first, second]

/-- Whether the angle of a point is beyond all numbers is seen where the point is read. -/
theorem PointSite.endless_congr {a : PointSite} (same : ∀ i ∈ a.reads, p i = q i) :
    a.endless p = a.endless q := by
  unfold endless
  cases angle : a.angleIndex? with
  | none => rfl
  | some i => simp only [same i (mem_reads_of_angleIndex angle).2]

namespace Relation

omit [Scalar α] in
/-- Valuations that agree on what a relation reads agree on each of its sites. -/
theorem agrees_of_reads {r : Relation α} (same : ∀ i ∈ r.reads, p i = q i) :
    (∀ a ∈ r.points, ∀ i ∈ a.reads, p i = q i) ∧ (∀ l ∈ r.lines, l.Agrees p q) ∧
      ∀ c ∈ r.curves, c.Agrees p q := by
  refine ⟨fun a among i inside => same i (mem_reads.2 (.inl ⟨a, among, inside⟩)), ?_, ?_⟩
  · intro l among
    refine LineSite.agrees_of_reads fun i inside => same i ?_
    exact mem_reads.2 (.inr (.inl ⟨l, among, inside⟩))
  · intro c among
    refine CurveSite.agrees_of_reads fun i inside => same i ?_
    exact mem_reads.2 (.inr (.inr ⟨c, among, inside⟩))

/-- **A residual depends only on what its relation reads.** -/
theorem residual_congr {r : Relation α} (same : ∀ i ∈ r.reads, p i = q i) :
    r.residual p = r.residual q := by
  obtain ⟨sites, lines, curves⟩ := agrees_of_reads same
  have points : ∀ a ∈ r.points, a.xy p = a.xy q := fun a among => PointSite.xy_congr (sites a among)
  clear same sites
  cases r with
  | coincident | level | plumb | rightOf | above | apart =>
      simp only [Relation.points, List.forall_mem_cons] at points
      simp only [residual, points]
  | offLine a l | onLine a l =>
      have point := points a List.mem_cons_self
      have line := lines l List.mem_cons_self
      simp only [residual, point, line.signedDistance?]
  | midpoint a l =>
      have point := points a List.mem_cons_self
      obtain ⟨⟨x, y⟩, x', y'⟩ := lines l List.mem_cons_self
      simp only [residual, point, x, y, x', y']
  | mirror a b l =>
      have first := points a List.mem_cons_self
      have second := points b (List.mem_cons_of_mem a List.mem_cons_self)
      have line := lines l List.mem_cons_self
      simp only [residual, first, second, line.signedDistance?, line.direction]
  | parallel l m | perpendicular l m | angle l m | sameLength l m =>
      have first := lines l List.mem_cons_self
      have second := lines m (List.mem_cons_of_mem l List.mem_cons_self)
      simp only [residual, first.linePair second]
  | length l => simp only [residual, (lines l List.mem_cons_self).length]
  | collinear l m =>
      have first := lines l List.mem_cons_self
      obtain ⟨⟨x, y⟩, x', y'⟩ := lines m (List.mem_cons_of_mem l List.mem_cons_self)
      rw [residual, residual, first.direction, first.1.1, first.1.2]
      simp only [Nat.add_assoc] at *
      rw [x, y, x', y']
  | tangentLine l c =>
      have line := lines l List.mem_cons_self
      have center := curves c List.mem_cons_self
      simp only [residual, CurveSite.center, CurveSite.radius, CurveSite.radiusIndex,
        center.1.1, center.1.2, center.2, line.signedDistance?]
  | sameRadius | radius | diameter | concentric | tangentOuter | tangentInner =>
      simp only [Relation.curves, List.forall_mem_cons, CurveSite.Agrees] at curves
      simp only [residual, CurveSite.radius, CurveSite.radiusIndex, CurveSite.centerDistance,
        curves]

end Relation

namespace Constraint.Binds

variable {c : Constraint α} {slots : List Slot} {r : Relation α}

/-- Everything that a bound relation reads belongs to an entity in one of its slots. -/
theorem reads (bound : c.Binds p slots r) :
    ∀ i ∈ r.reads, ∃ s ∈ slots, s.place.offset ≤ i ∧ i < s.place.stop := by
  intro i among
  obtain ⟨points, lines, curves⟩ := bound.sites
  rcases Relation.mem_reads.1 among with
    ⟨a, present, inside⟩ | ⟨l, present, inside⟩ | ⟨k, present, inside⟩
  · obtain ⟨s, slot, -, base, kind⟩ := points a present
    rw [PointSite.reads, List.mem_range'_1, base, kind] at inside
    exact ⟨s, slot, inside⟩
  · obtain ⟨s, slot, line⟩ := lines l present
    obtain ⟨kind, rfl⟩ := line_eq_some line
    have size : s.place.stop = s.place.offset + 4 := by
      rw [Place.stop, show s.place.kind = .line from kind]
      rfl
    rw [LineSite.reads, List.mem_range'_1] at inside
    exact ⟨s, slot, inside.1, size ▸ inside.2⟩
  · obtain ⟨s, slot, curve⟩ := curves k present
    obtain ⟨round, rfl⟩ := curve_eq_some curve
    have size : 3 ≤ s.place.kind.paramCount := by
      change s.place.kind.isCurve = true at round
      cases kind : s.place.kind with
      | circle | arc => decide
      | point | line => simp [kind, EntityKind.isCurve] at round
    rw [CurveSite.reads, List.mem_range'_1] at inside
    exact ⟨s, slot, inside.1, by unfold Place.stop; dsimp only at inside; omega⟩

end Constraint.Binds

end PlanarSketch
