import PlanarSketch.Proofs.Conflict.Turns

/-!
# Conflicts of distances

A distance is measured between two points, or between a point and a line, and it is the same in both
directions.  So its constraint may name the two things in either order, and the center of a curve
by either of its names (`Mention.thing`, `Constraint.MeasuresSame`).  However a pair of things is
named, it has one distance (`Block.target_eq_of_measuresSame`).

Conflicts are not looked for in this way: two distances are compared only when they name the same
things in the same order, with selectors that are spelled alike.  Otherwise distances that
contradict each other are not reported (`distances_compared_by_name`).
-/

namespace PlanarSketch

set_option autoImplicit false

/-! ## What is named -/

/-- The spelling of a selector on an entity of a kind, with the name of a center left out. -/
def EntityKind.spelling (kind : EntityKind) (selector : String) : String :=
  if kind.isCurve = true ∧ selector = "center" then "" else selector

/-- Selectors with one spelling are equal, or they are the two names of a center. -/
theorem EntityKind.spelling_eq_iff {kind : EntityKind} {s t : String} :
    kind.spelling s = kind.spelling t ↔
      s = t ∨ kind.isCurve = true ∧ (s = "" ∧ t = "center" ∨ s = "center" ∧ t = "") := by
  unfold spelling
  by_cases curve : kind.isCurve = true
  · by_cases first : s = "center"
    · by_cases second : t = "center"
      · simp [first, second]
      · subst first
        have other : ¬"center" = t := Ne.symm second
        have empty : "" = t ↔ t = "" := eq_comm
        simp [curve, second, other, empty]
    · by_cases second : t = "center"
      · simp [curve, first, second]
      · simp [first, second]
  · simp [curve]

/-- A center has two names. -/
theorem EntityKind.anchor?_of_curve {kind : EntityKind} (curve : kind.isCurve = true) :
    kind.anchor? "" = some .own ∧ kind.anchor? "center" = some .center := by
  cases kind with
  | point | line => cases curve
  | circle | arc => decide

section Things

variable {α : Type} [Scalar α]

/-- The point or line that a mention is about, whichever way it is named. -/
def Mention.thing (m : Mention α) : Int × String :=
  (m.entity.id, m.entity.kind.spelling m.selector)

/-- Two constraints are about the same things, named in any order. -/
def Constraint.MeasuresSame (entities : List (Entity α)) (a b : Constraint α) : Prop :=
  ((a.mentions entities).map Mention.thing).Perm ((b.mentions entities).map Mention.thing)

end Things

/-! ## Slots -/

namespace Slot

/-- Two slots stand for one point or line, whichever way it is named. -/
structure Alike (s t : Slot) : Prop where
  place : s.place = t.place
  spelling : s.kind.spelling s.selector = s.kind.spelling t.selector

variable {s t : Slot}

theorem Alike.eq_or_center (alike : s.Alike t) : s = t ∨ s.place = t.place ∧ s.kind.isCurve = true ∧
    (s.selector = "" ∧ t.selector = "center" ∨ s.selector = "center" ∧ t.selector = "") := by
  obtain ⟨place, spelling⟩ := alike
  rcases EntityKind.spelling_eq_iff.1 spelling with same | ⟨curve, names⟩
  · obtain ⟨P, name⟩ := s
    obtain ⟨Q, name'⟩ := t
    cases place
    cases same
    exact .inl rfl
  · exact .inr ⟨place, curve, names⟩

/-- Alike slots stand for the same line. -/
theorem Alike.line (alike : s.Alike t) {l : LineSite} (line : s.line? = some l) :
    t.line? = some l := by
  rcases alike.eq_or_center with rfl | ⟨-, curve, -⟩
  · exact line
  · rw [(Constraint.line_eq_some line).1] at curve
    cases curve

/-- Alike slots stand for points with the same coordinates. -/
theorem Alike.point {α : Type} [Scalar α] (alike : s.Alike t) {a : PointSite}
    (point : s.point? = some a) :
    ∃ b, t.point? = some b ∧ ∀ p : Valuation α, b.xy p = a.xy p := by
  rcases alike.eq_or_center with rfl | ⟨place, curve, names⟩
  · exact ⟨a, point, fun _ => rfl⟩
  · obtain ⟨own, center⟩ := EntityKind.anchor?_of_curve curve
    -- Neither name of the center leads to an angle, so both read the same two positions.
    have coordinates (p : Valuation α) :
        PointSite.xy ⟨s.place.id, s.place.offset, s.kind, .own⟩ p =
          PointSite.xy ⟨s.place.id, s.place.offset, s.kind, .center⟩ p := by
      unfold PointSite.xy PointSite.angleIndex? PointSite.coordinateIndex
      cases s.kind with
      | _ => rfl
    unfold Slot.point? Slot.kind at *
    rw [← place]
    rcases names with ⟨name, name'⟩ | ⟨name, name'⟩
    · rw [name, own] at point
      cases point
      rw [name', center]
      exact ⟨_, rfl, fun p => (coordinates p).symm⟩
    · rw [name, center] at point
      cases point
      rw [name', own]
      exact ⟨_, rfl, coordinates⟩

end Slot

/-! ## Distances between the same things -/

theorem PointSite.location_congr {x y : PointSite} {p : Valuation ℝ} (same : y.xy p = x.xy p) :
    y.location p = x.location p := by
  rw [location, location, same]

namespace Constraint

/-- A distance is measured between two slots. -/
theorem Binds.slots_of_distance {α : Type} [Scalar α] {c : Constraint α} {p : Valuation α}
    {slots : List Slot} {r : Relation α} (bound : c.Binds p slots r)
    (distance : c.kind = .distance) : ∃ s t, slots = [s, t] := by
  cases bound with
  | apart => exact ⟨_, _, rfl⟩
  | offLine _ order =>
      rcases order with rfl | rfl
      · exact ⟨_, _, rfl⟩
      · exact ⟨_, _, rfl⟩
  | _ kind => cases kind.symm.trans distance

/-- **A distance is the same however its two things are named**: between slots that are alike, in
either order, the relation holds at the same parameters. -/
theorem Binds.renamed {a b : Constraint ℝ} {start : Valuation ℝ} {r : Relation ℝ}
    {s t s' t' : Slot} {slots : List Slot} (bound : a.Binds start [s, t] r)
    (distance : a.kind = .distance) (distance' : b.kind = .distance) (first : s.Alike s')
    (second : t.Alike t') (order : slots = [s', t'] ∨ slots = [t', s']) :
    ∃ r', b.Binds start slots r' ∧ ∀ p, r'.Holds p ↔ (r.withTarget b.target).Holds p := by
  cases bound with
  | apart _ point point' =>
      obtain ⟨x, found, same⟩ := first.point (α := ℝ) point
      obtain ⟨y, found', same'⟩ := second.point (α := ℝ) point'
      have near (p : Valuation ℝ) := PointSite.location_congr (same p)
      have far (p : Valuation ℝ) := PointSite.location_congr (same' p)
      rcases order with rfl | rfl
      · refine ⟨_, .apart distance' found found', fun p => ?_⟩
        rw [Relation.Holds, Relation.withTarget, Relation.Holds, near, far]
      · refine ⟨_, .apart distance' found' found, fun p => ?_⟩
        rw [Relation.Holds, Relation.withTarget, Relation.Holds, near, far, dist_comm]
  | offLine _ here point line =>
      -- Whichever slot holds the line, the alike one holds the same line, on the same side.
      rcases here with here | here
      · cases here
        obtain ⟨x, found, same⟩ := first.point (α := ℝ) point
        refine ⟨_, .offLine distance' order found (second.line line), fun p => ?_⟩
        rw [Relation.Holds, Relation.withTarget, Relation.Holds, same,
          PointSite.location_congr (same p)]
      · cases here
        obtain ⟨x, found, same⟩ := second.point (α := ℝ) point
        refine ⟨_, .offLine distance' order.symm found (first.line line), fun p => ?_⟩
        rw [Relation.Holds, Relation.withTarget, Relation.Holds, same,
          PointSite.location_congr (same p)]
  | _ kind => cases kind.symm.trans distance

end Constraint

namespace Block

section Binding

variable {α : Type} [Scalar α] {entities : List (Entity α)} {layout : Layout}
variable {start : Valuation α} {c : Constraint α} {C : Block α}

/-- A bound distance is one between the slots of its two mentions, each at the place of its
entity. -/
theorem slots_of_distance (laid : Layout.ofEntities entities = .ok layout)
    (compiled : compile entities layout start c = .ok C) (distance : c.kind = .distance) :
    ∃ s t m n, c.Binds start [s, t] C.relation ∧ c.mentions entities = [m, n] ∧
      m.At entities s ∧ n.At entities t ∧ layout.place? s.place.id = some s.place ∧
        layout.place? t.place.id = some t.place := by
  obtain ⟨distinct, rfl⟩ := Layout.ofEntities_eq_ok.1 laid
  obtain ⟨places, found, related, -, -, -⟩ := compile_eq_ok compiled
  have bound := Constraint.binds_of_relation related
  have named := located_of_placesOf distinct found
  obtain ⟨s, t, slots⟩ := bound.slots_of_distance distance
  have placed (u : Slot) (slot : u ∈ [s, t]) :
      (Layout.tiling entities).place? u.place.id = some u.place := by
    have among : u.place ∈ places := by
      rw [← map_place_slotsOf c places, slots]
      exact List.mem_map_of_mem slot
    obtain ⟨id, -, here⟩ := (mem_located_iff (placesOf_eq_ok found)).1 among
    rwa [(place?_eq_some here).2]
  rw [slots] at bound named
  obtain ⟨m, rest, first, later, mentions⟩ := List.forall₂_cons_right_iff.1 named
  obtain ⟨n, rest, second, none, rfl⟩ := List.forall₂_cons_right_iff.1 later
  cases none
  exact ⟨s, t, m, n, bound, mentions, first, second, placed s (by simp), placed t (by simp)⟩

/-- Slots of mentions of one thing are alike. -/
theorem alike_of_thing_eq {m n : Mention α} {s t : Slot} (first : m.At entities s)
    (second : n.At entities t) (placed : layout.place? s.place.id = some s.place)
    (placed' : layout.place? t.place.id = some t.place) (same : m.thing = n.thing) :
    s.Alike t := by
  obtain ⟨id, spelling⟩ := Prod.mk.inj same
  have place : s.place = t.place := by
    rw [first.id, id, ← second.id, placed'] at placed
    exact (Option.some.inj placed).symm
  have kinds : m.entity.kind = n.entity.kind := by
    rw [← first.kind, ← second.kind, Slot.kind, Slot.kind, place]
  refine ⟨place, ?_⟩
  rw [first.kind, first.selector, second.selector, spelling, kinds]

end Binding

variable {entities : List (Entity ℝ)} {layout : Layout} {start p : Valuation ℝ}
variable {a b : Constraint ℝ} {A B : Block ℝ}

/-- **A pair of things has one distance**, however it is named. -/
theorem target_eq_of_measuresSame (laid : Layout.ofEntities entities = .ok layout)
    (first : compile entities layout start a = .ok A)
    (second : compile entities layout start b = .ok B) (distance : a.kind = .distance)
    (distance' : b.kind = .distance) (same : a.MeasuresSame entities b) (vanishes : A.VanishesAt p)
    (vanishes' : B.VanishesAt p) : a.target = b.target := by
  obtain ⟨s, t, m, n, bound, mentions, here, there, placed, placed'⟩ :=
    slots_of_distance laid first distance
  obtain ⟨s', t', m', n', bound', mentions', here', there', moved, moved'⟩ :=
    slots_of_distance laid second distance'
  have renamed : ∃ u v, s.Alike u ∧ t.Alike v ∧ ([s', t'] = [u, v] ∨ [s', t'] = [v, u]) := by
    unfold Constraint.MeasuresSame at same
    rw [mentions, mentions'] at same
    rcases List.perm_pair.1 same with order | order
    · obtain ⟨head, tail⟩ := List.cons.inj order
      exact ⟨s', t', alike_of_thing_eq here here' placed moved head,
        alike_of_thing_eq there there' placed' moved' (List.cons.inj tail).1, .inl rfl⟩
    · obtain ⟨head, tail⟩ := List.cons.inj order
      exact ⟨t', s', alike_of_thing_eq here there' placed moved' head,
        alike_of_thing_eq there here' placed' moved (List.cons.inj tail).1, .inr rfl⟩
  obtain ⟨u, v, alike, alike', order⟩ := renamed
  obtain ⟨r', other, equal⟩ := bound.renamed distance distance' alike alike' order
  have holds := (vanishesAt_iff.1 vanishes).2
  have held := (vanishesAt_iff.1 vanishes').2
  rw [bound'.unique other, equal] at held
  have kinds := distance'.trans distance.symm
  have dimension : a.dimensional = true := by rw [Constraint.dimensional, distance]; rfl
  have plain : a.kind ≠ .angle := by rw [distance]; exact ConstraintKind.noConfusion
  exact bound.target_unique (bound.withTarget kinds) kinds dimension plain holds held

end Block

/-! ## Two points at a distance -/

namespace Gap

open Outcome

/-- Two points at a distance of one. -/
noncomputable def entities : List (Entity ℝ) :=
  [Exact.entity 0 (.point 0 0), Exact.entity 1 (.point 1 0)]

/-- The demand that two of the points are some distance apart. -/
noncomputable def spaced (id i j : Int) (target : ℝ) : Constraint ℝ :=
  ⟨.whole id, .distance, [i, j], some target, [], .of true⟩

/-- The demand that names the first point first, bound to both points. -/
noncomputable def onward (id : Int) (target : ℝ) : Block ℝ :=
  ⟨spaced id 0 1 target, .apart ⟨0, 0, .point, .own⟩ ⟨1, 2, .point, .own⟩ target, [0, 1, 2, 3]⟩

/-- The demand that names the second point first, bound to both points. -/
noncomputable def backward (id : Int) (target : ℝ) : Block ℝ :=
  ⟨spaced id 1 0 target, .apart ⟨1, 2, .point, .own⟩ ⟨0, 0, .point, .own⟩ target, [0, 1, 2, 3]⟩

variable {target : ℝ}

theorem check_spaced (id i j : Int) (positive : 0 ≤ target) :
    (spaced id i j target).check = .ok () := by
  change (spaced id i j target).checkValue = .ok ()
  simp [Constraint.checkValue, spaced, ConstraintKind.valueRule, not_lt.2 positive]

theorem compile_onward (p : Valuation ℝ) (id : Int) (positive : 0 ≤ target) :
    Block.compile entities (Layout.tiling entities) p (spaced id 0 1 target) =
      .ok (onward id target) := by
  unfold Block.compile
  exact bind_eq_ok.2 ⟨(), check_spaced id 0 1 positive, rfl⟩

theorem compile_backward (p : Valuation ℝ) (id : Int) (positive : 0 ≤ target) :
    Block.compile entities (Layout.tiling entities) p (spaced id 1 0 target) =
      .ok (backward id target) := by
  unfold Block.compile
  exact bind_eq_ok.2 ⟨(), check_spaced id 1 0 positive, rfl⟩

theorem laid : Layout.ofEntities entities = .ok (Layout.tiling entities) := by
  refine Layout.ofEntities_eq_ok.2 ⟨?_, rfl⟩
  change ([0, 1] : List Int).Nodup
  decide

theorem numbered_spaced (i j k l : Int) (v w : ℝ) :
    ([spaced 0 i j v, spaced 1 k l w].map Constraint.id).Nodup := by
  change ([0, 1] : List Int).Nodup
  decide

theorem spaced_ne (i j k l : Int) (v w : ℝ) : spaced 0 i j v ≠ spaced 1 k l w := by
  intro same
  have ids : (0 : Int) = 1 := congrArg Constraint.id same
  exact absurd ids (by decide)

end Gap

/-! ## Distances that are reported -/

variable {entities : List (Entity ℝ)} {layout : Layout} {start : Valuation ℝ}
variable {constraints : List (Constraint ℝ)} {tolerance : ℝ} {a b : Constraint ℝ} {A B : Block ℝ}

/-- Two dimensions of one kind are reported, in one order or the other, when they name the same
things alike and their values are apart. -/
theorem Block.reported_either_iff (numbered : (constraints.map Constraint.id).Nodup)
    (present : a ∈ constraints) (present' : b ∈ constraints) (different : a ≠ b)
    (driving : a.isDriving = true) (driving' : b.isDriving = true)
    (first : Block.compile entities layout start a = .ok A)
    (second : Block.compile entities layout start b = .ok B) (kinds : a.kind = b.kind)
    (dimension : a.dimensional = true) :
    Conflict.Reported entities constraints tolerance a b ∨
        Conflict.Reported entities constraints tolerance b a ↔
      a.NamesAlike b ∧ tolerance < |a.target - b.target| := by
  have dimension' : b.dimensional = true := by rwa [Constraint.dimensional, kinds] at dimension
  have total := Constraint.InOrder.total present present' driving driving' different
  have mirrored : b.NamesAlike a ∧ tolerance < |b.target - a.target| ↔
      a.NamesAlike b ∧ tolerance < |a.target - b.target| := by
    rw [abs_sub_comm]
    exact and_congr_left fun _ => ⟨.symm, .symm⟩
  rw [Conflict.reported_iff numbered present present',
    Conflict.reported_iff numbered present' present,
    exists_clash_iff first second kinds dimension,
    exists_clash_iff second first kinds.symm dimension']
  change _ ∧ (a.NamesAlike b ∧ tolerance < |a.target - b.target|) ∨
    _ ∧ (b.NamesAlike a ∧ tolerance < |b.target - a.target|) ↔ _
  rw [mirrored, ← or_and_right, and_iff_right total]

/-- **Distances are compared by the way they are named.**  For any entities that are laid out, any
constraints with distinct identifiers and any tolerance: two driving distances that are measured
between the same two things, named in either order and by either name of a center, are reported as
a conflict exactly when they name the things in the same order with selectors that are spelled
alike, and their values are further apart than the tolerance.  But whenever their values differ
there are no parameters at which both residuals are zero. -/
theorem distances_compared_by_name (tolerance : ℝ) (laid : Layout.ofEntities entities = .ok layout)
    (numbered : (constraints.map Constraint.id).Nodup) (present : a ∈ constraints)
    (present' : b ∈ constraints) (different : a ≠ b) (driving : a.isDriving = true)
    (driving' : b.isDriving = true) (first : Block.compile entities layout start a = .ok A)
    (second : Block.compile entities layout start b = .ok B) (distance : a.kind = .distance)
    (distance' : b.kind = .distance) (same : a.MeasuresSame entities b) :
    (Conflict.Reported entities constraints tolerance a b ∨
        Conflict.Reported entities constraints tolerance b a ↔
      a.NamesAlike b ∧ tolerance < |a.target - b.target|) ∧
    (a.target ≠ b.target → ∀ p, ¬(A.VanishesAt p ∧ B.VanishesAt p)) := by
  have dimension : a.dimensional = true := by rw [Constraint.dimensional, distance]; rfl
  refine ⟨Block.reported_either_iff numbered present present' different driving driving' first
    second (distance.trans distance'.symm) dimension, fun apart p both => apart ?_⟩
  exact Block.target_eq_of_measuresSame laid first second distance distance' same both.1 both.2

/-- Distances of five and of eight between two points that are named in the same order are reported,
and they contradict each other. -/
theorem distances_compared_by_name_alike :
    (Conflict.Reported Gap.entities [Gap.spaced 0 0 1 5, Gap.spaced 1 0 1 8]
          Tolerance.sameValue (Gap.spaced 0 0 1 5) (Gap.spaced 1 0 1 8) ∨
        Conflict.Reported Gap.entities [Gap.spaced 0 0 1 5, Gap.spaced 1 0 1 8]
          Tolerance.sameValue (Gap.spaced 1 0 1 8) (Gap.spaced 0 0 1 5)) ∧
      ∀ p, ¬((Gap.onward 0 5).VanishesAt p ∧ (Gap.onward 1 8).VanishesAt p) := by
  have five : (0 : ℝ) ≤ 5 := by norm_num
  have eight : (0 : ℝ) ≤ 8 := by norm_num
  obtain ⟨reported, apart⟩ := distances_compared_by_name Tolerance.sameValue Gap.laid
    (Gap.numbered_spaced 0 1 0 1 5 8) (by simp) (by simp) (Gap.spaced_ne 0 1 0 1 5 8) rfl rfl
    (Gap.compile_onward 0 0 five) (Gap.compile_onward 0 1 eight) rfl rfl (List.Perm.refl _)
  refine ⟨reported.2 ⟨⟨rfl, fun _ _ => rfl⟩, ?_⟩, apart ?_⟩
  · change Tolerance.sameValue < |(5 : ℝ) - 8|
    norm_num [Tolerance.sameValue]
  · change (5 : ℝ) ≠ 8
    norm_num

/-- Distances of five and of eight are not reported when the second one names the same two points in
the other order, although they contradict each other. -/
theorem distances_unreported_when_reversed :
    (Gap.spaced 0 0 1 5).MeasuresSame Gap.entities (Gap.spaced 1 1 0 8) ∧
      ¬(Conflict.Reported Gap.entities [Gap.spaced 0 0 1 5, Gap.spaced 1 1 0 8]
          Tolerance.sameValue (Gap.spaced 0 0 1 5) (Gap.spaced 1 1 0 8) ∨
        Conflict.Reported Gap.entities [Gap.spaced 0 0 1 5, Gap.spaced 1 1 0 8]
          Tolerance.sameValue (Gap.spaced 1 1 0 8) (Gap.spaced 0 0 1 5)) ∧
      ∀ p, ¬((Gap.onward 0 5).VanishesAt p ∧ (Gap.backward 1 8).VanishesAt p) := by
  have first := Gap.compile_onward 0 0 (by norm_num : (0 : ℝ) ≤ 5)
  have second := Gap.compile_backward 0 1 (by norm_num : (0 : ℝ) ≤ 8)
  have same : (Gap.spaced 0 0 1 5).MeasuresSame Gap.entities (Gap.spaced 1 1 0 8) :=
    List.Perm.swap _ _ []
  refine ⟨same, ?_, fun p both => ?_⟩
  · rw [Block.reported_either_iff (Gap.numbered_spaced 0 1 1 0 5 8) (by simp) (by simp)
      (Gap.spaced_ne 0 1 1 0 5 8) rfl rfl first second rfl rfl]
    rintro ⟨⟨ids, -⟩, -⟩
    have swapped : ([0, 1] : List Int) = [1, 0] := ids
    exact absurd swapped (by decide)
  · have equal : (5 : ℝ) = 8 :=
      Block.target_eq_of_measuresSame Gap.laid first second rfl rfl same both.1 both.2
    norm_num at equal

end PlanarSketch
