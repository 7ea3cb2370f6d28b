import Mathlib.Analysis.Real.Pi.Bounds
import PlanarSketch.Proofs.Conflict.Contradictions

/-!
# Conflicts of angles

Two angles between the same lines, in the same order, are in conflict when their values are further
apart than the tolerance, as numbers.  An angle is met, however, when it is equal to its value up
to full turns.  So two angles can be met together exactly when their values are equal up to full
turns (`Block.exists_both_vanish_iff`), and those that are equal up to one full turn or more are
reported although nothing contradicts them (`angles_compared_as_numbers`).

Where the angles can be met, they are met by any two lines in the right directions.  Two lines of a
layout can be anywhere, since they have no position in common (`Layout.line_apart`,
`LineSite.exists_edges`).
-/

namespace PlanarSketch

set_option autoImplicit false

/-! ## Lines anywhere -/

namespace LineSite

/-- Two lines have no position in common. -/
def Apart (l m : LineSite) : Prop := l.base + 4 ≤ m.base ∨ m.base + 4 ≤ l.base

/-- Lines that have no position in common can be anywhere. -/
theorem exists_edges {l m : LineSite} (apart : l.Apart m) (e f : Edge) :
    ∃ p : Valuation ℝ, l.edge p = e ∧ m.edge p = f := by
  let values (e : Edge) : List ℝ := [e.first.re, e.first.im, e.second.re, e.second.im]
  let p : Valuation ℝ := fun i =>
    if l.base ≤ i ∧ i < l.base + 4 then (values e).getD (i - l.base) 0
    else (values f).getD (i - m.base) 0
  have first (k : ℕ) (inside : k < 4) : p (l.base + k) = (values e).getD k 0 := by
    unfold p
    rw [if_pos (by omega), Nat.add_sub_cancel_left]
  have second (k : ℕ) (inside : k < 4) : p (m.base + k) = (values f).getD k 0 := by
    unfold Apart at apart
    unfold p
    rw [if_neg (by omega), Nat.add_sub_cancel_left]
  refine ⟨p, ?_, ?_⟩
  · exact congrArg₂ Edge.mk (Complex.ext (first 0 (by decide)) (first 1 (by decide)))
      (Complex.ext (first 2 (by decide)) (first 3 (by decide)))
  · exact congrArg₂ Edge.mk (Complex.ext (second 0 (by decide)) (second 1 (by decide)))
      (Complex.ext (second 2 (by decide)) (second 3 (by decide)))

end LineSite

namespace Layout

variable {α : Type} [Scalar α] {entities : List (Entity α)} {layout : Layout}

omit [Scalar α] in
theorem line?_eq_some {id : Int} {l : LineSite} (line : layout.line? id = some l) :
    ∃ place : Place, layout.place? id = some place ∧ place.kind = .line ∧
      l = ⟨place.id, place.offset⟩ := by
  obtain ⟨place, found, line⟩ := Option.bind_eq_some_iff.1 line
  exact ⟨place, found, Constraint.line_eq_some line⟩

/-- The lines of two entities have no position in common. -/
theorem line_apart (laid : Layout.ofEntities entities = .ok layout) {i j : Int} {l m : LineSite}
    (here : layout.line? i = some l) (there : layout.line? j = some m) (different : i ≠ j) :
    l.Apart m := by
  obtain ⟨-, rfl⟩ := Layout.ofEntities_eq_ok.1 laid
  obtain ⟨P, found, kind, rfl⟩ := line?_eq_some here
  obtain ⟨Q, found', kind', rfl⟩ := line?_eq_some there
  obtain ⟨placed, id⟩ := Block.place?_eq_some found
  obtain ⟨placed', id'⟩ := Block.place?_eq_some found'
  by_contra overlap
  have stop : P.stop = P.offset + 4 := by rw [Place.stop, kind]; rfl
  have stop' : Q.stop = Q.offset + 4 := by rw [Place.stop, kind']; rfl
  unfold LineSite.Apart at overlap
  dsimp only at overlap
  -- Where the later of the two begins, the other has not ended yet.
  have same : P = Q := Layout.eq_of_overlap (i := max P.offset Q.offset) placed placed'
    (by omega) (by omega)
  exact different (by rw [← id, ← id', same])

end Layout

/-! ## Angles that can be met together -/

/-- An edge of length one in a direction. -/
noncomputable def Edge.heading (angle : ℝ) : Edge := ⟨0, ⟨Real.cos angle, Real.sin angle⟩⟩

namespace Edge

theorem direction_heading (angle : ℝ) :
    (heading angle).direction = ⟨Real.cos angle, Real.sin angle⟩ := sub_zero _

theorem length_heading (angle : ℝ) : (heading angle).length = 1 := by
  rw [length_eq_norm, direction_heading, Complex.norm_def, Complex.normSq_mk, ← sq, ← sq,
    Real.cos_sq_add_sin_sq, Real.sqrt_one]

theorem turn_heading (angle : ℝ) : (heading 0).turn (heading angle) = (angle : Real.Angle) := by
  rw [turn_eq, ← Exact.coe_arg_eq angle, inner_eq, cross, direction_heading, direction_heading]
  simp

theorem turn_self (e : Edge) : e.turn e = 0 := by
  have := Complex.finrank_real_complex_fact
  exact Complex.orientation.oangle_self e.direction

end Edge

theorem Constraint.Binds.eq_angle {α : Type} [Scalar α] {c : Constraint α} {p : Valuation α}
    {slots : List Slot} {r : Relation α} (bound : c.Binds p slots r) (angle : c.kind = .angle) :
    ∃ l m, r = .angle l m c.target := by
  cases bound with
  | angle => exact ⟨_, _, rfl⟩
  | _ kind => cases kind.symm.trans angle

namespace Relation

variable {p : Valuation ℝ} {l m : LineSite} {v w : ℝ}

/-- The residual of an angle is zero between lines with a direction that are turned by it. -/
theorem angle_vanishes_iff : (∀ x ∈ (angle l m v).residualRows p, x = some 0) ↔
    (Tolerance.geometry < l.length p ∧ Tolerance.geometry < m.length p) ∧
      (l.edge p).turn (m.edge p) = (v : Real.Angle) := by
  rw [rows_zero_iff_long_holds]
  simp [divisors, Holds]

/-- Lines that can be anywhere meet two angles together when these are equal up to full turns. -/
theorem exists_angles_vanish_iff (apart : l.Apart m) :
    (∃ p, (∀ x ∈ (angle l m v).residualRows p, x = some 0) ∧
      ∀ x ∈ (angle l m w).residualRows p, x = some 0) ↔ (v : Real.Angle) = w := by
  have short : (Tolerance.geometry : ℝ) < 1 := by norm_num [Tolerance.geometry]
  simp only [angle_vanishes_iff]
  constructor
  · rintro ⟨p, ⟨-, met⟩, -, met'⟩
    exact met.symm.trans met'
  · intro equal
    obtain ⟨p, edge, edge'⟩ := LineSite.exists_edges apart (Edge.heading 0) (Edge.heading v)
    refine ⟨p, ?_⟩
    simp [LineSite.length_eq_edge, edge, edge', Edge.length_heading, short, Edge.turn_heading,
      equal]

/-- A line meets no angle with itself but that of zero. -/
theorem exists_angles_vanish_self_iff :
    (∃ p, (∀ x ∈ (angle l l v).residualRows p, x = some 0) ∧
      ∀ x ∈ (angle l l w).residualRows p, x = some 0) ↔
        (v : Real.Angle) = w ∧ (v : Real.Angle) = 0 := by
  have short : (Tolerance.geometry : ℝ) < 1 := by norm_num [Tolerance.geometry]
  simp only [angle_vanishes_iff, Edge.turn_self]
  constructor
  · rintro ⟨p, ⟨-, met⟩, -, met'⟩
    exact ⟨met.symm.trans met', met.symm⟩
  · rintro ⟨equal, zero⟩
    obtain ⟨p, edge, -⟩ := LineSite.exists_edges (l := l) (m := ⟨0, l.base + 4⟩) (.inl le_rfl)
      (Edge.heading 0) (Edge.heading 0)
    refine ⟨p, ?_⟩
    simp [LineSite.length_eq_edge, edge, Edge.length_heading, short, ← equal, zero]

end Relation

namespace Block

section Binding

variable {α : Type} [Scalar α] {entities : List (Entity α)} {layout : Layout}
variable {start : Valuation α} {a b c : Constraint α} {A B C : Block α}

/-- A bound angle is one between the lines of the entities that it names. -/
theorem angle_of_compiled (compiled : compile entities layout start c = .ok C)
    (turn : c.kind = .angle) :
    ∃ i j l m, c.entityIds = [i, j] ∧ layout.line? i = some l ∧ layout.line? j = some m ∧
      C.relation = .angle l m c.target := by
  obtain ⟨_, -, bound, -, -⟩ := compile_binds compiled
  obtain ⟨i, j, l, m, ids, -, -, here, there, lines⟩ :=
    lines_of_pairsLines compiled (.inr (.inr turn))
  obtain ⟨l', m', angle⟩ := bound.eq_angle turn
  rw [angle] at lines
  cases lines
  exact ⟨i, j, l, m, ids, here, there, angle⟩

/-- Angles between the same lines name them alike, since a line as a whole has one name only. -/
theorem namesAlike_of_angles (first : compile entities layout start a = .ok A)
    (second : compile entities layout start b = .ok B) (turn : a.kind = .angle)
    (turn' : b.kind = .angle) (same : a.entityIds = b.entityIds) : a.NamesAlike b := by
  obtain ⟨i, j, l, m, ids, zero, one, -, -, -⟩ := lines_of_pairsLines first (.inr (.inr turn))
  obtain ⟨i', j', l', m', ids', zero', one', -, -, -⟩ :=
    lines_of_pairsLines second (.inr (.inr turn'))
  refine ⟨same, fun k inside => ?_⟩
  rw [ids] at inside
  match k with
  | 0 => rw [zero, zero']
  | 1 => rw [one, one']
  | k + 2 => exact absurd inside (by simp)

end Binding

variable {entities : List (Entity ℝ)} {layout : Layout} {start : Valuation ℝ}
variable {a b : Constraint ℝ} {A B : Block ℝ}

/-- **Angles between the same lines can be met together exactly when their values are equal up to
full turns.**  A line and itself can only be at an angle of zero. -/
theorem exists_both_vanish_iff (laid : Layout.ofEntities entities = .ok layout)
    (first : compile entities layout start a = .ok A)
    (second : compile entities layout start b = .ok B) (turn : a.kind = .angle)
    (turn' : b.kind = .angle) (same : a.entityIds = b.entityIds) :
    (∃ p, A.VanishesAt p ∧ B.VanishesAt p) ↔
      (a.target : Real.Angle) = b.target ∧
        (a.entityIds.Nodup ∨ (a.target : Real.Angle) = 0) := by
  obtain ⟨i, j, l, m, ids, here, there, bound⟩ := angle_of_compiled first turn
  obtain ⟨i', j', l', m', ids', here', there', bound'⟩ := angle_of_compiled second turn'
  rw [← same, ids] at ids'
  cases ids'
  cases here.symm.trans here'
  cases there.symm.trans there'
  simp only [VanishesAt, residual, bound, bound', ids]
  by_cases one : i = j
  · subst one
    cases here.symm.trans there
    rw [Relation.exists_angles_vanish_self_iff]
    simp
  · rw [Relation.exists_angles_vanish_iff (Layout.line_apart laid here there one)]
    simp [one]

end Block

/-! ## Two lines at given angles -/

namespace Crossing

open Outcome

/-- The demand that the second line is turned against the first by some angle. -/
noncomputable def turned (id : Int) (target : ℝ) : Constraint ℝ :=
  ⟨.whole id, .angle, [0, 1], some target, [], .of true⟩

/-- The demand, bound to the two lines. -/
noncomputable def turnedBlock (id : Int) (target : ℝ) : Block ℝ :=
  ⟨turned id target, .angle ⟨0, 0⟩ ⟨1, 4⟩ target, List.range 8⟩

theorem laid : Layout.ofEntities entities = .ok (Layout.tiling entities) := by
  refine Layout.ofEntities_eq_ok.2 ⟨?_, rfl⟩
  change ([0, 1] : List Int).Nodup
  decide

theorem compile_turned (p : Valuation ℝ) (id : Int) (target : ℝ) :
    Block.compile entities (Layout.tiling entities) p (turned id target) =
      .ok (turnedBlock id target) := by
  have found : Block.placesOf (turned id target) entities (Layout.tiling entities) =
      .ok [⟨0, .line, 0⟩, ⟨1, .line, 4⟩] := rfl
  exact Block.compile_of_steps rfl found rfl
    (checkShape_lines (turned id target) (List.Subset.refl [0, 1]))

theorem numbered_turned (v w : ℝ) : ([turned 0 v, turned 1 w].map Constraint.id).Nodup := by
  change ([0, 1] : List Int).Nodup
  decide

end Crossing

/-! ## Angles that are reported -/

variable {entities : List (Entity ℝ)} {layout : Layout} {start : Valuation ℝ}
variable {constraints : List (Constraint ℝ)} {tolerance : ℝ} {a b : Constraint ℝ} {A B : Block ℝ}

/-- Angles between the same lines clash when their values are apart. -/
theorem Block.exists_clash_iff_of_angles (first : Block.compile entities layout start a = .ok A)
    (second : Block.compile entities layout start b = .ok B) (turn : a.kind = .angle)
    (turn' : b.kind = .angle) (same : a.entityIds = b.entityIds) :
    (∃ cause, Conflict.Clash tolerance a b cause) ↔ tolerance < |a.target - b.target| := by
  have dimension : a.dimensional = true := by rw [Constraint.dimensional, turn]; rfl
  rw [exists_clash_iff first second (turn.trans turn'.symm) dimension,
    and_iff_right (namesAlike_of_angles first second turn turn' same)]
  rfl

/-- **Angles are compared as numbers, but met up to full turns.**  For any entities that are laid
out and any constraints with distinct identifiers: two driving angles between the same lines, in the
same order, are reported as a conflict exactly when their values are further apart than the
tolerance.  There are parameters at which both residuals are zero exactly when the values are equal
up to full turns, and are zero up to full turns if it is one line that is named twice. -/
theorem angles_compared_as_numbers (tolerance : ℝ) (laid : Layout.ofEntities entities = .ok layout)
    (numbered : (constraints.map Constraint.id).Nodup)
    (order : Constraint.InOrder constraints a b)
    (first : Block.compile entities layout start a = .ok A)
    (second : Block.compile entities layout start b = .ok B) (turn : a.kind = .angle)
    (turn' : b.kind = .angle) (same : a.entityIds = b.entityIds) :
    (Conflict.Reported entities constraints tolerance a b ↔ tolerance < |a.target - b.target|) ∧
      ((∃ p, A.VanishesAt p ∧ B.VanishesAt p) ↔
        (a.target : Real.Angle) = b.target ∧
          (a.entityIds.Nodup ∨ (a.target : Real.Angle) = 0)) := by
  refine ⟨?_, Block.exists_both_vanish_iff laid first second turn turn' same⟩
  rw [Conflict.reported_iff numbered order.mem.1 order.mem.2, and_iff_right order]
  exact Block.exists_clash_iff_of_angles first second turn turn' same

/-- No turn and half a turn between two lines are reported, and are never met together. -/
theorem angles_compared_as_numbers_half_turn :
    Conflict.Reported Crossing.entities [Crossing.turned 0 0, Crossing.turned 1 Real.pi]
        Tolerance.sameValue (Crossing.turned 0 0) (Crossing.turned 1 Real.pi) ∧
      ¬∃ p, (Crossing.turnedBlock 0 0).VanishesAt p ∧
        (Crossing.turnedBlock 1 Real.pi).VanishesAt p := by
  obtain ⟨reported, together⟩ := angles_compared_as_numbers Tolerance.sameValue Crossing.laid
    (Crossing.numbered_turned 0 Real.pi) (List.Sublist.refl _)
    (Crossing.compile_turned 0 0 0) (Crossing.compile_turned 0 1 Real.pi) rfl rfl rfl
  refine ⟨reported.2 ?_, fun met => ?_⟩
  · change Tolerance.sameValue < |0 - Real.pi|
    rw [zero_sub, abs_neg, abs_of_pos Real.pi_pos]
    have far := Real.pi_gt_three
    norm_num [Tolerance.sameValue]
    linarith
  · have equal : ((0 : ℝ) : Real.Angle) = Real.pi := (together.1 met).1
    have cosines := congrArg Real.Angle.cos equal
    rw [Real.Angle.cos_coe, Real.Angle.cos_coe, Real.cos_zero, Real.cos_pi] at cosines
    norm_num at cosines

/-- The angles of 359 and of minus one degree are reported, although the same lines meet both. -/
theorem angles_reported_full_turn_apart :
    Conflict.Reported Crossing.entities
        [Crossing.turned 0 (Scalar.radians 359), Crossing.turned 1 (Scalar.radians (-1))]
        Tolerance.sameValue (Crossing.turned 0 (Scalar.radians 359))
        (Crossing.turned 1 (Scalar.radians (-1))) ∧
      ∃ p, (Crossing.turnedBlock 0 (Scalar.radians 359)).VanishesAt p ∧
        (Crossing.turnedBlock 1 (Scalar.radians (-1))).VanishesAt p := by
  have turn : (Scalar.radians 359 : ℝ) = Scalar.radians (-1) + 2 * Real.pi := by
    change (359 : ℝ) * (Real.pi / 180.0) = -1 * (Real.pi / 180.0) + 2 * Real.pi
    norm_num
    ring
  generalize (Scalar.radians (-1) : ℝ) = v at turn ⊢
  rw [turn]
  have first := Crossing.compile_turned 0 0 (v + 2 * Real.pi)
  have second := Crossing.compile_turned 0 1 v
  constructor
  · refine (Conflict.reported_iff (Crossing.numbered_turned _ _) (by simp) (by simp)).2
      ⟨List.Sublist.refl _, ?_⟩
    refine (Block.exists_clash_iff_of_angles first second rfl rfl rfl).2 ?_
    change Tolerance.sameValue < |v + 2 * Real.pi - v|
    rw [add_sub_cancel_left, abs_of_pos Real.two_pi_pos]
    have far := Real.pi_gt_three
    norm_num [Tolerance.sameValue]
    linarith
  · refine (Block.exists_both_vanish_iff Crossing.laid first second rfl rfl rfl).2 ⟨?_, .inl ?_⟩
    · change ((v + 2 * Real.pi : ℝ) : Real.Angle) = v
      rw [Real.Angle.coe_add, Real.Angle.coe_two_pi, add_zero]
    · change ([0, 1] : List Int).Nodup
      decide

end PlanarSketch
