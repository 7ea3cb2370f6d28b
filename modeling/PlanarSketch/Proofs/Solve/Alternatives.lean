import Mathlib.Geometry.Euclidean.Sphere.Tangent
import PlanarSketch.Proofs.Solve.Acceptance
import PlanarSketch.Proofs.Solve.Again
import PlanarSketch.Proofs.Solve.Figures

/-!
# The branch that is bound is the nearest one

When a constraint has several branches, one of them is chosen from the geometry at hand and
stays in force for the whole solve.  At that geometry no other branch has a smaller residual
(`Relation.nearer_of_alternative`): choosing anew from any of the alternatives comes out at
the same relation, and never moves away from zero.

So the residual is zero at the start exactly where one of the alternatives holds, and that
does not speak of branches any more (`Relation.exists_holds_iff_met`): a point has a distance
from an infinite line, a line is tangent to a circle, or the distance of two centers is the
sum or the difference of two radii (`Constraint.Met`).
-/

namespace PlanarSketch

set_option autoImplicit false

open Outcome EuclideanGeometry

/-! ## Alternatives -/

namespace Relation

section Alternatives

variable {p : Valuation ℝ} {r s : Relation ℝ}

theorem divisors_of_alternative (listed : s ∈ r.alternatives) : s.divisors = r.divisors :=
  blind_of_alternative divisors (fun _ _ _ _ _ => rfl) (fun _ _ _ _ => rfl) (fun _ _ _ => rfl)
    listed

theorem redrawn_of_alternative (p : Valuation ℝ) (listed : s ∈ r.alternatives) :
    s.redrawn p = r.redrawn p :=
  blind_of_alternative (redrawn p) (fun _ _ _ _ _ => rfl) (fun _ _ _ _ => rfl) (fun _ _ _ => rfl)
    listed

theorem sized_of_alternative (sized : r.Sized p) (listed : s ∈ r.alternatives) : s.Sized p := by
  rwa [blind_of_alternative (Sized p) (fun _ _ _ _ _ => rfl) (fun _ _ _ _ => rfl)
    (fun _ _ _ => rfl) listed]

/-- A relation with one equation has a number as its residual where its lines have a direction. -/
theorem exists_residual_single (long : ∀ l ∈ r.divisors, Tolerance.geometry < l.length p)
    (single : r.rows = 1) : ∃ v, r.residual p = some [v] := by
  have defined : r.residual p ≠ none := by
    rw [Ne, residual_eq_none_iff]
    rintro ⟨l, divides, short⟩
    exact not_le.2 (long l divides) (of_decide_eq_true short)
  obtain ⟨values, found⟩ := Option.ne_none_iff_exists'.1 defined
  obtain ⟨v, rfl⟩ := List.length_eq_one_iff.1 ((length_residual p found).trans single)
  exact ⟨v, found⟩

/-- **No alternative is nearer than a relation that lies on the branch of the geometry.** -/
theorem nearer_of_alternative (drawn : r.redrawn p = r) (sized : r.Sized p) {values : List ℝ}
    (value : r.residual p = some values) (listed : s ∈ r.alternatives) :
    ∃ others, s.residual p = some others ∧ Nearer values others := by
  have defined : s.residual p ≠ none := by
    rw [Ne, residual_eq_none_iff, divisors_of_alternative listed, ← residual_eq_none_iff, value]
    exact Option.some_ne_none values
  obtain ⟨others, found⟩ := Option.ne_none_iff_exists'.1 defined
  obtain ⟨best, chosen, near⟩ := residual_redrawn (sized_of_alternative sized listed) found
  rw [redrawn_of_alternative p listed, drawn, value] at chosen
  cases chosen
  exact ⟨others, found, near⟩

/-- Where a relation with one equation is the nearest of its alternatives, it is zero if any of them
holds. -/
theorem eq_zero_iff_exists_holds (drawn : r.redrawn p = r) (sized : r.Sized p) {v : ℝ}
    (value : r.residual p = some [v]) : v = 0 ↔ ∃ s ∈ r.alternatives, s.Holds p := by
  have long : ∀ l ∈ r.divisors, Tolerance.geometry < l.length p := by
    intro l divides
    by_contra short
    have undefined := (residual_eq_none_iff p r).2 ⟨l, divides, decide_eq_true (not_lt.1 short)⟩
    rw [value] at undefined
    cases undefined
  constructor
  · rintro rfl
    refine ⟨r, mem_alternatives_self r, (rows_zero_iff_holds long).1 ((rows_zero_iff value).2 ?_)⟩
    exact List.forall_mem_singleton.2 rfl
  · rintro ⟨s, listed, holds⟩
    obtain ⟨others, found, near⟩ := nearer_of_alternative drawn sized value listed
    rw [← divisors_of_alternative listed] at long
    have zero := (rows_zero_iff found).1 ((rows_zero_iff_holds long).2 holds)
    obtain ⟨w, rest, first, -, rfl⟩ := List.forall₂_cons_left_iff.1 near
    rw [zero w List.mem_cons_self, abs_zero] at first
    exact abs_nonpos_iff.1 first

end Alternatives

/-! ## What the alternatives have in common -/

/-- What a relation demands on whichever of its branches, in terms of plane geometry. -/
def Met (p : Valuation ℝ) : Relation ℝ → Prop
  | offLine a l _ target => Metric.infDist (a.location p) (l.edge p).line = target
  | tangentLine l c _ => (c.circle p).IsTangent (l.edge p).line
  | tangentOuter c d | tangentInner c d _ =>
    dist (c.circle p).center (d.circle p).center = (c.circle p).radius + (d.circle p).radius ∨
      dist (c.circle p).center (d.circle p).center = |(c.circle p).radius - (d.circle p).radius|
  | r => r.Holds p

/-- **One of the alternatives holds just when the geometry is as demanded.** -/
theorem exists_holds_iff_met {p : Valuation ℝ} {r : Relation ℝ} (sized : r.Sized p)
    (long : ∀ l ∈ r.divisors, Tolerance.geometry < l.length p) :
    (∃ s ∈ r.alternatives, s.Holds p) ↔ r.Met p := by
  have curves (c d : CurveSite) :
      (∃ s ∈ (tangentOuter c d : Relation ℝ).alternatives, s.Holds p) ↔
        (tangentOuter c d : Relation ℝ).Met p := by
    simp only [alternatives, List.mem_cons, List.not_mem_nil, or_false, exists_eq_or_imp,
      exists_eq_left, Holds, Met]
    refine or_congr_right ?_
    rw [eq_comm, eq_comm (b := Branch.minus.sign * _), Branch.sign_mul_eq_or_iff _ dist_nonneg,
      eq_comm]
  cases r with
  | offLine a l side target =>
      have away := LineSite.edge_long (long l List.mem_cons_self)
      simp only [alternatives, List.mem_cons, List.not_mem_nil, or_false, exists_eq_or_imp,
        exists_eq_left, Holds, Met]
      rw [Branch.sign_mul_eq_or_iff _ sized, Edge.abs_offset_eq_infDist away]
  | tangentLine l c side =>
      have away := LineSite.edge_long (long l List.mem_cons_self)
      have round : 0 ≤ (c.circle p).radius := sized
      simp only [alternatives, List.mem_cons, List.not_mem_nil, or_false, exists_eq_or_imp,
        exists_eq_left, Holds, Met]
      rw [Branch.sign_mul_eq_or_iff _ round, Edge.abs_offset_eq_infDist away,
        Sphere.infDist_eq_radius_iff_isTangent]
  | tangentOuter c d | tangentInner c d => exact curves c d
  | _ => simp [alternatives, Met]

end Relation

/-! ## Figures -/

/-- What a distance or a tangency demands of figures, whichever way it is computed: two points are
a distance apart, a point is a distance away from an infinite line, a line is tangent to a circle,
or the centers of two circles are as far apart as touching circles are. -/
def Constraint.Met (c : Constraint ℝ) (figures : List Figure) : Prop :=
  match c.kind, figures with
  | .distance, [f, g] =>
    (∃ a ∈ f.point?, ∃ b ∈ g.point?, dist a b = c.target) ∨
      (∃ a ∈ f.point?, ∃ e ∈ g.edge?, Metric.infDist a e.line = c.target) ∨
      ∃ e ∈ f.edge?, ∃ a ∈ g.point?, Metric.infDist a e.line = c.target
  | .tangent, [f, g] =>
    (∃ e ∈ f.edge?, ∃ k ∈ g.circle?, k.IsTangent e.line) ∨
      (∃ k ∈ f.circle?, ∃ e ∈ g.edge?, k.IsTangent e.line) ∨
      ∃ k ∈ f.circle?, ∃ m ∈ g.circle?, dist k.center m.center = k.radius + m.radius ∨
        dist k.center m.center = |k.radius - m.radius|
  | _, _ => False

namespace Constraint

variable {c : Constraint ℝ} {p : Valuation ℝ} {slots : List Slot} {r : Relation ℝ}

/-- The sites of a distance or a tangency are as demanded when the figures in its slots are. -/
theorem Binds.met_iff (bound : c.Binds p slots r) (sided : c.kind = .tangent ∨ c.kind = .distance)
    (q : Valuation ℝ) : r.Met q ↔ c.Met (slots.map (Slot.figure q)) := by
  unfold Constraint.Met
  cases bound with
  | apart kind first second =>
      simp [kind, Relation.Met, Relation.Holds, first, second, line?_eq_none_of_point first,
        line?_eq_none_of_point second]
  | offLine kind order point line =>
      rcases order with rfl | rfl
      · simp [kind, Relation.Met, point, line, line?_eq_none_of_point point,
          point?_eq_none_of_line line]
      · simp [kind, Relation.Met, point, line, line?_eq_none_of_point point,
          point?_eq_none_of_line line]
  | tangentLine kind order line curve =>
      rcases order with rfl | rfl
      · simp [kind, Relation.Met, curve, line, line?_eq_none_of_curve curve,
          curve?_eq_none_of_line line]
      · simp [kind, Relation.Met, curve, line, line?_eq_none_of_curve curve,
          curve?_eq_none_of_line line]
  | touching kind first second =>
      unfold curvesTouching
      dsimp only
      split
      · simp [kind, Relation.Met, first, second, line?_eq_none_of_curve first,
          line?_eq_none_of_curve second]
      · simp [kind, Relation.Met, first, second, line?_eq_none_of_curve first,
          line?_eq_none_of_curve second]
  | _ kind => simp [kind] at sided

end Constraint

/-! ## Bound constraints -/

/-- **The branch that is bound is the nearest one.**  Let a distance or a tangency be bound at the
geometry of its entities.  Its residual there is a single number; among the residuals on all
branches, either side of a line, or circles that touch from outside or from inside with either
radius as the larger one, none has a smaller absolute value; and it is zero if and only if the
figures are where the constraint demands them to be. -/
theorem bound_branch_nearest {entities : List (Entity ℝ)} {layout : Layout} {start : Array ℝ}
    {c : Constraint ℝ} {b : Block ℝ} (laid : Layout.ofEntities entities = .ok layout)
    (written : layout.flatten entities = .ok start)
    (compiled : Block.compile entities layout (.ofArray start) c = .ok b)
    (sided : c.kind = .tangent ∨ c.kind = .distance) :
    ∃ v, b.residual (.ofArray start) = [some v] ∧ b.relation ∈ b.relation.alternatives ∧
      (∀ r ∈ b.relation.alternatives,
        ∃ w, r.residualRows (.ofArray start) = [some w] ∧ |v| ≤ |w|) ∧
      (v = 0 ↔ c.Met (c.figures layout (.ofArray start))) := by
  obtain ⟨distinct, rfl⟩ := Layout.ofEntities_eq_ok.1 laid
  rw [Layout.flatten_tiling distinct] at written
  obtain rfl : flat entities = start := Except.ok.inj written
  have sized := Block.compile_sized distinct compiled
  have long : ∀ l ∈ b.relation.divisors,
      Tolerance.geometry < l.length (.ofArray (flat entities)) := fun l divides =>
    not_le.1 (Block.compile_lines_long distinct compiled l
      (Relation.mem_lines_of_mem_divisors divides))
  obtain ⟨places, found, related, -, -, -⟩ := Block.compile_eq_ok compiled
  have drawn : b.relation.redrawn (.ofArray (flat entities)) = b.relation :=
    Except.ok.inj ((Constraint.relation_redrawn related _).symm.trans related)
  have single : b.relation.rows = 1 := by
    have rows : b.relation.rows = c.rows := Block.rows_of_compiled compiled
    rcases sided with kind | kind
    · rw [rows, Constraint.rows, kind]
      rfl
    · rw [rows, Constraint.rows, kind]
      rfl
  obtain ⟨v, value⟩ := Relation.exists_residual_single long single
  refine ⟨v, Relation.residualRows_eq_some.2 value, Relation.mem_alternatives_self _,
    fun r listed => ?_, ?_⟩
  · obtain ⟨others, other, near⟩ := Relation.nearer_of_alternative drawn sized value listed
    obtain ⟨w, rest, first, none, rfl⟩ := List.forall₂_cons_left_iff.1 near
    cases none
    exact ⟨w, Relation.residualRows_eq_some.2 other, first⟩
  · rw [Relation.eq_zero_iff_exists_holds drawn sized value,
      Relation.exists_holds_iff_met sized long,
      (Constraint.binds_of_relation related).met_iff sided,
      Constraint.figures_eq (Block.placesOf_eq_ok found)]

namespace Nested

/-- A circle, and a smaller one that touches it from inside. -/
noncomputable def entities : List (Entity ℝ) :=
  [Exact.entity 0 (.circle 0 0 (1 + 1)), Exact.entity 1 (.circle 1 0 1)]

/-- The demand that the two circles touch. -/
noncomputable def constraint : Constraint ℝ := ⟨.whole 0, .tangent, [0, 1], none, [], .of true⟩

theorem distinct : (entities.map Entity.id).Nodup := show ([0, 1] : List Int).Nodup by decide

theorem acceptable : constraint.Acceptable entities where
  arity := List.mem_singleton_self 2
  selectors := Nat.zero_le 2
  value := rfl
  present := by simp [constraint, entities, Exact.entity]
  usage := by
    refine ⟨⟨[.curve, .curve], ["cc_ext", "cc_int"]⟩, ?_, ?_⟩
    · simp [constraint, ConstraintKind.usages]
    have mentioned : constraint.mentions entities =
        [⟨Exact.entity 0 (.circle 0 0 (1 + 1)), ""⟩, ⟨Exact.entity 1 (.circle 1 0 1), ""⟩] := rfl
    have large : ¬(1 + 1 : ℝ) ≤ Tolerance.geometry := by norm_num [Tolerance.geometry]
    have small : ¬(1 : ℝ) ≤ Tolerance.geometry := by norm_num [Tolerance.geometry]
    rw [mentioned]
    exact .cons ⟨⟨.inl rfl, .inl rfl⟩, fun _ => if_neg large⟩
      (.cons ⟨⟨.inl rfl, .inl rfl⟩, fun _ => if_neg small⟩ .nil)

theorem met : constraint.Met
    (constraint.figures (Layout.tiling entities) (.ofArray (flat entities))) := by
  have figures : constraint.figures (Layout.tiling entities) (.ofArray (flat entities)) =
      [⟨.circle 0 0 (1 + 1), ""⟩, ⟨.circle 1 0 1, ""⟩] := rfl
  rw [figures]
  refine .inr (.inr ⟨⟨⟨0, 0⟩, 1 + 1⟩, rfl, ⟨⟨1, 0⟩, 1⟩, rfl, .inr ?_⟩)
  rw [Complex.dist_eq_re_im]
  norm_num

end Nested

/-- Two circles that touch from inside are bound on that branch, and meet it. -/
theorem bound_branch_nearest_nested :
    ∃ b, Block.compile Nested.entities (Layout.tiling Nested.entities)
        (.ofArray (flat Nested.entities)) Nested.constraint = .ok b ∧
      b.residual (.ofArray (flat Nested.entities)) = [some 0] := by
  obtain ⟨b, compiled⟩ := (Block.exists_compile_iff Nested.distinct _).2 Nested.acceptable
  have laid := Layout.ofEntities_eq_ok.2 ⟨Nested.distinct, rfl⟩
  have written := Layout.flatten_tiling Nested.distinct
  obtain ⟨v, value, -, -, zero⟩ := bound_branch_nearest laid written compiled (.inl rfl)
  refine ⟨b, compiled, ?_⟩
  rw [← zero.2 Nested.met]
  exact value

end PlanarSketch
