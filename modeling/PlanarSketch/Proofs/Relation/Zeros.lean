import Mathlib.Geometry.Euclidean.Sphere.Basic
import PlanarSketch.Proofs.Exact.Plane
import PlanarSketch.Proofs.Relation.Divisors

/-!
# Where residuals vanish

A site is found somewhere in the plane: a point at its location, a line along an edge, a curve on a
circle.  `Relation.Holds` says what a relation demands of these, in terms of plane geometry.
Over exact numbers the residual of a relation is zero in all its rows exactly where that is
the case (`Relation.rows_zero_iff_holds`), as long as the lines that it divides by have a direction.

A residual is a number, and it says more than whether the relation holds.  What number it is can
be told in the same terms: how far a point is off a line, the cross product of two directions
over both lengths, and so on (`Relation.residual_offLine`, `Relation.residual_parallel`).  So
nothing is zero by chance, or because a coordinate was read twice.
-/

namespace PlanarSketch

set_option autoImplicit false

open Complex EuclideanGeometry Affine
open scoped InnerProductSpace

/-! ## Sites -/

noncomputable section

/-- Where a point is. -/
def PointSite.location (a : PointSite) (p : Valuation ℝ) : ℂ := ⟨(a.xy p).1, (a.xy p).2⟩

/-- Where a line is. -/
def LineSite.edge (l : LineSite) (p : Valuation ℝ) : Edge :=
  ⟨⟨p l.base, p (l.base + 1)⟩, ⟨p (l.base + 2), p (l.base + 3)⟩⟩

/-- Where a curve is. -/
def CurveSite.circle (k : CurveSite) (p : Valuation ℝ) : Sphere ℂ :=
  ⟨⟨(k.center p).1, (k.center p).2⟩, k.radius p⟩

end

theorem Exact.hypot_eq_norm (x y : ℝ) : Scalar.hypot x y = ‖Complex.mk x y‖ := by
  rw [hypot, Complex.norm_def, normSq_mk]

namespace LineSite

variable {p : Valuation ℝ} {l : LineSite}

theorem length_eq_edge (l : LineSite) (p : Valuation ℝ) : l.length p = (l.edge p).length := by
  rw [Edge.length_eq_norm]
  exact Exact.hypot_eq_norm _ _

theorem edge_long (long : Tolerance.geometry < l.length p) : 0 < (l.edge p).length := by
  rw [← length_eq_edge]
  refine lt_trans ?_ long
  norm_num [Tolerance.geometry]

theorem tooShort_eq_false (long : Tolerance.geometry < l.length p) :
    tooShort (l.length p) = false :=
  decide_eq_false (not_le.2 long)

/-- The signed distance that a residual works with. -/
theorem signedDistance?_eq (long : Tolerance.geometry < l.length p) (xy : ℝ × ℝ) :
    l.signedDistance? p xy = some ((l.edge p).offset ⟨xy.1, xy.2⟩) := by
  have fine := tooShort_eq_false long
  rw [Edge.offset_eq, ← length_eq_edge]
  unfold signedDistance?
  unfold length at fine
  dsimp only at fine ⊢
  rw [fine]
  rfl

end LineSite

theorem CurveSite.centerDistance_eq (c d : CurveSite) (p : Valuation ℝ) :
    c.centerDistance d p = dist (c.circle p).center (d.circle p).center := by
  rw [centerDistance, Exact.hypot_eq_norm, Complex.dist_eq]
  rfl

namespace LinePair

variable {p : Valuation ℝ} {l m : LineSite}

theorem cross_of (l m : LineSite) (p : Valuation ℝ) :
    (LinePair.of l m p).cross = PlanarSketch.cross (l.edge p).direction (m.edge p).direction := rfl

theorem dot_of (l m : LineSite) (p : Valuation ℝ) :
    (LinePair.of l m p).dot = ⟪(l.edge p).direction, (m.edge p).direction⟫_ℝ := by
  rw [inner_eq]
  rfl

theorem la_of (l m : LineSite) (p : Valuation ℝ) : (LinePair.of l m p).la = (l.edge p).length :=
  l.length_eq_edge p

theorem lb_of (l m : LineSite) (p : Valuation ℝ) : (LinePair.of l m p).lb = (m.edge p).length :=
  m.length_eq_edge p

end LinePair

/-! ## Relations -/

namespace Relation

variable {p : Valuation ℝ} {r : Relation ℝ}

/-- What a relation demands of the places where its sites are found. -/
def Holds (p : Valuation ℝ) : Relation ℝ → Prop
  | coincident a b => a.location p = b.location p
  | level a b => (a.location p).im = (b.location p).im
  | plumb a b => (a.location p).re = (b.location p).re
  | rightOf a b target => (b.location p).re - (a.location p).re = target
  | above a b target => (b.location p).im - (a.location p).im = target
  | apart a b target => dist (a.location p) (b.location p) = target
  | offLine a l side target => side.sign * (l.edge p).offset (a.location p) = target
  | parallel l m => (l.edge p).line ∥ (m.edge p).line
  | perpendicular l m => (l.edge p).line.direction ⟂ (m.edge p).line.direction
  | angle l m target => (l.edge p).turn (m.edge p) = (target : ℝ)
  | collinear l m => (m.edge p).first ∈ (l.edge p).line ∧ (m.edge p).second ∈ (l.edge p).line
  | sameLength l m => (l.edge p).length = (m.edge p).length
  | sameRadius c d => (c.circle p).radius = (d.circle p).radius
  | length l target => (l.edge p).length = target
  | radius c target => (c.circle p).radius = target
  | diameter c target => (c.circle p).radius + (c.circle p).radius = target
  | concentric c d => (c.circle p).center = (d.circle p).center
  | midpoint a l => a.location p = (l.edge p).middle
  | onLine a l => a.location p ∈ (l.edge p).line
  | mirror a b l => (l.edge p).mirror (a.location p) = b.location p
  | tangentLine l c side => side.sign * (l.edge p).offset (c.circle p).center = (c.circle p).radius
  | tangentOuter c d =>
    dist (c.circle p).center (d.circle p).center = (c.circle p).radius + (d.circle p).radius
  | tangentInner c d larger => dist (c.circle p).center (d.circle p).center =
    larger.sign * ((c.circle p).radius - (d.circle p).radius)

/-! ## Residuals in the plane -/

section Residuals

variable {a b : PointSite} {l m : LineSite} {c : CurveSite} {side : Branch} {target : ℝ}

theorem residual_apart :
    (apart a b target).residual p = some [dist (a.location p) (b.location p) - target] := by
  rw [dist_comm, Complex.dist_eq]
  exact congrArg (fun d => some [d - target]) (Exact.hypot_eq_norm _ _)

theorem residual_offLine (long : Tolerance.geometry < l.length p) :
    (offLine a l side target).residual p =
      some [side.sign * (l.edge p).offset (a.location p) - target] := by
  rw [residual, LineSite.signedDistance?_eq long]
  rfl

/-- Two lines that have a direction are not degenerate. -/
theorem not_degenerate_of_long (first : Tolerance.geometry < l.length p)
    (second : Tolerance.geometry < m.length p) : ¬(LinePair.of l m p).degenerate = true := by
  rw [not_degenerate ⟨LineSite.tooShort_eq_false first, LineSite.tooShort_eq_false second⟩]
  exact Bool.false_ne_true

theorem residual_parallel (first : Tolerance.geometry < l.length p)
    (second : Tolerance.geometry < m.length p) :
    (parallel l m : Relation ℝ).residual p =
      some [cross (l.edge p).direction (m.edge p).direction /
        ((l.edge p).length * (m.edge p).length)] := by
  rw [residual, if_neg (not_degenerate_of_long first second), LinePair.cross_of, LinePair.la_of,
    LinePair.lb_of]

theorem residual_perpendicular (first : Tolerance.geometry < l.length p)
    (second : Tolerance.geometry < m.length p) :
    (perpendicular l m : Relation ℝ).residual p =
      some [⟪(l.edge p).direction, (m.edge p).direction⟫_ℝ /
        ((l.edge p).length * (m.edge p).length)] := by
  rw [residual, if_neg (not_degenerate_of_long first second), LinePair.dot_of, LinePair.la_of,
    LinePair.lb_of]

theorem residual_angle (first : Tolerance.geometry < l.length p)
    (second : Tolerance.geometry < m.length p) :
    (angle l m target).residual p =
      let turn := Scalar.atan2 (LinePair.of l m p).cross (LinePair.of l m p).dot
      some [Scalar.atan2 (Scalar.sin (turn - target)) (Scalar.cos (turn - target))] :=
  if_neg (not_degenerate_of_long first second)

/-- The ends of the second line are measured on the other side than a single point is. -/
theorem residual_collinear (long : Tolerance.geometry < l.length p) :
    (collinear l m : Relation ℝ).residual p =
      some [-(l.edge p).offset (m.edge p).first, -(l.edge p).offset (m.edge p).second] := by
  have fine : ¬tooShort (l.length p) = true := by simp [LineSite.tooShort_eq_false long]
  rw [Edge.offset_eq, Edge.offset_eq, ← LineSite.length_eq_edge, ← neg_div, ← neg_div, neg_sub,
    neg_sub, mul_comm _ (l.edge p).direction.re, mul_comm _ (l.edge p).direction.im,
    mul_comm _ (l.edge p).direction.re, mul_comm _ (l.edge p).direction.im]
  exact if_neg fine

theorem residual_midpoint :
    (midpoint a l).residual p =
      some [(a.location p).re - (l.edge p).middle.re,
        (a.location p).im - (l.edge p).middle.im] := by
  rw [Edge.middle_eq]
  rfl

theorem residual_onLine (long : Tolerance.geometry < l.length p) :
    (onLine a l).residual p = some [(l.edge p).offset (a.location p)] := by
  rw [residual, LineSite.signedDistance?_eq long]
  rfl

theorem residual_mirror (long : Tolerance.geometry < l.length p) :
    (mirror a b l).residual p =
      some [(l.edge p).offset (Edge.mk (a.location p) (b.location p)).middle,
        ⟪(l.edge p).direction, b.location p - a.location p⟫_ℝ / (l.edge p).length] := by
  rw [Edge.middle_eq, real_inner_comm, inner_eq, ← LineSite.length_eq_edge]
  exact Option.map_eq_some_iff.2 ⟨_, LineSite.signedDistance?_eq long _, rfl⟩

theorem residual_tangentLine (long : Tolerance.geometry < l.length p) :
    (tangentLine l c side : Relation ℝ).residual p =
      some [side.sign * (l.edge p).offset (c.circle p).center - (c.circle p).radius] := by
  rw [residual, LineSite.signedDistance?_eq long]
  rfl

end Residuals

/-- All rows of a residual that is defined are zero when its entries are. -/
theorem rows_zero_iff {values : List ℝ} (defined : r.residual p = some values) :
    (∀ v ∈ r.residualRows p, v = some 0) ↔ ∀ v ∈ values, v = 0 := by
  rw [residualRows_eq_some.2 defined]
  simp

/-- **The rows of a relation are zero where it holds**, if all lines that it divides by have a
direction. -/
theorem rows_zero_iff_holds (long : ∀ l ∈ r.divisors, Tolerance.geometry < l.length p) :
    (∀ v ∈ r.residualRows p, v = some 0) ↔ r.Holds p := by
  cases r with
  | coincident a b =>
      have defined : (coincident a b).residual p =
          some [(a.xy p).1 - (b.xy p).1, (a.xy p).2 - (b.xy p).2] := rfl
      rw [rows_zero_iff defined, Holds, Complex.ext_iff]
      simp [sub_eq_zero, PointSite.location]
  | level a b | plumb a b =>
      rw [rows_zero_iff rfl, Holds, eq_comm]
      simp [sub_eq_zero, PointSite.location]
  | rightOf a b target | above a b target =>
      rw [rows_zero_iff rfl, Holds]
      simp [sub_eq_zero, PointSite.location]
  | apart a b target =>
      rw [rows_zero_iff residual_apart, Holds]
      simp [sub_eq_zero]
  | offLine a l side target =>
      rw [rows_zero_iff (residual_offLine (long l List.mem_cons_self)), Holds]
      simp [sub_eq_zero]
  | parallel l m =>
      have first := long l List.mem_cons_self
      have second := long m (List.mem_cons_of_mem l List.mem_cons_self)
      have first_long := LineSite.edge_long first
      have second_long := LineSite.edge_long second
      rw [rows_zero_iff (residual_parallel first second), Holds,
        Edge.parallel_iff first_long second_long]
      simp [first_long.ne', second_long.ne']
  | perpendicular l m =>
      have first := long l List.mem_cons_self
      have second := long m (List.mem_cons_of_mem l List.mem_cons_self)
      rw [rows_zero_iff (residual_perpendicular first second), Holds, Edge.perpendicular_iff]
      simp [(LineSite.edge_long first).ne', (LineSite.edge_long second).ne']
  | angle l m target =>
      have first := long l List.mem_cons_self
      have second := long m (List.mem_cons_of_mem l List.mem_cons_self)
      rw [rows_zero_iff (residual_angle first second), Holds, Edge.turn_eq,
        ← Exact.wrapped_eq_zero_iff, ← LinePair.dot_of, ← LinePair.cross_of]
      exact List.forall_mem_singleton
  | collinear l m =>
      have fine := long l List.mem_cons_self
      rw [rows_zero_iff (residual_collinear fine), Holds,
        ← Edge.offset_eq_zero_iff (LineSite.edge_long fine),
        ← Edge.offset_eq_zero_iff (LineSite.edge_long fine)]
      simp
  | sameLength l m =>
      rw [rows_zero_iff rfl, Holds, LinePair.la_of, LinePair.lb_of]
      simp [sub_eq_zero]
  | sameRadius c d | radius c target =>
      rw [rows_zero_iff rfl, Holds]
      simp [sub_eq_zero, CurveSite.circle]
  | length l target =>
      rw [rows_zero_iff rfl, Holds, LineSite.length_eq_edge]
      simp [sub_eq_zero]
  | diameter c target =>
      rw [rows_zero_iff rfl, Holds]
      simp [sub_eq_zero, CurveSite.circle, Scalar.two, add_mul]
  | concentric c d =>
      rw [rows_zero_iff rfl, Holds, Complex.ext_iff]
      simp [sub_eq_zero, CurveSite.circle, CurveSite.center]
  | midpoint a l =>
      rw [rows_zero_iff residual_midpoint, Holds, Complex.ext_iff]
      simp [sub_eq_zero]
  | onLine a l =>
      have fine := long l List.mem_cons_self
      rw [rows_zero_iff (residual_onLine fine), Holds,
        ← Edge.offset_eq_zero_iff (LineSite.edge_long fine)]
      exact List.forall_mem_singleton
  | mirror a b l =>
      have fine := long l List.mem_cons_self
      have line_long := LineSite.edge_long fine
      rw [rows_zero_iff (residual_mirror fine), Holds, Edge.mirror_eq_iff,
        ← Edge.offset_eq_zero_iff line_long]
      simp [line_long.ne', Edge.middle]
  | tangentLine l c side =>
      rw [rows_zero_iff (residual_tangentLine (long l List.mem_cons_self)), Holds]
      simp [sub_eq_zero]
  | tangentOuter c d | tangentInner c d =>
      rw [rows_zero_iff rfl, Holds, CurveSite.centerDistance_eq]
      simp [sub_eq_zero, CurveSite.circle]

/-- **The rows of a relation are zero exactly where it holds** and all lines that it divides by have
a direction. -/
theorem rows_zero_iff_long_holds :
    (∀ v ∈ r.residualRows p, v = some 0) ↔
      (∀ l ∈ r.divisors, Tolerance.geometry < l.length p) ∧ r.Holds p := by
  by_cases long : ∀ l ∈ r.divisors, Tolerance.geometry < l.length p
  · rw [rows_zero_iff_holds long, and_iff_right long]
  · rw [iff_false_right fun both => long both.1]
    intro zero
    simp only [not_forall, not_lt, exists_prop] at long
    obtain ⟨l, divides, short⟩ := long
    have undefined := (getElem?_residualRows p r.rows_pos).2 ⟨l, divides, decide_eq_true short⟩
    cases zero none (List.mem_of_getElem? undefined)

end Relation

end PlanarSketch
