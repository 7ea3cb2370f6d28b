import PlanarSketch.Proofs.Exact
import PlanarSketch.ThreePointArc

/-!
# Arcs through three points

Over exact numbers the arc through three points is what its name says (`arcThrough_passes`).
All three points are on one circle, since the center solves the equations of equal distances
(`PlaneCircle.through_equidistant`).  A point of a circle is told by its angle up to full turns, so
the angle of a direction still tells the same point after it is reduced to less than a turn from
the start (`PlaneCircle.toward_ahead`).

Angles that are reduced in this way come in one of two orders.  If the middle comes before the
end, the arc runs counter-clockwise up to the end; if it comes after the end, the arc runs
clockwise, and taking a turn away from the middle puts it in between
(`PlaneCircle.passes_stop`).
That no two of the points are the same, and that the radius is positive, is all owed to a
determinant that is not zero.
-/

namespace PlanarSketch

set_option autoImplicit false

/-! ## Angles up to full turns -/

namespace Exact

theorem turn_eq : (Scalar.turn : ℝ) = 2 * Real.pi := (two_mul Real.pi).symm

theorem turn_pos : (0 : ℝ) < Scalar.turn := by
  rw [turn_eq]
  exact Real.two_pi_pos

theorem modulo_eq_toIcoMod {period : ℝ} (positive : 0 < period) (x : ℝ) :
    Scalar.modulo x period = toIcoMod positive 0 x := by
  have whole : x / period * period = x := div_mul_cancel₀ x positive.ne'
  rw [toIcoMod_eq_fract_mul, Int.fract, sub_mul, whole]
  rfl

theorem modulo_nonneg {period : ℝ} (positive : 0 < period) (x : ℝ) :
    0 ≤ Scalar.modulo x period := by
  rw [modulo_eq_toIcoMod positive]
  exact left_le_toIcoMod positive 0 x

theorem modulo_lt {period : ℝ} (positive : 0 < period) (x : ℝ) :
    Scalar.modulo x period < period := by
  rw [modulo_eq_toIcoMod positive]
  exact (toIcoMod_lt_right positive 0 x).trans_eq (zero_add period)

end Exact

/-! ## Points of a circle -/

/-- A circle in the plane. -/
structure PlaneCircle where
  cx : ℝ
  cy : ℝ
  r : ℝ

noncomputable section

namespace PlaneCircle

/-- The point of a circle in the direction of an angle. -/
def toward (c : PlaneCircle) (angle : ℝ) : ℝ × ℝ :=
  (c.cx + c.r * Real.cos angle, c.cy + c.r * Real.sin angle)

/-- How far a point is from the center of a circle. -/
def distance (c : PlaneCircle) (p : ℝ × ℝ) : ℝ := Scalar.hypot (p.1 - c.cx) (p.2 - c.cy)

/-- The angle of the direction from the center of a circle to a point. -/
def angle (c : PlaneCircle) (p : ℝ × ℝ) : ℝ := Scalar.atan2 (p.2 - c.cy) (p.1 - c.cx)

/-- How far it is on the circle from one point counter-clockwise to another. -/
def ahead (c : PlaneCircle) (p q : ℝ × ℝ) : ℝ :=
  Scalar.modulo (c.angle q - c.angle p) Scalar.turn

/-- The angle at which an arc through three points of a circle ends: ahead of the start if the
middle is met on the way, else behind it. -/
def stop (c : PlaneCircle) (first middle last : ℝ × ℝ) : ℝ :=
  if c.ahead first middle ≤ c.ahead first last then c.angle first + c.ahead first last
  else c.angle first - (Scalar.turn - c.ahead first last)

/-- The part of a circle between two angles runs from one point through another to a third. -/
structure Passes (c : PlaneCircle) (start stop : ℝ) (first middle last : ℝ × ℝ) : Prop where
  positive : 0 < c.r
  first_distance : c.distance first = c.r
  middle_distance : c.distance middle = c.r
  last_distance : c.distance last = c.r
  starts : c.toward start = first
  stops : c.toward stop = last
  moves : stop - start ≠ 0
  short : |stop - start| < 2 * Real.pi
  /-- The middle point is met strictly in between, whichever way the angle runs. -/
  between : ∃ angle, (start < angle ∧ angle < stop ∨ stop < angle ∧ angle < start) ∧
    c.toward angle = middle

end PlaneCircle

end

namespace PlaneCircle

variable {c : PlaneCircle} {p q : ℝ × ℝ}

theorem toward_sub_turns (c : PlaneCircle) (angle : ℝ) (n : ℤ) :
    c.toward (angle - n * Scalar.turn) = c.toward angle := by
  rw [toward, Exact.turn_eq, Real.cos_sub_int_mul_two_pi, Real.sin_sub_int_mul_two_pi]
  rfl

/-- A point of the circle lies in the direction of its angle. -/
theorem toward_angle (on : c.distance p = c.r) : c.toward (c.angle p) = p := by
  let z : ℂ := ⟨p.1 - c.cx, p.2 - c.cy⟩
  have size : c.r = ‖z‖ := by
    rw [← on, distance, Exact.hypot, Complex.norm_def, Complex.normSq_mk]
  rw [toward, size]
  change (c.cx + ‖z‖ * Real.cos z.arg, c.cy + ‖z‖ * Real.sin z.arg) = p
  rw [Complex.norm_mul_cos_arg, Complex.norm_mul_sin_arg]
  ext
  · exact add_sub_cancel c.cx p.1
  · exact add_sub_cancel c.cy p.2

/-- The same point is found by going on from another one. -/
theorem toward_ahead (on : c.distance q = c.r) : c.toward (c.angle p + c.ahead p q) = q := by
  have reduced : c.angle p + c.ahead p q =
      c.angle q - ⌊(c.angle q - c.angle p) / Scalar.turn⌋ * Scalar.turn := by
    change c.angle p + (c.angle q - c.angle p - _) = _
    ring
  rw [reduced, toward_sub_turns, toward_angle on]

theorem ahead_lt_turn (c : PlaneCircle) (p q : ℝ × ℝ) : c.ahead p q < Scalar.turn :=
  Exact.modulo_lt Exact.turn_pos _

theorem ahead_pos (first : c.distance p = c.r) (second : c.distance q = c.r) (apart : p ≠ q) :
    0 < c.ahead p q := by
  refine lt_of_le_of_ne (Exact.modulo_nonneg Exact.turn_pos _) fun none => apart ?_
  have same := toward_ahead (p := p) second
  rwa [show c.ahead p q = 0 from none.symm, add_zero, toward_angle first] at same

/-- Through three points of a circle that differ, the arc runs so that it meets the middle one. -/
theorem passes_stop {first middle last : ℝ × ℝ} (positive : 0 < c.r)
    (on_first : c.distance first = c.r) (on_middle : c.distance middle = c.r)
    (on_last : c.distance last = c.r) (begins : first ≠ middle) (ends : middle ≠ last)
    (opens : first ≠ last) :
    c.Passes (c.angle first) (c.stop first middle last) first middle last := by
  have middle_pos := ahead_pos on_first on_middle begins
  have last_pos := ahead_pos on_first on_last opens
  have middle_lt := c.ahead_lt_turn first middle
  have last_lt := c.ahead_lt_turn first last
  have meets : c.toward (c.angle first + c.ahead first middle) = middle := toward_ahead on_middle
  have arrives : c.toward (c.angle first + c.ahead first last) = last := toward_ahead on_last
  have back (angle : ℝ) : c.toward (angle - Scalar.turn) = c.toward angle := by
    simpa using c.toward_sub_turns angle 1
  have order : c.ahead first middle ≠ c.ahead first last := by
    intro same
    rw [same, arrives] at meets
    exact ends meets.symm
  by_cases counterClockwise : c.ahead first middle ≤ c.ahead first last
  · have last_angle : c.stop first middle last = c.angle first + c.ahead first last :=
      if_pos counterClockwise
    have strict := lt_of_le_of_ne counterClockwise order
    rw [last_angle]
    refine ⟨positive, on_first, on_middle, on_last, toward_angle on_first, arrives, ?_, ?_,
      c.angle first + c.ahead first middle, .inl ⟨by linarith, by linarith⟩, meets⟩
    · rw [add_sub_cancel_left]
      exact last_pos.ne'
    · rwa [add_sub_cancel_left, abs_of_pos last_pos, ← Exact.turn_eq]
  · -- Both the middle and the end are met one turn below.
    have last_angle : c.stop first middle last =
        c.angle first + c.ahead first last - Scalar.turn := by
      rw [stop, if_neg counterClockwise]
      ring
    have sweep : c.angle first + c.ahead first last - Scalar.turn - c.angle first =
        c.ahead first last - Scalar.turn := by ring
    have strict := not_le.1 counterClockwise
    rw [last_angle]
    refine ⟨positive, on_first, on_middle, on_last, toward_angle on_first, ?_, ?_, ?_,
      c.angle first + c.ahead first middle - Scalar.turn, .inr ⟨by linarith, by linarith⟩, ?_⟩
    · rw [back, arrives]
    · rw [sweep]
      linarith
    · rw [sweep, abs_of_neg (by linarith), ← Exact.turn_eq]
      linarith
    · rw [back, meets]

/-! ## The circle through three points -/

section Through

variable (sx sy mx my ex ey : ℝ)

/-- Four times the signed area of the triangle of three points. -/
noncomputable def determinant : ℝ :=
  Scalar.two * (sx * (my - ey) + mx * (ey - sy) + ex * (sy - my))

/-- The circle through three points. -/
noncomputable def through : PlaneCircle :=
  let d := determinant sx sy mx my ex ey
  let s2 := sx * sx + sy * sy
  let m2 := mx * mx + my * my
  let e2 := ex * ex + ey * ey
  let cx := (s2 * (my - ey) + m2 * (ey - sy) + e2 * (sy - my)) / d
  let cy := (s2 * (ex - mx) + m2 * (sx - ex) + e2 * (mx - sx)) / d
  ⟨cx, cy, Scalar.hypot (sx - cx) (sy - cy)⟩

theorem determinant_eq :
    determinant sx sy mx my ex ey = 2 * (sx * (my - ey) + mx * (ey - sy) + ex * (sy - my)) :=
  congrArg (· * _) one_add_one_eq_two

variable {sx sy mx my ex ey}

/-- The center has the same distance from all three points, as the determinant is that of the
equations which say so. -/
theorem through_equidistant (bent : determinant sx sy mx my ex ey ≠ 0) :
    let c := through sx sy mx my ex ey
    c.distance (sx, sy) = c.r ∧ c.distance (mx, my) = c.r ∧ c.distance (ex, ey) = c.r := by
  intro c
  have square (x y : ℝ) (same : (x - c.cx) * (x - c.cx) + (y - c.cy) * (y - c.cy) =
      (sx - c.cx) * (sx - c.cx) + (sy - c.cy) * (sy - c.cy)) : c.distance (x, y) = c.r :=
    congrArg Real.sqrt same
  refine ⟨rfl, square mx my ?_, square ex ey ?_⟩
  · simp only [c, through]
    field_simp
    rw [determinant_eq]
    ring
  · simp only [c, through]
    field_simp
    rw [determinant_eq]
    ring

theorem through_nonneg : 0 ≤ (through sx sy mx my ex ey).r := Real.sqrt_nonneg _

/-- Three points with a determinant that is not zero all differ. -/
theorem distinct_of_bent (bent : determinant sx sy mx my ex ey ≠ 0) :
    (sx, sy) ≠ (mx, my) ∧ (mx, my) ≠ (ex, ey) ∧ (sx, sy) ≠ (ex, ey) := by
  refine ⟨?_, ?_, ?_⟩
  all_goals
    intro same
    obtain ⟨rfl, rfl⟩ := Prod.mk.inj same
    exact bent (by rw [determinant_eq]; ring)

end Through

/-- Two points of a circle that differ leave it a radius. -/
theorem pos_of_apart (nonneg : 0 ≤ c.r) (first : c.distance p = c.r) (second : c.distance q = c.r)
    (apart : p ≠ q) : 0 < c.r := by
  refine lt_of_le_of_ne nonneg fun none => apart ?_
  have center (angle : ℝ) : c.toward angle = (c.cx, c.cy) := by
    rw [toward, ← none, zero_mul, zero_mul, add_zero, add_zero]
  rw [← toward_angle first, ← toward_angle second, center, center]

end PlaneCircle

open PlaneCircle

theorem Shape.arcThrough_eq (sx sy mx my ex ey : ℝ) :
    Shape.arcThrough sx sy mx my ex ey =
      if |determinant sx sy mx my ex ey| < Tolerance.geometry then .error .collinearArc
      else
        let c := through sx sy mx my ex ey
        .ok (.arc c.cx c.cy c.r (c.angle (sx, sy)) (c.stop (sx, sy) (mx, my) (ex, ey))) := by
  simp only [Shape.arcThrough, decide_eq_true_eq]
  rfl

/-- **The arc through three points passes the middle one on its way.**  Unless they are on one
line, there are a circle with a positive radius that all three points are on, and two angles, less
than a turn apart, that the first and the last point lie at, with the middle point at an angle
strictly in between.  Points on one line are refused. -/
theorem Shape.arcThrough_passes (sx sy mx my ex ey : ℝ) :
    (Tolerance.geometry ≤ |determinant sx sy mx my ex ey| →
      ∃ (c : PlaneCircle) (start stop : ℝ),
        Shape.arcThrough sx sy mx my ex ey = .ok (.arc c.cx c.cy c.r start stop) ∧
          c.Passes start stop (sx, sy) (mx, my) (ex, ey)) ∧
    (|determinant sx sy mx my ex ey| < Tolerance.geometry →
      Shape.arcThrough sx sy mx my ex ey = .error .collinearArc) := by
  constructor
  · intro wide
    have bent : determinant sx sy mx my ex ey ≠ 0 := by
      have positive : (0 : ℝ) < Tolerance.geometry := by norm_num [Tolerance.geometry]
      exact abs_pos.1 (positive.trans_le wide)
    obtain ⟨begins, ends, opens⟩ := distinct_of_bent bent
    obtain ⟨on_first, on_middle, on_last⟩ := through_equidistant bent
    have positive := pos_of_apart through_nonneg on_first on_middle begins
    refine ⟨through sx sy mx my ex ey, _, _, ?_,
      passes_stop positive on_first on_middle on_last begins ends opens⟩
    rw [Shape.arcThrough_eq, if_neg (not_lt.2 wide)]
  · intro flat
    rw [Shape.arcThrough_eq, if_pos flat]

/-- Half a circle, and three points of the diagonal. -/
theorem Shape.arcThrough_half_circle :
    (Tolerance.geometry ≤ |determinant 1 0 0 1 (-1) 0| ∧
      ∃ (c : PlaneCircle) (start stop : ℝ),
        Shape.arcThrough 1 0 0 1 (-1) 0 = .ok (.arc c.cx c.cy c.r start stop) ∧
          c.Passes start stop (1, 0) (0, 1) (-1, 0)) ∧
    (|determinant 0 0 1 1 2 2| < Tolerance.geometry ∧
      Shape.arcThrough (0 : ℝ) 0 1 1 2 2 = .error .collinearArc) := by
  have wide : Tolerance.geometry ≤ |determinant 1 0 0 1 (-1) 0| := by
    norm_num [determinant_eq, Tolerance.geometry]
  have flat : |determinant 0 0 1 1 2 2| < Tolerance.geometry := by
    norm_num [determinant_eq, Tolerance.geometry]
  exact ⟨⟨wide, (Shape.arcThrough_passes 1 0 0 1 (-1) 0).1 wide⟩,
    ⟨flat, (Shape.arcThrough_passes 0 0 1 1 2 2).2 flat⟩⟩

/-- The ends of such an arc, by their names, are the first and the last point. -/
theorem PlaneCircle.Passes.pointAt {c : PlaneCircle} {start stop : ℝ}
    {first middle last : ℝ × ℝ} (passes : c.Passes start stop first middle last) (id : Int) :
    let e := Exact.entity id (.arc c.cx c.cy c.r start stop)
    e.pointAt "start" = .ok first ∧ e.pointAt "end" = .ok last := by
  intro e
  exact ⟨congrArg Except.ok passes.starts, congrArg Except.ok passes.stops⟩

end PlanarSketch
