import Mathlib.Analysis.SpecialFunctions.Trigonometric.Deriv
import PlanarSketch.Proofs.Exact.Motion
import PlanarSketch.Proofs.Relation.Divisors
import PlanarSketch.Proofs.Relation.Entries
import PlanarSketch.Proofs.Relation.Sites

/-!
# Partial derivatives of relations

Over exact numbers, the derivatives in closed form are the derivatives.  A quantity has
rates, one for each position that it can be moved along (`HasRates`).  Coordinates of points,
the ends of arcs included, and components of directions have the rates that stand in the
gradients of their sites, and combinations of gradients belong to combinations of quantities.

From these the rows of every relation that has its derivative in closed form are
differentiated (`Relation.linearised`).  What is asked of the point is that no length and no
distance is too short there and no angle half a turn off its target
(`Relation.Unguarded`).  What is asked of the relation is that it does not pair a curve with
itself, since the gradients of paired curves are listed and not added up.
-/

namespace PlanarSketch

set_option autoImplicit false

theorem Valuation.update_self {α : Type} (p : Valuation α) (i : ℕ) : p.update i (p i) = p := by
  funext j
  unfold Valuation.update
  by_cases here : j = i
  · rw [if_pos here, here]
  · rw [if_neg here]

/-- Moved along a position, a quantity changes at the rate that is given for it. -/
def HasRates (f : Valuation ℝ → ℝ) (p : Valuation ℝ) (rate : ℕ → ℝ) : Prop :=
  ∀ i, HasDerivAt (fun x => f (p.update i x)) (rate i) (p i)

namespace HasRates

variable {p : Valuation ℝ} {f k : Valuation ℝ → ℝ} {rate speed : ℕ → ℝ}

theorem position (j : ℕ) : HasRates (fun q => q j) p (Gradient.entry [(j, 1)]) := by
  intro i
  rw [Gradient.entry_cons, Gradient.entry_nil]
  unfold Valuation.update
  by_cases here : j = i
  · subst here
    simp only [if_true]
    exact hasDerivAt_id (p j)
  · have other : i ≠ j := fun same => here same.symm
    simp only [if_neg here, if_neg other]
    exact hasDerivAt_const (p i) (p j)

theorem congr (rates : HasRates f p rate) (same : ∀ i, rate i = speed i) : HasRates f p speed :=
  fun i => (rates i).congr_deriv (same i)

theorem sub_const (rates : HasRates f p rate) (c : ℝ) : HasRates (fun q => f q - c) p rate :=
  fun i => (rates i).sub_const c

theorem sub (first : HasRates f p rate) (second : HasRates k p speed) :
    HasRates (fun q => f q - k q) p fun i => rate i - speed i :=
  fun i => (first i).sub (second i)

theorem add (first : HasRates f p rate) (second : HasRates k p speed) :
    HasRates (fun q => f q + k q) p fun i => rate i + speed i :=
  fun i => (first i).add (second i)

theorem mul (first : HasRates f p rate) (second : HasRates k p speed) :
    HasRates (fun q => f q * k q) p fun i => rate i * k p + f p * speed i := by
  intro i
  have product := (first i).mul (second i)
  rwa [Valuation.update_self] at product

theorem const_mul (c : ℝ) (rates : HasRates f p rate) :
    HasRates (fun q => c * f q) p fun i => c * rate i :=
  fun i => (rates i).const_mul c

theorem cos (rates : HasRates f p rate) :
    HasRates (fun q => Real.cos (f q)) p fun i => -Real.sin (f p) * rate i := by
  intro i
  have turned := (rates i).cos
  rwa [Valuation.update_self] at turned

theorem sin (rates : HasRates f p rate) :
    HasRates (fun q => Real.sin (f q)) p fun i => Real.cos (f p) * rate i := by
  intro i
  have turned := (rates i).sin
  rwa [Valuation.update_self] at turned

theorem hypot (first : HasRates f p rate) (second : HasRates k p speed)
    (long : 0 < Scalar.hypot (f p) (k p)) :
    HasRates (fun q => Scalar.hypot (f q) (k q)) p fun i =>
      (f p * rate i + k p * speed i) / Scalar.hypot (f p) (k p) := by
  intro i
  have length := Exact.hasDerivAt_hypot (first i) (second i) (by rwa [Valuation.update_self])
  rwa [Valuation.update_self] at length

theorem div (first : HasRates f p rate) (second : HasRates k p speed) (away : k p ≠ 0) :
    HasRates (fun q => f q / k q) p fun i =>
      (rate i * k p - f p * speed i) / (k p * k p) := by
  intro i
  have quotient := (first i).div (second i) (by rwa [Valuation.update_self])
  rw [Valuation.update_self] at quotient
  exact quotient.congr_deriv (by rw [sq])

/-- A wrapped angle has rates where it is not half a turn. -/
theorem wrapped (target : ℝ) (first : HasRates f p rate) (second : HasRates k p speed)
    (away : 0 < f p * f p + k p * k p)
    (unbroken : Scalar.atan2 (Scalar.sin (Scalar.atan2 (k p) (f p) - target))
      (Scalar.cos (Scalar.atan2 (k p) (f p) - target)) ≠ Real.pi) :
    HasRates (fun q => Scalar.atan2 (Scalar.sin (Scalar.atan2 (k q) (f q) - target))
        (Scalar.cos (Scalar.atan2 (k q) (f q) - target))) p fun i =>
      (f p * speed i - k p * rate i) / (f p * f p + k p * k p) := by
  intro i
  have angle := Exact.hasDerivAt_wrapped target (first i) (second i)
    (by rwa [Valuation.update_self]) (by rwa [Valuation.update_self])
  rwa [Valuation.update_self] at angle

end HasRates

variable {p : Valuation ℝ}

theorem pos_of_long {length : ℝ} (long : tooShort length = false) : 0 < length := by
  refine lt_trans ?_ (not_le.1 (decide_eq_false_iff_not.1 long))
  norm_num [Tolerance.geometry]

/-! ## Sites -/

namespace PointSite

variable (a : PointSite)

theorem simple_gradients (p : Valuation ℝ) :
    (a.gradients p).1.Simple ∧ (a.gradients p).2.Simple := by
  unfold gradients xyGradients
  cases found : a.angleIndex? with
  | none => exact ⟨List.nodup_singleton _, List.nodup_singleton _⟩
  | some k =>
      have behind : k = a.base + 3 ∨ k = a.base + 4 := by
        unfold angleIndex? at found
        split at found
        · exact .inl (Option.some.inj found).symm
        · exact .inr (Option.some.inj found).symm
        · cases found
      dsimp only
      unfold Gradient.Simple
      simp only [List.map_cons, List.map_nil, List.nodup_cons, List.mem_cons, List.not_mem_nil,
        or_false, not_false_eq_true, List.nodup_nil, and_true]
      omega

/-- The ends of an arc turn with its angle and move out with its radius. -/
theorem hasRates_xy :
    HasRates (fun q => (a.xy q).1) p (a.gradients p).1.entry ∧
      HasRates (fun q => (a.xy q).2) p (a.gradients p).2.entry := by
  obtain ⟨simple_x, simple_y⟩ := a.simple_gradients p
  unfold gradients xyGradients xy at *
  cases found : a.angleIndex? with
  | none => exact ⟨HasRates.position _, HasRates.position _⟩
  | some k =>
      rw [found] at simple_x simple_y
      have radius : HasRates (fun q => q (a.base + 2)) p _ := .position _
      have angle : HasRates (fun q => q k) p _ := .position k
      constructor
      · refine ((HasRates.position a.base).add (radius.mul angle.cos)).congr fun i => ?_
        rw [Gradient.entry_cons_of_simple simple_x,
          Gradient.entry_cons_of_simple (List.nodup_cons.1 simple_x).2,
          Gradient.entry_single k (-p (a.base + 2) * _)]
        change _ = _ + (Real.cos (p k) * _ + -p (a.base + 2) * Real.sin (p k) * _)
        ring
      · refine ((HasRates.position (a.base + 1)).add (radius.mul angle.sin)).congr fun i => ?_
        rw [Gradient.entry_cons_of_simple simple_y,
          Gradient.entry_cons_of_simple (List.nodup_cons.1 simple_y).2,
          Gradient.entry_single k (p (a.base + 2) * _)]
        change _ = _ + (Real.sin (p k) * _ + p (a.base + 2) * Real.cos (p k) * _)
        ring

end PointSite

namespace LineSite

variable (l m : LineSite)

theorem simple_gradients :
    (l.gradients : Gradient ℝ × Gradient ℝ).1.Simple ∧
      (l.gradients : Gradient ℝ × Gradient ℝ).2.Simple := by
  constructor
  · simp [gradients, Gradient.Simple]
  · simp [gradients, Gradient.Simple]

theorem hasRates_direction :
    HasRates (fun q => (l.direction q).1) p (Gradient.entry l.gradients.1) ∧
      HasRates (fun q => (l.direction q).2) p (Gradient.entry l.gradients.2) := by
  obtain ⟨simple_x, simple_y⟩ := l.simple_gradients
  have component {j k : ℕ} (simple : Gradient.Simple [(j, (1 : ℝ)), (k, -1)]) :
      HasRates (fun q => q j - q k) p (Gradient.entry [(j, 1), (k, -1)]) := by
    refine ((HasRates.position j).sub (HasRates.position k)).congr fun i => ?_
    rw [Gradient.entry_cons_of_simple simple, Gradient.entry_single k (-1)]
    ring
  exact ⟨component simple_x, component simple_y⟩

/-- The gradient of a quantity that depends on two directions combines theirs. -/
theorem entry_pairGradient (dax day dbx dby : ℝ) (i : ℕ) :
    (l.pairGradient m dax day dbx dby).entry i =
      dax * Gradient.entry l.gradients.1 i + day * Gradient.entry l.gradients.2 i +
        dbx * Gradient.entry m.gradients.1 i + dby * Gradient.entry m.gradients.2 i := by
  have simple : ∀ t ∈ [(dax, (l.gradients : Gradient ℝ × Gradient ℝ).1), (day, l.gradients.2),
      (dbx, m.gradients.1), (dby, m.gradients.2)], t.2.Simple := by
    simp [l.simple_gradients, m.simple_gradients]
  refine (Gradient.entry_combine simple).trans ?_
  simp only [List.map_cons, List.map_nil, List.sum_cons, List.sum_nil]
  ring

variable {l m}

theorem length_pos (long : tooShort (l.length p) = false) : 0 < l.length p := pos_of_long long

theorem length_mul_self (l : LineSite) (p : Valuation ℝ) :
    l.length p * l.length p =
      (l.direction p).1 * (l.direction p).1 + (l.direction p).2 * (l.direction p).2 :=
  Exact.hypot_mul_self _ _

theorem hasRates_length (long : tooShort (l.length p) = false) :
    HasRates l.length p fun i =>
      ((l.direction p).1 * Gradient.entry l.gradients.1 i +
        (l.direction p).2 * Gradient.entry l.gradients.2 i) / l.length p :=
  l.hasRates_direction.1.hypot l.hasRates_direction.2 (length_pos long)

/-- A line that is long enough stays so nearby. -/
theorem eventually_long (long : tooShort (l.length p) = false) (i : ℕ) :
    ∀ᶠ x in nhds (p i), tooShort (l.length (p.update i x)) = false := by
  have beyond : Tolerance.geometry < l.length (p.update i (p i)) := by
    rw [Valuation.update_self]
    exact not_le.1 (decide_eq_false_iff_not.1 long)
  have tends := (hasRates_length long i).continuousAt.eventually (lt_mem_nhds beyond)
  filter_upwards [tends] with x longer
  exact decide_eq_false (not_le.2 longer)

end LineSite

namespace LinePair

variable (l m : LineSite) (p : Valuation ℝ)

theorem of_ax : (of l m p).ax = (l.direction p).1 := rfl

theorem of_ay : (of l m p).ay = (l.direction p).2 := rfl

theorem of_bx : (of l m p).bx = (m.direction p).1 := rfl

theorem of_byy : (of l m p).byy = (m.direction p).2 := rfl

theorem of_la : (of l m p).la = l.length p := rfl

theorem of_lb : (of l m p).lb = m.length p := rfl

end LinePair

/-! ## Relations -/

namespace Relation

/-- No length and no distance that a closed form divides by is too short, and no angle is half a
turn off its target. -/
def Unguarded (p : Valuation ℝ) : Relation ℝ → Prop
  | apart a b _ =>
    tooShort (Scalar.hypot ((b.xy p).1 - (a.xy p).1) ((b.xy p).2 - (a.xy p).2)) = false
  | parallel l m | perpendicular l m | sameLength l m =>
    tooShort (l.length p) = false ∧ tooShort (m.length p) = false
  | angle l m target =>
    (tooShort (l.length p) = false ∧ tooShort (m.length p) = false) ∧
      (angle l m target).residual p ≠ some [Real.pi]
  | length l _ => tooShort (l.length p) = false
  | _ => True

/-- Near a point the rows of a relation are some quantities, whose rates there stand in given
gradients. -/
def Linearised (r : Relation ℝ) (p : Valuation ℝ) (gradients : List (Gradient ℝ)) : Prop :=
  ∃ rows : List (Valuation ℝ → ℝ),
    (∀ i, ∀ᶠ x in nhds (p i),
      r.residual (p.update i x) = some (rows.map fun f => f (p.update i x))) ∧
    List.Forall₂ (fun f g => HasRates f p (Gradient.entry g)) rows gradients

variable {r : Relation ℝ} {f k : Valuation ℝ → ℝ} {g h : Gradient ℝ}

theorem Linearised.single (row : ∀ q, r.residual q = some [f q])
    (rates : HasRates f p g.entry) : r.Linearised p [g] :=
  ⟨[f], fun _ => .of_forall fun _ => row _, .cons rates .nil⟩

theorem Linearised.pair (rows : ∀ q, r.residual q = some [f q, k q])
    (first : HasRates f p g.entry) (second : HasRates k p h.entry) : r.Linearised p [g, h] :=
  ⟨[f, k], fun _ => .of_forall fun _ => rows _, .cons first (.cons second .nil)⟩

theorem hasRates_difference (first : HasRates f p g.entry) (second : HasRates k p h.entry)
    (simple : g.Simple ∧ h.Simple) :
    HasRates (fun q => f q - k q) p (Gradient.entry (.combine [(1, g), (-1, h)])) := by
  refine (first.sub second).congr fun i => ?_
  rw [Gradient.entry_combine (by simp [simple])]
  simp only [List.map_cons, List.map_nil, List.sum_cons, List.sum_nil]
  ring

variable {gradients : List (Gradient ℝ)}

theorem linearised_apart {a b : PointSite} {target : ℝ}
    (closed : (apart a b target).gradients? p = some gradients)
    (clear : (apart a b target).Unguarded p) : (apart a b target).Linearised p gradients := by
  have long : tooShort (Scalar.hypot ((b.xy p).1 - (a.xy p).1) ((b.xy p).2 - (a.xy p).2)) =
      false := clear
  have positive := pos_of_long long
  have first := (a.hasRates_xy (p := p))
  have second := (b.hasRates_xy (p := p))
  have rates := ((second.1.sub first.1).hypot (second.2.sub first.2) positive).sub_const target
  simp only [gradients?, PointSite.xyGradients_eq, long] at closed
  cases closed
  refine .single (fun _ => rfl) (rates.congr fun i => ?_)
  rw [Gradient.entry_combine (by simp [a.simple_gradients, b.simple_gradients])]
  simp only [List.map_cons, List.map_nil, List.sum_cons, List.sum_nil]
  ring

theorem linearised_length {l : LineSite} {target : ℝ}
    (closed : (length l target).gradients? p = some gradients)
    (clear : (length l target).Unguarded p) : (length l target).Linearised p gradients := by
  have long : tooShort (l.length p) = false := clear
  have rates := (LineSite.hasRates_length long).sub_const target
  unfold LineSite.length at long
  simp only [gradients?, long] at closed
  cases closed
  refine .single (fun _ => rfl) (rates.congr fun i => ?_)
  rw [Gradient.entry_combine (by simp [l.simple_gradients])]
  simp only [List.map_cons, List.map_nil, List.sum_cons, List.sum_nil]
  change _ = _ / l.length p * _ + (_ / l.length p * _ + 0)
  ring

/-! ### Pairs of lines -/

section Lines

variable {l m : LineSite}

theorem eventually_not_degenerate
    (long : tooShort (l.length p) = false ∧ tooShort (m.length p) = false) (i : ℕ) :
    ∀ᶠ x in nhds (p i), (LinePair.of l m (p.update i x)).degenerate = false := by
  filter_upwards [LineSite.eventually_long long.1 i, LineSite.eventually_long long.2 i]
    with x first second
  exact not_degenerate ⟨first, second⟩

/-- The rates of the products that the angle between two lines is told by. -/
theorem hasRates_cross_dot :
    HasRates (fun q => (LinePair.of l m q).cross) p (fun i =>
      (m.direction p).2 * Gradient.entry l.gradients.1 i -
        (m.direction p).1 * Gradient.entry l.gradients.2 i -
        (l.direction p).2 * Gradient.entry m.gradients.1 i +
        (l.direction p).1 * Gradient.entry m.gradients.2 i) ∧
    HasRates (fun q => (LinePair.of l m q).dot) p (fun i =>
      (m.direction p).1 * Gradient.entry l.gradients.1 i +
        (m.direction p).2 * Gradient.entry l.gradients.2 i +
        (l.direction p).1 * Gradient.entry m.gradients.1 i +
        (l.direction p).2 * Gradient.entry m.gradients.2 i) := by
  have first := l.hasRates_direction (p := p)
  have second := m.hasRates_direction (p := p)
  constructor
  · refine ((first.1.mul second.2).sub (first.2.mul second.1)).congr fun i => ?_
    ring
  · refine ((first.1.mul second.1).add (first.2.mul second.2)).congr fun i => ?_
    ring

/-- The rates of a quotient by the lengths of two lines. -/
theorem hasRates_div_lengths {rate : ℕ → ℝ} (rates : HasRates f p rate)
    (long : tooShort (l.length p) = false ∧ tooShort (m.length p) = false) :
    HasRates (fun q => f q / (l.length q * m.length q)) p fun i =>
      rate i / (l.length p * m.length p) - f p / (l.length p * m.length p) *
        (((l.direction p).1 * Gradient.entry l.gradients.1 i +
            (l.direction p).2 * Gradient.entry l.gradients.2 i) / (l.length p * l.length p) +
          ((m.direction p).1 * Gradient.entry m.gradients.1 i +
            (m.direction p).2 * Gradient.entry m.gradients.2 i) / (m.length p * m.length p)) := by
  have la := LineSite.length_pos long.1
  have lb := LineSite.length_pos long.2
  have lengths := (LineSite.hasRates_length long.1).mul (LineSite.hasRates_length long.2)
  refine (rates.div lengths (mul_pos la lb).ne').congr fun i => ?_
  field_simp

theorem linearised_parallel (closed : (parallel l m).gradients? p = some gradients)
    (clear : (parallel l m).Unguarded p) : (parallel l m).Linearised p gradients := by
  have rates := hasRates_div_lengths (hasRates_cross_dot (l := l) (m := m)).1 clear
  simp only [gradients?, not_degenerate clear] at closed
  cases closed
  refine ⟨[_], fun i => ?_, .cons (rates.congr fun i => ?_) .nil⟩
  · filter_upwards [eventually_not_degenerate clear i] with x nearby
    simp only [residual, nearby]
    rfl
  · rw [LineSite.entry_pairGradient]
    simp only [LinePair.of_ax, LinePair.of_ay, LinePair.of_bx, LinePair.of_byy, LinePair.of_la,
      LinePair.of_lb]
    ring

theorem linearised_perpendicular (closed : (perpendicular l m).gradients? p = some gradients)
    (clear : (perpendicular l m).Unguarded p) : (perpendicular l m).Linearised p gradients := by
  have rates := hasRates_div_lengths (hasRates_cross_dot (l := l) (m := m)).2 clear
  simp only [gradients?, not_degenerate clear] at closed
  cases closed
  refine ⟨[_], fun i => ?_, .cons (rates.congr fun i => ?_) .nil⟩
  · filter_upwards [eventually_not_degenerate clear i] with x nearby
    simp only [residual, nearby]
    rfl
  · rw [LineSite.entry_pairGradient]
    simp only [LinePair.of_ax, LinePair.of_ay, LinePair.of_bx, LinePair.of_byy, LinePair.of_la,
      LinePair.of_lb]
    ring

theorem linearised_sameLength (closed : (sameLength l m).gradients? p = some gradients)
    (clear : (sameLength l m).Unguarded p) : (sameLength l m).Linearised p gradients := by
  have rates := (LineSite.hasRates_length clear.1).sub (LineSite.hasRates_length clear.2)
  simp only [gradients?, not_degenerate clear] at closed
  cases closed
  refine .single (fun _ => rfl) (rates.congr fun i => ?_)
  rw [LineSite.entry_pairGradient]
  simp only [LinePair.of_ax, LinePair.of_ay, LinePair.of_bx, LinePair.of_byy, LinePair.of_la,
    LinePair.of_lb]
  ring

/-- The products that tell an angle are not both zero where the lines have directions. -/
theorem dot_cross_squares :
    (LinePair.of l m p).dot * (LinePair.of l m p).dot +
        (LinePair.of l m p).cross * (LinePair.of l m p).cross =
      l.length p * l.length p * (m.length p * m.length p) := by
  rw [LineSite.length_mul_self, LineSite.length_mul_self, LinePair.dot, LinePair.cross]
  simp only [LinePair.of_ax, LinePair.of_ay, LinePair.of_bx, LinePair.of_byy]
  ring

theorem linearised_angle {target : ℝ} (closed : (angle l m target).gradients? p = some gradients)
    (clear : (angle l m target).Unguarded p) : (angle l m target).Linearised p gradients := by
  obtain ⟨long, unbroken⟩ := clear
  have la := LineSite.length_pos long.1
  have lb := LineSite.length_pos long.2
  have away : 0 < (LinePair.of l m p).dot * (LinePair.of l m p).dot +
      (LinePair.of l m p).cross * (LinePair.of l m p).cross := by
    rw [dot_cross_squares]
    positivity
  simp only [residual, not_degenerate long] at unbroken
  have products := hasRates_cross_dot (l := l) (m := m) (p := p)
  have rates := products.2.wrapped target products.1 away
    (fun half => unbroken (by rw [← half]; rfl))
  simp only [gradients?, not_degenerate long] at closed
  cases closed
  refine ⟨[_], fun i => ?_, .cons (rates.congr fun i => ?_) .nil⟩
  · filter_upwards [eventually_not_degenerate long i] with x nearby
    simp only [residual, nearby]
    rfl
  · rw [LineSite.entry_pairGradient, dot_cross_squares]
    simp only [LinePair.dot, LinePair.cross, LinePair.of_ax, LinePair.of_ay, LinePair.of_bx,
      LinePair.of_byy, LinePair.of_la, LinePair.of_lb]
    rw [Exact.turn_rate (l.length_mul_self p) (m.length_mul_self p) (mul_pos la la).ne'
      (mul_pos lb lb).ne']

end Lines

/-! ### Curves and midpoints -/

theorem linearised_midpoint (a : PointSite) (l : LineSite)
    (closed : (midpoint a l).gradients? p = some gradients) :
    (midpoint a l).Linearised p gradients := by
  have half {j k : ℕ} (apart : j ≠ k) {f : Valuation ℝ → ℝ} {g : Gradient ℝ} (simple : g.Simple)
      (rates : HasRates f p g.entry) :
      HasRates (fun q => f q - 0.5 * (q j + q k)) p
        (Gradient.entry (.combine [(1, g), (-0.5, [(j, 1), (k, 1)])])) := by
    have ends : Gradient.Simple [(j, (1 : ℝ)), (k, 1)] := by simp [Gradient.Simple, apart]
    have middle := ((HasRates.position (p := p) j).add (HasRates.position k)).const_mul 0.5
    refine (rates.sub middle).congr fun i => ?_
    rw [Gradient.entry_combine (by simp [simple, ends])]
    simp only [List.map_cons, List.map_nil, List.sum_cons, List.sum_nil]
    rw [Gradient.entry_cons_of_simple ends]
    ring
  cases closed
  have coordinates := a.hasRates_xy (p := p)
  have simple := a.simple_gradients p
  exact .pair (fun _ => rfl) (half (by omega) simple.1 coordinates.1)
    (half (by omega) simple.2 coordinates.2)

/-- The difference of two parameters has its rates listed, if the parameters are not the same. -/
theorem hasRates_ofEntries {j k : ℕ} (apart : j ≠ k) :
    HasRates (fun q => q j - q k) p (Gradient.entry (.ofEntries [(j, 1), (k, -1)])) := by
  refine ((HasRates.position j).sub (HasRates.position k)).congr fun i => ?_
  rw [Gradient.entry_ofEntries_pair, Gradient.entry_cons, Gradient.entry_cons, Gradient.entry_nil]
  by_cases first : i = j
  · have other : i ≠ k := fun second => apart (first.symm.trans second)
    simp [first, apart]
  · by_cases second : i = k
    · simp [second, apart.symm]
    · simp [second, first]

/-! ### All closed forms -/

/-- **Closed forms are derivatives.** -/
theorem linearised (closed : r.gradients? p = some gradients) (clear : r.Unguarded p)
    (apart : ¬r.SelfPaired) : r.Linearised p gradients := by
  cases r with
  | coincident a b =>
      cases closed
      have first := a.hasRates_xy (p := p)
      have second := b.hasRates_xy (p := p)
      have simple := a.simple_gradients p
      have simple' := b.simple_gradients p
      exact .pair (fun _ => rfl) (hasRates_difference first.1 second.1 ⟨simple.1, simple'.1⟩)
        (hasRates_difference first.2 second.2 ⟨simple.2, simple'.2⟩)
  | level a b =>
      cases closed
      exact .single (fun _ => rfl) (hasRates_difference b.hasRates_xy.2 a.hasRates_xy.2
        ⟨(b.simple_gradients p).2, (a.simple_gradients p).2⟩)
  | plumb a b =>
      cases closed
      exact .single (fun _ => rfl) (hasRates_difference b.hasRates_xy.1 a.hasRates_xy.1
        ⟨(b.simple_gradients p).1, (a.simple_gradients p).1⟩)
  | rightOf a b target =>
      cases closed
      exact .single (fun _ => rfl) ((hasRates_difference b.hasRates_xy.1 a.hasRates_xy.1
        ⟨(b.simple_gradients p).1, (a.simple_gradients p).1⟩).sub_const target)
  | above a b target =>
      cases closed
      exact .single (fun _ => rfl) ((hasRates_difference b.hasRates_xy.2 a.hasRates_xy.2
        ⟨(b.simple_gradients p).2, (a.simple_gradients p).2⟩).sub_const target)
  | apart a b target => exact linearised_apart closed clear
  | parallel l m => exact linearised_parallel closed clear
  | perpendicular l m => exact linearised_perpendicular closed clear
  | angle l m target => exact linearised_angle closed clear
  | sameLength l m => exact linearised_sameLength closed clear
  | length l target => exact linearised_length closed clear
  | midpoint a l => exact linearised_midpoint a l closed
  | sameRadius c d =>
      cases closed
      have different : c.radiusIndex ≠ d.radiusIndex := fun same =>
        apart (Nat.add_right_cancel same)
      exact .single (fun _ => rfl) (hasRates_ofEntries different)
  | radius c target =>
      cases closed
      exact .single (fun _ => rfl) ((HasRates.position c.radiusIndex).sub_const target)
  | diameter c target =>
      cases closed
      refine .single (fun _ => rfl) ((((HasRates.position c.radiusIndex).const_mul
        Scalar.two).sub_const target).congr fun i => ?_)
      rw [Gradient.entry_single c.radiusIndex Scalar.two]
  | concentric c d =>
      cases closed
      have different : c.base ≠ d.base := apart
      exact .pair (fun _ => rfl) (hasRates_ofEntries different) (hasRates_ofEntries (by omega))
  | _ => cases closed

end Relation

end PlanarSketch
