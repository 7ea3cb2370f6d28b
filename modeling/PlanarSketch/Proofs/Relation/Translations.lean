import PlanarSketch.Proofs.Relation.Affine
import PlanarSketch.Proofs.Relation.Entries
import PlanarSketch.Proofs.Relation.Sites

/-!
# Translations

The derivative of an equation along a direction of the parameter space is the sum of the
partial derivatives times the components of the direction (`Gradient.along`), and it is linear
in the gradient (`Gradient.along_combine`).  It can be taken over any positions among which the
direction has all its components (`Gradient.sum_entry_mul`).

A direction translates an entity by a vector if it moves its points by the vector and leaves
sizes and angles as they are (`Translates`).  A relation is about the position of its sites to one
another, so none of its equations changes along a translation of all of them: every gradient in
closed form is zero along it (`Relation.along_eq_zero`), also where it is guarded.  Only the
gradients of a curve that is paired with itself are not, as far as its center is concerned.
-/

namespace PlanarSketch

set_option autoImplicit false

/-! ## Derivatives along a direction -/

namespace Gradient

variable {g sum : Gradient ℝ} {t : ℕ → ℝ} {c v : ℝ} {i j : ℕ}

/-- The derivative along a direction. -/
noncomputable def along (g : Gradient ℝ) (t : ℕ → ℝ) : ℝ := (g.map fun e => e.2 * t e.1).sum

@[simp] theorem along_nil : along [] t = 0 := rfl

@[simp] theorem along_cons {e : ℕ × ℝ} : along (e :: g) t = e.2 * t e.1 + along g t :=
  List.sum_cons

theorem along_add : along (add i v g) t = along g t + v * t i := by
  induction g with
  | nil => simp [add]
  | cons e rest ih =>
      unfold add
      by_cases here : e.1 = i
      · rw [if_pos here, along_cons, along_cons, here]
        ring
      · rw [if_neg here, along_cons, along_cons, ih]
        ring

theorem along_addScaled : along (addScaled c g sum) t = along sum t + c * along g t := by
  have onto : along (g.foldl (fun acc e => add e.1 (c * e.2) acc) sum) t =
      along sum t + c * along g t := by
    induction g generalizing sum with
    | nil => simp
    | cons e rest ih =>
        rw [List.foldl_cons, ih, along_add, along_cons]
        ring
  unfold addScaled
  by_cases zero : c = 0
  · have test : (c == 0) = true := decide_eq_true zero
    rw [test, zero]
    simp
  · have test : (c == 0) = false := decide_eq_false zero
    rw [test]
    exact onto

/-- **The derivative of a combination is the combination of the derivatives.** -/
theorem along_combine {terms : List (ℝ × Gradient ℝ)} :
    along (combine terms) t = (terms.map fun term => term.1 * along term.2 t).sum := by
  have onto (sum : Gradient ℝ) :
      along (terms.foldl (fun acc term => addScaled term.1 term.2 acc) sum) t =
        along sum t + (terms.map fun term => term.1 * along term.2 t).sum := by
    induction terms generalizing sum with
    | nil => simp
    | cons term rest ih =>
        rw [List.foldl_cons, ih, along_addScaled, List.map_cons, List.sum_cons, add_assoc]
  rw [combine, onto [], along_nil, zero_add]

theorem along_combine_eq_zero {terms : List (ℝ × Gradient ℝ)}
    (zero : ∀ term ∈ terms, term.2.along t = 0) : along (combine terms) t = 0 := by
  rw [along_combine]
  refine List.sum_eq_zero fun x listed => ?_
  obtain ⟨term, among, rfl⟩ := List.mem_map.1 listed
  rw [zero term among, mul_zero]

theorem along_ofEntries_pair {w : ℝ} (apart : i ≠ j) :
    along (ofEntries [(i, v), (j, w)]) t = v * t i + w * t j := by
  rw [ofEntries_pair, if_neg apart]
  simp

/-- The derivative along a direction adds up over any positions that the direction is within. -/
theorem sum_entry_mul {positions : List ℕ} (simple : g.Simple) (distinct : positions.Nodup)
    (zero : ∀ i, i ∉ positions → t i = 0) :
    (positions.map fun i => entry g i * t i).sum = along g t := by
  induction g with
  | nil => simp
  | cons e rest ih =>
      obtain ⟨j, v⟩ := e
      have single : (positions.map fun i => v * entry [(j, 1)] i * t i).sum = v * t j := by
        clear simple ih
        by_cases among : j ∈ positions
        · rw [List.sum_map_eq_nsmul_single j]
          · simp [entry_cons, List.count_eq_one_of_mem distinct among]
          · intro i other _
            simp [entry_cons, other]
        · rw [zero j among, mul_zero]
          refine List.sum_eq_zero fun x listed => ?_
          obtain ⟨i, present, rfl⟩ := List.mem_map.1 listed
          have other : i ≠ j := fun same => among (same ▸ present)
          simp [entry_cons, other]
      have split : (positions.map fun i => entry ((j, v) :: rest) i * t i) =
          positions.map fun i => v * entry [(j, 1)] i * t i + entry rest i * t i :=
        List.map_congr_left fun i _ => by rw [entry_cons_of_simple simple, add_mul]
      rw [split, List.sum_map_add, single, ih (List.nodup_cons.1 simple).2, along_cons]

end Gradient

/-! ## Translations of sites -/

/-- How the parameters of an entity change when it is translated by `(a, b)`. -/
def EntityKind.translation (a b : ℝ) : EntityKind → List ℝ
  | point => [a, b]
  | line => [a, b, a, b]
  | circle => [a, b, 0]
  | arc => [a, b, 0, 0, 0]

/-- A direction of the parameter space translates the entity at a place by `(a, b)`. -/
def Translates (t : ℕ → ℝ) (a b : ℝ) (kind : EntityKind) (base : ℕ) : Prop :=
  ∀ k < kind.paramCount, t (base + k) = (kind.translation a b).getD k 0

/-- A direction of the parameter space translates all sites of a relation by `(a, b)`. -/
structure Relation.Translated (r : Relation ℝ) (t : ℕ → ℝ) (a b : ℝ) : Prop where
  points : ∀ s ∈ r.points, Translates t a b s.kind s.base
  lines : ∀ l ∈ r.lines, Translates t a b .line l.base
  curves : ∀ c ∈ r.curves, Translates t a b .circle c.base

namespace Translates

variable {t : ℕ → ℝ} {a b : ℝ} {kind : EntityKind} {base : ℕ}

/-- The first two parameters of an entity are the coordinates of a point. -/
theorem first (translates : Translates t a b kind base) : t base = a ∧ t (base + 1) = b := by
  have x := translates 0
  have y := translates 1
  cases kind with
  | _ => exact ⟨x (by decide), y (by decide)⟩

theorem second (translates : Translates t a b .line base) :
    t (base + 2) = a ∧ t (base + 3) = b :=
  ⟨translates 2 (by decide), translates 3 (by decide)⟩

theorem radius (translates : Translates t a b .circle base) : t (base + 2) = 0 :=
  translates 2 (by decide)

theorem bend (translates : Translates t a b .arc base) :
    t (base + 2) = 0 ∧ t (base + 3) = 0 ∧ t (base + 4) = 0 :=
  ⟨translates 2 (by decide), translates 3 (by decide), translates 4 (by decide)⟩

/-- The center and the radius of an arc are those of a circle. -/
theorem circle_of_isCurve (translates : Translates t a b kind base)
    (round : kind.isCurve = true) : Translates t a b .circle base := by
  cases kind with
  | circle => exact translates
  | arc =>
      intro k inside
      have value := translates k (Nat.lt_trans inside (by decide))
      match k, inside with
      | 0, _ | 1, _ | 2, _ => exact value
  | point | line => cases round

end Translates

section Sites

variable {t : ℕ → ℝ} {a b : ℝ}

/-- The coordinates of a translated point change by the vector. -/
theorem PointSite.along_gradients {s : PointSite} (translates : Translates t a b s.kind s.base)
    (p : Valuation ℝ) : (s.gradients p).1.along t = a ∧ (s.gradients p).2.along t = b := by
  obtain ⟨entity, base, kind, anchor⟩ := s
  obtain ⟨x, y⟩ := translates.first
  cases kind with
  | point | circle => simpa [gradients, xyGradients, angleIndex?, coordinateIndex] using ⟨x, y⟩
  | line =>
      obtain ⟨x', y'⟩ := translates.second
      cases anchor with
      | own | center | start =>
          simpa [gradients, xyGradients, angleIndex?, coordinateIndex] using ⟨x, y⟩
      | stop => simpa [gradients, xyGradients, angleIndex?, coordinateIndex] using ⟨x', y'⟩
  | arc =>
      -- The ends of an arc turn with its angles, which a translation leaves alone.
      obtain ⟨size, start, stop⟩ := translates.bend
      cases anchor with
      | own | center => simpa [gradients, xyGradients, angleIndex?, coordinateIndex] using ⟨x, y⟩
      | start => simpa [gradients, xyGradients, angleIndex?, size, start] using ⟨x, y⟩
      | stop => simpa [gradients, xyGradients, angleIndex?, size, stop] using ⟨x, y⟩

/-- The direction of a translated line does not change. -/
theorem LineSite.along_gradients {l : LineSite} (translates : Translates t a b .line l.base) :
    (l.gradients : Gradient ℝ × Gradient ℝ).1.along t = 0 ∧
      (l.gradients : Gradient ℝ × Gradient ℝ).2.along t = 0 := by
  obtain ⟨x, y⟩ := translates.first
  obtain ⟨x', y'⟩ := translates.second
  simp [gradients, x, y, x', y']

theorem LineSite.along_pairGradient {l m : LineSite} (first : Translates t a b .line l.base)
    (second : Translates t a b .line m.base) (dax day dbx dby : ℝ) :
    (l.pairGradient m dax day dbx dby).along t = 0 := by
  obtain ⟨ax, ay⟩ := LineSite.along_gradients first
  obtain ⟨bx, yy⟩ := LineSite.along_gradients second
  refine Gradient.along_combine_eq_zero (List.forall_mem_cons.2 ⟨ax, ?_⟩)
  exact List.forall_mem_cons.2 ⟨ay, List.forall_mem_cons.2 ⟨bx, List.forall_mem_singleton.2 yy⟩⟩

end Sites

namespace Relation

open PlanarSketch.Gradient

variable {t : ℕ → ℝ} {a b : ℝ} {r : Relation ℝ} {p : Valuation ℝ}

theorem along_difference {g h : Gradient ℝ} (same : g.along t = h.along t) (c : ℝ) :
    (combine [(c, g), (-c, h)]).along t = 0 := by
  rw [along_combine]
  simp only [List.map_cons, List.map_nil, List.sum_cons, List.sum_nil, same]
  ring

/-- The coordinates of two points of a translated relation change alike. -/
theorem Translated.points_alike (translated : r.Translated t a b) {u v : PointSite}
    (pair : r.points = [u, v]) (p : Valuation ℝ) :
    (u.gradients p).1.along t = (v.gradients p).1.along t ∧
      (u.gradients p).2.along t = (v.gradients p).2.along t := by
  have points := translated.points
  rw [pair] at points
  obtain ⟨first, rest⟩ := List.forall_mem_cons.1 points
  have second := List.forall_mem_singleton.1 rest
  obtain ⟨x, y⟩ := PointSite.along_gradients first p
  obtain ⟨x', y'⟩ := PointSite.along_gradients second p
  exact ⟨x.trans x'.symm, y.trans y'.symm⟩

/-- **No equation in closed form changes along a translation.** -/
theorem along_eq_zero {gradients : List (Gradient ℝ)} (translated : r.Translated t a b)
    (apart : ¬r.SelfPaired) (closed : r.gradients? p = some gradients) :
    ∀ g ∈ gradients, g.along t = 0 := by
  have alike {u v : PointSite} (pair : r.points = [u, v]) := translated.points_alike pair p
  obtain ⟨points, lines, curves⟩ := translated
  cases r with
  | coincident a b =>
      obtain ⟨xs, ys⟩ := alike rfl
      cases closed
      exact List.forall_mem_cons.2 ⟨along_difference xs 1,
        List.forall_mem_singleton.2 (along_difference ys 1)⟩
  | level a b | above a b =>
      obtain ⟨-, ys⟩ := alike rfl
      cases closed
      exact List.forall_mem_singleton.2 (along_difference ys.symm 1)
  | plumb a b | rightOf a b =>
      obtain ⟨xs, -⟩ := alike rfl
      cases closed
      exact List.forall_mem_singleton.2 (along_difference xs.symm 1)
  | apart a b =>
      obtain ⟨xs, ys⟩ := alike rfl
      simp only [gradients?, PointSite.xyGradients_eq] at closed
      split at closed
      · cases closed
        exact List.forall_mem_singleton.2 along_nil
      · cases closed
        refine List.forall_mem_singleton.2 ?_
        rw [along_combine]
        simp only [List.map_cons, List.map_nil, List.sum_cons, List.sum_nil, xs, ys]
        ring
  | parallel l m | perpendicular l m | angle l m | sameLength l m =>
      have first := lines l List.mem_cons_self
      have second := lines m (List.mem_cons_of_mem l List.mem_cons_self)
      simp only [gradients?] at closed
      split at closed
      · cases closed
        exact List.forall_mem_singleton.2 along_nil
      · cases closed
        exact List.forall_mem_singleton.2 (LineSite.along_pairGradient first second _ _ _ _)
  | length l =>
      obtain ⟨x, y⟩ := LineSite.along_gradients (lines l List.mem_cons_self)
      simp only [gradients?] at closed
      split at closed
      · cases closed
        exact List.forall_mem_singleton.2 along_nil
      · cases closed
        exact List.forall_mem_singleton.2 (along_combine_eq_zero
          (List.forall_mem_cons.2 ⟨x, List.forall_mem_singleton.2 y⟩))
  | sameRadius c d =>
      have first := (curves c List.mem_cons_self).radius
      have second := (curves d (List.mem_cons_of_mem c List.mem_cons_self)).radius
      have different : c.radiusIndex ≠ d.radiusIndex := fun same =>
        apart (Nat.add_right_cancel same)
      cases closed
      refine List.forall_mem_singleton.2 ?_
      rw [along_ofEntries_pair different, CurveSite.radiusIndex, CurveSite.radiusIndex, first,
        second, mul_zero, mul_zero, add_zero]
  | radius c | diameter c =>
      have own := (curves c List.mem_cons_self).radius
      cases closed
      refine List.forall_mem_singleton.2 ?_
      rw [along_cons, along_nil, CurveSite.radiusIndex, own, mul_zero, add_zero]
  | concentric c d =>
      obtain ⟨x, y⟩ := (curves c List.mem_cons_self).first
      obtain ⟨x', y'⟩ := (curves d (List.mem_cons_of_mem c List.mem_cons_self)).first
      have different : c.base ≠ d.base := apart
      cases closed
      refine List.forall_mem_cons.2 ⟨?_, List.forall_mem_singleton.2 ?_⟩
      · rw [along_ofEntries_pair different, x, x']
        ring
      · rw [along_ofEntries_pair (by omega), y, y']
        ring
  | midpoint s l =>
      obtain ⟨x, y⟩ := PointSite.along_gradients (points s List.mem_cons_self) p
      have line := lines l List.mem_cons_self
      have middle {g : Gradient ℝ} {i j : ℕ} {d : ℝ} (point : g.along t = d) (start : t i = d)
          (stop : t j = d) : (combine [(1, g), (-0.5, [(i, 1), (j, 1)])]).along t = 0 := by
        rw [along_combine]
        simp only [List.map_cons, List.map_nil, List.sum_cons, List.sum_nil, along_cons, along_nil,
          point, start, stop]
        ring
      cases closed
      exact List.forall_mem_cons.2 ⟨middle x line.first.1 line.second.1,
        List.forall_mem_singleton.2 (middle y line.first.2 line.second.2)⟩
  | offLine | collinear | onLine | mirror | tangentLine | tangentOuter | tangentInner =>
      cases closed

end Relation

/-- A bound relation is translated with the entities in its slots. -/
theorem Constraint.Binds.translated {c : Constraint ℝ} {p : Valuation ℝ} {slots : List Slot}
    {r : Relation ℝ} {t : ℕ → ℝ} {a b : ℝ} (bound : c.Binds p slots r)
    (translates : ∀ s ∈ slots, Translates t a b s.kind s.place.offset) : r.Translated t a b := by
  obtain ⟨points, lines, curves⟩ := bound.sites
  refine ⟨fun site among => ?_, fun l among => ?_, fun k among => ?_⟩
  · obtain ⟨s, slot, -, base, kind⟩ := points site among
    rw [base, kind]
    exact translates s slot
  · obtain ⟨s, slot, line⟩ := lines l among
    obtain ⟨kind, rfl⟩ := line_eq_some line
    exact kind ▸ translates s slot
  · obtain ⟨s, slot, curve⟩ := curves k among
    obtain ⟨round, rfl⟩ := curve_eq_some curve
    exact (translates s slot).circle_of_isCurve round

end PlanarSketch
