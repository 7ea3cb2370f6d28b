import PlanarSketch.Proofs.Outcome
import PlanarSketch.Relation.Binding

/-!
# Which relation a constraint becomes

A constraint that is bound to slots becomes one of some twenty relations, between the sites
of its slots (`Constraint.Binds`).  The inversion `Constraint.binds_of_relation` says all that
binding can do, once for each form, and whatever holds of bound relations follows from it by
cases.  So every site of a bound relation stands at the place of one of the slots
(`Constraint.Binds.sites`), and a curve is paired with itself only by a constraint that names
one entity twice (`Constraint.Binds.slots_of_selfPaired`).  Conversely all that the inversion
allows is bound (`Constraint.relation_of_binds`).
-/

namespace PlanarSketch

set_option autoImplicit false

open Outcome

variable {α : Type}

/-- Two curves are paired whose parameters begin at one position. -/
def Relation.SelfPaired : Relation α → Prop
  | sameRadius c d | concentric c d => c.base = d.base
  | _ => False

namespace Constraint

/-- The two points of an alignment: the ends of one line, or the points of two slots. -/
inductive Aligns : List Slot → PointSite → PointSite → Prop where
  | ends {s : Slot} {l : LineSite} (line : s.line? = some l) : Aligns [s] l.first l.second
  | points {s t : Slot} {a b : PointSite} (first : s.point? = some a)
      (second : t.point? = some b) : Aligns [s, t] a b

section Readers

variable {c : Constraint α}

theorem require_eq_ok {σ : Type} {role : SlotRole} {s : Slot} {site : Option σ} {found : σ} :
    c.require role s site = .ok found ↔ site = some found := by
  cases site with
  | none => simp [require]
  | some site => simp [require]

theorem pointIn_eq_ok {s : Slot} {a : PointSite} : c.pointIn s = .ok a ↔ s.point? = some a :=
  require_eq_ok

theorem lineIn_eq_ok {s : Slot} {l : LineSite} : c.lineIn s = .ok l ↔ s.line? = some l :=
  require_eq_ok

theorem curveIn_eq_ok {s : Slot} {k : CurveSite} : c.curveIn s = .ok k ↔ s.curve? = some k :=
  require_eq_ok

theorem pointPair_eq_ok {slots : List Slot} {pair : PointSite × PointSite}
    (found : c.pointPair slots = .ok pair) : Aligns slots pair.1 pair.2 := by
  unfold pointPair at found
  split at found
  · obtain ⟨l, line, rest⟩ := bind_eq_ok.1 found
    cases rest
    exact .ends (lineIn_eq_ok.1 line)
  · obtain ⟨a, first, rest⟩ := bind_eq_ok.1 found
    obtain ⟨b, second, rest⟩ := bind_eq_ok.1 rest
    cases rest
    exact .points (pointIn_eq_ok.1 first) (pointIn_eq_ok.1 second)
  · cases found

theorem linePair_eq_ok {s t : Slot} {pair : LineSite × LineSite}
    (found : c.linePair s t = .ok pair) : s.line? = some pair.1 ∧ t.line? = some pair.2 := by
  obtain ⟨l, first, rest⟩ := bind_eq_ok.1 found
  obtain ⟨m, second, rest⟩ := bind_eq_ok.1 rest
  cases rest
  exact ⟨lineIn_eq_ok.1 first, lineIn_eq_ok.1 second⟩

theorem curvePair_eq_ok {s t : Slot} {pair : CurveSite × CurveSite}
    (found : c.curvePair s t = .ok pair) : s.curve? = some pair.1 ∧ t.curve? = some pair.2 := by
  obtain ⟨a, first, rest⟩ := bind_eq_ok.1 found
  obtain ⟨b, second, rest⟩ := bind_eq_ok.1 rest
  cases rest
  exact ⟨curveIn_eq_ok.1 first, curveIn_eq_ok.1 second⟩

end Readers

variable [Scalar α]

/-- What a constraint becomes between the sites of its slots, at a geometry. -/
inductive Binds (c : Constraint α) (p : Valuation α) : List Slot → Relation α → Prop where
  | level {slots : List Slot} {a b : PointSite} (kind : c.kind = .horizontal)
      (pair : Aligns slots a b) : Binds c p slots (.level a b)
  | plumb {slots : List Slot} {a b : PointSite} (kind : c.kind = .vertical)
      (pair : Aligns slots a b) : Binds c p slots (.plumb a b)
  | rightOf {slots : List Slot} {a b : PointSite} (kind : c.kind = .horizontalDistance)
      (pair : Aligns slots a b) : Binds c p slots (.rightOf a b c.target)
  | above {slots : List Slot} {a b : PointSite} (kind : c.kind = .verticalDistance)
      (pair : Aligns slots a b) : Binds c p slots (.above a b c.target)
  | coincident {s t : Slot} {a b : PointSite} (kind : c.kind = .coincident)
      (first : s.point? = some a) (second : t.point? = some b) :
      Binds c p [s, t] (.coincident a b)
  | apart {s t : Slot} {a b : PointSite} (kind : c.kind = .distance)
      (first : s.point? = some a) (second : t.point? = some b) :
      Binds c p [s, t] (.apart a b c.target)
  | offLine {s t : Slot} {slots : List Slot} {a : PointSite} {l : LineSite}
      (kind : c.kind = .distance) (order : slots = [s, t] ∨ slots = [t, s])
      (point : s.point? = some a) (line : t.line? = some l) :
      Binds c p slots (.offLine a l (.ofSigned? (l.signedDistance? p (a.xy p))) c.target)
  | parallel {s t : Slot} {l m : LineSite} (kind : c.kind = .parallel)
      (first : s.line? = some l) (second : t.line? = some m) : Binds c p [s, t] (.parallel l m)
  | perpendicular {s t : Slot} {l m : LineSite} (kind : c.kind = .perpendicular)
      (first : s.line? = some l) (second : t.line? = some m) :
      Binds c p [s, t] (.perpendicular l m)
  | angle {s t : Slot} {l m : LineSite} (kind : c.kind = .angle) (first : s.line? = some l)
      (second : t.line? = some m) : Binds c p [s, t] (.angle l m c.target)
  | collinear {s t : Slot} {l m : LineSite} (kind : c.kind = .collinear)
      (first : s.line? = some l) (second : t.line? = some m) : Binds c p [s, t] (.collinear l m)
  | sameLength {s t : Slot} {l m : LineSite} (kind : c.kind = .equal)
      (first : s.line? = some l) (second : t.line? = some m) : Binds c p [s, t] (.sameLength l m)
  | sameRadius {s t : Slot} {a b : CurveSite} (kind : c.kind = .equal)
      (first : s.curve? = some a) (second : t.curve? = some b) :
      Binds c p [s, t] (.sameRadius a b)
  | length {s : Slot} {l : LineSite} (kind : c.kind = .length) (line : s.line? = some l) :
      Binds c p [s] (.length l c.target)
  | radius {s : Slot} {k : CurveSite} (kind : c.kind = .radius) (curve : s.curve? = some k) :
      Binds c p [s] (.radius k c.target)
  | diameter {s : Slot} {k : CurveSite} (kind : c.kind = .diameter) (curve : s.curve? = some k) :
      Binds c p [s] (.diameter k c.target)
  | concentric {s t : Slot} {a b : CurveSite} (kind : c.kind = .concentric)
      (first : s.curve? = some a) (second : t.curve? = some b) :
      Binds c p [s, t] (.concentric a b)
  | midpoint {s t : Slot} {a : PointSite} {l : LineSite} (kind : c.kind = .midpoint)
      (point : s.point? = some a) (line : t.line? = some l) : Binds c p [s, t] (.midpoint a l)
  | onLine {s t : Slot} {a : PointSite} {l : LineSite} (kind : c.kind = .pointOnLine)
      (point : s.point? = some a) (line : t.line? = some l) : Binds c p [s, t] (.onLine a l)
  | mirror {s t u : Slot} {a b : PointSite} {l : LineSite} (kind : c.kind = .symmetric)
      (first : s.point? = some a) (second : t.point? = some b) (line : u.line? = some l) :
      Binds c p [s, t, u] (.mirror a b l)
  | tangentLine {s t : Slot} {slots : List Slot} {l : LineSite} {k : CurveSite}
      (kind : c.kind = .tangent) (order : slots = [s, t] ∨ slots = [t, s])
      (line : s.line? = some l) (curve : t.curve? = some k) :
      Binds c p slots (.tangentLine l k (.ofSigned? (l.signedDistance? p (k.center p))))
  | touching {s t : Slot} {a b : CurveSite} (kind : c.kind = .tangent)
      (first : s.curve? = some a) (second : t.curve? = some b) :
      Binds c p [s, t] (curvesTouching p a b)

variable {c : Constraint α} {p : Valuation α} {slots : List Slot} {r : Relation α}

theorem distanceToLine_eq_ok {s t : Slot} (kind : c.kind = .distance)
    (order : slots = [s, t] ∨ slots = [t, s]) (found : c.distanceToLine p s t = .ok r) :
    c.Binds p slots r := by
  obtain ⟨a, point, rest⟩ := bind_eq_ok.1 found
  obtain ⟨l, line, rest⟩ := bind_eq_ok.1 rest
  cases rest
  exact .offLine kind order (pointIn_eq_ok.1 point) (lineIn_eq_ok.1 line)

theorem lineTouchingCurve_eq_ok {s t : Slot} (kind : c.kind = .tangent)
    (order : slots = [s, t] ∨ slots = [t, s]) (found : c.lineTouchingCurve p s t = .ok r) :
    c.Binds p slots r := by
  obtain ⟨l, line, rest⟩ := bind_eq_ok.1 found
  obtain ⟨k, curve, rest⟩ := bind_eq_ok.1 rest
  cases rest
  exact .tangentLine kind order (lineIn_eq_ok.1 line) (curveIn_eq_ok.1 curve)

/-- **Binding yields one of these relations and no other.** -/
theorem binds_of_relation (bound : c.relation p slots = .ok r) : c.Binds p slots r := by
  unfold relation at bound
  split at bound
  case h_1 kind =>
    obtain ⟨pair, found, rest⟩ := bind_eq_ok.1 bound
    cases rest
    exact .level kind (pointPair_eq_ok found)
  case h_2 kind =>
    obtain ⟨pair, found, rest⟩ := bind_eq_ok.1 bound
    cases rest
    exact .plumb kind (pointPair_eq_ok found)
  case h_3 kind =>
    obtain ⟨pair, found, rest⟩ := bind_eq_ok.1 bound
    cases rest
    exact .rightOf kind (pointPair_eq_ok found)
  case h_4 kind =>
    obtain ⟨pair, found, rest⟩ := bind_eq_ok.1 bound
    cases rest
    exact .above kind (pointPair_eq_ok found)
  case h_5 kind =>
    obtain ⟨a, first, rest⟩ := bind_eq_ok.1 bound
    obtain ⟨b, second, rest⟩ := bind_eq_ok.1 rest
    cases rest
    exact .coincident kind (pointIn_eq_ok.1 first) (pointIn_eq_ok.1 second)
  case h_6 kind =>
    split at bound
    · exact distanceToLine_eq_ok kind (.inl rfl) bound
    · split at bound
      · exact distanceToLine_eq_ok kind (.inr rfl) bound
      · obtain ⟨a, first, rest⟩ := bind_eq_ok.1 bound
        obtain ⟨b, second, rest⟩ := bind_eq_ok.1 rest
        cases rest
        exact .apart kind (pointIn_eq_ok.1 first) (pointIn_eq_ok.1 second)
  case h_7 kind =>
    obtain ⟨pair, found, rest⟩ := bind_eq_ok.1 bound
    cases rest
    exact .parallel kind (linePair_eq_ok found).1 (linePair_eq_ok found).2
  case h_8 kind =>
    obtain ⟨pair, found, rest⟩ := bind_eq_ok.1 bound
    cases rest
    exact .perpendicular kind (linePair_eq_ok found).1 (linePair_eq_ok found).2
  case h_9 kind =>
    obtain ⟨pair, found, rest⟩ := bind_eq_ok.1 bound
    cases rest
    exact .angle kind (linePair_eq_ok found).1 (linePair_eq_ok found).2
  case h_10 kind =>
    obtain ⟨pair, found, rest⟩ := bind_eq_ok.1 bound
    cases rest
    exact .collinear kind (linePair_eq_ok found).1 (linePair_eq_ok found).2
  case h_11 kind =>
    split at bound
    · obtain ⟨pair, found, rest⟩ := bind_eq_ok.1 bound
      cases rest
      exact .sameLength kind (linePair_eq_ok found).1 (linePair_eq_ok found).2
    · split at bound
      · obtain ⟨pair, found, rest⟩ := bind_eq_ok.1 bound
        cases rest
        exact .sameRadius kind (curvePair_eq_ok found).1 (curvePair_eq_ok found).2
      · cases bound
  case h_12 kind =>
    obtain ⟨l, line, rest⟩ := bind_eq_ok.1 bound
    cases rest
    exact .length kind (lineIn_eq_ok.1 line)
  case h_13 kind =>
    obtain ⟨k, curve, rest⟩ := bind_eq_ok.1 bound
    cases rest
    exact .radius kind (curveIn_eq_ok.1 curve)
  case h_14 kind =>
    obtain ⟨k, curve, rest⟩ := bind_eq_ok.1 bound
    cases rest
    exact .diameter kind (curveIn_eq_ok.1 curve)
  case h_15 kind =>
    obtain ⟨pair, found, rest⟩ := bind_eq_ok.1 bound
    cases rest
    exact .concentric kind (curvePair_eq_ok found).1 (curvePair_eq_ok found).2
  case h_16 kind =>
    obtain ⟨a, point, rest⟩ := bind_eq_ok.1 bound
    obtain ⟨l, line, rest⟩ := bind_eq_ok.1 rest
    cases rest
    exact .midpoint kind (pointIn_eq_ok.1 point) (lineIn_eq_ok.1 line)
  case h_17 kind =>
    obtain ⟨a, point, rest⟩ := bind_eq_ok.1 bound
    obtain ⟨l, line, rest⟩ := bind_eq_ok.1 rest
    cases rest
    exact .onLine kind (pointIn_eq_ok.1 point) (lineIn_eq_ok.1 line)
  case h_18 kind =>
    obtain ⟨a, first, rest⟩ := bind_eq_ok.1 bound
    obtain ⟨b, second, rest⟩ := bind_eq_ok.1 rest
    obtain ⟨l, line, rest⟩ := bind_eq_ok.1 rest
    cases rest
    exact .mirror kind (pointIn_eq_ok.1 first) (pointIn_eq_ok.1 second) (lineIn_eq_ok.1 line)
  case h_19 kind =>
    split at bound
    · exact lineTouchingCurve_eq_ok kind (.inl rfl) bound
    · split at bound
      · exact lineTouchingCurve_eq_ok kind (.inr rfl) bound
      · obtain ⟨pair, found, rest⟩ := bind_eq_ok.1 bound
        cases rest
        exact .touching kind (curvePair_eq_ok found).1 (curvePair_eq_ok found).2
  case h_20 => cases bound

/-! ## Sites of bound relations -/

/-- A point at the place of a slot. -/
def At (s : Slot) (a : PointSite) : Prop :=
  a.entity = s.place.id ∧ a.base = s.place.offset ∧ a.kind = s.kind

omit [Scalar α] in
theorem at_of_point {s : Slot} {a : PointSite} (point : s.point? = some a) : At s a := by
  unfold Slot.point? at point
  obtain ⟨anchor, -, rfl⟩ := Option.map_eq_some_iff.1 point
  exact ⟨rfl, rfl, rfl⟩

omit [Scalar α] in
theorem line_eq_some {s : Slot} {l : LineSite} (line : s.line? = some l) :
    s.kind = .line ∧ l = ⟨s.place.id, s.place.offset⟩ := by
  unfold Slot.line? Slot.isLine at line
  split at line
  · rename_i whole
    rw [Bool.and_eq_true, beq_iff_eq] at whole
    exact ⟨whole.1, (Option.some.inj line).symm⟩
  · cases line

omit [Scalar α] in
theorem curve_eq_some {s : Slot} {k : CurveSite} (curve : s.curve? = some k) :
    s.kind.isCurve = true ∧ k = ⟨s.place.id, s.place.offset⟩ := by
  unfold Slot.curve? at curve
  split at curve
  · rename_i round
    rw [Bool.and_eq_true] at round
    exact ⟨round.1, (Option.some.inj curve).symm⟩
  · cases curve

omit [Scalar α] in
theorem Aligns.at {slots : List Slot} {a b : PointSite} (pair : Aligns slots a b) :
    (∃ s ∈ slots, At s a) ∧ ∃ s ∈ slots, At s b := by
  cases pair with
  | ends line =>
      obtain ⟨kind, rfl⟩ := line_eq_some line
      exact ⟨⟨_, List.mem_cons_self, rfl, rfl, kind.symm⟩, _, List.mem_cons_self, rfl, rfl,
        kind.symm⟩
  | points first second =>
      exact ⟨⟨_, List.mem_cons_self, at_of_point first⟩, _,
        List.mem_cons_of_mem _ List.mem_cons_self, at_of_point second⟩

/-- **Every site of a bound relation stands at the place of one of its slots.** -/
theorem Binds.sites (bound : c.Binds p slots r) :
    (∀ a ∈ r.points, ∃ s ∈ slots, At s a) ∧ (∀ l ∈ r.lines, ∃ s ∈ slots, s.line? = some l) ∧
      ∀ k ∈ r.curves, ∃ s ∈ slots, s.curve? = some k := by
  cases bound with
  | level _ pair | plumb _ pair | rightOf _ pair | above _ pair =>
      simpa [Relation.points, Relation.lines, Relation.curves] using pair.at
  | coincident _ first second | apart _ first second =>
      simp [Relation.points, Relation.lines, Relation.curves, at_of_point first,
        at_of_point second]
  | parallel _ first second | perpendicular _ first second | angle _ first second
  | collinear _ first second | sameLength _ first second | sameRadius _ first second
  | concentric _ first second =>
      simp [Relation.points, Relation.lines, Relation.curves, first, second]
  | offLine _ order point line =>
      rcases order with rfl | rfl
      · simp [Relation.points, Relation.lines, Relation.curves, at_of_point point, line]
      · simp [Relation.points, Relation.lines, Relation.curves, at_of_point point, line]
  | tangentLine _ order line curve =>
      rcases order with rfl | rfl
      · simp [Relation.points, Relation.lines, Relation.curves, line, curve]
      · simp [Relation.points, Relation.lines, Relation.curves, line, curve]
  | length _ line => simp [Relation.points, Relation.lines, Relation.curves, line]
  | radius _ curve | diameter _ curve =>
      simp [Relation.points, Relation.lines, Relation.curves, curve]
  | midpoint _ point line | onLine _ point line =>
      simp [Relation.points, Relation.lines, Relation.curves, at_of_point point, line]
  | mirror _ first second line =>
      simp [Relation.points, Relation.lines, Relation.curves, at_of_point first,
        at_of_point second, line]
  | touching _ first second =>
      unfold curvesTouching
      dsimp only
      split
      · simp [Relation.points, Relation.lines, Relation.curves, first, second]
      · simp [Relation.points, Relation.lines, Relation.curves, first, second]

/-- Curves that are paired come from two slots. -/
theorem Binds.slots_of_selfPaired (bound : c.Binds p slots r) (paired : r.SelfPaired) :
    ∃ s t, slots = [s, t] ∧ s.place.offset = t.place.offset := by
  cases bound with
  | sameRadius _ first second | concentric _ first second =>
      obtain ⟨-, rfl⟩ := curve_eq_some first
      obtain ⟨-, rfl⟩ := curve_eq_some second
      exact ⟨_, _, rfl, paired⟩
  | touching =>
      unfold curvesTouching at paired
      dsimp only at paired
      split at paired
      · cases paired
      · cases paired
  | _ => cases paired

/-- A constraint adds as many equations as the relation has that it becomes. -/
theorem Binds.rows (bound : c.Binds p slots r) : r.rows = c.rows := by
  cases bound with
  | touching kind _ _ =>
      unfold curvesTouching Constraint.rows
      rw [kind]
      dsimp only
      split
      · rfl
      · rfl
  | _ kind _ =>
      unfold Constraint.rows
      rw [kind]
      rfl

/-! ## Binding what can be bound -/

omit [Scalar α] in
theorem isLine_of_line {s : Slot} {l : LineSite} (line : s.line? = some l) : s.isLine = true := by
  unfold Slot.line? at line
  split at line
  · assumption
  · cases line

omit [Scalar α] in
/-- A line as a whole is not a point. -/
theorem not_isLine_of_point {s : Slot} {a : PointSite} (point : s.point? = some a) :
    s.isLine = false := by
  by_contra whole
  rw [Bool.not_eq_false, Slot.isLine, Bool.and_eq_true, beq_iff_eq, beq_iff_eq] at whole
  have unnamed : EntityKind.line.anchor? "" = none := by decide
  rw [Slot.point?, whole.1, whole.2, unnamed] at point
  cases point

omit [Scalar α] in
theorem not_isLine_of_curve {s : Slot} {k : CurveSite} (curve : s.curve? = some k) :
    s.isLine = false := by
  by_contra whole
  rw [Bool.not_eq_false, Slot.isLine, Bool.and_eq_true, beq_iff_eq] at whole
  have round := (curve_eq_some curve).1
  rw [whole.1] at round
  cases round

omit [Scalar α] in
theorem Aligns.pointPair {slots : List Slot} {a b : PointSite} (pair : Aligns slots a b) :
    c.pointPair slots = .ok (a, b) := by
  cases pair with
  | ends line => exact bind_eq_ok.2 ⟨_, lineIn_eq_ok.2 line, rfl⟩
  | points first second =>
      exact bind_eq_ok.2 ⟨_, pointIn_eq_ok.2 first, bind_eq_ok.2 ⟨_, pointIn_eq_ok.2 second, rfl⟩⟩

omit [Scalar α] in
theorem linePair_of_lines {s t : Slot} {l m : LineSite} (first : s.line? = some l)
    (second : t.line? = some m) : c.linePair s t = .ok (l, m) :=
  bind_eq_ok.2 ⟨_, lineIn_eq_ok.2 first, bind_eq_ok.2 ⟨_, lineIn_eq_ok.2 second, rfl⟩⟩

omit [Scalar α] in
theorem curvePair_of_curves {s t : Slot} {a b : CurveSite} (first : s.curve? = some a)
    (second : t.curve? = some b) : c.curvePair s t = .ok (a, b) :=
  bind_eq_ok.2 ⟨_, curveIn_eq_ok.2 first, bind_eq_ok.2 ⟨_, curveIn_eq_ok.2 second, rfl⟩⟩

theorem distanceToLine_of_sites {s t : Slot} {a : PointSite} {l : LineSite}
    (point : s.point? = some a) (line : t.line? = some l) :
    c.distanceToLine p s t =
      .ok (.offLine a l (.ofSigned? (l.signedDistance? p (a.xy p))) c.target) :=
  bind_eq_ok.2 ⟨_, pointIn_eq_ok.2 point, bind_eq_ok.2 ⟨_, lineIn_eq_ok.2 line, rfl⟩⟩

theorem lineTouchingCurve_of_sites {s t : Slot} {l : LineSite} {k : CurveSite}
    (line : s.line? = some l) (curve : t.curve? = some k) :
    c.lineTouchingCurve p s t =
      .ok (.tangentLine l k (.ofSigned? (l.signedDistance? p (k.center p)))) :=
  bind_eq_ok.2 ⟨_, lineIn_eq_ok.2 line, bind_eq_ok.2 ⟨_, curveIn_eq_ok.2 curve, rfl⟩⟩

/-- **Each of the relations is what binding yields** between its sites. -/
theorem relation_of_binds (bound : c.Binds p slots r) : c.relation p slots = .ok r := by
  unfold relation
  cases bound with
  | level kind pair | plumb kind pair | rightOf kind pair | above kind pair =>
      simp only [kind]
      exact bind_eq_ok.2 ⟨_, pair.pointPair, rfl⟩
  | coincident kind first second =>
      simp only [kind]
      exact bind_eq_ok.2 ⟨_, pointIn_eq_ok.2 first, bind_eq_ok.2 ⟨_, pointIn_eq_ok.2 second, rfl⟩⟩
  | apart kind first second =>
      simp only [kind, not_isLine_of_point first, not_isLine_of_point second]
      exact bind_eq_ok.2 ⟨_, pointIn_eq_ok.2 first, bind_eq_ok.2 ⟨_, pointIn_eq_ok.2 second, rfl⟩⟩
  | offLine kind order point line =>
      rcases order with rfl | rfl
      · simp only [kind, isLine_of_line line, if_true]
        exact distanceToLine_of_sites point line
      · simp only [kind, isLine_of_line line, not_isLine_of_point point]
        exact distanceToLine_of_sites point line
  | parallel kind first second | perpendicular kind first second | angle kind first second
  | collinear kind first second =>
      simp only [kind]
      exact bind_eq_ok.2 ⟨_, linePair_of_lines first second, rfl⟩
  | sameLength kind first second =>
      simp only [kind, isLine_of_line first, isLine_of_line second, Bool.and_self, if_true]
      exact bind_eq_ok.2 ⟨_, linePair_of_lines first second, rfl⟩
  | sameRadius kind first second =>
      simp only [kind, not_isLine_of_curve first, (curve_eq_some first).1, (curve_eq_some second).1]
      exact bind_eq_ok.2 ⟨_, curvePair_of_curves first second, rfl⟩
  | length kind line =>
      simp only [kind]
      exact bind_eq_ok.2 ⟨_, lineIn_eq_ok.2 line, rfl⟩
  | radius kind curve | diameter kind curve =>
      simp only [kind]
      exact bind_eq_ok.2 ⟨_, curveIn_eq_ok.2 curve, rfl⟩
  | concentric kind first second =>
      simp only [kind]
      exact bind_eq_ok.2 ⟨_, curvePair_of_curves first second, rfl⟩
  | midpoint kind point line | onLine kind point line =>
      simp only [kind]
      exact bind_eq_ok.2 ⟨_, pointIn_eq_ok.2 point, bind_eq_ok.2 ⟨_, lineIn_eq_ok.2 line, rfl⟩⟩
  | mirror kind first second line =>
      simp only [kind]
      exact bind_eq_ok.2 ⟨_, pointIn_eq_ok.2 first, bind_eq_ok.2 ⟨_, pointIn_eq_ok.2 second,
        bind_eq_ok.2 ⟨_, lineIn_eq_ok.2 line, rfl⟩⟩⟩
  | tangentLine kind order line curve =>
      rcases order with rfl | rfl
      · simp only [kind, isLine_of_line line, if_true]
        exact lineTouchingCurve_of_sites line curve
      · simp only [kind, isLine_of_line line, not_isLine_of_curve curve]
        exact lineTouchingCurve_of_sites line curve
  | touching kind first second =>
      simp only [kind, not_isLine_of_curve first, not_isLine_of_curve second]
      exact bind_eq_ok.2 ⟨_, curvePair_of_curves first second, rfl⟩

end Constraint

end PlanarSketch
