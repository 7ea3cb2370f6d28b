import PlanarSketch.Proofs.Fault.Identity
import PlanarSketch.Relation.Binding

/-!
# Where the sites of a relation come from

A constraint that is bound to slots becomes a relation whose lines are the lines of its
slots (`relation_lines`): a line of a relation stands at the place of an entity of the
constraint, and that entity is a line.  A constraint that cannot be bound does not fit its
slots; that is never a matter of identity.  Both are shown in one pass over the kinds.
-/

namespace PlanarSketch.Constraint

set_option autoImplicit false

variable {α : Type} (c : Constraint α)

theorem require_spares {σ : Type} (role : SlotRole) (s : Slot) (site : Option σ) :
    Spares (fun found => site = some found) (c.require role s site) := by
  cases site with
  | none => exact .error not_false
  | some site => exact .ok rfl

theorem pointIn_spares (s : Slot) : Spares (fun a => s.point? = some a) (c.pointIn s) :=
  c.require_spares _ _ _

theorem lineIn_spares (s : Slot) : Spares (fun l => s.line? = some l) (c.lineIn s) :=
  c.require_spares _ _ _

theorem curveIn_spares (s : Slot) : Spares (fun k => s.curve? = some k) (c.curveIn s) :=
  c.require_spares _ _ _

theorem pointPair_spares (slots : List Slot) : Spares (fun _ => True) (c.pointPair slots) := by
  unfold pointPair
  split
  · exact (c.lineIn_spares _).bind fun _ _ => .ok trivial
  · exact (c.pointIn_spares _).bind fun _ _ => (c.pointIn_spares _).bind fun _ _ => .ok trivial
  · exact .error not_false

theorem linePair_spares (s t : Slot) :
    Spares (fun lines => s.line? = some lines.1 ∧ t.line? = some lines.2) (c.linePair s t) :=
  (c.lineIn_spares s).bind fun _ first =>
    (c.lineIn_spares t).bind fun _ second => .ok ⟨first, second⟩

theorem curvePair_spares (s t : Slot) : Spares (fun _ => True) (c.curvePair s t) :=
  (c.curveIn_spares s).bind fun _ _ => (c.curveIn_spares t).bind fun _ _ => .ok trivial

variable [Scalar α] (p : Valuation α)

/-- Every line of a relation is the line of one of some slots. -/
def LinesFrom (slots : List Slot) (r : Relation α) : Prop :=
  ∀ l ∈ r.lines, ∃ s ∈ slots, s.line? = some l

omit [Scalar α] in
theorem LinesFrom.single {slots : List Slot} {r : Relation α} {l : LineSite} {s : Slot}
    (lines : r.lines = [l]) (among : s ∈ slots) (line : s.line? = some l) :
    LinesFrom slots r := by
  intro m present
  rw [lines, List.mem_singleton] at present
  exact ⟨s, among, present ▸ line⟩

omit [Scalar α] in
theorem LinesFrom.pair {r : Relation α} {l m : LineSite} {s t : Slot} (lines : r.lines = [l, m])
    (both : s.line? = some l ∧ t.line? = some m) : LinesFrom [s, t] r := by
  intro k present
  rw [lines, List.mem_pair] at present
  rcases present with rfl | rfl
  · exact ⟨s, List.mem_cons_self, both.1⟩
  · exact ⟨t, List.mem_cons_of_mem s List.mem_cons_self, both.2⟩

omit [Scalar α] in
theorem LinesFrom.none {slots : List Slot} {r : Relation α} (lines : r.lines = []) :
    LinesFrom slots r := by
  intro l present
  rw [lines] at present
  cases present

theorem distanceToLine_spares {slots : List Slot} {s t : Slot} (among : t ∈ slots) :
    Spares (LinesFrom slots) (c.distanceToLine p s t) :=
  (c.pointIn_spares s).bind fun _ _ => (c.lineIn_spares t).bind fun _ line =>
    .ok (.single rfl among line)

theorem lineTouchingCurve_spares {slots : List Slot} {s t : Slot} (among : s ∈ slots) :
    Spares (LinesFrom slots) (c.lineTouchingCurve p s t) :=
  (c.lineIn_spares s).bind fun _ line => (c.curveIn_spares t).bind fun _ _ =>
    .ok (.single rfl among line)

theorem lines_curvesTouching (a b : CurveSite) : (curvesTouching p a b).lines = [] := by
  unfold curvesTouching
  dsimp only
  split
  · rfl
  · rfl

/-- The lines of a relation are those of the slots it is bound to. -/
theorem relation_lines (slots : List Slot) : Spares (LinesFrom slots) (c.relation p slots) := by
  unfold relation
  split
  case h_1 => exact (c.pointPair_spares _).bind fun _ _ => .ok (.none rfl)
  case h_2 => exact (c.pointPair_spares _).bind fun _ _ => .ok (.none rfl)
  case h_3 => exact (c.pointPair_spares _).bind fun _ _ => .ok (.none rfl)
  case h_4 => exact (c.pointPair_spares _).bind fun _ _ => .ok (.none rfl)
  case h_5 s t _ =>
    exact (c.pointIn_spares s).bind fun _ _ => (c.pointIn_spares t).bind fun _ _ => .ok (.none rfl)
  case h_6 s t _ =>
    split
    · exact c.distanceToLine_spares p (List.mem_cons_of_mem s List.mem_cons_self)
    · split
      · exact c.distanceToLine_spares p List.mem_cons_self
      · exact (c.pointIn_spares s).bind fun _ _ => (c.pointIn_spares t).bind fun _ _ =>
          .ok (.none rfl)
  case h_7 s t _ => exact (c.linePair_spares s t).bind fun _ both => .ok (.pair rfl both)
  case h_8 s t _ => exact (c.linePair_spares s t).bind fun _ both => .ok (.pair rfl both)
  case h_9 s t _ => exact (c.linePair_spares s t).bind fun _ both => .ok (.pair rfl both)
  case h_10 s t _ => exact (c.linePair_spares s t).bind fun _ both => .ok (.pair rfl both)
  case h_11 s t _ =>
    split
    · exact (c.linePair_spares s t).bind fun _ both => .ok (.pair rfl both)
    · split
      · exact (c.curvePair_spares s t).bind fun _ _ => .ok (.none rfl)
      · exact .error not_false
  case h_12 s _ =>
    exact (c.lineIn_spares s).bind fun _ line => .ok (.single rfl List.mem_cons_self line)
  case h_13 s _ => exact (c.curveIn_spares s).bind fun _ _ => .ok (.none rfl)
  case h_14 s _ => exact (c.curveIn_spares s).bind fun _ _ => .ok (.none rfl)
  case h_15 s t _ => exact (c.curvePair_spares s t).bind fun _ _ => .ok (.none rfl)
  case h_16 s t _ =>
    exact (c.pointIn_spares s).bind fun _ _ => (c.lineIn_spares t).bind fun _ line =>
      .ok (.single rfl (List.mem_cons_of_mem s List.mem_cons_self) line)
  case h_17 s t _ =>
    exact (c.pointIn_spares s).bind fun _ _ => (c.lineIn_spares t).bind fun _ line =>
      .ok (.single rfl (List.mem_cons_of_mem s List.mem_cons_self) line)
  case h_18 s t u _ =>
    exact (c.pointIn_spares s).bind fun _ _ => (c.pointIn_spares t).bind fun _ _ =>
      (c.lineIn_spares u).bind fun _ line => .ok (.single rfl (by simp) line)
  case h_19 s t _ =>
    split
    · exact c.lineTouchingCurve_spares p List.mem_cons_self
    · split
      · exact c.lineTouchingCurve_spares p (List.mem_cons_of_mem s List.mem_cons_self)
      · exact (c.curvePair_spares s t).bind fun _ _ => .ok (.none (lines_curvesTouching p _ _))
  case h_20 => exact .error not_false

end PlanarSketch.Constraint
