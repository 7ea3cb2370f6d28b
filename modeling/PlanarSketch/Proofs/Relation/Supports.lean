import PlanarSketch.Proofs.Relation.Reads
import PlanarSketch.Relation.Slope

/-!
# Where gradients have entries

The gradients of a relation list positions that the relation reads, and no others
(`Relation.within_gradients`), and they are the same wherever these positions have the same
values (`Relation.gradients?_congr`).  The operations on gradients list nothing that has not
been put in: sums and combinations list the positions of what is added, and a gradient that is
listed entry by entry lists these entries.
-/

namespace PlanarSketch

set_option autoImplicit false

/-- All positions that a gradient lists have some property. -/
def Gradient.Within {α : Type} (P : Nat → Prop) (g : Gradient α) : Prop := ∀ e ∈ g, P e.1

namespace Gradient

variable {α : Type} {P : Nat → Prop} {i : Nat} {v : α} {g sum : Gradient α}

theorem within_nil : Within P ([] : Gradient α) := fun _ among => absurd among List.not_mem_nil

theorem within_cons {e : Nat × α} : Within P (e :: g) ↔ P e.1 ∧ Within P g :=
  List.forall_mem_cons

theorem Within.put (here : P i) (within : g.Within P) : (put i v g).Within P := by
  induction g with
  | nil => exact within_cons.2 ⟨here, within_nil⟩
  | cons e rest ih =>
      obtain ⟨first, later⟩ := within_cons.1 within
      unfold Gradient.put
      split
      · exact within_cons.2 ⟨here, later⟩
      · exact within_cons.2 ⟨first, ih later⟩

theorem within_ofEntries {entries : List (Nat × α)} (listed : ∀ e ∈ entries, P e.1) :
    (ofEntries entries).Within P := by
  have onto (g : Gradient α) (within : g.Within P) :
      (entries.foldl (fun g e => Gradient.put e.1 e.2 g) g).Within P := by
    induction entries generalizing g with
    | nil => exact within
    | cons e rest ih =>
        obtain ⟨first, later⟩ := List.forall_mem_cons.1 listed
        exact ih later _ (within.put first)
  exact onto [] within_nil

variable [Scalar α] {c : α}

theorem Within.add (here : P i) (within : g.Within P) : (add i v g).Within P := by
  induction g with
  | nil => exact within_cons.2 ⟨here, within_nil⟩
  | cons e rest ih =>
      obtain ⟨first, later⟩ := within_cons.1 within
      unfold Gradient.add
      split
      · exact within_cons.2 ⟨here, later⟩
      · exact within_cons.2 ⟨first, ih later⟩

theorem Within.addScaled (within : g.Within P) (start : sum.Within P) :
    (addScaled c g sum).Within P := by
  unfold Gradient.addScaled
  split
  · exact start
  · induction g generalizing sum with
    | nil => exact start
    | cons e rest ih =>
        obtain ⟨first, later⟩ := within_cons.1 within
        exact ih later (start.add first)

/-- A combination lists positions of its terms only. -/
theorem within_combine {terms : List (α × Gradient α)} (within : ∀ t ∈ terms, t.2.Within P) :
    (combine terms).Within P := by
  have onto (sum : Gradient α) (start : sum.Within P) :
      (terms.foldl (fun sum t => Gradient.addScaled t.1 t.2 sum) sum).Within P := by
    induction terms generalizing sum with
    | nil => exact start
    | cons t rest ih =>
        obtain ⟨first, later⟩ := List.forall_mem_cons.1 within
        exact ih later _ (first.addScaled start)
  exact onto [] within_nil

theorem within_combine_pair {d : α} {h : Gradient α} (first : g.Within P) (second : h.Within P) :
    (combine [(c, g), (d, h)]).Within P :=
  within_combine (List.forall_mem_cons.2 ⟨first, List.forall_mem_singleton.2 second⟩)

end Gradient

open PlanarSketch.Gradient

variable {α : Type} [Scalar α] {P : Nat → Prop}

theorem PointSite.within_gradients {a : PointSite} (reads : ∀ i ∈ a.reads, P i)
    (p : Valuation α) : (a.gradients p).1.Within P ∧ (a.gradients p).2.Within P := by
  obtain ⟨entity, base, kind, anchor⟩ := a
  have near (k : Nat) (inside : k < kind.paramCount) : P (base + k) :=
    reads _ (List.mem_range'_1.2 ⟨Nat.le_add_right _ _, Nat.add_lt_add_left inside base⟩)
  have first := near 0
  rw [Nat.add_zero] at first
  cases kind with
  | point | circle =>
      have center := And.intro (first (by decide)) (near 1 (by decide))
      simpa [PointSite.gradients, xyGradients, angleIndex?, coordinateIndex, within_cons,
        within_nil] using center
  | line =>
      have start := And.intro (first (by decide)) (near 1 (by decide))
      have stop := And.intro (near 2 (by decide)) (near 3 (by decide))
      cases anchor with
      | own | center | start =>
          simpa [PointSite.gradients, xyGradients, angleIndex?, coordinateIndex, within_cons,
            within_nil] using start
      | stop =>
          simpa [PointSite.gradients, xyGradients, angleIndex?, coordinateIndex, within_cons,
            within_nil] using stop
  | arc =>
      have center := And.intro (first (by decide)) (near 1 (by decide))
      have size := near 2 (by decide)
      cases anchor with
      | own | center =>
          simpa [PointSite.gradients, xyGradients, angleIndex?, coordinateIndex, within_cons,
            within_nil] using center
      | start =>
          simp [PointSite.gradients, xyGradients, angleIndex?, within_cons, within_nil, center,
            size, near 3 (by decide)]
      | stop =>
          simp [PointSite.gradients, xyGradients, angleIndex?, within_cons, within_nil, center,
            size, near 4 (by decide)]

/-- The gradients of the direction of a line list its four positions. -/
theorem LineSite.within_gradients {l : LineSite} (reads : ∀ i ∈ l.reads, P i) :
    (l.gradients : Gradient α × Gradient α).1.Within P ∧
      (l.gradients : Gradient α × Gradient α).2.Within P := by
  have near (k : Nat) (inside : k < 4) : P (l.base + k) :=
    reads _ (List.mem_range'_1.2 ⟨Nat.le_add_right _ _, Nat.add_lt_add_left inside _⟩)
  have first := near 0 (by decide)
  rw [Nat.add_zero] at first
  simp [LineSite.gradients, within_cons, within_nil, first, near 1, near 2, near 3]

theorem LineSite.within_pairGradient {l m : LineSite} (first : ∀ i ∈ l.reads, P i)
    (second : ∀ i ∈ m.reads, P i) (dax day dbx dby : α) :
    (l.pairGradient m dax day dbx dby).Within P := by
  obtain ⟨ax, ay⟩ := LineSite.within_gradients (α := α) first
  obtain ⟨bx, yy⟩ := LineSite.within_gradients (α := α) second
  refine within_combine (List.forall_mem_cons.2 ⟨ax, List.forall_mem_cons.2 ⟨ay, ?_⟩⟩)
  exact List.forall_mem_cons.2 ⟨bx, List.forall_mem_singleton.2 yy⟩

/-- **A gradient lists only what its relation reads.** -/
theorem Relation.within_gradients {p : Valuation α} {r : Relation α}
    {gradients : List (Gradient α)} (closed : r.gradients? p = some gradients) :
    ∀ g ∈ gradients, g.Within (· ∈ r.reads) := by
  have points : ∀ a ∈ r.points, (a.gradients p).1.Within (· ∈ r.reads) ∧
      (a.gradients p).2.Within (· ∈ r.reads) := by
    intro a among
    refine PointSite.within_gradients (fun i inside => ?_) p
    exact mem_reads.2 (.inl ⟨a, among, inside⟩)
  have lines : ∀ l ∈ r.lines, ∀ i ∈ l.reads, i ∈ r.reads := by
    intro l among i inside
    exact mem_reads.2 (.inr (.inl ⟨l, among, inside⟩))
  have curves : ∀ c ∈ r.curves, ∀ k < 3, c.base + k ∈ r.reads := by
    intro c among k inside
    refine mem_reads.2 (.inr (.inr ⟨c, among, ?_⟩))
    exact List.mem_range'_1.2 ⟨Nat.le_add_right _ _, by omega⟩
  generalize r.reads = positions at points lines curves ⊢
  cases r with
  | coincident a b =>
      have first := points a List.mem_cons_self
      have second := points b (List.mem_cons_of_mem a List.mem_cons_self)
      cases closed
      exact List.forall_mem_cons.2 ⟨within_combine_pair first.1 second.1,
        List.forall_mem_singleton.2 (within_combine_pair first.2 second.2)⟩
  | level a b | above a b =>
      have first := points a List.mem_cons_self
      have second := points b (List.mem_cons_of_mem a List.mem_cons_self)
      cases closed
      exact List.forall_mem_singleton.2 (within_combine_pair second.2 first.2)
  | plumb a b | rightOf a b =>
      have first := points a List.mem_cons_self
      have second := points b (List.mem_cons_of_mem a List.mem_cons_self)
      cases closed
      exact List.forall_mem_singleton.2 (within_combine_pair second.1 first.1)
  | apart a b =>
      have first := points a List.mem_cons_self
      have second := points b (List.mem_cons_of_mem a List.mem_cons_self)
      simp only [gradients?, PointSite.xyGradients_eq] at closed
      split at closed
      · cases closed
        exact List.forall_mem_singleton.2 within_nil
      · cases closed
        refine List.forall_mem_singleton.2 (within_combine (List.forall_mem_cons.2 ⟨second.1, ?_⟩))
        exact List.forall_mem_cons.2 ⟨first.1,
          List.forall_mem_cons.2 ⟨second.2, List.forall_mem_singleton.2 first.2⟩⟩
  | parallel l m | perpendicular l m | angle l m | sameLength l m =>
      have first := lines l List.mem_cons_self
      have second := lines m (List.mem_cons_of_mem l List.mem_cons_self)
      simp only [gradients?] at closed
      split at closed
      · cases closed
        exact List.forall_mem_singleton.2 within_nil
      · cases closed
        exact List.forall_mem_singleton.2 (LineSite.within_pairGradient first second _ _ _ _)
  | length l =>
      have own := LineSite.within_gradients (α := α) (lines l List.mem_cons_self)
      simp only [gradients?] at closed
      split at closed
      · cases closed
        exact List.forall_mem_singleton.2 within_nil
      · cases closed
        exact List.forall_mem_singleton.2 (within_combine_pair own.1 own.2)
  | sameRadius c d =>
      have first := curves c List.mem_cons_self
      have second := curves d (List.mem_cons_of_mem c List.mem_cons_self)
      cases closed
      refine List.forall_mem_singleton.2 (within_ofEntries ?_)
      exact List.forall_mem_cons.2 ⟨first 2 (by decide),
        List.forall_mem_singleton.2 (second 2 (by decide))⟩
  | radius c | diameter c =>
      have own := curves c List.mem_cons_self
      cases closed
      exact List.forall_mem_singleton.2 (List.forall_mem_singleton.2 (own 2 (by decide)))
  | concentric c d =>
      have first := curves c List.mem_cons_self
      have second := curves d (List.mem_cons_of_mem c List.mem_cons_self)
      have both (k : Nat) (inside : k < 3) :
          (ofEntries [(c.base + k, (1 : α)), (d.base + k, -1)]).Within (· ∈ positions) :=
        within_ofEntries (List.forall_mem_cons.2 ⟨first k inside,
          List.forall_mem_singleton.2 (second k inside)⟩)
      cases closed
      exact List.forall_mem_cons.2 ⟨both 0 (by decide),
        List.forall_mem_singleton.2 (both 1 (by decide))⟩
  | midpoint a l =>
      have point := points a List.mem_cons_self
      have line (k : Nat) (inside : k < 4) : l.base + k ∈ positions :=
        lines l List.mem_cons_self _ (List.mem_range'_1.2 ⟨Nat.le_add_right _ _, by omega⟩)
      have ends (k : Nat) (inside : k + 2 < 4) :
          Within (· ∈ positions) [(l.base + k, (1 : α)), (l.base + (k + 2), 1)] :=
        List.forall_mem_cons.2 ⟨line k (by omega), List.forall_mem_singleton.2 (line _ inside)⟩
      cases closed
      exact List.forall_mem_cons.2 ⟨within_combine_pair point.1 (ends 0 (by decide)),
        List.forall_mem_singleton.2 (within_combine_pair point.2 (ends 1 (by decide)))⟩
  | offLine | collinear | onLine | mirror | tangentLine | tangentOuter | tangentInner =>
      cases closed

/-! ## What gradients depend on -/

section Agreement

variable {p q : Valuation α}

/-- The gradients of an end of an arc depend on its radius and its angle, all others on nothing. -/
theorem PointSite.gradients_congr {a : PointSite} (same : ∀ i ∈ a.reads, p i = q i) :
    a.gradients p = a.gradients q := by
  unfold gradients xyGradients
  cases angle : a.angleIndex? with
  | none => rfl
  | some i =>
      obtain ⟨radius, turn⟩ := mem_reads_of_angleIndex angle
      simp only [same _ radius, same _ turn]

/-- **Gradients depend only on what their relation reads.** -/
theorem Relation.gradients?_congr {r : Relation α} (same : ∀ i ∈ r.reads, p i = q i) :
    r.gradients? p = r.gradients? q := by
  obtain ⟨sites, lines, -⟩ := agrees_of_reads same
  have points : ∀ a ∈ r.points, a.xy p = a.xy q ∧ a.gradients p = a.gradients q := fun a among =>
    ⟨PointSite.xy_congr (sites a among), PointSite.gradients_congr (sites a among)⟩
  clear same sites
  cases r with
  | coincident | level | plumb | rightOf | above | apart =>
      simp only [Relation.points, List.forall_mem_cons] at points
      simp only [gradients?, PointSite.xyGradients_eq, points]
  | midpoint a l => simp only [gradients?, (points a List.mem_cons_self).2]
  | parallel l m | perpendicular l m | angle l m | sameLength l m =>
      have first := lines l List.mem_cons_self
      have second := lines m (List.mem_cons_of_mem l List.mem_cons_self)
      simp only [gradients?, first.linePair second]
  | length l => simp only [gradients?, (lines l List.mem_cons_self).direction]
  | sameRadius | radius | diameter | concentric | offLine | collinear | onLine | mirror
  | tangentLine | tangentOuter | tangentInner => rfl

end Agreement

end PlanarSketch
