import PlanarSketch.Proofs.Relation.Partials

/-!
# Affine relations

The relations between coordinates that are read directly, and those between centers and radii,
have affine residuals (`Relation.Affine`).  Along every position their rows are straight
(`Relation.Affine.hasStraightRows`), and their derivatives are in closed form and free of
guards.
-/

namespace PlanarSketch

set_option autoImplicit false

/-! ## Straight functions -/

/-- A function whose graph is a straight line. -/
def Straight (f : ℝ → ℝ) : Prop := ∃ slope start, ∀ x, f x = slope * x + start

namespace Straight

variable {f g : ℝ → ℝ}

theorem const (c : ℝ) : Straight fun _ => c := ⟨0, c, fun x => by ring⟩

theorem update (q : Valuation ℝ) (i j : ℕ) : Straight fun x => q.update i x j := by
  by_cases here : j = i
  · exact ⟨1, 0, fun x => by simp [Valuation.update, here]⟩
  · exact ⟨0, q j, fun x => by simp [Valuation.update, here]⟩

theorem add (first : Straight f) (second : Straight g) : Straight fun x => f x + g x := by
  obtain ⟨m, c, straight⟩ := first
  obtain ⟨n, d, straight'⟩ := second
  exact ⟨m + n, c + d, fun x => by simp only [straight, straight']; ring⟩

theorem const_mul (c : ℝ) (straight : Straight f) : Straight fun x => c * f x := by
  obtain ⟨m, d, straight⟩ := straight
  exact ⟨c * m, c * d, fun x => by simp only [straight]; ring⟩

theorem sub (first : Straight f) (second : Straight g) : Straight fun x => f x - g x := by
  obtain ⟨m, c, straight⟩ := first.add (second.const_mul (-1))
  exact ⟨m, c, fun x => by rw [← straight]; ring⟩

end Straight

/-! ## Affine relations -/

namespace Relation

/-- Relations whose residual is affine: those of coordinates that are read directly, and those
between centers and radii. -/
def Affine {α : Type} : Relation α → Prop
  | coincident a b | level a b | plumb a b | rightOf a b _ | above a b _ =>
    a.angleIndex? = none ∧ b.angleIndex? = none
  | midpoint a _ => a.angleIndex? = none
  | sameRadius .. | radius .. | diameter .. | concentric .. => True
  | _ => False

variable {r : Relation ℝ}

/-- Along every position the rows of a relation are straight. -/
def HasStraightRows (r : Relation ℝ) : Prop :=
  ∃ rows : List (Valuation ℝ → ℝ), (∀ q, r.residual q = some (rows.map fun f => f q)) ∧
    ∀ f ∈ rows, ∀ (q : Valuation ℝ) i, Straight fun x => f (q.update i x)

theorem HasStraightRows.single {f : Valuation ℝ → ℝ} (row : ∀ q, r.residual q = some [f q])
    (straight : ∀ (q : Valuation ℝ) i, Straight fun x => f (q.update i x)) : r.HasStraightRows :=
  ⟨[f], row, fun _ among => List.mem_singleton.1 among ▸ straight⟩

theorem HasStraightRows.pair {f g : Valuation ℝ → ℝ} (rows : ∀ q, r.residual q = some [f q, g q])
    (first : ∀ (q : Valuation ℝ) i, Straight fun x => f (q.update i x))
    (second : ∀ (q : Valuation ℝ) i, Straight fun x => g (q.update i x)) : r.HasStraightRows := by
  refine ⟨[f, g], rows, fun k among => ?_⟩
  rcases List.mem_pair.1 among with rfl | rfl
  · exact first
  · exact second

theorem straight_xy {a : PointSite} (direct : a.angleIndex? = none) (q : Valuation ℝ) (i : ℕ) :
    (Straight fun x => (a.xy (q.update i x)).1) ∧ Straight fun x => (a.xy (q.update i x)).2 := by
  unfold PointSite.xy
  rw [direct]
  exact ⟨.update q i _, .update q i _⟩

theorem Affine.hasStraightRows (affine : r.Affine) : r.HasStraightRows := by
  cases r with
  | coincident a b =>
      refine .pair (fun _ => rfl) (fun q i => ?_) fun q i => ?_
      · exact (straight_xy affine.1 q i).1.sub (straight_xy affine.2 q i).1
      · exact (straight_xy affine.1 q i).2.sub (straight_xy affine.2 q i).2
  | level a b =>
      refine .single (fun _ => rfl) fun q i => ?_
      exact (straight_xy affine.2 q i).2.sub (straight_xy affine.1 q i).2
  | plumb a b =>
      refine .single (fun _ => rfl) fun q i => ?_
      exact (straight_xy affine.2 q i).1.sub (straight_xy affine.1 q i).1
  | rightOf a b target =>
      refine .single (fun _ => rfl) fun q i => ?_
      exact ((straight_xy affine.2 q i).1.sub (straight_xy affine.1 q i).1).sub (.const target)
  | above a b target =>
      refine .single (fun _ => rfl) fun q i => ?_
      exact ((straight_xy affine.2 q i).2.sub (straight_xy affine.1 q i).2).sub (.const target)
  | midpoint a l =>
      have middle (q : Valuation ℝ) (i j k : ℕ) :
          Straight fun x => 0.5 * (q.update i x j + q.update i x k) :=
        ((Straight.update q i j).add (.update q i k)).const_mul 0.5
      refine .pair (fun _ => rfl) (fun q i => ?_) fun q i => ?_
      · exact (straight_xy affine q i).1.sub (middle q i _ _)
      · exact (straight_xy affine q i).2.sub (middle q i _ _)
  | sameRadius c d =>
      exact .single (fun _ => rfl) fun q i => (Straight.update q i _).sub (.update q i _)
  | concentric c d =>
      refine .pair (fun _ => rfl) (fun q i => ?_) fun q i => ?_
      · exact (Straight.update q i _).sub (.update q i _)
      · exact (Straight.update q i _).sub (.update q i _)
  | radius c target =>
      exact .single (fun _ => rfl) fun q i => (Straight.update q i _).sub (.const target)
  | diameter c target =>
      refine .single (fun _ => rfl) fun q i => ?_
      exact ((Straight.update q i _).const_mul Scalar.two).sub (.const target)
  | _ => cases affine

theorem Affine.analytic (affine : r.Affine) : r.analytic = true := by
  cases r with
  | offLine | collinear | onLine | mirror | tangentLine | tangentOuter | tangentInner =>
      cases affine
  | _ => rfl

/-- The closed form of an affine relation has no guards. -/
theorem Affine.unguarded (affine : r.Affine) (p : Valuation ℝ) : r.Unguarded p := by
  cases r with
  | apart | parallel | perpendicular | angle | sameLength | length => cases affine
  | _ => trivial

theorem simple_gradients {p : Valuation ℝ} {gradients : List (Gradient ℝ)}
    (closed : r.gradients? p = some gradients) : ∀ g ∈ gradients, g.Simple := by
  cases r with
  | apart | parallel | perpendicular | angle | sameLength | length =>
      simp only [gradients?] at closed
      split at closed
      · cases closed
        exact List.forall_mem_singleton.2 List.nodup_nil
      · cases closed
        exact List.forall_mem_singleton.2 (Gradient.simple_combine _)
  | coincident | midpoint =>
      cases closed
      simp [Gradient.simple_combine]
  | level | plumb | rightOf | above =>
      cases closed
      exact List.forall_mem_singleton.2 (Gradient.simple_combine _)
  | sameRadius | concentric =>
      cases closed
      simp [Gradient.simple_ofEntries_pair]
  | radius | diameter =>
      cases closed
      exact List.forall_mem_singleton.2 (List.nodup_singleton _)
  | _ => cases closed

end Relation

end PlanarSketch
