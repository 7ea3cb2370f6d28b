import PlanarSketch.Proofs.Exact
import PlanarSketch.Proofs.Relation.Divisors
import PlanarSketch.Proofs.Relation.Sites

/-!
# Branches chosen anew

A relation keeps the branch that it was bound with.  Bound again at another geometry, a
constraint becomes the same relation between the same sites, but with the branch that this
geometry lies on (`Relation.redrawn`, `Constraint.relation_redrawn`).  It is one of several
relations that differ in their branches only (`Relation.alternatives`); two curves may even come
to touch from the other side.

Where distances are not negative, the branch of a geometry is the best one there.  Over exact
numbers no row of a relation is farther from zero after the branch has been chosen anew
(`Relation.residual_redrawn`).
-/

namespace PlanarSketch

set_option autoImplicit false

open Outcome

variable {α : Type} [Scalar α]

namespace Relation

/-- The same relation with the branch of another geometry. -/
def redrawn (p : Valuation α) : Relation α → Relation α
  | offLine a l _ target => offLine a l (.ofSigned? (l.signedDistance? p (a.xy p))) target
  | tangentLine l c _ => tangentLine l c (.ofSigned? (l.signedDistance? p (c.center p)))
  | tangentOuter c d | tangentInner c d _ => Constraint.curvesTouching p c d
  | r => r

/-- A relation on each of its branches: on both sides of a line; for two curves, touching from
outside, or from inside with either radius as the larger one. -/
def alternatives {α : Type} : Relation α → List (Relation α)
  | offLine a l _ target => [offLine a l .plus target, offLine a l .minus target]
  | tangentLine l c _ => [tangentLine l c .plus, tangentLine l c .minus]
  | tangentOuter c d | tangentInner c d _ =>
    [tangentOuter c d, tangentInner c d .plus, tangentInner c d .minus]
  | r => [r]

omit [Scalar α] in
theorem mem_alternatives_self (r : Relation α) : r ∈ r.alternatives := by
  cases r with
  | offLine a l side target | tangentLine l c side | tangentInner c d side =>
      cases side with
      | plus | minus => simp [alternatives]
  | _ => exact List.mem_cons_self

theorem redrawn_mem_alternatives (p : Valuation α) (r : Relation α) :
    r.redrawn p ∈ r.alternatives := by
  have curves (c d : CurveSite) :
      (Constraint.curvesTouching p c d).alternatives = (tangentOuter c d).alternatives := by
    unfold Constraint.curvesTouching
    dsimp only
    split
    · rfl
    · rfl
  have same : (r.redrawn p).alternatives = r.alternatives := by
    cases r with
    | tangentOuter c d | tangentInner c d => exact curves c d
    | _ => rfl
  exact same ▸ mem_alternatives_self (r.redrawn p)

omit [Scalar α] in
/-- What does not see branches is the same for all alternatives of a relation. -/
theorem blind_of_alternative {β : Type} (f : Relation α → β)
    (off : ∀ a l side side' target, f (offLine a l side target) = f (offLine a l side' target))
    (tangent : ∀ l c side side', f (tangentLine l c side) = f (tangentLine l c side'))
    (touching : ∀ c d larger, f (tangentInner c d larger) = f (tangentOuter c d))
    {r s : Relation α} (listed : s ∈ r.alternatives) : f s = f r := by
  cases r with
  | offLine a l side target =>
      rcases List.mem_pair.1 listed with rfl | rfl
      · exact off a l _ side target
      · exact off a l _ side target
  | tangentLine l c side =>
      rcases List.mem_pair.1 listed with rfl | rfl
      · exact tangent l c _ side
      · exact tangent l c _ side
  | tangentOuter c d | tangentInner c d larger =>
      simp only [alternatives, List.mem_cons, List.not_mem_nil, or_false] at listed
      rcases listed with rfl | rfl | rfl
      · simp only [touching]
      · simp only [touching]
      · simp only [touching]
  | _ => rw [List.mem_singleton.1 listed]

/-- What does not see branches is the same after the branch has been chosen anew. -/
theorem blind_redrawn {β : Type} (f : Relation α → β)
    (off : ∀ a l side side' target, f (offLine a l side target) = f (offLine a l side' target))
    (tangent : ∀ l c side side', f (tangentLine l c side) = f (tangentLine l c side'))
    (touching : ∀ c d larger, f (tangentInner c d larger) = f (tangentOuter c d))
    (p : Valuation α) (r : Relation α) : f (r.redrawn p) = f r :=
  blind_of_alternative f off tangent touching (redrawn_mem_alternatives p r)

variable (p : Valuation α) (r : Relation α)

theorem divisors_redrawn : (r.redrawn p).divisors = r.divisors :=
  blind_redrawn divisors (fun _ _ _ _ _ => rfl) (fun _ _ _ _ => rfl) (fun _ _ _ => rfl) p r

theorem analytic_redrawn : (r.redrawn p).analytic = r.analytic :=
  blind_redrawn analytic (fun _ _ _ _ _ => rfl) (fun _ _ _ _ => rfl) (fun _ _ _ => rfl) p r

theorem watched_redrawn : (r.redrawn p).watched = r.watched :=
  blind_redrawn watched (fun _ _ _ _ _ => rfl) (fun _ _ _ _ => rfl) (fun _ _ _ => rfl) p r

end Relation

namespace Constraint

variable {c : Constraint α} {p : Valuation α} {slots : List Slot} {r : Relation α}

theorem distanceToLine_redrawn {s t : Slot} (bound : c.distanceToLine p s t = .ok r)
    (q : Valuation α) : c.distanceToLine q s t = .ok (r.redrawn q) := by
  obtain ⟨a, point, rest⟩ := bind_eq_ok.1 bound
  obtain ⟨l, line, rest⟩ := bind_eq_ok.1 rest
  cases rest
  exact bind_eq_ok.2 ⟨a, point, bind_eq_ok.2 ⟨l, line, rfl⟩⟩

theorem lineTouchingCurve_redrawn {s t : Slot} (bound : c.lineTouchingCurve p s t = .ok r)
    (q : Valuation α) : c.lineTouchingCurve q s t = .ok (r.redrawn q) := by
  obtain ⟨l, line, rest⟩ := bind_eq_ok.1 bound
  obtain ⟨k, curve, rest⟩ := bind_eq_ok.1 rest
  cases rest
  exact bind_eq_ok.2 ⟨l, line, bind_eq_ok.2 ⟨k, curve, rfl⟩⟩

theorem redrawn_curvesTouching (q : Valuation α) (a b : CurveSite) :
    (curvesTouching p a b).redrawn q = curvesTouching q a b := by
  generalize drawn : curvesTouching p a b = r
  unfold curvesTouching at drawn
  dsimp only at drawn
  split at drawn
  · cases drawn
    rfl
  · cases drawn
    rfl

/-- A constraint that is bound again chooses its branch anew, and nothing else. -/
theorem relation_redrawn (bound : c.relation p slots = .ok r) (q : Valuation α) :
    c.relation q slots = .ok (r.redrawn q) := by
  unfold relation at bound ⊢
  split at bound
  -- Without a branch the same relation is bound, at whatever geometry.
  case h_1 | h_2 | h_3 | h_4 | h_7 | h_8 | h_9 | h_10 | h_12 | h_13 | h_14 | h_15 =>
    obtain ⟨sites, -, rest⟩ := bind_eq_ok.1 bound
    cases rest
    exact bound
  case h_5 | h_16 | h_17 =>
    obtain ⟨first, -, rest⟩ := bind_eq_ok.1 bound
    obtain ⟨second, -, rest⟩ := bind_eq_ok.1 rest
    cases rest
    exact bound
  case h_18 =>
    obtain ⟨first, -, rest⟩ := bind_eq_ok.1 bound
    obtain ⟨second, -, rest⟩ := bind_eq_ok.1 rest
    obtain ⟨axis, -, rest⟩ := bind_eq_ok.1 rest
    cases rest
    exact bound
  case h_6 =>
    split at bound
    · rename_i second_line
      rw [if_pos second_line]
      exact distanceToLine_redrawn bound q
    · rename_i second_point
      rw [if_neg second_point]
      split at bound
      · rename_i first_line
        rw [if_pos first_line]
        exact distanceToLine_redrawn bound q
      · rename_i first_point
        rw [if_neg first_point]
        obtain ⟨first, -, rest⟩ := bind_eq_ok.1 bound
        obtain ⟨second, -, rest⟩ := bind_eq_ok.1 rest
        cases rest
        exact bound
  case h_11 =>
    split at bound
    · rename_i straight
      rw [if_pos straight]
      obtain ⟨lines, -, rest⟩ := bind_eq_ok.1 bound
      cases rest
      exact bound
    · rename_i other
      rw [if_neg other]
      split at bound
      · rename_i round
        rw [if_pos round]
        obtain ⟨curves, -, rest⟩ := bind_eq_ok.1 bound
        cases rest
        exact bound
      · cases bound
  case h_19 =>
    split at bound
    · rename_i first_line
      rw [if_pos first_line]
      exact lineTouchingCurve_redrawn bound q
    · rename_i first_curve
      rw [if_neg first_curve]
      split at bound
      · rename_i second_line
        rw [if_pos second_line]
        exact lineTouchingCurve_redrawn bound q
      · rename_i second_curve
        rw [if_neg second_curve]
        obtain ⟨curves, found, rest⟩ := bind_eq_ok.1 bound
        cases rest
        rw [redrawn_curvesTouching]
        exact bind_eq_ok.2 ⟨curves, found, rfl⟩
  case h_20 => cases bound

end Constraint

/-! ## Rows after the choice -/

theorem Branch.abs_sign_mul (side : Branch) (v : ℝ) : |side.sign * v| = |v| := by
  cases side with
  | plus => rw [sign, one_mul]
  | minus => rw [sign, abs_mul, abs_neg, abs_one, one_mul]

/-- The branch of a quantity makes it positive. -/
theorem Branch.ofSigned?_sign_mul (v : ℝ) : (ofSigned? (some v)).sign * v = |v| := by
  change (if v < 0 then minus else plus : Branch).sign * v = |v|
  by_cases negative : v < 0
  · rw [if_pos negative, abs_of_neg negative, sign, neg_one_mul]
  · rw [if_neg negative, abs_of_nonneg (not_lt.1 negative), sign, one_mul]

/-- No branch of a quantity is nearer to a distance than its absolute value. -/
theorem Branch.abs_sub_le (side : Branch) (v : ℝ) {distance : ℝ} (nonneg : 0 ≤ distance) :
    |(|v| - distance)| ≤ |side.sign * v - distance| := by
  have near := abs_abs_sub_abs_le (side.sign * v) distance
  rwa [side.abs_sign_mul, abs_of_nonneg nonneg] at near

/-- One of the branches of a quantity meets a distance if its absolute value does. -/
theorem Branch.sign_mul_eq_or_iff (v : ℝ) {distance : ℝ} (nonneg : 0 ≤ distance) :
    plus.sign * v = distance ∨ minus.sign * v = distance ↔ |v| = distance := by
  rw [sign, sign, one_mul, neg_one_mul, abs_eq nonneg, neg_eq_iff_eq_neg]

namespace Relation

/-- No distance that a relation compares with is negative. -/
def Sized (p : Valuation ℝ) : Relation ℝ → Prop
  | offLine _ _ _ target => 0 ≤ target
  | tangentLine _ c _ => 0 ≤ c.radius p
  | _ => True

variable {p : Valuation ℝ} {r : Relation ℝ} {old : List ℝ}

/-- Numbers that are no farther from zero, one by one. -/
abbrev Nearer (new old : List ℝ) : Prop := List.Forall₂ (fun x y => |x| ≤ |y|) new old

theorem Nearer.refl (values : List ℝ) : Nearer values values :=
  List.forall₂_same.2 fun _ _ => le_rfl

theorem Nearer.single {x y : ℝ} (near : |x| ≤ |y|) : Nearer [x] [y] := .cons near .nil

theorem residual_curvesTouching (c d : CurveSite) :
    ∃ new, (Constraint.curvesTouching p c d).residual p = some [new] ∧
      |new| ≤ |c.centerDistance d p - (c.radius p + d.radius p)| ∧
      |new| ≤ |(|c.radius p - d.radius p| - c.centerDistance d p)| := by
  unfold Constraint.curvesTouching
  dsimp only
  split
  · rename_i outer
    refine ⟨_, rfl, le_rfl, ?_⟩
    rw [abs_sub_comm (|c.radius p - d.radius p|)]
    exact outer
  · rename_i inner
    refine ⟨_, rfl, ?_⟩
    rw [Branch.ofSigned?_sign_mul, abs_sub_comm (|c.radius p - d.radius p|)]
    exact ⟨(not_le.1 inner).le, le_rfl⟩

/-- **Choosing the branch anew brings no row farther from zero**, where distances are not
negative. -/
theorem residual_redrawn (sized : r.Sized p) (defined : r.residual p = some old) :
    ∃ new, (r.redrawn p).residual p = some new ∧ Nearer new old := by
  cases r with
  | offLine a l side target =>
      obtain ⟨d, signed, rfl⟩ := Option.map_eq_some_iff.1 defined
      refine ⟨[|d| - target], ?_, .single (side.abs_sub_le d sized)⟩
      rw [redrawn, residual, signed, ← Branch.ofSigned?_sign_mul]
      rfl
  | tangentLine l c side =>
      obtain ⟨d, signed, rfl⟩ := Option.map_eq_some_iff.1 defined
      refine ⟨[|d| - c.radius p], ?_, .single (side.abs_sub_le d sized)⟩
      rw [redrawn, residual, signed, ← Branch.ofSigned?_sign_mul]
      rfl
  | tangentOuter c d =>
      obtain ⟨new, value, outer, -⟩ := residual_curvesTouching (p := p) c d
      cases defined
      exact ⟨[new], value, .single outer⟩
  | tangentInner c d larger =>
      obtain ⟨new, value, -, inner⟩ := residual_curvesTouching (p := p) c d
      cases defined
      refine ⟨[new], value, .single (inner.trans ?_)⟩
      have nonneg : 0 ≤ c.centerDistance d p := Real.sqrt_nonneg _
      rw [abs_sub_comm (c.centerDistance d p)]
      exact larger.abs_sub_le _ nonneg
  | _ => exact ⟨old, defined, .refl old⟩

end Relation

end PlanarSketch
