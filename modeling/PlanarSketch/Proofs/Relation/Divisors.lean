import Mathlib.Data.List.Basic
import PlanarSketch.Relation.Slope

/-!
# Where residuals are undefined

A relation divides by the lengths of some of its lines, its divisors (`Relation.divisors`).
Its residual is undefined exactly where one of them is too short (`residual_eq_none_iff`);
elsewhere it has one entry for each equation, as has its derivative in closed form.
-/

namespace PlanarSketch

set_option autoImplicit false

variable {α : Type}

namespace Relation

/-- The lines by whose lengths the residual of a relation divides. -/
def divisors : Relation α → List LineSite
  | offLine _ l _ _ | collinear l _ | onLine _ l | mirror _ _ l | tangentLine l _ _ => [l]
  | parallel l m | perpendicular l m | angle l m _ => [l, m]
  | _ => []

/-- The divisors of a relation are among the lines it is about. -/
theorem mem_lines_of_mem_divisors {r : Relation α} {l : LineSite} (divides : l ∈ r.divisors) :
    l ∈ r.lines := by
  cases r with
  | collinear k m =>
      rw [divisors, List.mem_singleton] at divides
      rw [divides]
      exact List.mem_cons_self
  | offLine | onLine | mirror | tangentLine | parallel | perpendicular | angle => exact divides
  | _ => cases divides

theorem rows_pos (r : Relation α) : 0 < r.rows := by
  cases r with
  | _ => exact Nat.zero_lt_succ _

variable [Scalar α] (p : Valuation α)

theorem signedDistance?_eq_none_iff (l : LineSite) (xy : α × α) :
    l.signedDistance? p xy = none ↔ tooShort (l.length p) = true := by
  unfold LineSite.signedDistance? LineSite.length
  dsimp only
  split
  · rename_i short
    exact iff_of_true rfl short
  · rename_i long
    exact iff_of_false (Option.some_ne_none _) long

theorem degenerate_iff (l m : LineSite) :
    (LinePair.of l m p).degenerate = true ↔
      tooShort (l.length p) = true ∨ tooShort (m.length p) = true := by
  rw [LinePair.degenerate, Bool.or_eq_true]
  rfl

theorem not_degenerate {l m : LineSite} {p : Valuation α}
    (long : tooShort (l.length p) = false ∧ tooShort (m.length p) = false) :
    (LinePair.of l m p).degenerate = false := by
  rw [Bool.eq_false_iff, Ne, degenerate_iff, long.1, long.2]
  simp

/-- A residual is undefined exactly where a divisor is too short. -/
theorem residual_eq_none_iff (r : Relation α) :
    r.residual p = none ↔ ∃ l ∈ r.divisors, tooShort (l.length p) = true := by
  cases r with
  | offLine a l | onLine a l | tangentLine l c =>
      simp only [residual, Option.map_eq_none_iff, signedDistance?_eq_none_iff, divisors,
        List.mem_singleton, exists_eq_left]
  | mirror a b l =>
      simp only [residual, Option.map_eq_none_iff, signedDistance?_eq_none_iff, divisors,
        List.mem_singleton, exists_eq_left]
  | parallel l m | perpendicular l m | angle l m =>
      simp [residual, divisors, ← degenerate_iff]
  | collinear l m =>
      simp only [residual, divisors, List.mem_singleton, exists_eq_left, LineSite.length]
      split
      · rename_i short
        exact iff_of_true rfl short
      · rename_i long
        exact iff_of_false (Option.some_ne_none _) long
  | _ => simp [residual, divisors]

/-- A residual has one entry for each equation. -/
theorem length_residual {r : Relation α} {values : List α} (defined : r.residual p = some values) :
    values.length = r.rows := by
  cases r with
  | offLine | onLine | tangentLine | mirror =>
      obtain ⟨d, -, rfl⟩ := Option.map_eq_some_iff.1 defined
      rfl
  | parallel | perpendicular | angle | collinear =>
      unfold residual at defined
      dsimp only at defined
      split at defined
      · cases defined
      · cases defined
        rfl
  | _ =>
      cases defined
      rfl

theorem length_residualRows (r : Relation α) : (r.residualRows p).length = r.rows := by
  unfold residualRows
  split
  · rename_i values defined
    rw [List.length_map]
    exact length_residual p defined
  · exact List.length_replicate

/-- The rows of a residual are its entries, where it is defined. -/
theorem residualRows_eq_some {r : Relation α} {p : Valuation α} {values : List α} :
    r.residualRows p = values.map some ↔ r.residual p = some values := by
  unfold residualRows
  cases r.residual p with
  | none =>
      refine iff_of_false (fun same => ?_) (fun same => by cases same)
      have missing : none ∈ values.map some := by
        rw [← same]
        exact List.mem_replicate.2 ⟨Nat.ne_of_gt r.rows_pos, rfl⟩
      simp at missing
  | some found => simp [List.map_inj_right]

/-- The entries of a residual are missing together. -/
theorem getElem?_residualRows {r : Relation α} {k : Nat} (inside : k < r.rows) :
    (r.residualRows p)[k]? = some none ↔ ∃ l ∈ r.divisors, tooShort (l.length p) = true := by
  rw [← residual_eq_none_iff]
  unfold residualRows
  split
  · rename_i values defined
    simp [defined]
  · rename_i undefined
    simp [undefined, inside]

/-- A derivative is in closed form or it is not, wherever it is taken. -/
theorem gradients?_eq_none_iff (r : Relation α) : r.gradients? p = none ↔ r.analytic = false := by
  cases r with
  | apart | parallel | perpendicular | angle | sameLength | length =>
      simp only [gradients?, analytic]
      split
      · simp
      · simp
  | _ => simp [gradients?, analytic]

theorem exists_gradients {r : Relation α} (form : r.analytic = true) :
    ∃ gradients, r.gradients? p = some gradients := by
  refine Option.ne_none_iff_exists'.1 ?_
  rw [Ne, gradients?_eq_none_iff, form]
  exact Bool.noConfusion

/-- A derivative in closed form has one gradient for each equation. -/
theorem length_gradients {r : Relation α} {gradients : List (Gradient α)}
    (closed : r.gradients? p = some gradients) : gradients.length = r.rows := by
  cases r with
  | apart | parallel | perpendicular | angle | sameLength | length =>
      unfold gradients? at closed
      dsimp only at closed
      split at closed
      · cases closed
        rfl
      · cases closed
        rfl
  | offLine | collinear | onLine | mirror | tangentLine | tangentOuter | tangentInner =>
      cases closed
  | _ =>
      cases closed
      rfl

end Relation

end PlanarSketch
