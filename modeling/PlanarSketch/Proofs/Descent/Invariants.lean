import Mathlib.Data.List.GetD
import PlanarSketch.Proofs.Descent.Affine
import PlanarSketch.Proofs.Descent.Monotone
import PlanarSketch.Proofs.Engine.RowSpaces
import PlanarSketch.Proofs.System.Columns

/-!
# What walks keep

Whatever is kept by every trial along a computed step, however short, is kept by a walk
(`Walked.invariant`), however long it is and however it ends.

With an engine whose steps are in the row space this has two consequences.  A walk leaves alone
every position that no block is about (`Walked.near_final_of_outside`), since its column of the
derivative is zero.  And a walk goes nowhere along a direction that the derivative sends to zero
at every point (`Walked.inner_displacement_final`).
-/

namespace PlanarSketch

set_option autoImplicit false

open scoped InnerProductSpace

namespace Descent

variable {α : Type} [Scalar α] {engine : Engine α} {s : System α} {free : List Nat} {o : Options α}
variable {budget : Nat} {params : Array α} {steps : List (Step α)} {ending : Ending α}
variable {step : List α}

/-- **What every trial keeps is kept by the walk.** -/
theorem Walked.invariant {P : Array α → Prop}
    (kept : ∀ params step k, direction engine s free o (s.iterate params) = .ok step →
      P params → P (moved params free (o.damped 1 k) step))
    (walked : Walked engine s free o budget (s.iterate params) steps ending) (start : P params) :
    P (final ⟨s.iterate params, steps, ending⟩).params := by
  -- A walk starts at the point of some parameters, and so does the rest of it after each step.
  generalize at_point : s.iterate params = it at walked
  induction walked generalizing params with
  | step away directed found rest ih =>
      subst at_point
      obtain ⟨k, rfl, -⟩ := (search_searched _ _ _ _ _ _).found_spec found
      rw [final_cons]
      exact ih (kept params _ _ directed start) rfl
  | _ =>
      subst at_point
      exact start

section Combinations

variable {near : α → α → Prop} {ordinary : α → Prop}

/-- A computed step is zero, or a combination of the rows of the derivative. -/
theorem eq_replicate_or_combination (absorbs : Scalar.Absorbs near ordinary)
    (combining : engine.Combines ordinary)
    (directed : direction engine s free o (s.iterate params) = .ok step) :
    step = List.replicate free.length 0 ∨
      ∃ J, finiteMatrix? (s.jacobian (.ofArray params) free) = some J ∧
        Combination ordinary J free.length step := by
  unfold direction at directed
  split at directed
  · cases directed
  · split at directed
    · cases directed
      exact .inl rfl
    · split at directed
      · rename_i J F matrix residual
        cases directed
        refine .inr ⟨J, matrix, combining J _ _ _ (System.length_of_mem_matrix matrix) ?size
          ?matrix ?residual⟩
        case size =>
          have entries : s.residuals (.ofArray params) = F.map some := allFinite?_spec residual
          have size := congrArg List.length entries
          rw [s.length_residuals, List.length_map] at size
          rw [List.length_map, ← size, System.length_matrix matrix]
        case matrix =>
          intro row among v entry
          exact absorbs.of_isFinite (isFinite_of_finiteMatrix? matrix row among v entry)
        case residual =>
          rw [List.forall_mem_map]
          intro f among
          exact absorbs.neg (absorbs.of_isFinite (isFinite_of_allFinite? residual f among))
      · cases directed

/-- A step hardly changes the positions along which it is hardly different from zero. -/
theorem getD_moved_near (absorbs : Scalar.Absorbs near ordinary) {i : Nat}
    (zero : ∀ k, free[k]? = some i → near (step.getD k 0) 0) (params : Array α) {fraction : α}
    (multiple : ordinary fraction) :
    near ((moved params free fraction step).getD i 0) (params.getD i 0) := by
  induction free generalizing params step with
  | nil => exact absorbs.refl _
  | cons j rest ih =>
      cases step with
      | nil => exact absorbs.refl _
      | cons d step =>
          refine absorbs.trans (ih (fun k found => zero (k + 1) found) _) ?_
          rw [getD_setIfInBounds]
          split
          · rename_i here
            rw [here.1]
            exact absorbs.add_mul _ multiple (zero 0 (congrArg some here.1.symm))
          · exact absorbs.refl _

/-- **Walks leave alone what no block is about.** -/
theorem Walked.near_final_of_outside (absorbs : Scalar.Absorbs near ordinary)
    (combining : engine.Combines ordinary) (multiples : ∀ k, ordinary (o.damped 1 k)) {i : Nat}
    (covered : ∀ b ∈ s.blocks, ∀ j ∈ b.relation.reads, j ∈ b.positions)
    (outside : ∀ b ∈ s.blocks, i ∉ b.positions)
    (walked : Walked engine s free o budget (s.iterate params) steps ending) :
    near ((final ⟨s.iterate params, steps, ending⟩).params.getD i 0) (params.getD i 0) := by
  refine walked.invariant (P := fun other => near (other.getD i 0) (params.getD i 0)) ?_
    (absorbs.refl _)
  intro other step n directed close
  refine absorbs.trans (getD_moved_near absorbs (fun k column => ?_) other (multiples n)) close
  rcases eq_replicate_or_combination absorbs combining directed with rfl | ⟨J, matrix, combined⟩
  · rw [List.getD_eq_getElem?_getD, List.getElem?_getD_replicate_default_eq]
    exact absorbs.refl 0
  · exact combined.near_zero absorbs (System.getD_of_outside covered outside column matrix)

end Combinations

end Descent

/-! ## Exact numbers -/

section Exact

open PlanarSketch.System

variable {engine : Engine ℝ} {s : System ℝ} {free : List ℕ} {o : Options ℝ}
variable {budget : ℕ} {params : Array ℝ} {steps : List (Step ℝ)} {ending : Ending ℝ}

theorem System.displacement_add (free : List ℕ) (first second third : Array ℝ) :
    displacement free first second + displacement free second third =
      displacement free first third := by
  refine PiLp.ext fun k => ?_
  simp [displacement, List.getD_eq_getElem?_getD]

/-- **A walk goes nowhere along what the derivative sends to zero.** -/
theorem Descent.Walked.inner_displacement_final (combining : engine.StepsInRowSpace)
    (distinct : free.Nodup) (inside : ∀ i ∈ free, i < params.size)
    {v : EuclideanSpace ℝ (Fin free.length)}
    (nowhere : ∀ other J, finiteMatrix? (s.jacobian (.ofArray other) free) = some J →
      tableMap J free.length v = 0)
    (walked : Walked engine s free o budget (s.iterate params) steps ending) :
    ⟪v, displacement free params (final ⟨s.iterate params, steps, ending⟩).params⟫_ℝ = 0 := by
  have still : displacement free params params = 0 := by
    refine PiLp.ext fun k => ?_
    simp [displacement]
  refine (walked.invariant (P := fun other => other.size = params.size ∧
    ⟪v, displacement free params other⟫_ℝ = 0) ?_ ⟨rfl, by rw [still, inner_zero_right]⟩).2
  rintro other step n directed ⟨size, perpendicular⟩
  have bound : ∀ i ∈ free, i < other.size := by
    rwa [size]
  refine ⟨(size_moved _ _ _ _).trans size, ?_⟩
  rw [← displacement_add free params other, inner_add_right, perpendicular, zero_add]
  rcases eq_replicate_or_combination Exact.inert.absorbs combining.combines directed with
    rfl | ⟨J, matrix, combined⟩
  · rw [displacement, map_sub_moved distinct bound List.length_replicate, vector_map_mul,
      vector_replicate_zero, smul_zero, inner_zero_right]
  · have within := combined.inRowSpace
    rw [displacement, map_sub_moved distinct bound within.length_eq, vector_map_mul,
      inner_smul_right, within.inner_eq_zero (nowhere other J matrix), mul_zero]

end Exact

end PlanarSketch
