import Mathlib.Data.Set.Finite.Basic
import PlanarSketch.Proofs.Descent.Monotone
import PlanarSketch.Proofs.Outcome

/-!
# How often a step is shortened

A search shortens a step until a fraction helps, or is too short, or cannot be evaluated.  The
rounds that this takes are told by a relation of their own (`Tries`), which knows nothing of
countdowns: nothing in it keeps a search from going on for ever.

A countdown that goes down whenever the fraction changes is one that tells the truth.  Then the
search that runs is given up for want of an end exactly when the rounds have none
(`search_eq_endless_iff`), so a search that is not given up has made finitely many of them
(`finite_tries_iff`).
-/

namespace PlanarSketch.Descent

set_option autoImplicit false

variable {α : Type} [Scalar α]

/-! ## Nothing else is given up -/

section Refusals

variable {engine : Engine α} {s : System α} {free : List Nat} {o : Options α}

theorem checkResiduals_ne_endless (p : Valuation α) :
    s.checkResiduals p ≠ .error .endlessSearch := by
  unfold System.checkResiduals
  split
  · intro same
    cases same
  · intro same
    cases same

theorem checkJacobian_ne_endless (p : Valuation α) :
    s.checkJacobian p ≠ .error .endlessSearch := by
  intro failed
  obtain ⟨b, -, refusal⟩ := Outcome.forM_eq_error failed
  split at refusal
  · unfold System.checkClosed at refusal
    split at refusal
    · cases refusal
    · cases refusal
  · unfold System.checkNumeric at refusal
    dsimp only at refusal
    split at refusal
    · cases refusal
    · split at refusal
      · cases refusal
      · cases refusal

theorem direction_ne_endless (it : Iterate α) :
    direction engine s free o it ≠ .error .endlessSearch := by
  intro failed
  unfold direction at failed
  cases checked : s.checkJacobian (.ofArray it.params) with
  | error cause =>
      rw [checked] at failed
      cases failed
      exact checkJacobian_ne_endless _ checked
  | ok _ =>
      rw [checked] at failed
      dsimp only at failed
      split at failed
      · cases failed
      · split at failed
        · cases failed
        · cases failed

/-- A walk is given up for want of an end only when a search is. -/
theorem Walked.exists_endless {budget : Nat} {it : Iterate α} {steps : List (Step α)}
    {ending : Ending α} (walked : Walked engine s free o budget it steps ending)
    (failed : ending = .failed .endlessSearch) :
    ∃ it step, search s free o it step 1 = .failed .endlessSearch := by
  rcases walked.failed_spec failed with undirected | ⟨step, -, refusal⟩
  · exact absurd undirected (direction_ne_endless _)
  · exact ⟨_, step, refusal⟩

/-- A descent whose first search fails has failed. -/
theorem ending_run_of_failed {params : Array α} {step : List α} {cause : Fault α}
    (ready : o.maxIterations ≠ 0) (away : ¬normBelow (s.iterate params).norm o.tolerance = true)
    (directed : direction engine s free o (s.iterate params) = .ok step)
    (refusal : search s free o (s.iterate params) step 1 = .failed cause) :
    (run engine s free o params).ending = .failed cause := by
  obtain ⟨budget, some⟩ := Nat.exists_eq_succ_of_ne_zero ready
  change (walk engine s free o o.maxIterations (s.iterate params)).2 = .failed cause
  rw [some, walk, if_neg away]
  simp only [directed, refusal]

end Refusals

/-! ## Rounds -/

section Tries

variable (s : System α) (free : List Nat) (o : Options α) (it : Iterate α) (step : List α)

/-- A search that begins with a fraction comes to a round, after it has shortened the step that
often. -/
inductive Tries : α → ℕ → Prop where
  | first {fraction : α} (long : o.minStep ≤ fraction) : Tries fraction 0
  | again {fraction : α} {k : ℕ} (long : o.minStep ≤ fraction)
      (calm : s.checkResiduals (.ofArray (moved it.params free fraction step)) = .ok ())
      (useless : ¬Helps s free it step fraction) (rest : Tries (fraction * o.damping) k) :
      Tries fraction (k + 1)

variable {s free o it step} {fraction : α}

/-- Each round is about a fraction that is not too short. -/
theorem Tries.long {k : ℕ} (tries : Tries s free o it step fraction k) :
    o.minStep ≤ o.damped fraction k := by
  induction tries with
  | first long => exact long
  | again _ _ _ _ ih => rwa [Options.damped_shift] at ih

/-- No round is left out. -/
theorem Tries.of_succ {k : ℕ} (tries : Tries s free o it step fraction (k + 1)) :
    Tries s free o it step fraction k := by
  induction k generalizing fraction with
  | zero =>
      cases tries with
      | again long _ _ _ => exact .first long
  | succ k ih =>
      cases tries with
      | again long calm useless rest => exact .again long calm useless (ih rest)

/-- There are finitely many rounds, if there is one that a search does not come to. -/
theorem finite_tries_iff :
    {k | Tries s free o it step fraction k}.Finite ↔ ¬∀ k, Tries s free o it step fraction k := by
  constructor
  · intro finite all
    have whole : {k | Tries s free o it step fraction k} = Set.univ := Set.eq_univ_of_forall all
    exact Set.infinite_univ (whole ▸ finite)
  · intro missing
    obtain ⟨n, spared⟩ := not_forall.1 missing
    refine (Set.finite_lt_nat n).subset fun k tries => Nat.lt_of_not_le fun later => spared ?_
    exact Nat.decreasingInduction (fun j _ tries => Tries.of_succ tries) tries later

/-- Rounds go on while fractions are long enough, if nothing can be evaluated to any use. -/
theorem tries_of_useless
    (calm : ∀ x, s.checkResiduals (.ofArray (moved it.params free x step)) = .ok ())
    (useless : ∀ x, ¬Helps s free it step x) {k : ℕ}
    (long : ∀ j ≤ k, o.minStep ≤ o.damped fraction j) : Tries s free o it step fraction k := by
  induction k generalizing fraction with
  | zero => exact .first (long 0 le_rfl)
  | succ k ih =>
      have first := long 0 (Nat.zero_le _)
      refine .again first (calm fraction) (useless fraction) (ih fun j within => ?_)
      rw [Options.damped_shift]
      exact long (j + 1) (Nat.succ_le_succ within)

/-- Where a fraction is not changed, rounds go on for ever. -/
theorem tries_of_stuck (long : o.minStep ≤ fraction)
    (calm : s.checkResiduals (.ofArray (moved it.params free fraction step)) = .ok ())
    (useless : ¬Helps s free it step fraction) (stuck : fraction * o.damping = fraction) (k : ℕ) :
    Tries s free o it step fraction k := by
  induction k with
  | zero => exact .first long
  | succ k ih => exact .again long calm useless (stuck.symm ▸ ih)

/-- **A search is given up for want of an end** exactly when its rounds have none. -/
theorem search_eq_endless_iff
    (counted : ∀ k, ¬o.countdown (o.damped fraction (k + 1)) < o.countdown (o.damped fraction k) →
      o.damped fraction (k + 1) = o.damped fraction k) :
    search s free o it step fraction = .failed .endlessSearch ↔
      ∀ k, Tries s free o it step fraction k := by
  fun_induction search s free o it step fraction with
  | case1 fraction long params cause refusal =>
      refine iff_of_false (fun failed => ?_) fun all => ?_
      · cases failed
        exact checkResiduals_ne_endless _ refusal
      · cases all 1 with
        | again _ calm _ _ =>
            rw [refusal] at calm
            cases calm
  | case2 fraction long params _ reached helps =>
      refine iff_of_false (fun failed => by cases failed) fun all => ?_
      cases all 1 with
      | again _ _ useless _ => exact useless helps
  | case3 fraction long params calm reached useless shorter shrinks ih =>
      have later := ih fun k => by
        rw [Options.damped_shift, Options.damped_shift]
        exact counted (k + 1)
      rw [later]
      constructor
      · intro all k
        cases k with
        | zero => exact .first long
        | succ k => exact .again long calm useless (all k)
      · intro all k
        cases all (k + 1) with
        | again _ _ _ rest => exact rest
  | case4 fraction long params calm reached useless shorter same =>
      exact iff_of_true rfl (tries_of_stuck long calm useless (counted 0 same))
  | case5 fraction short =>
      refine iff_of_false (fun failed => by cases failed) fun all => ?_
      exact short (all 0).long

end Tries

end PlanarSketch.Descent
