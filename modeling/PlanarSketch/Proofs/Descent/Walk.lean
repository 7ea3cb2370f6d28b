import Mathlib.Data.List.Chain
import PlanarSketch.Descent

/-!
# Searches and walks as relations

The two loops of a descent, told as relations with one constructor for each way on or
out.  `Searched` says what a search for a helpful fraction of a step finds, and `Walked`
which steps a walk takes and how it ends.  The running definitions obey them
(`search_searched`, `walk_walked`), so what holds of all searches and all walks is shown
by induction on the relations, whatever the engine answers.

A search goes through the fractions `Options.damped`.  A search that finds a step has
found the first of them that helps (`Searched.found_spec`), and one that finds only steps
that are too short has tried every one before (`Searched.tooShort_spec`).
-/

namespace PlanarSketch

set_option autoImplicit false

variable {α : Type} [Scalar α]

/-- The fractions that a search goes through from a first one on. -/
def Options.damped (o : Options α) (first : α) : Nat → α
  | 0 => first
  | k + 1 => o.damped first k * o.damping

theorem Options.damped_shift (o : Options α) (first : α) :
    ∀ k, o.damped (first * o.damping) k = o.damped first (k + 1)
  | 0 => rfl
  | k + 1 => by
      rw [Options.damped, damped_shift o first k]
      rfl

namespace Descent

omit [Scalar α] in
/-- The end of a descent is where the steps behind its first one end. -/
theorem final_cons (it : Iterate α) (taken : Step α) (steps : List (Step α)) (ending : Ending α) :
    final ⟨it, taken :: steps, ending⟩ = final ⟨taken.reached, steps, ending⟩ := by
  cases steps with
  | nil => rfl
  | cons next rest => simp [final, List.getLast?_cons]

/-! ## Searches -/

section Searches

variable (s : System α) (free : List Nat) (o : Options α) (it : Iterate α) (step : List α)

/-- The point that a fraction of a step leads to. -/
def trial (fraction : α) : Iterate α := s.iterate (moved it.params free fraction step)

/-- Whether a fraction of a step lowers the residual norm. -/
def Helps (fraction : α) : Prop := improves (trial s free it step fraction).norm it.norm = true

/-- What a search finds that begins with a fraction. -/
inductive Searched : α → Search α → Prop where
  | tooShort {fraction : α} (short : ¬o.minStep ≤ fraction) : Searched fraction .tooShort
  | blocked {fraction : α} {cause : Fault α} (long : o.minStep ≤ fraction)
      (refusal : s.checkResiduals (.ofArray (moved it.params free fraction step)) = .error cause) :
      Searched fraction (.failed cause)
  | found {fraction : α} (long : o.minStep ≤ fraction) (helps : Helps s free it step fraction) :
      Searched fraction (.found ⟨fraction, trial s free it step fraction⟩)
  | endless {fraction : α} (long : o.minStep ≤ fraction)
      (useless : ¬Helps s free it step fraction)
      (same : ¬o.countdown (fraction * o.damping) < o.countdown fraction) :
      Searched fraction (.failed .endlessSearch)
  | shorter {fraction : α} {result : Search α} (long : o.minStep ≤ fraction)
      (useless : ¬Helps s free it step fraction)
      (rest : Searched (fraction * o.damping) result) : Searched fraction result

variable {s free o it step}

theorem search_searched (s : System α) (free : List Nat) (o : Options α) (it : Iterate α)
    (step : List α) (fraction : α) :
    Searched s free o it step fraction (search s free o it step fraction) := by
  -- One case for each way through the body, and only the shorter fraction goes on.
  fun_induction search s free o it step fraction with
  | case1 fraction long params cause refusal => exact .blocked long refusal
  | case2 fraction long params _ reached helps => exact .found long helps
  | case3 fraction long params _ reached useless shorter shrinks ih =>
      exact .shorter long useless ih
  | case4 fraction long params _ reached useless shorter same => exact .endless long useless same
  | case5 fraction short => exact .tooShort short

/-- A step that is found is the trial at one of the fractions, and it helps. -/
theorem Searched.found_spec {fraction : α} {result : Search α} {taken : Step α}
    (h : Searched s free o it step fraction result) (found : result = .found taken) :
    ∃ k, taken = ⟨o.damped fraction k, trial s free it step (o.damped fraction k)⟩ ∧
      Helps s free it step (o.damped fraction k) := by
  induction h with
  | tooShort => cases found
  | blocked => cases found
  | endless => cases found
  | found _ helps =>
      cases found
      exact ⟨0, rfl, helps⟩
  | shorter _ _ _ ih =>
      obtain ⟨k, same, helps⟩ := ih found
      rw [Options.damped_shift] at same helps
      exact ⟨k + 1, same, helps⟩

/-- When only steps that are too short are left, no fraction before them has helped. -/
theorem Searched.tooShort_spec {fraction : α} {result : Search α}
    (h : Searched s free o it step fraction result) (spent : result = .tooShort) :
    ∃ n, ¬o.minStep ≤ o.damped fraction n ∧
      ∀ k < n, o.minStep ≤ o.damped fraction k ∧ ¬Helps s free it step (o.damped fraction k) := by
  induction h with
  | blocked => cases spent
  | endless => cases spent
  | found => cases spent
  | tooShort short => exact ⟨0, short, fun k before => absurd before (Nat.not_lt_zero k)⟩
  | shorter long useless _ ih =>
      obtain ⟨n, short, tried⟩ := ih spent
      refine ⟨n + 1, by rwa [Options.damped_shift] at short, ?_⟩
      intro k before
      cases k with
      | zero => exact ⟨long, useless⟩
      | succ k =>
          have earlier := tried k (Nat.lt_of_succ_lt_succ before)
          rwa [Options.damped_shift] at earlier

/-- A search fails because residuals cannot be evaluated, or because a step gets no shorter. -/
theorem Searched.failed_spec {fraction : α} {result : Search α} {cause : Fault α}
    (h : Searched s free o it step fraction result) (failed : result = .failed cause) :
    (∃ params, s.checkResiduals (.ofArray params) = .error cause) ∨
      ∃ k, o.minStep ≤ o.damped fraction k ∧
        ¬o.countdown (o.damped fraction (k + 1)) < o.countdown (o.damped fraction k) ∧
        cause = .endlessSearch := by
  induction h with
  | tooShort => cases failed
  | found => cases failed
  | blocked _ refusal =>
      cases failed
      exact .inl ⟨_, refusal⟩
  | endless long _ same =>
      cases failed
      exact .inr ⟨0, long, same, rfl⟩
  | shorter _ _ _ ih =>
      rcases ih failed with refusal | ⟨k, long, same, endless⟩
      · exact .inl refusal
      · rw [Options.damped_shift] at long same
        rw [Options.damped_shift] at same
        exact .inr ⟨k + 1, long, same, endless⟩

end Searches

/-! ## Walks -/

section Walks

variable (engine : Engine α) (s : System α) (free : List Nat) (o : Options α)

/-- The steps that a walk takes with some budget from a point, and how it ends. -/
inductive Walked : Nat → Iterate α → List (Step α) → Ending α → Prop where
  | converged {budget : Nat} {it : Iterate α} (arrived : normBelow it.norm o.tolerance = true) :
      Walked budget it [] .converged
  | exhausted {it : Iterate α} (away : normBelow it.norm o.tolerance = false) :
      Walked 0 it [] .exhausted
  | lost {budget : Nat} {it : Iterate α} {cause : Fault α}
      (away : normBelow it.norm o.tolerance = false)
      (undirected : direction engine s free o it = .error cause) :
      Walked (budget + 1) it [] (.failed cause)
  | stalled {budget : Nat} {it : Iterate α} {step : List α}
      (away : normBelow it.norm o.tolerance = false)
      (directed : direction engine s free o it = .ok step)
      (spent : search s free o it step 1 = .tooShort) : Walked (budget + 1) it [] .stalled
  | blocked {budget : Nat} {it : Iterate α} {step : List α} {cause : Fault α}
      (away : normBelow it.norm o.tolerance = false)
      (directed : direction engine s free o it = .ok step)
      (refusal : search s free o it step 1 = .failed cause) :
      Walked (budget + 1) it [] (.failed cause)
  | step {budget : Nat} {it : Iterate α} {step : List α} {taken : Step α}
      {steps : List (Step α)} {ending : Ending α}
      (away : normBelow it.norm o.tolerance = false)
      (directed : direction engine s free o it = .ok step)
      (found : search s free o it step 1 = .found taken)
      (rest : Walked budget taken.reached steps ending) :
      Walked (budget + 1) it (taken :: steps) ending

theorem walk_walked (budget : Nat) (it : Iterate α) :
    Walked engine s free o budget it (walk engine s free o budget it).1
      (walk engine s free o budget it).2 := by
  induction budget generalizing it with
  | zero =>
      unfold walk
      split
      · rename_i arrived
        exact .converged arrived
      · rename_i away
        exact .exhausted (Bool.eq_false_iff.2 away)
  | succ budget ih =>
      unfold walk
      split
      · rename_i arrived
        exact .converged arrived
      · rename_i away
        have away := Bool.eq_false_iff.2 away
        dsimp only
        split
        · rename_i cause undirected
          exact .lost away undirected
        · rename_i step directed
          split
          · rename_i taken found
            exact .step away directed found (ih taken.reached)
          · rename_i spent
            exact .stalled away directed spent
          · rename_i cause refusal
            exact .blocked away directed refusal

/-- The descent from some parameters is the walk from the point there. -/
theorem run_walked (params : Array α) :
    Walked engine s free o o.maxIterations (s.iterate params)
      (run engine s free o params).steps (run engine s free o params).ending :=
  walk_walked engine s free o o.maxIterations (s.iterate params)

theorem walk_of_arrived {budget : Nat} {it : Iterate α}
    (arrived : normBelow it.norm o.tolerance = true) :
    walk engine s free o budget it = ([], .converged) := by
  unfold walk
  rw [if_pos arrived]

theorem walk_of_found {budget : Nat} {it : Iterate α} {step : List α} {taken : Step α}
    (away : ¬normBelow it.norm o.tolerance = true)
    (directed : direction engine s free o it = .ok step)
    (found : search s free o it step 1 = .found taken) :
    walk engine s free o (budget + 1) it =
      (taken :: (walk engine s free o budget taken.reached).1,
        (walk engine s free o budget taken.reached).2) := by
  rw [walk, if_neg away]
  simp only [directed, found]

/-- A descent that starts below the tolerance takes no step. -/
theorem run_of_arrived {params : Array α}
    (arrived : normBelow (s.iterate params).norm o.tolerance = true) :
    run engine s free o params = ⟨s.iterate params, [], .converged⟩ := by
  rw [run, walk_of_arrived engine s free o arrived]

theorem final_run_of_arrived {params : Array α}
    (arrived : normBelow (s.iterate params).norm o.tolerance = true) :
    (run engine s free o params).final = s.iterate params := by
  rw [run_of_arrived engine s free o arrived]
  rfl

end Walks

end Descent

end PlanarSketch
