import PlanarSketch.Proofs.Descent.Progress
import PlanarSketch.Proofs.Engine.Reordering
import PlanarSketch.Proofs.System.Renaming

/-!
# Descents in another order

Two descents over a system and its reordering run side by side.  They start at the same
parameters, which stand at other positions (`Carries`).  At each point the norms agree
(`Descent.Reorders.norm_eq`), the steps have the same components (`Descent.Reorders.direction`),
and so the same fraction of them is found (`Descent.search_eq`).  Hence the two take as many
steps, visit the same points and end in the same way (`Descent.Reorders.walk`).
-/

namespace PlanarSketch

set_option autoImplicit false

/-- The same parameters at other positions. -/
def Carries (ρ : Equiv.Perm ℕ) (params params' : Array ℝ) : Prop :=
  ∀ i, params'[ρ i]? = params[i]?

theorem Carries.ofArray {ρ : Equiv.Perm ℕ} {params params' : Array ℝ}
    (carries : Carries ρ params params') :
    Valuation.ofArray params' ∘ ρ = Valuation.ofArray params := by
  funext i
  simp only [Function.comp_apply, Valuation.ofArray, Array.getD_eq_getD_getElem?, carries i]

/-- Free positions are moved by their components, and the others stay. -/
theorem getElem?_moved {free : List ℕ} (distinct : free.Nodup) (params : Array ℝ) (fraction : ℝ)
    (x : ℕ → ℝ) (i : ℕ) :
    (moved params free fraction (free.map x))[i]? =
      params[i]?.map fun v => if i ∈ free then v + fraction * x i else v := by
  induction free generalizing params with
  | nil => simp [moved]
  | cons j rest ih =>
      obtain ⟨fresh, others⟩ := List.nodup_cons.1 distinct
      have unfolded : moved params (j :: rest) fraction ((j :: rest).map x) =
          moved (params.setIfInBounds j (params.getD j 0 + fraction * x j)) rest fraction
            (rest.map x) := rfl
      rw [unfolded, ih others, Array.getElem?_setIfInBounds]
      by_cases here : j = i
      · subst here
        rw [if_pos rfl]
        by_cases inside : j < params.size
        · simp [fresh, Array.getD_eq_getD_getElem?, inside]
        · simp [inside]
      · rw [if_neg here]
        simp only [List.mem_cons, Ne.symm here, false_or]

/-- The norm of a residual does not depend on the order of its entries. -/
theorem residualNorm?_map {ι : Type*} {E E' : List ι} (rows : E.Perm E') (g : ι → Option ℝ) :
    residualNorm? (E'.map g) = residualNorm? (E.map g) := by
  unfold residualNorm?
  rcases allFinite?_map rows g with ⟨none, none'⟩ | ⟨h, defined, defined'⟩
  · rw [none, none']
  · rw [defined, defined', Option.bind_some, Option.bind_some, length_perm (rows.map h)]

namespace Descent

variable {engine : Engine ℝ} {o : Options ℝ}

/-- Two searches whose trials have the same norms find the same fraction, or end in the same way. -/
theorem search_eq {s s' : System ℝ} {free free' : List ℕ} {it it' : Iterate ℝ}
    {step step' : List ℝ} (start : it'.norm = it.norm)
    (trials : ∀ fraction, (trial s' free' it' step' fraction).norm =
      (trial s free it step fraction).norm) (first : ℝ) :
    (∃ fraction, search s free o it step first = .found ⟨fraction, trial s free it step fraction⟩ ∧
        search s' free' o it' step' first =
          .found ⟨fraction, trial s' free' it' step' fraction⟩) ∨
      (search s free o it step first = .tooShort ∧
        search s' free' o it' step' first = .tooShort) ∨
      ∃ cause, search s free o it step first = .failed cause ∧
        search s' free' o it' step' first = .failed cause := by
  fun_induction search s free o it step first with
  | case1 fraction long params cause refusal =>
      rw [s.checkResiduals_eq_ok] at refusal
      cases refusal
  | case2 fraction long params _ reached helps =>
      refine .inl ⟨fraction, rfl, ?_⟩
      rw [search_eq_ite, if_pos long, trials, start]
      exact if_pos helps
  | case3 fraction long params _ reached useless shorter shrinks ih =>
      have onward : search s' free' o it' step' fraction = search s' free' o it' step' shorter := by
        rw [search_eq_ite, if_pos long, trials, start]
        exact (if_neg useless).trans (if_pos shrinks)
      rw [onward]
      exact ih
  | case4 fraction long params _ reached useless shorter same =>
      refine .inr (.inr ⟨_, rfl, ?_⟩)
      rw [search_eq_ite, if_pos long, trials, start]
      exact (if_neg useless).trans (if_neg same)
  | case5 fraction short =>
      refine .inr (.inl ⟨rfl, ?_⟩)
      rw [search_eq_ite, if_neg short]

/-- Two points of descents over two systems, at the same parameters. -/
def Beside (ρ : Equiv.Perm ℕ) (s s' : System ℝ) (it it' : Iterate ℝ) : Prop :=
  ∃ params params', Carries ρ params params' ∧ it = s.iterate params ∧ it' = s'.iterate params'

/-- A system and its reordering, with the same free positions, and an exact engine. -/
structure Reorders (ρ : Equiv.Perm ℕ) (engine : Engine ℝ) (s s' : System ℝ)
    (free free' : List ℕ) : Prop where
  exact : engine.Exact
  system : System.Reordered ρ s s'
  columns : free'.Perm (free.map ρ)
  distinct : free.Nodup

namespace Reorders

open PlanarSketch.System

variable {ρ : Equiv.Perm ℕ} {s s' : System ℝ} {free free' : List ℕ} {params params' : Array ℝ}
variable (reorders : Reorders ρ engine s s' free free')

include reorders

theorem distinct_reordered : free'.Nodup :=
  reorders.columns.nodup_iff.2 (reorders.distinct.map ρ.injective)

/-- **The norms agree** at the same parameters. -/
theorem norm_eq (carries : Carries ρ params params') :
    (s'.iterate params').norm = (s.iterate params).norm := by
  obtain ⟨E, rows, residual, residual', -, -⟩ :=
    reorders.system.exists_table (.ofArray params')
  change residualNorm? (s'.residuals (.ofArray params')) =
    residualNorm? (s.residuals (.ofArray params))
  rw [← carries.ofArray, residual, residual', residualNorm?_map rows]

/-- Moving by the same components keeps the parameters the same. -/
theorem carries_moved (carries : Carries ρ params params') (fraction : ℝ) (x : ℕ → ℝ) :
    Carries ρ (moved params free fraction (free.map (x ∘ ρ)))
      (moved params' free' fraction (free'.map x)) := by
  intro i
  have among : ρ i ∈ free' ↔ i ∈ free := by
    rw [reorders.columns.mem_iff, List.mem_map_of_injective ρ.injective]
  rw [getElem?_moved reorders.distinct, getElem?_moved reorders.distinct_reordered, carries i]
  simp only [among, Function.comp_apply]

/-- **The directions have the same components**, or both cannot be computed. -/
theorem direction (carries : Carries ρ params params') :
    (∃ cause, direction engine s free o (s.iterate params) = .error cause ∧
        direction engine s' free' o (s'.iterate params') = .error cause) ∨
      ∃ x : ℕ → ℝ,
        direction engine s free o (s.iterate params) = .ok (free.map (x ∘ ρ)) ∧
          direction engine s' free' o (s'.iterate params') = .ok (free'.map x) := by
  obtain ⟨E, rows, residual, residual', table, table'⟩ :=
    reorders.system.exists_table (.ofArray params')
  rw [carries.ofArray] at residual table
  have columns : (free.map ρ).Perm free' := reorders.columns.symm
  have empty_iff : (s'.rows = 0 ∨ free' = []) ↔ (s.rows = 0 ∨ free = []) := by
    rw [reorders.system.rows_eq, ← List.length_eq_zero_iff, ← columns.length_eq, List.length_map,
      List.length_eq_zero_iff]
  unfold Descent.direction
  rw [s.checkJacobian_eq_ok _ reorders.system.numbered,
    s'.checkJacobian_eq_ok _ reorders.system.numbered_reordered]
  dsimp only
  by_cases trivial : s.rows = 0 ∨ free = []
  · rw [if_pos trivial, if_pos (empty_iff.2 trivial)]
    refine .inr ⟨fun _ => 0, ?_, ?_⟩
    · rw [← List.map_const']
      rfl
    · rw [← List.map_const']
  · rw [if_neg trivial, if_neg (mt empty_iff.1 trivial)]
    have entries : (s.iterate params).residual = E.map (valueOf (.ofArray params')) := residual
    have entries' : (s'.iterate params').residual =
        s'.equations.map (valueOf (.ofArray params')) := residual'
    have table : s.jacobian (.ofArray (s.iterate params).params) free = grid E (free.map ρ) _ :=
      table free
    have table' : s'.jacobian (.ofArray (s'.iterate params').params) free' =
        grid s'.equations free' _ := table' free'
    rw [entries, entries', table, table']
    -- Both engines get the same entries in another order, or neither gets any.
    rcases finiteMatrix?_grid rows columns (slopeOf s'.step (.ofArray params')) with
      ⟨none, none'⟩ | ⟨J, matrix, matrix'⟩
    · rw [none, none']
      exact .inl ⟨_, rfl, rfl⟩
    · rcases allFinite?_map rows (valueOf (.ofArray params')) with
        ⟨none, none'⟩ | ⟨F, values, values'⟩
      · rw [matrix, matrix', none, none']
        exact .inl ⟨_, rfl, rfl⟩
      · obtain ⟨x, first, second⟩ := reorders.exact.leastSquares_grid rows columns
          (reorders.distinct.map ρ.injective) J (fun e => -F e) o.rankTolerance
        rw [List.length_map, List.map_map] at first
        rw [matrix, matrix', values, values']
        dsimp only
        rw [List.map_map, List.map_map]
        exact .inr ⟨x, congrArg Except.ok first, congrArg Except.ok second⟩

/-- **Two walks side by side** take steps to the same parameters, and end in the same way. -/
theorem walk (budget : ℕ) (carries : Carries ρ params params') :
    List.Forall₂ (fun t t' => Beside ρ s s' t.reached t'.reached)
        (walk engine s free o budget (s.iterate params)).1
        (walk engine s' free' o budget (s'.iterate params')).1 ∧
      (walk engine s' free' o budget (s'.iterate params')).2 =
        (walk engine s free o budget (s.iterate params)).2 := by
  have norms := reorders.norm_eq carries
  -- By induction on the budget, for all parameters at once: after a step both walks are
  -- side by side again.
  induction budget generalizing params params' with
  | zero =>
      unfold Descent.walk
      rw [norms]
      split
      · exact ⟨.nil, rfl⟩
      · exact ⟨.nil, rfl⟩
  | succ budget ih =>
      by_cases arrived : normBelow (s.iterate params).norm o.tolerance = true
      · rw [walk_of_arrived _ _ _ _ arrived, walk_of_arrived _ _ _ _ (norms ▸ arrived)]
        exact ⟨.nil, rfl⟩
      · have away : ¬normBelow (s'.iterate params').norm o.tolerance = true := norms ▸ arrived
        rcases reorders.direction (o := o) carries with
          ⟨cause, undirected, undirected'⟩ | ⟨x, directed, directed'⟩
        · rw [Descent.walk, Descent.walk, if_neg arrived, if_neg away]
          simp only [undirected, undirected']
          exact ⟨.nil, True.intro⟩
        · have trials (fraction : ℝ) :=
            reorders.norm_eq (reorders.carries_moved carries fraction x)
          rcases search_eq norms trials 1 with
            ⟨fraction, found, found'⟩ | ⟨spent, spent'⟩ | ⟨cause, refusal, refusal'⟩
          · rw [walk_of_found _ _ _ _ arrived directed found,
              walk_of_found _ _ _ _ away directed' found']
            have moved := reorders.carries_moved carries fraction x
            obtain ⟨steps, ending⟩ := ih moved (reorders.norm_eq moved)
            exact ⟨.cons ⟨_, _, moved, rfl, rfl⟩ steps, ending⟩
          · rw [Descent.walk, Descent.walk, if_neg arrived, if_neg away]
            simp only [directed, directed', spent, spent']
            exact ⟨.nil, True.intro⟩
          · rw [Descent.walk, Descent.walk, if_neg arrived, if_neg away]
            simp only [directed, directed', refusal, refusal']
            exact ⟨.nil, True.intro⟩

/-- **Two descents side by side** end at the same parameters, after as many steps. -/
theorem run (carries : Carries ρ params params') :
    Beside ρ s s' (run engine s free o params).final (run engine s' free' o params').final ∧
      (run engine s' free' o params').iterations = (run engine s free o params).iterations ∧
      (run engine s' free' o params').ending = (run engine s free o params).ending := by
  obtain ⟨steps, ending⟩ := reorders.walk (o := o) o.maxIterations carries
  have last {start start' : Iterate ℝ} {taken taken' : List (Step ℝ)} {e e' : Ending ℝ}
      (first : Beside ρ s s' start start')
      (steps : List.Forall₂ (fun t t' => Beside ρ s s' t.reached t'.reached) taken taken') :
      Beside ρ s s' (final ⟨start, taken, e⟩) (final ⟨start', taken', e'⟩) := by
    induction steps generalizing start start' with
    | nil => exact first
    | cons reached _ ih =>
        rw [final_cons, final_cons]
        exact ih reached
  exact ⟨last ⟨params, params', carries, rfl, rfl⟩ steps, steps.length_eq.symm, ending⟩

end Reorders

end Descent

end PlanarSketch
