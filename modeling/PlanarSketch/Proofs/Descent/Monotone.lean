import PlanarSketch.Proofs.Descent.Walk
import PlanarSketch.Proofs.Outcome

/-!
# What a walk keeps

A walk goes down: each point it visits has a smaller residual norm than the one before
(`Walked.descending`), where an undefined residual is larger than any other.  A walk that starts
where the residual is defined therefore never leaves such points (`Walked.visited_norm`).  A point
and its residual stay together all the way (`Walked.evaluated`), and no more steps are taken
than there are (`Walked.length_le`).

How a walk ends is known as well: below the tolerance (`Walked.converged_spec`), with all
its steps taken (`Walked.exhausted_spec`), or at a point from which no fraction of the
computed step helps (`Walked.stalled_spec`).  All of these are inductions on the relation
`Walked`, so none depends on what the engine answers.
-/

namespace PlanarSketch

set_option autoImplicit false

variable {α : Type} [Scalar α]

/-- A norm is there, and it is less than another one if that is there too. -/
def Lowers (new old : Option α) : Prop := ∃ n, new = some n ∧ ∀ m, old = some m → n < m

theorem normBelow_iff {norm : Option α} {bound : α} :
    normBelow norm bound = true ↔ ∃ n, norm = some n ∧ n < bound := by
  cases norm with
  | none => simp [normBelow]
  | some n => simp [normBelow]

theorem improves_iff_lowers {new old : Option α} : improves new old = true ↔ Lowers new old := by
  cases old with
  | none => simp [improves, Lowers, Option.isSome_iff_exists]
  | some bound => simp [improves, Lowers, normBelow_iff]

namespace Descent

omit [Scalar α] in
/-- The points that a descent visits, from the first to the last. -/
def visited (d : Descent α) : List (Iterate α) := d.start :: d.steps.map Step.reached

omit [Scalar α] in
theorem getLast?_visited (d : Descent α) : d.visited.getLast? = some d.final := by
  rw [visited, List.getLast?_cons, List.getLast?_map]
  rfl

section Walks

variable {engine : Engine α} {s : System α} {free : List Nat} {o : Options α}
variable {budget : Nat} {it : Iterate α} {steps : List (Step α)} {ending : Ending α}

/-- A step that a search finds lowers the norm and carries the residual of where it leads. -/
theorem search_found {step : List α} {taken : Step α}
    (found : search s free o it step 1 = .found taken) :
    Lowers taken.reached.norm it.norm ∧ taken.reached = s.iterate taken.reached.params := by
  obtain ⟨k, rfl, helps⟩ := (search_searched s free o it step 1).found_spec found
  exact ⟨improves_iff_lowers.1 helps, rfl⟩

/-- **Walks go down.** -/
theorem Walked.descending (walked : Walked engine s free o budget it steps ending) :
    (it :: steps.map Step.reached).IsChain fun a b => Lowers b.norm a.norm := by
  induction walked with
  | step away directed found rest ih =>
      rw [List.map_cons, List.isChain_cons_cons]
      exact ⟨(search_found found).1, ih⟩
  | _ => exact List.isChain_singleton _

theorem Walked.evaluated (walked : Walked engine s free o budget it steps ending)
    (start : it = s.iterate it.params) :
    ∀ visit ∈ it :: steps.map Step.reached, visit = s.iterate visit.params := by
  induction walked with
  | step away directed found rest ih =>
      intro visit among
      rw [List.map_cons, List.mem_cons] at among
      rcases among with rfl | among
      · exact start
      · exact ih (search_found found).2 visit among
  | _ =>
      intro visit among
      rw [List.map_nil, List.mem_singleton] at among
      rw [among]
      exact start

/-- A walk ends at a point that has been evaluated. -/
theorem Walked.final_eq (walked : Walked engine s free o budget it steps ending)
    (start : it = s.iterate it.params) :
    final ⟨it, steps, ending⟩ = s.iterate (final ⟨it, steps, ending⟩).params :=
  walked.evaluated start _ (List.mem_of_getLast? (getLast?_visited ⟨it, steps, ending⟩))

/-- A walk from a point with a norm visits points with norms only, since nothing is less than a norm
that is missing. -/
theorem Walked.visited_norm (walked : Walked engine s free o budget it steps ending)
    (start : it.norm ≠ none) : ∀ visit ∈ it :: steps.map Step.reached, visit.norm ≠ none := by
  induction walked with
  | step away directed found rest ih =>
      intro visit among
      rw [List.map_cons, List.mem_cons] at among
      rcases among with rfl | among
      · exact start
      · obtain ⟨n, norm, -⟩ := (search_found found).1
        exact ih (by rw [norm]; exact Option.some_ne_none n) visit among
  | _ =>
      intro visit among
      rw [List.map_nil, List.mem_singleton] at among
      rw [among]
      exact start

omit [Scalar α] in
theorem getD_setIfInBounds (params : Array α) (i j : Nat) (x d : α) :
    (params.setIfInBounds i x).getD j d =
      if j = i ∧ i < params.size then x else params.getD j d := by
  simp only [Array.getD_eq_getD_getElem?, Array.getElem?_setIfInBounds]
  grind

theorem size_moved (params : Array α) (free : List Nat) (fraction : α) (step : List α) :
    (moved params free fraction step).size = params.size := by
  unfold moved
  induction List.zip free step generalizing params with
  | nil => rfl
  | cons change rest ih => rw [List.foldl_cons, ih, Array.size_setIfInBounds]

/-- A walk neither adds parameters nor loses any. -/
theorem Walked.size_final (walked : Walked engine s free o budget it steps ending) :
    (final ⟨it, steps, ending⟩).params.size = it.params.size := by
  induction walked with
  | step _ _ found _ ih =>
      obtain ⟨k, rfl, -⟩ := (search_searched _ _ _ _ _ _).found_spec found
      rw [final_cons, ih]
      exact size_moved _ _ _ _
  | _ => rfl

/-- A step leaves positions alone that are not free. -/
theorem getD_moved {free : List Nat} {i : Nat} (outside : i ∉ free) (params : Array α)
    (fraction : α) (step : List α) :
    (moved params free fraction step).getD i 0 = params.getD i 0 := by
  have elsewhere : ∀ change ∈ List.zip free step, change.1 ≠ i := by
    rintro ⟨j, d⟩ listed rfl
    exact outside (List.of_mem_zip listed).1
  unfold moved
  generalize List.zip free step = changes at elsewhere
  induction changes generalizing params with
  | nil => rfl
  | cons change rest ih =>
      have here : change.1 ≠ i := elsewhere change List.mem_cons_self
      rw [List.foldl_cons, ih _ fun next later => elsewhere next (List.mem_cons_of_mem _ later),
        getD_setIfInBounds, if_neg fun same => here same.1.symm]

/-- **Walks leave alone what is not free.** -/
theorem Walked.getD_final (walked : Walked engine s free o budget it steps ending) {i : Nat}
    (outside : i ∉ free) :
    (final ⟨it, steps, ending⟩).params.getD i 0 = it.params.getD i 0 := by
  induction walked with
  | step _ _ found _ ih =>
      obtain ⟨k, rfl, -⟩ := (search_searched _ _ _ _ _ _).found_spec found
      rw [final_cons, ih]
      exact getD_moved outside _ _ _
  | _ => rfl

theorem Walked.length_le (walked : Walked engine s free o budget it steps ending) :
    steps.length ≤ budget := by
  induction walked with
  | step _ _ _ _ ih => exact Nat.succ_le_succ ih
  | _ => exact Nat.zero_le _

/-! ## Ends -/

theorem Walked.converged_spec (walked : Walked engine s free o budget it steps ending)
    (converged : ending = .converged) :
    normBelow (final ⟨it, steps, ending⟩).norm o.tolerance = true := by
  induction walked with
  | converged arrived => exact arrived
  | step _ _ _ _ ih =>
      rw [final_cons]
      exact ih converged
  | _ => cases converged

theorem Walked.exhausted_spec (walked : Walked engine s free o budget it steps ending)
    (exhausted : ending = .exhausted) : steps.length = budget := by
  induction walked with
  | exhausted => rfl
  | step _ _ _ _ ih => rw [List.length_cons, ih exhausted]
  | _ => cases exhausted

/-- A walk stalls at a point from which the search along the computed step finds nothing. -/
theorem Walked.stalled_spec (walked : Walked engine s free o budget it steps ending)
    (stalled : ending = .stalled) :
    ∃ step, direction engine s free o (final ⟨it, steps, ending⟩) = .ok step ∧
      search s free o (final ⟨it, steps, ending⟩) step 1 = .tooShort := by
  induction walked with
  | stalled _ directed spent => exact ⟨_, directed, spent⟩
  | step _ _ _ _ ih =>
      rw [final_cons]
      exact ih stalled
  | _ => cases stalled

/-- A walk that fails does so at its last point: no direction can be computed there, or the
search along it fails. -/
theorem Walked.failed_spec {cause : Fault α}
    (walked : Walked engine s free o budget it steps ending) (failed : ending = .failed cause) :
    direction engine s free o (final ⟨it, steps, ending⟩) = .error cause ∨
      ∃ step, direction engine s free o (final ⟨it, steps, ending⟩) = .ok step ∧
        search s free o (final ⟨it, steps, ending⟩) step 1 = .failed cause := by
  induction walked with
  | lost _ undirected =>
      cases failed
      exact .inl undirected
  | blocked _ directed refusal =>
      cases failed
      exact .inr ⟨_, directed, refusal⟩
  | step _ _ _ _ ih =>
      rw [final_cons]
      exact ih failed
  | _ => cases failed

end Walks

end Descent

/-! ## Lengths of steps -/

/-- What the order of a number type has to do with shortening: orders compose, and a damped
number is no larger and still not negative.  Exact numbers and doubles obey this. -/
structure Scalar.Shrinking (α : Type) [Scalar α] : Prop where
  trans : ∀ a b c : α, a ≤ b → b ≤ c → a ≤ c
  one_nonneg : (0 : α) ≤ 1
  damped_nonneg : ∀ x d : α, 0 ≤ x → 0 < d → d < 1 → 0 ≤ x * d
  damped_le : ∀ x d : α, 0 ≤ x → 0 < d → d < 1 → x * d ≤ x

theorem Options.positive_eq_ok {option : PositiveOption} {x : α} {passed : Unit} :
    Options.positive option x = .ok passed ↔ 0 < x := by
  unfold Options.positive
  split
  · rename_i holds
    exact iff_of_true rfl holds
  · rename_i fails
    exact iff_of_false (fun refused => by cases refused) fails

/-- What has been tested of checked options. -/
theorem Options.check_eq_ok {o : Options α} :
    o.check = .ok () ↔ (0 < o.damping ∧ o.damping < 1) ∧ 0 < o.tolerance ∧ 0 < o.minStep ∧
      0 < o.rankTolerance ∧ 0 < o.differenceStep ∧ 0 < o.gradientTolerance := by
  unfold Options.check
  split
  · rename_i damps
    simp [Outcome.bind_eq_ok, Options.positive_eq_ok, damps]
  · rename_i fails
    exact iff_of_false (fun refused => by cases refused) fun holds => fails holds.1

/-- Checked options damp by a factor between zero and one. -/
theorem Options.damping_of_check {o : Options α} (checked : o.check = .ok ()) :
    0 < o.damping ∧ o.damping < 1 := (Options.check_eq_ok.1 checked).1

/-- The fractions of a step that are long enough come before all that are not. -/
theorem Options.long_of_le {o : Options α} (laws : Scalar.Shrinking α)
    (checked : o.check = .ok ()) {n k : Nat} (order : n ≤ k) (long : o.minStep ≤ o.damped 1 k) :
    o.minStep ≤ o.damped 1 n := by
  obtain ⟨positive, small⟩ := Options.damping_of_check checked
  have nonneg : ∀ k, 0 ≤ o.damped 1 k := by
    intro k
    induction k with
    | zero => exact laws.one_nonneg
    | succ k ih => exact laws.damped_nonneg _ _ ih positive small
  induction k, order using Nat.le_induction with
  | base => exact long
  | succ k _ ih => exact ih (laws.trans _ _ _ long (laws.damped_le _ _ (nonneg k) positive small))

end PlanarSketch
