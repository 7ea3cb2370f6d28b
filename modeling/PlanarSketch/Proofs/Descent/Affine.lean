import PlanarSketch.Proofs.Engine.Exactness
import PlanarSketch.Proofs.System.Affine

/-!
# Descents over affine systems

Over an affine system the linearised equations are the equations themselves.  With an exact
engine that loses no direction, the first step leads to a point of least residual, and there the
next step is zero (`Descent.walk_of_still`).  So a descent takes the step in full, or none at all
when it is zero, and has come to its end (`Descent.run_affine`): below the tolerance, or
stalled, or with its steps used up.
-/

namespace PlanarSketch

set_option autoImplicit false

open scoped InnerProductSpace

/-! ## Moving along free positions -/

section Moving

variable {free : List ℕ} {params : Array ℝ} {fraction : ℝ} {step : List ℝ}

/-- Free positions are moved by their components of the step. -/
theorem map_sub_moved (distinct : free.Nodup) (inside : ∀ i ∈ free, i < params.size)
    (size : step.length = free.length) :
    (free.map fun i => (moved params free fraction step).getD i 0 - params.getD i 0) =
      step.map fun d => fraction * d := by
  induction free generalizing params step with
  | nil =>
      rw [List.length_eq_zero_iff.1 size]
      rfl
  | cons i rest ih =>
      cases step with
      | nil => cases size
      | cons d step =>
          obtain ⟨fresh, others⟩ := List.nodup_cons.1 distinct
          obtain ⟨here, later⟩ := List.forall_mem_cons.1 inside
          -- The positions differ, so moving the others leaves the first one where it has gone.
          set first := params.setIfInBounds i (params.getD i 0 + fraction * d)
          have unfolded : moved params (i :: rest) fraction (d :: step) =
              moved first rest fraction step := rfl
          have unmoved : (rest.map fun j =>
              (moved first rest fraction step).getD j 0 - params.getD j 0) =
                rest.map fun j => (moved first rest fraction step).getD j 0 - first.getD j 0 := by
            refine List.map_congr_left fun j among => ?_
            have other : j ≠ i := fun same => fresh (same ▸ among)
            rw [Descent.getD_setIfInBounds, if_neg fun same => other same.1]
          have bound : ∀ j ∈ rest, j < first.size := by
            intro j among
            rw [Array.size_setIfInBounds]
            exact later j among
          rw [unfolded, List.map_cons, List.map_cons, unmoved, ih others bound (Nat.succ.inj size),
            Descent.getD_moved fresh, Descent.getD_setIfInBounds, if_pos ⟨rfl, here⟩,
            add_sub_cancel_left]

/-- A step of zeros does not move anything. -/
theorem moved_eq_self (zero : ∀ d ∈ step, d = 0) : moved params free fraction step = params := by
  have still : ∀ change ∈ List.zip free step, change.2 = 0 := by
    rintro ⟨i, d⟩ listed
    exact zero d (List.of_mem_zip listed).2
  unfold moved
  generalize List.zip free step = changes at still
  induction changes with
  | nil => rfl
  | cons change rest ih =>
      obtain ⟨i, d⟩ := change
      have none : d = 0 := still (i, d) List.mem_cons_self
      have unchanged : params.setIfInBounds i (params.getD i 0 + fraction * d) = params := by
        rw [none, mul_zero, add_zero]
        refine Array.ext (by simp) fun k inside there => ?_
        by_cases here : i = k
        · subst here
          simp [Array.getD_eq_getD_getElem?, there]
        · simp [Array.getElem_setIfInBounds_ne there here]
      rw [List.foldl_cons]
      dsimp only
      rw [unchanged]
      exact ih fun next later => still next (List.mem_cons_of_mem (i, d) later)

end Moving

namespace System

/-- The derivative of an affine system by the free positions, as a linear map. -/
noncomputable def slopeMap (s : System ℝ) (free : List ℕ) :
    EuclideanSpace ℝ (Fin free.length) →ₗ[ℝ] EuclideanSpace ℝ (Fin (s.rates free).length) :=
  tableMap (s.rates free) free.length

/-- The residual of an affine system, as a vector. -/
noncomputable def gapVector (s : System ℝ) (free : List ℕ) (params : Array ℝ) :
    EuclideanSpace ℝ (Fin (s.rates free).length) :=
  vector (s.rates free).length (s.gaps (.ofArray params))

/-- The displacement of some parameters from others at the free positions. -/
noncomputable def displacement (free : List ℕ) (params moved : Array ℝ) :
    EuclideanSpace ℝ (Fin free.length) :=
  vector free.length (free.map fun i => moved.getD i 0 - params.getD i 0)

/-- An affine system with its free positions, and an engine whose steps are exact and lose no
direction of it. -/
structure Tractable (s : System ℝ) (engine : Engine ℝ) (free : List ℕ) (o : Options ℝ) : Prop where
  affine : s.Affine
  numbered : (s.blocks.map Block.id).Nodup
  distinct : free.Nodup
  exact : engine.ExactSteps
  checked : o.check = .ok ()
  lossless : Lossless (s.slopeMap free) (Rotation.effective o.rankTolerance)

/-- No displacement of free positions lowers the residual. -/
structure Still (s : System ℝ) (free : List ℕ) (params : Array ℝ) : Prop where
  perpendicular : ∀ v, ⟪s.slopeMap free v, s.gapVector free params⟫_ℝ = 0

/-- The nearest parameters at which the linearised equations hold as well as they can. -/
structure Nearest (s : System ℝ) (free : List ℕ) (cutoff : ℝ) (params other : Array ℝ) : Prop where
  fixed : ∀ i, i ∉ free → other.getD i 0 = params.getD i 0
  step : IsTruncatedStep (s.slopeMap free) cutoff (-s.gapVector free params)
    (displacement free params other)

variable {s : System ℝ} {free : List ℕ} {params other : Array ℝ} {step : List ℝ} {fraction : ℝ}
variable {engine : Engine ℝ} {o : Options ℝ}

theorem Affine.gapVector_eq (affine : s.Affine) (distinct : free.Nodup)
    (fixed : ∀ i, i ∉ free → other.getD i 0 = params.getD i 0) :
    s.gapVector free other =
      s.gapVector free params + s.slopeMap free (displacement free params other) :=
  affine.vector_gaps distinct fixed

theorem Affine.norm_eq (affine : s.Affine) (free : List ℕ) (params : Array ℝ) :
    (s.iterate params).norm = some ‖s.gapVector free params‖ :=
  affine.norm_iterate params

theorem displacement_moved (distinct : free.Nodup) (inside : ∀ i ∈ free, i < params.size)
    (size : step.length = free.length) :
    displacement free params (moved params free 1 step) = vector free.length step := by
  rw [displacement, map_sub_moved distinct inside size, vector_map_mul, one_smul]

/-- From a residual that cannot be lowered, every other one differs by a perpendicular part. -/
theorem Still.norm_sq_add (still : s.Still free params) (affine : s.Affine) (distinct : free.Nodup)
    (fixed : ∀ i, i ∉ free → other.getD i 0 = params.getD i 0) :
    ‖s.gapVector free other‖ ^ 2 =
      ‖s.gapVector free params‖ ^ 2 + ‖s.slopeMap free (displacement free params other)‖ ^ 2 := by
  rw [affine.gapVector_eq distinct fixed, norm_add_sq_real, real_inner_comm, still.perpendicular]
  ring

/-- A residual that cannot be lowered is the least of all. -/
theorem Still.norm_le (still : s.Still free params) (affine : s.Affine) (distinct : free.Nodup)
    (fixed : ∀ i, i ∉ free → other.getD i 0 = params.getD i 0) :
    ‖s.gapVector free params‖ ≤ ‖s.gapVector free other‖ := by
  have pythagoras := still.norm_sq_add affine distinct fixed
  have part : 0 ≤ ‖s.slopeMap free (displacement free params other)‖ ^ 2 := sq_nonneg _
  exact le_of_sq_le_sq (by linarith) (norm_nonneg _)

namespace Tractable

variable (tractable : s.Tractable engine free o)
variable (nearest : s.Nearest free (Rotation.effective o.rankTolerance) params other)

include tractable nearest

/-- What is left at the nearest parameters cannot be lowered any further. -/
theorem still : s.Still free other := by
  refine ⟨fun v => ?_⟩
  have normal := nearest.step.normal (Rotation.effective_nonneg _) tractable.lossless v
  rw [tractable.affine.gapVector_eq tractable.distinct nearest.fixed, add_comm]
  rwa [sub_neg_eq_add] at normal

/-- The residual is lower there, unless nothing has been displaced. -/
theorem norm_lt (displaced : displacement free params other ≠ 0) :
    ‖s.gapVector free other‖ < ‖s.gapVector free params‖ := by
  set v := displacement free params other
  have somewhere : s.slopeMap free v ≠ 0 := fun nowhere =>
    displaced (eq_zero_of_mem_orthogonal_ker
      (nearest.step.mem_orthogonal_ker (Rotation.effective_nonneg _)) nowhere)
  have split : s.gapVector free params = s.gapVector free other - s.slopeMap free v := by
    rw [tractable.affine.gapVector_eq tractable.distinct nearest.fixed, add_sub_cancel_right]
  have pythagoras : ‖s.gapVector free params‖ ^ 2 =
      ‖s.gapVector free other‖ ^ 2 + ‖s.slopeMap free v‖ ^ 2 := by
    rw [split, norm_sub_sq_real, real_inner_comm,
      (still tractable nearest).perpendicular]
    ring
  have positive : 0 < ‖s.slopeMap free v‖ ^ 2 := pow_pos (norm_pos_iff.2 somewhere) 2
  exact lt_of_pow_lt_pow_left₀ 2 (norm_nonneg _) (by linarith)

/-- From parameters that are still, nothing is displaced. -/
theorem displacement_eq_zero (still : s.Still free params) :
    displacement free params other = 0 := by
  have nonneg := Rotation.effective_nonneg o.rankTolerance
  have normal := nearest.step.normal nonneg tractable.lossless (displacement free params other)
  rw [sub_neg_eq_add, inner_add_right, still.perpendicular, add_zero, inner_self_eq_zero] at normal
  exact eq_zero_of_mem_orthogonal_ker (nearest.step.mem_orthogonal_ker nonneg) normal

end Tractable

end System

namespace Descent

open PlanarSketch.System

variable {engine : Engine ℝ} {s : System ℝ} {free : List ℕ} {o : Options ℝ}
variable {params : Array ℝ} {step : List ℝ}

/-- A search is over at once when the whole step helps. -/
theorem search_of_helps {it : Iterate ℝ} (whole : o.minStep ≤ 1)
    (helps : Helps s free it step 1) :
    search s free o it step 1 = .found ⟨1, trial s free it step 1⟩ := by
  rw [search_eq_ite, if_pos whole]
  exact if_pos helps

/-- A search along a step that leads nowhere finds nothing. -/
theorem search_of_zero (checked : o.check = .ok ()) (zero : ∀ d ∈ step, d = 0) :
    search s free o (s.iterate params) step 1 = .tooShort := by
  have useless (fraction : ℝ) : ¬Helps s free (s.iterate params) step fraction := by
    intro helps
    have same : trial s free (s.iterate params) step fraction = s.iterate params :=
      congrArg s.iterate (moved_eq_self zero)
    obtain ⟨n, norm, lower⟩ := improves_iff_lowers.1 helps
    rw [same] at norm
    exact lt_irrefl n (lower n norm)
  cases result : search s free o (s.iterate params) step 1 with
  | tooShort => rfl
  | failed cause => exact absurd result (search_ends checked step cause)
  | found taken =>
      obtain ⟨k, -, helps⟩ := (search_searched s free o _ step 1).found_spec result
      exact absurd helps (useless _)

section Tractable

variable (tractable : s.Tractable engine free o) (inside : ∀ i ∈ free, i < params.size)

include tractable

/-- The answer of the engine is the shortest step to where the linearised equations hold best. -/
theorem exists_direction (params : Array ℝ) :
    ∃ step, direction engine s free o (s.iterate params) = .ok step ∧
      step.length = free.length ∧
      IsTruncatedStep (s.slopeMap free) (Rotation.effective o.rankTolerance)
        (-s.gapVector free params) (vector free.length step) := by
  obtain ⟨affine, numbered, -, exact, -, -⟩ := tractable
  unfold direction
  rw [s.checkJacobian_eq_ok _ numbered]
  dsimp only
  split
  · -- Without equations or free positions one of the two spaces is trivial.
    rename_i trivial
    refine ⟨_, rfl, List.length_replicate, ?_⟩
    rw [vector_replicate_zero]
    refine ⟨Submodule.zero_mem _, fun v _ => ?_⟩
    have nothing : s.slopeMap free v = 0 := by
      rcases trivial with empty | empty
      · exact eq_zero_of_no_components (length_rates.trans empty) _
      · rw [eq_zero_of_no_components (List.length_eq_zero_iff.2 empty) v, map_zero]
    rw [nothing, inner_zero_left]
  · have matrix : finiteMatrix? (s.jacobian (.ofArray (s.iterate params).params) free) =
        some (s.rates free) := affine.finiteMatrix?_jacobian numbered _
    have residual : allFinite? (s.iterate params).residual =
        some (s.gaps (.ofArray params)) := affine.allFinite?_residuals _
    rw [matrix, residual]
    refine ⟨_, rfl, exact.length_leastSquares _ _ _ _, ?_⟩
    have size : ((s.gaps (.ofArray params)).map fun f => -f).length = (s.rates free).length := by
      rw [List.length_map, length_gaps, length_rates]
    have answer := exact.leastSquares (s.rates free) _ free.length o.rankTolerance
      length_of_mem_rates size
    rwa [vector_map_neg] at answer

include inside

/-- The whole step leads to the nearest parameters. -/
theorem exists_direction_nearest :
    ∃ step, direction engine s free o (s.iterate params) = .ok step ∧
      step.length = free.length ∧
      s.Nearest free (Rotation.effective o.rankTolerance) params (moved params free 1 step) := by
  obtain ⟨step, directed, size, nearest⟩ := exists_direction tractable params
  refine ⟨step, directed, size, fun i outside => getD_moved outside _ _ _, ?_⟩
  rwa [displacement_moved tractable.distinct inside size]

theorem forall_eq_zero (size : step.length = free.length)
    (zero : displacement free params (moved params free 1 step) = 0) : ∀ d ∈ step, d = 0 := by
  rw [displacement_moved tractable.distinct inside size] at zero
  exact eq_zero_of_vector_eq_zero size zero

/-- A walk ends where nothing can be lowered. -/
theorem walk_of_still (still : s.Still free params) (budget : ℕ) :
    ∃ ending, walk engine s free o budget (s.iterate params) = ([], ending) := by
  obtain ⟨step, directed, size, nearest⟩ := exists_direction_nearest tractable inside
  have zeros := forall_eq_zero tractable inside size (tractable.displacement_eq_zero nearest still)
  unfold walk
  split
  · exact ⟨_, rfl⟩
  · cases budget with
    | zero => exact ⟨_, rfl⟩
    | succ budget =>
        simp only [directed, search_of_zero tractable.checked zeros]
        exact ⟨_, rfl⟩

/-- **A descent over an affine system is over after one step.**  It ends at the nearest parameters
at which the linearised equations hold as well as they can; if it takes no step, it has begun
there. -/
theorem run_affine (budget : 1 ≤ o.maxIterations) (whole : o.minStep ≤ 1)
    (away : normBelow (s.iterate params).norm o.tolerance = false) :
    ∃ other, other.size = params.size ∧
      s.Nearest free (Rotation.effective o.rankTolerance) params other ∧
      (run engine s free o params).final = s.iterate other ∧
      (run engine s free o params).iterations ≤ 1 ∧
      ((run engine s free o params).iterations = 0 → other = params) := by
  obtain ⟨step, directed, size, nearest⟩ := exists_direction_nearest tractable inside
  refine ⟨moved params free 1 step, size_moved _ _ _ _, nearest, ?_⟩
  obtain ⟨rest, same⟩ : ∃ rest, o.maxIterations = rest + 1 := ⟨_, (Nat.sub_add_cancel budget).symm⟩
  -- The first search finds nothing, if there is nowhere to go, or the whole step.
  by_cases zero : displacement free params (moved params free 1 step) = 0
  · have zeros := forall_eq_zero tractable inside size zero
    have walked : walk engine s free o o.maxIterations (s.iterate params) = ([], .stalled) := by
      rw [same, walk, if_neg (by simp [away])]
      simp only [directed, search_of_zero tractable.checked zeros]
    have stays : moved params free 1 step = params := moved_eq_self zeros
    rw [run, walked, stays]
    exact ⟨rfl, Nat.zero_le 1, fun _ => rfl⟩
  · have helps : Helps s free (s.iterate params) step 1 := by
      refine improves_iff_lowers.2 ⟨_, tractable.affine.norm_eq free _, fun n norm => ?_⟩
      rw [tractable.affine.norm_eq free] at norm
      rw [← Option.some.inj norm]
      exact tractable.norm_lt nearest zero
    have found : search s free o (s.iterate params) step 1 =
        .found ⟨1, s.iterate (moved params free 1 step)⟩ := search_of_helps whole helps
    have bound : ∀ i ∈ free, i < (moved params free 1 step).size := by
      rw [size_moved]
      exact inside
    -- From there on nothing can be lowered, whatever is left of the budget.
    obtain ⟨ending, ends⟩ := walk_of_still tractable bound (tractable.still nearest) rest
    have walked : walk engine s free o o.maxIterations (s.iterate params) =
        ([⟨1, s.iterate (moved params free 1 step)⟩], ending) := by
      rw [same, walk_of_found engine s free o (by simp [away]) directed found]
      dsimp only
      rw [ends]
    rw [run, walked]
    exact ⟨rfl, le_rfl, fun none => by cases none⟩

end Tractable

end Descent

end PlanarSketch
