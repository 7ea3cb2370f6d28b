import PlanarSketch.Proofs.Solve.Definedness
import PlanarSketch.Proofs.Solve.Faithful

/-!
# What is reported of single constraints

A solve decides on its success by one number, the norm of all driving equations together.  What
it reports of single constraints comes from another evaluation, which takes in the
reference constraints as well and gives a single number for one equation and a list for several.
The two agree (`report_agrees`): the squared norm is the sum of the squared magnitudes that are
reported of the driving constraints, so a small norm leaves no driving constraint
unsatisfied.

The counts of satisfied constraints and the list of unsatisfied ones come from the same
magnitudes and complement one another, for exact numbers and for any others.
-/

namespace PlanarSketch

set_option autoImplicit false

open Outcome

namespace Solution

variable {α : Type} [Scalar α]

/-- How far a solution reports a constraint to be from holding. -/
def magnitudeOf (s : Solution α) (c : Constraint α) : Option α :=
  (Discrepancy.find? c.id s.discrepancies).bind Discrepancy.magnitude

/-- That what a solution reports of single constraints agrees with its outcome. -/
structure ReportAgrees (s : Solution ℝ) (constraints : List (Constraint ℝ)) : Prop where
  /-- There is one entry for each constraint, in order. -/
  entries : s.discrepancies.map Prod.fst = constraints.map Constraint.identifier
  distinct : (s.discrepancies.map fun e => e.1.value).Nodup
  /-- The norm is that of the magnitudes of the driving constraints, all of which are there. -/
  norm : ∃ n magnitudes, s.norm = some n ∧ 0 ≤ n ∧
    (constraints.filter Constraint.isDriving).mapM s.magnitudeOf = some magnitudes ∧
      n ^ 2 = (magnitudes.map fun m => m ^ 2).sum
  success : s.success = true → ∀ c ∈ constraints, c.isDriving = true →
    ∀ id ∈ s.unsatisfied s.tolerance, id.value ≠ c.id
  monotone : ∀ t t', t ≤ t' → (s.unsatisfied t').Sublist (s.unsatisfied t)
  count : s.statistics.satisfied + (s.unsatisfied s.tolerance).length = constraints.length

end Solution

/-! ## Tolerances -/

namespace Discrepancy

variable {α : Type} [Scalar α]

theorem within_iff {d : Discrepancy α} {tolerance : α} :
    d.within tolerance = true ↔ ∃ m, d.magnitude = some m ∧ m < tolerance :=
  normBelow_iff

/-- What holds up to a tolerance holds up to a larger one. -/
theorem within_mono {d : Discrepancy ℝ} {t t' : ℝ} (larger : t ≤ t')
    (near : d.within t = true) : d.within t' = true := by
  obtain ⟨m, magnitude, below⟩ := within_iff.1 near
  exact within_iff.2 ⟨m, magnitude, below.trans_le larger⟩

end Discrepancy

theorem Solution.unsatisfied_sublist (s : Solution ℝ) {t t' : ℝ} (larger : t ≤ t') :
    (s.unsatisfied t').Sublist (s.unsatisfied t) := by
  refine List.Sublist.map _ (List.monotone_filter_right _ fun e far => ?_)
  simp only [Bool.not_eq_true'] at far ⊢
  exact Bool.eq_false_iff.2 fun near =>
    Bool.eq_false_iff.1 far (Discrepancy.within_mono larger near)

/-! ## Counts -/

/-- Those constraints are counted that a discrepancy within the tolerance is found of. -/
theorem Statistics.satisfied_count {α : Type} [Scalar α] (constraints : List (Constraint α))
    (discrepancies : List (Identifier × Discrepancy α)) (conflicts : Nat) (freedom : Int)
    (tolerance : α) :
    (count constraints discrepancies conflicts freedom tolerance).satisfied =
      constraints.countP fun c =>
        (Discrepancy.find? c.id discrepancies).any fun d => d.within tolerance := by
  refine List.countP_congr fun c _ => ?_
  cases Discrepancy.find? c.id discrepancies with
  | none => exact Iff.rfl
  | some d => exact Iff.rfl

namespace Problem

section Counts

variable {α : Type} [Scalar α] {engine : Engine α} {o : Options α} {entities : List (Entity α)}
variable {constraints : List (Constraint α)} {s : Solution α} {q : Problem α}

/-- **Every constraint is either counted as satisfied or listed as unsatisfied.** -/
theorem satisfied_add_unsatisfied
    (answered : (solve engine o entities constraints).outcome = .ok s)
    (prepared : prepare entities constraints = .ok q) :
    s.statistics.satisfied + (s.unsatisfied s.tolerance).length = constraints.length := by
  have reported := discrepancies_of_answered answered prepared
  obtain ⟨-, -, -, -, compiled⟩ := prepare_eq_ok prepared
  have found := fun b present => find?_of_answered answered prepared (b := b) present
  obtain ⟨diagnosis, -, solution⟩ := exists_solution_eq answered prepared
  have satisfied : s.statistics.satisfied =
      q.blocks.countP fun b => (b.reading (.ofArray s.params)).2.within s.tolerance := by
    have counted : s.statistics.satisfied = constraints.countP fun c =>
        (Discrepancy.find? c.id s.discrepancies).any fun d => d.within s.tolerance := by
      rw [solution]
      exact Statistics.satisfied_count _ _ _ _ _
    rw [counted, ← map_constraint_blocks compiled, List.countP_map]
    refine List.countP_congr fun b present => ?_
    have reading := found b present
    rw [Block.id] at reading
    rw [Function.comp_apply, reading]
    rfl
  have unsatisfied : (s.unsatisfied s.tolerance).length =
      q.blocks.countP fun b => !(b.reading (.ofArray s.params)).2.within s.tolerance := by
    rw [Solution.unsatisfied, List.length_map, ← List.countP_eq_length_filter, reported,
      List.countP_map]
    rfl
  rw [satisfied, unsatisfied, ← map_constraint_blocks compiled, List.length_map,
    List.length_eq_countP_add_countP
      fun b : Block α => (b.reading (.ofArray s.params)).2.within s.tolerance]
  simp only [Bool.not_eq_true, Bool.decide_eq_false]

/-- There is one entry for each constraint. -/
theorem map_fst_discrepancies
    (answered : (solve engine o entities constraints).outcome = .ok s)
    (prepared : prepare entities constraints = .ok q) :
    s.discrepancies.map Prod.fst = constraints.map Constraint.identifier := by
  obtain ⟨-, -, -, -, compiled⟩ := prepare_eq_ok prepared
  rw [discrepancies_of_answered answered prepared, ← map_constraint_blocks compiled,
    List.map_map, List.map_map]
  rfl

end Counts

/-! ## Norms -/

variable {engine : Engine ℝ} {o : Options ℝ} {entities : List (Entity ℝ)}
variable {constraints : List (Constraint ℝ)} {s : Solution ℝ} {q : Problem ℝ}

/-- The magnitude of a constraint is the norm of its block. -/
theorem magnitudeOf_block (answered : (solve engine o entities constraints).outcome = .ok s)
    (prepared : prepare entities constraints = .ok q) {b : Block ℝ} (present : b ∈ q.blocks) :
    s.magnitudeOf b.constraint = residualNorm? (b.residual (.ofArray s.params)) := by
  have reading := find?_of_answered answered prepared present
  rw [Block.id] at reading
  rw [Solution.magnitudeOf, reading, Option.bind_some, Discrepancy.magnitude_ofRows]

/-- **The norm of a solution is the norm of the magnitudes of its driving constraints.** -/
theorem norm_eq_length (answered : (solve engine o entities constraints).outcome = .ok s)
    (prepared : prepare entities constraints = .ok q) :
    s.norm =
      ((constraints.filter Constraint.isDriving).mapM s.magnitudeOf).map Scalar.length := by
  obtain ⟨it, visited, params, norm⟩ := exists_visited answered prepared
  obtain ⟨-, -, -, -, compiled⟩ := prepare_eq_ok prepared
  have stacked : s.norm =
      residualNorm? ((q.driving o.differenceStep).residuals (.ofArray s.params)) := by
    rw [norm, (visited_norm prepared visited).1, params]
    rfl
  rw [stacked, System.residuals, residualNorm?_flatMap, ← map_constraint_blocks compiled,
    List.filter_map, List.mapM_map]
  refine congrArg (Option.map Scalar.length) (mapM_congr fun b among => ?_)
  exact (magnitudeOf_block answered prepared (List.mem_of_mem_filter among)).symm

/-- What is listed as unsatisfied does not hold up to the tolerance. -/
theorem not_within_of_unsatisfied
    (answered : (solve engine o entities constraints).outcome = .ok s)
    (prepared : prepare entities constraints = .ok q) {b : Block ℝ} (present : b ∈ q.blocks)
    {t : ℝ} {id : Identifier} (listed : id ∈ s.unsatisfied t) (same : id.value = b.id) :
    (b.reading (.ofArray s.params)).2.within t = false := by
  obtain ⟨e, among, rfl⟩ := List.mem_map.1 listed
  obtain ⟨reported, far⟩ := List.mem_filter.1 among
  rw [discrepancies_of_answered answered prepared] at reported
  obtain ⟨b', present', rfl⟩ := List.mem_map.1 reported
  have one : b' = b := List.inj_on_of_nodup_map (distinct_blocks prepared) present' present same
  simpa [one] using far

/-- After a success no driving constraint is unsatisfied. -/
theorem satisfied_of_success (answered : (solve engine o entities constraints).outcome = .ok s)
    (prepared : prepare entities constraints = .ok q) (success : s.success = true)
    {c : Constraint ℝ} (among : c ∈ constraints) (driving : c.isDriving = true) :
    ∀ id ∈ s.unsatisfied s.tolerance, id.value ≠ c.id := by
  have below : normBelow s.norm s.tolerance = true := by
    obtain ⟨diagnosis, -, rfl⟩ := exists_solution_eq answered prepared
    exact success
  obtain ⟨n, norm, small⟩ := normBelow_iff.1 below
  rw [norm_eq_length answered prepared, Option.map_eq_some_iff] at norm
  obtain ⟨magnitudes, measured, rfl⟩ := norm
  obtain ⟨b, present, rfl⟩ := exists_block prepared among
  obtain ⟨m, part, magnitude⟩ :=
    exists_of_mem_mapM_some measured (List.mem_filter.2 ⟨among, driving⟩)
  intro id listed same
  have far := not_within_of_unsatisfied answered prepared present listed same
  have near : (b.reading (.ofArray s.params)).2.within s.tolerance = true := by
    refine Discrepancy.within_iff.2 ⟨m, ?_, ?_⟩
    · rw [← magnitude, magnitudeOf_block answered prepared present]
      exact Discrepancy.magnitude_ofRows _
    · exact (le_abs_self m).trans_lt ((Exact.abs_le_length part).trans_lt small)
  rw [near] at far
  cases far

end Problem

variable {engine : Engine ℝ} {o : Options ℝ} {entities : List (Entity ℝ)}
variable {constraints : List (Constraint ℝ)} {s : Solution ℝ}

/-- **What is reported of single constraints agrees with the outcome**, whenever a solve has an
answer.  There is exactly one entry for each constraint.  The magnitudes of the driving constraints
are all there, and their squares add up to the square of the norm.  After a success no driving
constraint is unsatisfied; a larger tolerance leaves fewer constraints unsatisfied; and those that
are satisfied and those that are not add up to all constraints. -/
theorem report_agrees (answered : (solve engine o entities constraints).outcome = .ok s) :
    s.ReportAgrees constraints := by
  obtain ⟨q, prepared⟩ := exists_prepared answered
  obtain ⟨-, numbered, -, -, -⟩ := Problem.prepare_eq_ok prepared
  have entries := Problem.map_fst_discrepancies answered prepared
  refine
    { entries := entries
      distinct := ?_
      norm := ?_
      success := fun success c => Problem.satisfied_of_success answered prepared success
      monotone := fun t t' => s.unsatisfied_sublist
      count := Problem.satisfied_add_unsatisfied answered prepared }
  · have ids := congrArg (List.map Identifier.value) entries
    rw [List.map_map, List.map_map] at ids
    exact ids ▸ numbered
  · obtain ⟨n, norm⟩ := (Solution.defined_of_answered answered prepared).norm
    have length := norm.symm.trans (Problem.norm_eq_length answered prepared)
    obtain ⟨magnitudes, measured, rfl⟩ := Option.map_eq_some_iff.1 length.symm
    exact ⟨_, magnitudes, norm, Exact.length_nonneg _, measured, Exact.length_sq _⟩

/-- The solve of two points at the wrong distance is reported in agreement with its outcome. -/
theorem report_agrees_distance :
    ∃ s, (solve Rotation.engine .standard Stretch.entities [Stretch.constraint]).outcome = .ok s ∧
      s.ReportAgrees [Stretch.constraint] := by
  obtain ⟨s, answered⟩ := solve_answers Exact.standard_check Stretch.prepare_problem
    (Stretch.not_collapsesAtEnd Rotation.engine)
  exact ⟨s, answered, report_agrees answered⟩

end PlanarSketch
