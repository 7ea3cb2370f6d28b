import PlanarSketch.Proofs.Descent.Monotone
import PlanarSketch.Proofs.Solve.Answers

/-!
# Solutions are faithful to their descents

A solution reports the end of a descent that goes down.  The norms of the points that the
descent visits decrease strictly from the initial geometry on, the parameters and the norm
of the solution belong to the last of these points, the iterations count them, and success
means that the norm is below the tolerance.  An unsolved solution has used up all its
iterations, or stands at a point from which no fraction of the computed step lowers the
norm (`solution_faithful`).  Over exact numbers these fractions are the powers of the damping
factor (`Solution.Faithful.no_power_lowers`).

Nothing is asked of the engine, so this holds whatever steps it yields.  Two points at the
wrong distance show that there are solutions to speak of (`solution_faithful_distance`).
-/

namespace PlanarSketch

set_option autoImplicit false

variable {α : Type} [Scalar α]

/-- No fraction of a step from a point lowers its norm: the damped fractions fail one after the
other until they are too short.  Where damping shortens, these are all that are long enough. -/
structure Descent.Useless (s : System α) (free : List Nat) (o : Options α) (it : Iterate α)
    (step : List α) : Prop where
  tried : ∃ n, ¬o.minStep ≤ o.damped 1 n ∧ ∀ k < n, o.minStep ≤ o.damped 1 k ∧
    ¬Lowers (s.iterate (moved it.params free (o.damped 1 k) step)).norm it.norm
  complete : Scalar.Shrinking α → o.check = .ok () → ∀ k, o.minStep ≤ o.damped 1 k →
    ¬Lowers (s.iterate (moved it.params free (o.damped 1 k) step)).norm it.norm

/-- How a solution reports a descent over the driving equations of a problem. -/
structure Solution.Faithful (s : Solution α) (engine : Engine α) (o : Options α) (q : Problem α)
    (d : Descent α) : Prop where
  start : d.start = (q.driving o.differenceStep).iterate q.params
  descending : d.visited.IsChain fun a b => Lowers b.norm a.norm
  evaluated : ∀ it ∈ d.visited, it = (q.driving o.differenceStep).iterate it.params
  last : d.visited.getLast? = some ((q.driving o.differenceStep).iterate s.params)
  untouched : s.iterations = 0 → s.params = q.params
  norm : s.norm = residualNorm? ((q.driving o.differenceStep).residuals (.ofArray s.params))
  count : d.visited.length = s.iterations + 1
  bounded : s.iterations ≤ o.maxIterations
  success : s.success = true ↔ ∃ n, s.norm = some n ∧ n < o.tolerance
  failure : s.success = false → s.iterations = o.maxIterations ∨
    ∃ step, Descent.direction engine (q.driving o.differenceStep) q.free o
        ((q.driving o.differenceStep).iterate s.params) = .ok step ∧
      Descent.Useless (q.driving o.differenceStep) q.free o
        ((q.driving o.differenceStep).iterate s.params) step

/-- A search that finds only steps that are too short has shown the step to be useless. -/
theorem Descent.useless_of_tooShort {s : System α} {free : List Nat} {o : Options α}
    {it : Iterate α} {step : List α} (spent : search s free o it step 1 = .tooShort) :
    Useless s free o it step := by
  obtain ⟨n, short, tried⟩ := (search_searched s free o it step 1).tooShort_spec spent
  refine ⟨⟨n, short, fun k before => ?_⟩, fun laws checked k long helps => ?_⟩
  · obtain ⟨long, useless⟩ := tried k before
    exact ⟨long, fun helps => useless (improves_iff_lowers.2 helps)⟩
  · have before : k < n := by
      by_contra behind
      exact short (Options.long_of_le laws checked (Nat.le_of_not_lt behind) long)
    exact (tried k before).2 (improves_iff_lowers.2 helps)

/-- A walk that has not failed and has not arrived has taken all its steps, or it stands where the
computed step is useless. -/
theorem Descent.Walked.unsolved_spec {engine : Engine α} {s : System α} {free : List Nat}
    {o : Options α} {budget : Nat} {it : Iterate α} {steps : List (Step α)} {ending : Ending α}
    (walked : Walked engine s free o budget it steps ending)
    (unfailed : ∀ cause, ending ≠ .failed cause)
    (away : normBelow (final ⟨it, steps, ending⟩).norm o.tolerance = false) :
    steps.length = budget ∨
      ∃ step, direction engine s free o (final ⟨it, steps, ending⟩) = .ok step ∧
        Useless s free o (final ⟨it, steps, ending⟩) step := by
  cases how : ending with
  | converged =>
      rw [walked.converged_spec how] at away
      cases away
  | exhausted => exact .inl (walked.exhausted_spec how)
  | stalled =>
      rw [← how]
      obtain ⟨step, directed, spent⟩ := walked.stalled_spec how
      exact .inr ⟨step, directed, useless_of_tooShort spent⟩
  | failed cause => exact absurd how (unfailed cause)

/-- Over exact numbers the fractions that are tried are the powers of the damping factor: at the
parameters of an unsolved solution that was given up early, none of those that are long enough
lowers the norm. -/
theorem Solution.Faithful.no_power_lowers {engine : Engine ℝ} {o : Options ℝ} {q : Problem ℝ}
    {d : Descent ℝ} {s : Solution ℝ} (faithful : s.Faithful engine o q d)
    (checked : o.check = .ok ()) (unsolved : s.success = false)
    (early : s.iterations ≠ o.maxIterations) :
    ∃ step, Descent.direction engine (q.driving o.differenceStep) q.free o
        ((q.driving o.differenceStep).iterate s.params) = .ok step ∧
      ∀ k, o.minStep ≤ o.damping ^ k →
        ¬Lowers ((q.driving o.differenceStep).iterate
          (moved s.params q.free (o.damping ^ k) step)).norm s.norm := by
  obtain ⟨step, directed, useless⟩ := (faithful.failure unsolved).resolve_left early
  refine ⟨step, directed, fun k long => ?_⟩
  have no_better := useless.complete Exact.shrinking checked k
  rw [o.damped_eq_pow] at no_better
  rw [faithful.norm]
  exact no_better long

/-- **Solutions are faithful.**  Every solution that a solve answers with comes from a prepared
problem and reports the descent made over it. -/
theorem solution_faithful {engine : Engine α} {o : Options α} {entities : List (Entity α)}
    {constraints : List (Constraint α)} {s : Solution α}
    (answered : (solve engine o entities constraints).outcome = .ok s) :
    ∃ q, Problem.prepare entities constraints = .ok q ∧
      s.Faithful engine o q
        (Descent.run engine (q.driving o.differenceStep) q.free o q.params) := by
  rw [solve_outcome] at answered
  obtain ⟨q, prepared, concluded⟩ := Outcome.bind_eq_ok.1 answered
  refine ⟨q, prepared, ?_⟩
  obtain ⟨ready, report⟩ := Problem.conclude_eq_ok concluded
  have walked := Descent.run_walked engine (q.driving o.differenceStep) q.free o q.params
  have evaluated := walked.evaluated rfl
  have last := Descent.getLast?_visited (q.descent engine o)
  have point : (q.descent engine o).final = (q.driving o.differenceStep).iterate s.params := by
    rw [report.params]
    exact walked.final_eq rfl
  have norm : s.norm = ((q.driving o.differenceStep).iterate s.params).norm := by
    rw [report.norm, point]
  have length : s.iterations = (q.descent engine o).steps.length := report.iterations
  have success : s.success = normBelow s.norm o.tolerance := by
    rw [report.success, report.norm]
  refine
    { start := rfl
      descending := walked.descending
      evaluated := evaluated
      last := point ▸ last
      untouched := ?_
      norm := norm
      count := ?_
      bounded := length ▸ walked.length_le
      success := by rw [success, normBelow_iff]
      failure := ?_ }
  · intro none
    have empty : (q.descent engine o).steps = [] := List.length_eq_zero_iff.1 (length ▸ none)
    rw [report.params, Descent.final, empty]
    rfl
  · rw [length]
    simp [Descent.visited, Problem.descent]
  · intro failure
    rw [report.success] at failure
    rw [← point, length]
    exact walked.unsolved_spec ready.unfailed failure

/-! ## Two points at the wrong distance -/

namespace Stretch

/-- Two points at a distance of three. -/
noncomputable def entities : List (Entity ℝ) :=
  [Exact.entity 0 (.point 0 0), Exact.entity 1 (.point 3 0)]

/-- The demand that the distance is five. -/
noncomputable def constraint : Constraint ℝ := ⟨.whole 0, .distance, [0, 1], some 5, [], .of true⟩

/-- The problem of the two points and the demand. -/
noncomputable def problem : Problem ℝ :=
  ⟨Layout.tiling entities, flat entities,
    [⟨constraint, .apart ⟨0, 0, .point, .own⟩ ⟨1, 2, .point, .own⟩ 5, [0, 1, 2, 3]⟩], [0, 1, 2, 3]⟩

theorem prepare_problem : Problem.prepare entities [constraint] = .ok problem := by
  have distinct : (entities.map Entity.id).Nodup := by
    change ([0, 1] : List Int).Nodup
    decide
  have numbered : ([constraint].map Constraint.id).Nodup := by
    change ([0] : List Int).Nodup
    decide
  have checked : constraint.check = .ok () := by
    change constraint.checkValue = .ok ()
    norm_num [Constraint.checkValue, constraint, ConstraintKind.valueRule]
  refine Problem.prepare_of_compiled distinct numbered (Outcome.mapM_eq_ok.2 (.cons ?_ .nil))
  unfold Block.compile
  rw [checked]
  rfl

/-- The derivative of a distance between points is in closed form. -/
theorem not_collapsesAtEnd (engine : Engine ℝ) : ¬problem.CollapsesAtEnd engine .standard := by
  refine Problem.not_collapsesAtEnd_of_closed (fun b present => ?_) engine .standard
  cases List.mem_singleton.1 present
  rfl

end Stretch

/-- The points are moved apart, and the solution tells faithfully how. -/
theorem solution_faithful_distance :
    ∃ s, (solve Rotation.engine .standard Stretch.entities [Stretch.constraint]).outcome = .ok s ∧
      ∃ q, Problem.prepare Stretch.entities [Stretch.constraint] = .ok q ∧
        s.Faithful Rotation.engine .standard q (Descent.run Rotation.engine
          (q.driving Options.standard.differenceStep) q.free .standard q.params) := by
  obtain ⟨s, answered⟩ := solve_answers Exact.standard_check Stretch.prepare_problem
    (Stretch.not_collapsesAtEnd Rotation.engine)
  exact ⟨s, answered, solution_faithful answered⟩

end PlanarSketch
