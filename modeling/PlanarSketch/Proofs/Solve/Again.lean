import PlanarSketch.Proofs.Engine.SingleEquation
import PlanarSketch.Proofs.Solve.Answers
import PlanarSketch.Proofs.Solve.ClosedForms
import PlanarSketch.Proofs.Solve.WriteBack

/-!
# Solving again

A sketch that has been solved is solved: a second solve from the parameters of the first one
takes no step (`solve_again`).  This is not obvious, since the second solve chooses every
branch anew and so may work on other equations than those that have converged.  But a bound
block compares with distances that are not negative (`Block.compile_sized`), so the branches
that are chosen at the solution bring no row farther from zero, and the norm that was below
the tolerance is not larger now.
-/

namespace PlanarSketch

set_option autoImplicit false

open Outcome

/-! ## Distances that are not negative -/

/-- A target of a kind that allows no negative one is not negative. -/
theorem Constraint.target_nonneg {c : Constraint ℝ} (checked : c.check = .ok ())
    (rule : c.kind.valueRule = .nonNegative) : 0 ≤ c.target := by
  unfold check at checked
  split at checked
  · cases checked
  · split at checked
    · cases checked
    · unfold checkValue at checked
      rw [rule] at checked
      cases value : c.value with
      | none =>
          rw [value] at checked
          cases checked
      | some v =>
          rw [value] at checked
          by_contra negative
          have below : v < 0 := by simpa [target, value] using negative
          simp [below] at checked

namespace Block

variable {entities : List (Entity ℝ)} {p : Valuation ℝ} {c : Constraint ℝ} {b : Block ℝ}

/-- The curve that a line touches is not too small at the geometry that a block was bound to. -/
theorem compile_tangent_round (distinct : (entities.map Entity.id).Nodup)
    (compiled : compile entities (Layout.tiling entities) p c = .ok b) (l : LineSite)
    (k : CurveSite) (side : Branch) (tangent : b.relation = .tangentLine l k side) :
    ¬k.radius (.ofArray (flat entities)) ≤ Tolerance.geometry := by
  have among : k ∈ b.relation.curves := by
    rw [tangent]
    exact List.mem_singleton_self k
  obtain ⟨e, present, same⟩ := exists_curve_entity compiled among
  have size := curve_entity distinct rfl compiled among present same
  have watched : e.id ∈ b.relation.watched := by
    rw [tangent, ← same]
    simp [Relation.watched]
  have fine := degeneracy?_of_compiled distinct compiled present watched
  intro small
  unfold Entity.radius at size
  unfold Entity.degeneracy? at fine
  cases shape : e.shape with
  | circle cx cy r | arc cx cy r start stop =>
      rw [shape] at size fine
      rw [← Except.ok.inj size] at small
      rw [Shape.degeneracy?, if_pos small] at fine
      cases fine
  | point x y | line x₁ y₁ x₂ y₂ =>
      rw [shape] at size
      cases size

/-- **Binding refuses negative distances**: at the geometry that a block was bound to, it compares
with none. -/
theorem compile_sized (distinct : (entities.map Entity.id).Nodup)
    (compiled : compile entities (Layout.tiling entities) p c = .ok b) :
    b.relation.Sized (.ofArray (flat entities)) := by
  obtain ⟨places, -, bound, -, -⟩ := compile_binds compiled
  have checked := check_of_compiled compiled
  have round := compile_tangent_round distinct compiled
  generalize b.relation = r at bound round
  generalize slotsOf c places = slots at bound
  cases bound with
  | offLine kind => exact Constraint.target_nonneg checked (by rw [kind]; rfl)
  | tangentLine =>
      refine le_trans ?_ (not_le.1 (round _ _ _ rfl)).le
      norm_num [Tolerance.geometry]
  | touching =>
      unfold Constraint.curvesTouching
      dsimp only
      split
      · trivial
      · trivial
  | _ => trivial

end Block

/-! ## Norms -/

/-- Numbers that are nearer to zero have a smaller norm. -/
theorem Relation.Nearer.length_le {new old : List ℝ} (near : Nearer new old) :
    Scalar.length new ≤ Scalar.length old := by
  have squares : List.Forall₂ (· ≤ ·) (new.map fun x => x * x) (old.map fun x => x * x) := by
    rw [List.forall₂_map_left_iff, List.forall₂_map_right_iff]
    exact near.imp fun x y closer => abs_le_iff_mul_self_le.1 closer
  have sums : Scalar.sumOfSquares new ≤ Scalar.sumOfSquares old := by
    rw [Exact.sumOfSquares_eq_sum, Exact.sumOfSquares_eq_sum]
    exact List.Forall₂.sum_le_sum squares
  exact Real.sqrt_le_sqrt sums

/-- No row of some blocks is farther from zero after their branches have been chosen anew. -/
theorem residual_map_redrawn {blocks : List (Block ℝ)} {p : Valuation ℝ} {old : List ℝ}
    (sized : ∀ b ∈ blocks, b.relation.Sized p)
    (defined : (blocks.flatMap fun b => b.residual p) = old.map some) :
    ∃ new, ((blocks.map (Block.redrawn p)).flatMap fun b => b.residual p) = new.map some ∧
      Relation.Nearer new old := by
  induction blocks generalizing old with
  | nil =>
      have none : old = [] := List.map_eq_nil_iff.1 defined.symm
      exact ⟨[], rfl, none ▸ .refl []⟩
  | cons b rest ih =>
      rw [List.flatMap_cons, eq_comm, List.map_eq_append_iff] at defined
      obtain ⟨first, others, rfl, here, there⟩ := defined
      have values := Relation.residualRows_eq_some.1 here.symm
      obtain ⟨new, drawn, near⟩ :=
        Relation.residual_redrawn (sized b List.mem_cons_self) values
      obtain ⟨later, following, nearer⟩ :=
        ih (fun c among => sized c (List.mem_cons_of_mem b among)) there.symm
      refine ⟨new ++ later, ?_, List.rel_append near nearer⟩
      have row : (b.redrawn p).residual p = new.map some := Relation.residualRows_eq_some.2 drawn
      rw [List.map_cons, List.flatMap_cons, following, row, List.map_append]

namespace Problem

variable {q : Problem ℝ} {p : Valuation ℝ}

theorem driving_redrawn (q : Problem ℝ) (params : Array ℝ) (step : ℝ) :
    ((q.redrawn params).driving step).blocks =
      (q.driving step).blocks.map (Block.redrawn (.ofArray params)) := by
  change (q.blocks.map (Block.redrawn (.ofArray params))).filter
    (fun b => b.constraint.isDriving) = _
  rw [List.filter_map]
  rfl

/-- The branches that are chosen at a point do not raise the norm there. -/
theorem norm_redrawn {params : Array ℝ} {step n : ℝ}
    (sized : ∀ b ∈ q.blocks, b.relation.Sized (.ofArray params))
    (norm : ((q.driving step).iterate params).norm = some n) :
    ∃ n', (((q.redrawn params).driving step).iterate params).norm = some n' ∧ n' ≤ n := by
  obtain ⟨old, defined, rfl⟩ := residualNorm?_eq_some.1 norm
  obtain ⟨new, drawn, near⟩ := residual_map_redrawn
    (fun b present => sized b (List.mem_of_mem_filter present)) defined
  refine ⟨_, residualNorm?_eq_some.2 ⟨new, ?_, rfl⟩, near.length_le⟩
  rw [System.residuals, driving_redrawn]
  exact drawn

/-- Whether a derivative is defined does not depend on branches. -/
theorem collapses_redrawn {params : Array ℝ} {step : ℝ} :
    ((q.redrawn params).driving step).Collapses (q.redrawn params).free p ↔
      (q.driving step).Collapses q.free p := by
  unfold System.Collapses
  rw [driving_redrawn]
  simp only [List.mem_map, exists_exists_and_eq_and]
  refine exists_congr fun b => and_congr_right fun _ => ?_
  have analytic : (b.redrawn (.ofArray params)).relation.analytic = b.relation.analytic :=
    b.relation.analytic_redrawn _
  have divisors : (b.redrawn (.ofArray params)).relation.divisors = b.relation.divisors :=
    b.relation.divisors_redrawn _
  unfold Block.FlatBeside Block.Flat
  rw [analytic, divisors]
  exact Iff.rfl

/-! ## Solved problems -/

variable {engine : Engine ℝ} {o : Options ℝ} {entities applied : List (Entity ℝ)}
variable {constraints : List (Constraint ℝ)} {s : Solution ℝ}

/-- At some parameters a problem has a norm below the tolerance and a derivative that is defined. -/
structure SolvedAt (q : Problem ℝ) (o : Options ℝ) (params : Array ℝ) (n : ℝ) : Prop where
  norm : ((q.driving o.differenceStep).iterate params).norm = some n
  below : n < o.tolerance
  sound : ¬(q.driving o.differenceStep).Collapses q.free (.ofArray params)

/-- A solution that reports success has arrived where its problem is solved. -/
theorem exists_solvedAt (answered : (solve engine o entities constraints).outcome = .ok s)
    (success : s.success = true) :
    ∃ q n, prepare entities constraints = .ok q ∧ q.SolvedAt o s.params n ∧ s.norm = some n ∧
      s.layout = Layout.tiling entities ∧ s.params.size = Layout.extent entities := by
  rw [solve_outcome] at answered
  obtain ⟨q, prepared, concluded⟩ := bind_eq_ok.1 answered
  obtain ⟨ready, report⟩ := conclude_eq_ok concluded
  have walked := Descent.run_walked engine (q.driving o.differenceStep) q.free o q.params
  have point : (q.descent engine o).final = (q.driving o.differenceStep).iterate s.params := by
    rw [report.params]
    exact walked.final_eq rfl
  obtain ⟨n, norm, below⟩ := normBelow_iff.1 (report.success.symm.trans success)
  obtain ⟨-, -, layout, params, -⟩ := prepare_eq_ok prepared
  have size : s.params.size = Layout.extent entities := by
    have kept : (q.descent engine o).final.params.size = q.params.size := walked.size_final
    rw [report.params, kept, params, flat, List.size_toArray]
    rfl
  have sound : ¬(q.driving o.differenceStep).Collapses q.free (.ofArray s.params) := by
    obtain ⟨J, finite⟩ := ready.finite
    rw [← finiteMatrix?_jacobian_eq_none_iff (distinct_driving prepared _)
      (nodup_positions prepared _), report.params, finite]
    exact Option.some_ne_none J
  rw [report.norm, report.layout, layout]
  exact ⟨q, n, prepared, ⟨point ▸ norm, below, sound⟩, norm, rfl, size⟩

/-- A problem that is solved where it starts is answered there, without a step. -/
theorem SolvedAt.answer (engine : Engine ℝ) {n : ℝ}
    (prepared : prepare entities constraints = .ok q) (solved : q.SolvedAt o q.params n) :
    ∃ s, (solve engine o entities constraints).outcome = .ok s ∧ s.success = true ∧
      s.iterations = 0 ∧ s.params = q.params ∧ s.layout = q.layout ∧ s.norm = some n := by
  have arrived : normBelow ((q.driving o.differenceStep).iterate q.params).norm o.tolerance =
      true := normBelow_iff.2 ⟨n, solved.norm, solved.below⟩
  have descent : q.descent engine o =
      ⟨(q.driving o.differenceStep).iterate q.params, [], .converged⟩ :=
    Descent.run_of_arrived _ _ _ _ arrived
  have distinct := distinct_driving prepared o.differenceStep
  have ready : q.Concludable o (q.descent engine o) := by
    refine ⟨fun cause failed => ?_, System.checkJacobian_eq_ok _ _ distinct, ?_,
      System.checkResiduals_eq_ok _ _⟩
    · rw [descent] at failed
      cases failed
    · rw [← Option.ne_none_iff_exists', Ne,
        finiteMatrix?_jacobian_eq_none_iff distinct (nodup_positions prepared _), descent]
      exact solved.sound
  obtain ⟨s, concluded⟩ := exists_conclude ready
  obtain ⟨-, report⟩ := conclude_eq_ok concluded
  rw [descent] at report
  refine ⟨s, by rw [solve_outcome, prepared]; exact concluded, ?_, report.iterations,
    report.params, report.layout, ?_⟩
  · rw [report.success]
    exact arrived
  · rw [report.norm]
    exact solved.norm

/-- With branches chosen anew a solved problem is still solved, with a norm that is no larger. -/
theorem SolvedAt.redrawn {params : Array ℝ} {n : ℝ} (solved : q.SolvedAt o params n)
    (sized : ∀ b ∈ q.blocks, b.relation.Sized (.ofArray params)) :
    ∃ n' ≤ n, (q.redrawn params).SolvedAt o params n' := by
  obtain ⟨n', norm, smaller⟩ := norm_redrawn sized solved.norm
  refine ⟨n', smaller, norm, smaller.trans_lt solved.below, fun collapse => ?_⟩
  exact solved.sound (collapses_redrawn.1 collapse)

/-- Blocks that can be bound again compare with no negative distance where they are. -/
theorem sized_of_again (same : List.Forall₂ Entity.Matches applied entities)
    (prepared : prepare entities constraints = .ok q) {q' : Problem ℝ}
    (again : prepare applied constraints = .ok q') :
    q' = q.redrawn (flat applied) ∧
      ∀ b ∈ q.blocks, b.relation.Sized (.ofArray (flat applied)) := by
  have redrawn : q' = q.redrawn (flat applied) := by
    rw [prepare_applied prepared same] at again
    obtain ⟨_, -, rest⟩ := bind_eq_ok.1 again
    exact (Except.ok.inj rest).symm
  obtain ⟨distinct, -, -, -, compiled⟩ := prepare_eq_ok again
  refine ⟨redrawn, fun b present => ?_⟩
  have among : b.redrawn (.ofArray (flat applied)) ∈ q'.blocks := by
    rw [redrawn]
    exact List.mem_map_of_mem present
  obtain ⟨c, -, made⟩ := exists_of_mem_mapM compiled among
  have sized := Block.compile_sized distinct made
  change (b.relation.redrawn _).Sized _ at sized
  rwa [Relation.blind_redrawn (Relation.Sized _) (fun _ _ _ _ _ => rfl) (fun _ _ _ _ => rfl)
    (fun _ _ _ => rfl)] at sized

/-- A problem that is solved at the parameters that are written back is answered there again, when
it can be prepared. -/
theorem SolvedAt.again (engine : Engine ℝ) {n : ℝ} (solved : q.SolvedAt o (flat applied) n)
    (prepared : prepare entities constraints = .ok q)
    (same : List.Forall₂ Entity.Matches applied entities) {q' : Problem ℝ}
    (bound : prepare applied constraints = .ok q') :
    ∃ s' n', (solve engine o applied constraints).outcome = .ok s' ∧ s'.success = true ∧
      s'.iterations = 0 ∧ s'.params = flat applied ∧ s'.layout = q.layout ∧
        s'.norm = some n' ∧ n' ≤ n := by
  obtain ⟨rfl, sized⟩ := sized_of_again same prepared bound
  obtain ⟨n', smaller, still⟩ := solved.redrawn sized
  obtain ⟨s', again, fine, unmoved, kept, read, norm⟩ := still.answer engine bound
  exact ⟨s', n', again, fine, unmoved, kept, read, norm, smaller⟩

end Problem

/-- **Solving a solved sketch again changes nothing.**  When a solve has succeeded, its solution has
been applied, and the constraints can be bound to the entities as they are now, then the next
solve succeeds without a step, at exactly the same parameters, and with a norm that is no larger
than before. -/
theorem solve_again {engine : Engine ℝ} {o : Options ℝ} {entities applied : List (Entity ℝ)}
    {constraints : List (Constraint ℝ)} {s : Solution ℝ} {q' : Problem ℝ}
    (answered : (solve engine o entities constraints).outcome = .ok s)
    (success : s.success = true) (written : s.apply entities = .ok applied)
    (bound : Problem.prepare applied constraints = .ok q') :
    ∃ s', (solve engine o applied constraints).outcome = .ok s' ∧ s'.success = true ∧
      s'.iterations = 0 ∧ s'.params = s.params ∧
        ∃ n n', s.norm = some n ∧ s'.norm = some n' ∧ n' ≤ n := by
  obtain ⟨q, n, prepared, solved, norm, layout, size⟩ := Problem.exists_solvedAt answered success
  obtain ⟨distinct, -⟩ := Problem.prepare_eq_ok prepared
  obtain ⟨same, params⟩ := s.apply_spec layout size distinct written
  rw [← params] at solved ⊢
  obtain ⟨s', n', again, fine, unmoved, kept, -, norm', smaller⟩ :=
    solved.again engine prepared same bound
  exact ⟨s', again, fine, unmoved, kept, n, n', norm, norm', smaller⟩

/-! ## A line that is brought to a length -/

namespace Segment

/-- The problem of the line and the demand. -/
noncomputable def problem (first last target : ℝ) : Problem ℝ :=
  ⟨Layout.tiling (entities first last), flat (entities first last), [block target], [0, 1, 2, 3]⟩

/-- The equation of a line from the origin to `(1, 0)`. -/
noncomputable def system (target : ℝ) : System ℝ :=
  (problem 0 1 target).driving Options.standard.differenceStep

variable {first last target : ℝ}

theorem prepare_problem (nonneg : 0 ≤ target) (long : Tolerance.geometry < |last - first|) :
    Problem.prepare (entities first last) [constraint target] =
      .ok (problem first last target) := by
  have numbered : ([constraint target].map Constraint.id).Nodup := List.nodup_singleton _
  exact Problem.prepare_of_compiled distinct_entities numbered
    (mapM_eq_ok.2 (.cons (compile_constraint nonneg long _) .nil))

theorem length_between (first last : ℝ) :
    (LineSite.mk 0 0).length (.ofArray #[first, 0, last, 0]) = |last - first| := by
  rw [← flat_entities, length_line, Exact.hypot, mul_zero, add_zero, Real.sqrt_mul_self_eq_abs]

theorem residual_between (first last : ℝ) :
    (system target).residuals (.ofArray #[first, 0, last, 0]) =
      [some (|last - first| - target)] := by
  change (block target).residual _ ++ [] = _
  rw [List.append_nil, Block.residual, Relation.residualRows]
  change ([(LineSite.mk 0 0).length (.ofArray #[first, 0, last, 0]) - target].map some) = _
  rw [length_between]
  rfl

theorem norm_between (first last : ℝ) :
    ((system target).iterate #[first, 0, last, 0]).norm = some |(|last - first| - target)| := by
  change residualNorm? ((system target).residuals _) = _
  rw [residual_between]
  simp [residualNorm?, allFinite?, Scalar.length, Scalar.sumOfSquares, Real.sqrt_mul_self_eq_abs]

theorem gradients_start :
    (block target).relation.gradients? (.ofArray #[0, 0, 1, 0]) = some [[(2, 1), (0, -1)]] := by
  have unit : Scalar.hypot (1 : ℝ) 0 = 1 := by norm_num [Exact.hypot]
  have long : ¬(1 : ℝ) ≤ Tolerance.geometry := by norm_num [Tolerance.geometry]
  simp [block, Relation.gradients?, LineSite.direction, LineSite.gradients, Valuation.ofArray, unit,
    tooShort, long, Gradient.combine, Gradient.addScaled, Gradient.add]

theorem jacobian_start :
    (system target).jacobian (.ofArray #[0, 0, 1, 0]) [0, 1, 2, 3] =
      [[some (-1), some 0, some 1, some 0]] := by
  have derivative : (block target).derivative (system target).step (.ofArray #[0, 0, 1, 0]) =
      [[(2, some 1), (0, some (-1))]] := by
    rw [Block.derivative, gradients_start]
    rfl
  change System.dense [0, 1, 2, 3]
    [System.assemble [⟨0, true, (block target).derivative (system target).step _⟩] 0] = _
  rw [derivative]
  rfl

/-- The engine moves both ends, each by half of what the length is off. -/
theorem direction_start :
    Descent.direction Rotation.engine (system target) [0, 1, 2, 3] .standard
        ((system target).iterate #[0, 0, 1, 0]) =
      .ok [(1 - target) / 2, 0, (target - 1) / 2, 0] := by
  have checked := System.checkJacobian_eq_ok (system target) (.ofArray #[0, 0, 1, 0])
    (List.nodup_singleton _)
  have residual : (system target).residuals (.ofArray #[0, 0, 1, 0]) = [some (1 - target)] := by
    rw [residual_between, sub_zero, abs_one]
  have squares : Scalar.sumOfSquares [-1, 0, 1, (0 : ℝ)] = 2 := by
    norm_num [Scalar.sumOfSquares]
  have nonzero : Scalar.sumOfSquares [-1, 0, 1, (0 : ℝ)] ≠ 0 := by
    rw [squares]
    exact two_ne_zero
  have answer := Rotation.leastSquares_singleton (-(1 - target)) Options.standard.rankTolerance
    (by simp) nonzero
  unfold Descent.direction
  simp only [System.iterate, checked, residual, jacobian_start]
  have equation : (system target).rows = 1 := rfl
  simp only [equation]
  simp [finiteMatrix?, allFinite?, Rotation.engine, squares] at answer ⊢
  exact answer

theorem moved_start (target : ℝ) :
    moved #[0, 0, 1, 0] [0, 1, 2, 3] 1 [(1 - target) / 2, 0, (target - 1) / 2, 0] =
      #[(1 - target) / 2, 0, (1 + target) / 2, 0] := by
  simp [moved]
  ring

theorem norm_reached (nonneg : 0 ≤ target) :
    ((system target).iterate #[(1 - target) / 2, 0, (1 + target) / 2, 0]).norm = some 0 := by
  have length : (1 + target) / 2 - (1 - target) / 2 = target := by ring
  rw [norm_between, length, abs_of_nonneg nonneg, sub_self, abs_zero]

theorem norm_start (target : ℝ) :
    ((system target).iterate #[0, 0, 1, 0]).norm = some |1 - target| := by
  rw [norm_between, sub_zero, abs_one]

/-- The full step brings the line to its length. -/
theorem search_start (nonneg : 0 ≤ target) (away : target ≠ 1) :
    Descent.search (system target) [0, 1, 2, 3] .standard
        ((system target).iterate #[0, 0, 1, 0]) [(1 - target) / 2, 0, (target - 1) / 2, 0] 1 =
      .found ⟨1, (system target).iterate #[(1 - target) / 2, 0, (1 + target) / 2, 0]⟩ := by
  have long : Options.standard.minStep ≤ (1 : ℝ) := by
    norm_num [Options.standard, Tolerance.minStep]
  have helps : improves ((system target).iterate #[(1 - target) / 2, 0, (1 + target) / 2, 0]).norm
      ((system target).iterate #[0, 0, 1, 0]).norm = true := by
    rw [norm_reached nonneg, norm_start]
    exact decide_eq_true (abs_pos.2 (sub_ne_zero.2 away.symm))
  have there : moved ((system target).iterate #[0, 0, 1, 0]).params [0, 1, 2, 3] 1
      [(1 - target) / 2, 0, (target - 1) / 2, 0] = #[(1 - target) / 2, 0, (1 + target) / 2, 0] :=
    moved_start target
  unfold Descent.search
  simp only [if_pos long, there, System.checkResiduals_eq_ok, helps, if_true]

theorem run_start (nonneg : 0 ≤ target) (away : Tolerance.solved ≤ |1 - target|) :
    Descent.run Rotation.engine (system target) [0, 1, 2, 3] .standard #[0, 0, 1, 0] =
      ⟨(system target).iterate #[0, 0, 1, 0],
        [⟨1, (system target).iterate #[(1 - target) / 2, 0, (1 + target) / 2, 0]⟩],
        .converged⟩ := by
  have arrived : normBelow ((system target).iterate
      #[(1 - target) / 2, 0, (1 + target) / 2, 0]).norm Options.standard.tolerance = true := by
    rw [norm_reached nonneg]
    norm_num [normBelow, Options.standard, Tolerance.solved]
  have off : ¬normBelow ((system target).iterate #[0, 0, 1, 0]).norm
      Options.standard.tolerance = true := by
    rw [norm_start]
    exact fun below => not_lt.2 away (of_decide_eq_true below)
  have different : target ≠ 1 := by
    rintro rfl
    norm_num [Tolerance.solved] at away
  change Descent.mk _ (Descent.walk _ _ _ _ (49 + 1) _).1 (Descent.walk _ _ _ _ (49 + 1) _).2 = _
  rw [Descent.walk_of_found Rotation.engine (system target) [0, 1, 2, 3] .standard off
    direction_start (search_start nonneg different), Descent.walk_of_arrived _ _ _ _ arrived]

/-- The line has its length afterwards, and its middle where it was. -/
theorem solve_resizes (nonneg : 0 ≤ target) (away : Tolerance.solved ≤ |1 - target|) :
    ∃ s, (solve Rotation.engine .standard (entities 0 1) [constraint target]).outcome = .ok s ∧
      s.success = true ∧
      s.apply (entities 0 1) = .ok (entities ((1 - target) / 2) ((1 + target) / 2)) := by
  have long : (Tolerance.geometry : ℝ) < |1 - 0| := by norm_num [Tolerance.geometry]
  have prepared := prepare_problem nonneg long
  have sound : ¬(problem 0 1 target).CollapsesAtEnd Rotation.engine .standard := by
    rintro ⟨b, present, numeric, -⟩
    cases List.mem_singleton.1 present
    cases numeric
  obtain ⟨s, answered⟩ := solve_answers Exact.standard_check prepared sound
  have concluded := answered
  rw [solve_outcome, prepared] at concluded
  obtain ⟨-, report⟩ := Problem.conclude_eq_ok concluded
  have final : ((problem 0 1 target).descent Rotation.engine .standard).final =
      (system target).iterate #[(1 - target) / 2, 0, (1 + target) / 2, 0] :=
    congrArg Descent.final (run_start nonneg away)
  refine ⟨s, answered, ?_, ?_⟩
  · rw [report.success, final, norm_reached nonneg]
    norm_num [normBelow, Options.standard, Tolerance.solved]
  · have place : s.layout.place? (Exact.entity 0 (.line 0 0 1 0)).id = some ⟨0, .line, 0⟩ := by
      rw [report.layout]
      rfl
    have params : s.params = #[(1 - target) / 2, 0, (1 + target) / 2, 0] := by
      rw [report.params, final]
      rfl
    have line : s.applyTo (Exact.entity 0 (.line 0 0 1 0)) =
        .ok (Exact.entity 0 (.line ((1 - target) / 2) 0 ((1 + target) / 2) 0)) := by
      rw [Solution.applyTo, place, params]
      rfl
    exact mapM_eq_ok.2 (.cons line .nil)

end Segment

/-- A line that has been brought to the length of two is left alone. -/
theorem solve_again_line :
    ∃ s, (solve Rotation.engine .standard (Segment.entities 0 1)
        [Segment.constraint 2]).outcome = .ok s ∧
      ∃ s', (solve Rotation.engine .standard (Segment.entities ((1 - 2) / 2) ((1 + 2) / 2))
          [Segment.constraint 2]).outcome = .ok s' ∧ s'.success = true ∧ s'.iterations = 0 ∧
        s'.params = s.params ∧ ∃ n n', s.norm = some n ∧ s'.norm = some n' ∧ n' ≤ n := by
  have away : (Tolerance.solved : ℝ) ≤ |1 - 2| := by norm_num [Tolerance.solved]
  have long : (Tolerance.geometry : ℝ) < |(1 + 2) / 2 - (1 - 2) / 2| := by
    norm_num [Tolerance.geometry]
  obtain ⟨s, answered, success, written⟩ := Segment.solve_resizes zero_le_two away
  exact ⟨s, answered, solve_again answered success written
    (Segment.prepare_problem zero_le_two long)⟩

end PlanarSketch
