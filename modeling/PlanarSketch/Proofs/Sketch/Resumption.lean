import Mathlib.Data.Real.Basic
import PlanarSketch.Proofs.Sketch.Atomicity
import PlanarSketch.Proofs.Solve.Again
import PlanarSketch.Proofs.Solve.Unmoved

/-!
# Where the next solve is refused

Binding refuses degenerate entities, and a solve may lead to some: nothing keeps a descent from
shrinking a line to a point, and a length of zero can even be demanded.  So a solve that has
succeeded can be followed by one that is refused.  It is refused exactly when an entity that a
constraint watches has become degenerate (`Problem.resumes`), for that reason and no other.

Entities that a solve cannot degenerate are those that it may not move, and those that a
driving constraint shields: the lines that its residual divides by, and what has a length or a
radius demanded of it that the tolerance cannot bring down to nothing (`Relation.Shields`).
-/

namespace PlanarSketch

set_option autoImplicit false

open Outcome

/-! ## Flaws -/

/-- A block watches an entity that is degenerate. -/
structure Block.Flawed (b : Block ℝ) (entities : List (Entity ℝ)) (e : Entity ℝ)
    (reason : Degeneracy ℝ) : Prop where
  present : e ∈ entities
  watched : e.id ∈ b.relation.watched
  degenerate : e.degeneracy? Tolerance.geometry = some reason

theorem Entity.degeneracy?_ne_endlessArc (e : Entity ℝ) (eps : ℝ) :
    e.degeneracy? eps ≠ some .endlessArc := by
  intro endless
  unfold degeneracy? Shape.degeneracy? at endless
  cases shape : e.shape with
  | point x y => simp [shape] at endless
  | line x₁ y₁ x₂ y₂ => simp [shape] at endless
  | circle cx cy r => simp [shape] at endless
  | arc cx cy r start stop =>
      simp only [shape, Exact.isFinite] at endless
      grind

namespace Block

variable {entities : List (Entity ℝ)} {b : Block ℝ} {e : Entity ℝ} {reason : Degeneracy ℝ}

theorem Flawed.checkShape_eq_error (flawed : b.Flawed entities e reason)
    (distinct : (entities.map Entity.id).Nodup) (c : Constraint ℝ) :
    checkShape c entities e.id = .error (.degenerate c.kind c.identifier e.id reason) := by
  unfold checkShape
  rw [find?_of_nodup distinct flawed.present, Option.bind_some, flawed.degenerate]
  cases reason with
  | endlessArc => exact absurd flawed.degenerate (e.degeneracy?_ne_endlessArc _)
  | _ => rfl

/-- A watched entity that is refused is flawed. -/
theorem flawed_of_checkShape {c : Constraint ℝ} {id : Int} {fault : Fault ℝ}
    (watched : id ∈ b.relation.watched) (refused : checkShape c entities id = .error fault) :
    ∃ e reason, b.Flawed entities e reason ∧
      fault = .degenerate c.kind c.identifier e.id reason := by
  obtain ⟨e, present, rfl, reason, degenerate, rfl⟩ := checkShape_eq_error refused
  refine ⟨e, reason, ⟨present, watched, degenerate⟩, ?_⟩
  cases reason with
  | endlessArc => exact absurd degenerate (e.degeneracy?_ne_endlessArc _)
  | _ => rfl

/-- A bound block has no flaw where it was bound. -/
theorem not_flawed_of_compiled {layout : Layout} {p : Valuation ℝ} {c : Constraint ℝ}
    (distinct : (entities.map Entity.id).Nodup)
    (compiled : compile entities layout p c = .ok b) : ¬b.Flawed entities e reason := by
  intro flawed
  have fine := degeneracy?_of_compiled distinct compiled flawed.present flawed.watched
  rw [flawed.degenerate] at fine
  cases fine

end Block

/-! ## Shields -/

/-- A relation that nearly holds keeps an entity from being degenerate. -/
def Relation.Shields (tolerance : ℝ) (id : Int) : Relation ℝ → Prop
  | length l target => l.entity = id ∧ Tolerance.geometry + tolerance ≤ target
  | radius k target => k.entity = id ∧ Tolerance.geometry + tolerance ≤ target
  | diameter k target => k.entity = id ∧ Scalar.two * Tolerance.geometry + tolerance ≤ target
  | r => ∃ l ∈ r.divisors, l.entity = id

/-- A relation with a small residual has lines with a direction or curves with a radius where it
shields. -/
theorem Relation.Shields.clear {r : Relation ℝ} {tolerance : ℝ} {id : Int}
    (shields : r.Shields tolerance id) {p : Valuation ℝ} {values : List ℝ}
    (defined : r.residual p = some values) (near : ∀ v ∈ values, |v| < tolerance) :
    (∃ l ∈ r.lines, l.entity = id ∧ ¬l.length p ≤ Tolerance.geometry) ∨
      ∃ k ∈ r.curves, k.entity = id ∧ ¬k.radius p ≤ Tolerance.geometry := by
  have divided (divisor : ∃ l ∈ r.divisors, l.entity = id) :
      ∃ l ∈ r.lines, l.entity = id ∧ ¬l.length p ≤ Tolerance.geometry := by
    obtain ⟨l, divides, same⟩ := divisor
    refine ⟨l, mem_lines_of_mem_divisors divides, same, fun short => ?_⟩
    have undefined := (residual_eq_none_iff p r).2 ⟨l, divides, decide_eq_true short⟩
    rw [defined] at undefined
    cases undefined
  cases r with
  | length l target =>
      obtain ⟨same, far⟩ := shields
      cases defined
      have bounds := abs_lt.1 (near _ (List.mem_singleton_self _))
      exact .inl ⟨l, List.mem_singleton_self l, same, not_le.2 (by linarith)⟩
  | radius k target =>
      obtain ⟨same, far⟩ := shields
      cases defined
      have bounds := abs_lt.1 (near _ (List.mem_singleton_self _))
      exact .inr ⟨k, List.mem_singleton_self k, same, not_le.2 (by linarith)⟩
  | diameter k target =>
      obtain ⟨same, far⟩ := shields
      cases defined
      have bounds := abs_lt.1 (near _ (List.mem_singleton_self _))
      have two : (Scalar.two : ℝ) = 2 := one_add_one_eq_two
      rw [two] at far bounds
      exact .inr ⟨k, List.mem_singleton_self k, same, not_le.2 (by linarith)⟩
  | _ => exact .inl (divided shields)

/-! ## Entities that are kept -/

theorem Entity.degeneracy?_of_long {e : Entity ℝ} {x₁ y₁ x₂ y₂ eps : ℝ}
    (shape : e.shape = .line x₁ y₁ x₂ y₂) (long : ¬Scalar.hypot (x₂ - x₁) (y₂ - y₁) ≤ eps) :
    e.degeneracy? eps = none := by
  rw [degeneracy?, shape, Shape.degeneracy?, if_neg long]

/-- With a radius that is not too small, only an arc can be degenerate, when its ends meet. -/
theorem Entity.degeneracy?_of_round {e : Entity ℝ} {r eps : ℝ} {reason : Degeneracy ℝ}
    (size : e.radius = .ok r) (large : ¬r ≤ eps) (degenerate : e.degeneracy? eps = some reason) :
    reason = .closedArc := by
  unfold radius at size
  unfold degeneracy? at degenerate
  cases shape : e.shape with
  | circle cx cy radius =>
      rw [shape] at size degenerate
      cases size
      rw [Shape.degeneracy?, if_neg large] at degenerate
      cases degenerate
  | arc cx cy radius start stop =>
      rw [shape] at size degenerate
      cases size
      simp only [Shape.degeneracy?, if_neg large, Exact.isFinite] at degenerate
      split at degenerate
      · contradiction
      · split at degenerate
        · exact (Option.some.inj degenerate).symm
        · cases degenerate
  | point x y | line x₁ y₁ x₂ y₂ =>
      rw [shape] at size
      cases size

namespace Problem

variable {engine : Engine ℝ} {o : Options ℝ} {entities applied : List (Entity ℝ)}
variable {constraints : List (Constraint ℝ)} {q : Problem ℝ} {s : Solution ℝ}

/-- At a solved point all rows of driving blocks are defined and below the tolerance. -/
theorem SolvedAt.near {params : Array ℝ} {n : ℝ} (solved : q.SolvedAt o params n) {d : Block ℝ}
    (present : d ∈ q.blocks) (driving : d.constraint.isDriving = true) :
    ∃ values, d.relation.residual (.ofArray params) = some values ∧
      ∀ v ∈ values, |v| < o.tolerance := by
  have among : d ∈ (q.driving o.differenceStep).blocks := List.mem_filter.2 ⟨present, driving⟩
  obtain ⟨values, rows, bounded⟩ := System.exists_values solved.norm among
  exact ⟨values, Relation.residualRows_eq_some.1 rows,
    fun v listed => (bounded v listed).trans_lt solved.below⟩

/-- An entity that a driving block shields is degenerate only as an arc whose ends meet. -/
theorem SolvedAt.shielded {n : ℝ} (solved : q.SolvedAt o (flat applied) n)
    (prepared : prepare entities constraints = .ok q)
    (same : List.Forall₂ Entity.Matches applied entities) {d : Block ℝ} (present : d ∈ q.blocks)
    (driving : d.constraint.isDriving = true) {e : Entity ℝ} {reason : Degeneracy ℝ}
    (shields : d.relation.Shields o.tolerance e.id) (among : e ∈ applied)
    (degenerate : e.degeneracy? Tolerance.geometry = some reason) : reason = .closedArc := by
  obtain ⟨distinct, -, -, -, compiled⟩ := prepare_eq_ok prepared
  obtain ⟨c, -, bound⟩ := exists_of_mem_mapM compiled present
  rw [← map_id_of_matches same] at distinct
  have tiling := (Layout.tiling_of_matches same).symm
  obtain ⟨values, defined, near⟩ := solved.near present driving
  rcases shields.clear defined near with ⟨l, line, here, long⟩ | ⟨k, curve, here, large⟩
  · obtain ⟨x₁, y₁, x₂, y₂, shape, length⟩ :=
      Block.line_entity distinct tiling bound line among here
    rw [length] at long
    rw [Entity.degeneracy?_of_long shape long] at degenerate
    cases degenerate
  · have size := Block.curve_entity distinct tiling bound curve among here
    exact Entity.degeneracy?_of_round size large degenerate

/-- **Fixed entities stay as they are** when a solution is applied. -/
theorem shape_of_fixed (answered : (solve engine o entities constraints).outcome = .ok s)
    (prepared : prepare entities constraints = .ok q)
    (same : List.Forall₂ Entity.Matches applied entities) (params : flat applied = s.params)
    {f : Entity ℝ} (among : f ∈ applied) (fixed : f.isFixed = true) :
    ∃ e ∈ entities, e.id = f.id ∧ e.shape = f.shape := by
  obtain ⟨before, after, rfl⟩ := List.append_of_mem among
  obtain ⟨before', e, after', rfl, behind, matched⟩ := exists_split_of_matches same
  refine ⟨e, List.mem_append_right before' List.mem_cons_self, matched.id.symm, ?_⟩
  obtain ⟨-, -, -, start, -⟩ := prepare_eq_ok prepared
  have offset : Layout.extent before = Layout.extent before' := Layout.extent_of_matches behind
  have count : e.params.length = f.params.length := (Layout.length_params_of_matches matched).symm
  have values : e.params = f.params := by
    refine List.ext_getElem count fun k inside there => ?_
    have outside : Layout.extent before' + k ∉ q.free := by
      rw [free_of_prepared prepared]
      refine Layout.not_mem_freePositions ?_ inside
      rwa [Entity.isFixed, ← matched.fixed]
    have kept := getD_of_answered answered prepared outside
    rw [← params, start, ← offset, flat, Layout.getD_flatten_split there, offset, flat,
      Layout.getD_flatten_split inside] at kept
    exact kept.symm
  have shapes : some e.shape = some f.shape := by
    rw [← e.shape.ofParams?_params, ← f.shape.ofParams?_params]
    exact congrArg₂ Shape.ofParams? matched.kind.symm values
  exact Option.some.inj shapes

/-- A block of a problem watches an entity that is degenerate. -/
def Flawed (q : Problem ℝ) (entities : List (Entity ℝ)) : Prop :=
  ∃ b ∈ q.blocks, ∃ e reason, b.Flawed entities e reason

/-- What comes of a solve right after another one, by the entities that the first one has left:
it is refused exactly when one of them is flawed, and its flaws are neither fixed nor shielded. -/
structure Resumes (q : Problem ℝ) (o : Options ℝ) (entities : List (Entity ℝ))
    (s : Solution ℝ) (next : Except (Fault ℝ) (Solution ℝ)) : Prop where
  refused : q.Flawed entities → ∃ b ∈ q.blocks, ∃ e reason, b.Flawed entities e reason ∧
    next = .error (.degenerate b.constraint.kind b.constraint.identifier e.id reason)
  answered : ¬q.Flawed entities → ∃ s', next = .ok s' ∧ s'.success = true ∧
    s'.iterations = 0 ∧ s'.params = s.params ∧ s'.layout = s.layout
  movable : ∀ b ∈ q.blocks, ∀ e reason, b.Flawed entities e reason → e.isFixed = false
  unshielded : ∀ b ∈ q.blocks, ∀ e reason, b.Flawed entities e reason →
    ∀ d ∈ q.blocks, d.constraint.isDriving = true → d.relation.Shields o.tolerance e.id →
      reason = .closedArc

theorem exists_flaw_of_checkWatched {fault : Fault ℝ}
    (refused : q.blocks.forM (Block.checkWatched applied) = .error fault) :
    ∃ b ∈ q.blocks, ∃ e reason, b.Flawed applied e reason ∧
      fault = .degenerate b.constraint.kind b.constraint.identifier e.id reason := by
  obtain ⟨b, present, failed⟩ := forM_eq_error refused
  obtain ⟨id, watched, cause⟩ := forM_eq_error failed
  obtain ⟨e, reason, flaw, same⟩ := Block.flawed_of_checkShape watched cause
  exact ⟨b, present, e, reason, flaw, same⟩

/-- A problem with a flaw cannot be prepared again, because of some flaw that it has. -/
theorem prepare_of_flawed (prepared : prepare entities constraints = .ok q)
    (same : List.Forall₂ Entity.Matches applied entities) (flawed : q.Flawed applied) :
    ∃ b ∈ q.blocks, ∃ e reason, b.Flawed applied e reason ∧ prepare applied constraints =
      .error (.degenerate b.constraint.kind b.constraint.identifier e.id reason) := by
  obtain ⟨distinct, -, -, -, -⟩ := prepare_eq_ok prepared
  rw [← map_id_of_matches same] at distinct
  rw [prepare_applied prepared same]
  cases checked : q.blocks.forM (Block.checkWatched applied) with
  | error fault =>
      obtain ⟨b, present, e, reason, flaw, rfl⟩ := exists_flaw_of_checkWatched checked
      exact ⟨b, present, e, reason, flaw, rfl⟩
  | ok done =>
      -- Some test has to fail, since it comes upon the flaw.
      obtain ⟨b, present, e, reason, flaw⟩ := flawed
      have passed := forM_eq_ok.1 (forM_eq_ok.1 checked b present) e.id flaw.watched
      rw [flaw.checkShape_eq_error distinct] at passed
      cases passed

theorem prepare_of_not_flawed (prepared : prepare entities constraints = .ok q)
    (same : List.Forall₂ Entity.Matches applied entities) (flawless : ¬q.Flawed applied) :
    prepare applied constraints = .ok (q.redrawn (flat applied)) := by
  rw [prepare_applied prepared same]
  cases checked : q.blocks.forM (Block.checkWatched applied) with
  | ok done => rfl
  | error fault =>
      obtain ⟨b, present, e, reason, flaw, -⟩ := exists_flaw_of_checkWatched checked
      exact absurd ⟨b, present, e, reason, flaw⟩ flawless

/-- A solve from the entities of a solution is refused for their flaws alone. -/
theorem resumes (answered : (solve engine o entities constraints).outcome = .ok s)
    (success : s.success = true) (written : s.apply entities = .ok applied) :
    ∃ q, prepare entities constraints = .ok q ∧
      q.Resumes o applied s (solve engine o applied constraints).outcome := by
  obtain ⟨q, n, prepared, solved, norm, layout, size⟩ := exists_solvedAt answered success
  obtain ⟨distinct, -, tiling, -, compiled⟩ := prepare_eq_ok prepared
  obtain ⟨same, params⟩ := s.apply_spec layout size distinct written
  rw [← params] at solved
  refine ⟨q, prepared, ?refused, ?answered, ?movable, ?unshielded⟩
  case refused =>
    intro flawed
    obtain ⟨b, present, e, reason, flaw, refused⟩ := prepare_of_flawed prepared same flawed
    refine ⟨b, present, e, reason, flaw, ?_⟩
    rw [solve_outcome, refused]
    rfl
  case answered =>
    intro flawless
    have bound := prepare_of_not_flawed prepared same flawless
    obtain ⟨s', -, again, fine, unmoved, kept, read, -⟩ :=
      solved.again engine prepared same bound
    exact ⟨s', again, fine, unmoved, kept.trans params, read.trans (tiling.trans layout.symm)⟩
  case movable =>
    intro b present e reason flaw
    by_contra moving
    have fixed : e.isFixed = true := by simpa using moving
    obtain ⟨original, among, id, shape⟩ :=
      shape_of_fixed answered prepared same params flaw.present fixed
    obtain ⟨c, -, bound⟩ := exists_of_mem_mapM compiled present
    have earlier : b.Flawed entities original reason := by
      refine ⟨among, id ▸ flaw.watched, ?_⟩
      rw [Entity.degeneracy?, shape]
      exact flaw.degenerate
    exact Block.not_flawed_of_compiled distinct bound earlier
  case unshielded =>
    intro b _ e reason flaw d present driving shields
    exact solved.shielded prepared same present driving shields flaw.present flaw.degenerate

end Problem

namespace Sketch

variable {s : Sketch ℝ} {engine : Engine ℝ} {options : Option (Options ℝ)} {solution : Solution ℝ}

/-- A solved sketch has the entities that its solution was applied to. -/
theorem solve_written (answered : (s.solve engine options).outcome = .ok solution)
    (success : solution.success = true) :
    (PlanarSketch.solve engine (options.getD s.defaults) s.entities s.constraints).outcome =
        .ok solution ∧
      ∃ solved, solution.apply s.entities = .ok solved ∧ (s.solve engine options).sketch =
        { s with entities := solved, lastSolution := some solution } := by
  generalize h : s.solve engine options = e at answered ⊢
  cases solveEdit h with
  | faulted => cases answered
  | unwritten => cases answered
  | unsolved found failure =>
      cases answered
      rw [success] at failure
      cases failure
  | written found _ applied =>
      cases answered
      exact ⟨found, _, applied, rfl⟩

theorem solve_outcome_of_written {solved : List (Entity ℝ)}
    (answered : (PlanarSketch.solve engine (options.getD s.defaults) s.entities
      s.constraints).outcome = .ok solution)
    (written : solution.apply s.entities = .ok solved) :
    (s.solve engine options).outcome = .ok solution := by
  unfold solve
  simp only [answered, written]
  split
  · rfl
  · rfl

end Sketch

/-- **A solve that has succeeded can be followed by one that is refused**, but only because of the
entities that it has left. -/
theorem solve_resumes {s : Sketch ℝ} {engine : Engine ℝ} {options : Option (Options ℝ)}
    {solution : Solution ℝ} (answered : (s.solve engine options).outcome = .ok solution)
    (success : solution.success = true) :
    ∃ q, Problem.prepare s.entities s.constraints = .ok q ∧
      q.Resumes (options.getD s.defaults) (s.solve engine options).sketch.entities solution
        ((s.solve engine options).sketch.solve engine options).outcome := by
  obtain ⟨found, solved, written, sketch⟩ := Sketch.solve_written answered success
  rw [sketch]
  obtain ⟨q, prepared, resumes⟩ := Problem.resumes found success written
  refine ⟨q, prepared, fun flawed => ?_, fun flawless => ?_, resumes.movable, resumes.unshielded⟩
  · obtain ⟨b, present, e, reason, flaw, refused⟩ := resumes.refused flawed
    exact ⟨b, present, e, reason, flaw, Sketch.solve_outcome_of_error refused⟩
  · obtain ⟨next, again, fine, unmoved, params, layout⟩ := resumes.answered flawless
    have rewritten : next.apply solved = .ok solved := by
      rw [Solution.apply_congr layout params]
      exact Solution.apply_again written
    exact ⟨next, Sketch.solve_outcome_of_written again rewritten, fine, unmoved, params, layout⟩

/-! ## A line that is to have a length -/

namespace Segment

/-- The sketch of a line from the origin to `(1, 0)` that is to have some length. -/
noncomputable def sketch (target : ℝ) : Sketch ℝ :=
  ⟨Sketch.standardName, entities 0 1, [constraint target], .standard, none, 1, 1⟩

theorem solve_sketch {target : ℝ} (nonneg : 0 ≤ target)
    (away : Tolerance.solved ≤ |1 - target|) :
    ∃ solution, ((sketch target).solve Rotation.engine none).outcome = .ok solution ∧
      solution.success = true ∧
      solution.apply (entities 0 1) = .ok (entities ((1 - target) / 2) ((1 + target) / 2)) := by
  obtain ⟨solution, answered, success, written⟩ := solve_resizes nonneg away
  exact ⟨solution, Sketch.solve_outcome_of_written answered written, success, written⟩

/-- A line that has shrunk to a point is flawed. -/
theorem flawed_collapsed (x : ℝ) :
    (block 0).Flawed (entities x x) (Exact.entity 0 (.line x 0 x 0)) .flatLine := by
  refine ⟨List.mem_singleton_self _, List.mem_singleton_self _, ?_⟩
  change (if Scalar.hypot (x - x) (0 - 0) ≤ Tolerance.geometry then _ else _) = _
  refine if_pos ?_
  norm_num [Exact.hypot, Tolerance.geometry]

/-- It has a length of zero, and this cannot be solved for. -/
theorem solve_collapsed (engine : Engine ℝ) (o : Options ℝ) (x : ℝ) :
    (PlanarSketch.solve engine o (entities x x) [constraint 0]).outcome =
      .error (.degenerate .length (.whole 0) 0 .flatLine) := by
  have long : (Tolerance.geometry : ℝ) < |1 - 0| := by norm_num [Tolerance.geometry]
  have same : List.Forall₂ Entity.Matches (entities x x) (entities 0 1) :=
    .cons ⟨rfl, rfl, rfl⟩ .nil
  have flawed : (problem 0 1 0).Flawed (entities x x) :=
    ⟨_, List.mem_singleton_self _, _, _, flawed_collapsed x⟩
  obtain ⟨b, among, e, reason, flaw, refused⟩ :=
    Problem.prepare_of_flawed (prepare_problem le_rfl long) same flawed
  -- There is one block only, and one entity, which has one flaw.
  cases List.mem_singleton.1 among
  cases List.mem_singleton.1 flaw.present
  cases flaw.degenerate.symm.trans (flawed_collapsed x).degenerate
  rw [solve_outcome, refused]
  rfl

end Segment

/-- A line that has been brought to the length of two can be solved for again. -/
theorem solve_resumes_line :
    ∃ solution, ((Segment.sketch 2).solve Rotation.engine none).outcome = .ok solution ∧
      solution.success = true ∧
      ∃ q, Problem.prepare (Segment.sketch 2).entities (Segment.sketch 2).constraints = .ok q ∧
        q.Resumes .standard ((Segment.sketch 2).solve Rotation.engine none).sketch.entities
          solution (((Segment.sketch 2).solve Rotation.engine none).sketch.solve
            Rotation.engine none).outcome := by
  have away : (Tolerance.solved : ℝ) ≤ |1 - 2| := by norm_num [Tolerance.solved]
  obtain ⟨solution, answered, success, -⟩ := Segment.solve_sketch zero_le_two away
  exact ⟨solution, answered, success, solve_resumes answered success⟩

/-- **A length of zero is met, and the sketch cannot be solved any more.** -/
theorem solve_refuses_collapsed_line :
    (Segment.constraint 0).check = .ok () ∧
      ∃ solution, ((Segment.sketch 0).solve Rotation.engine none).outcome = .ok solution ∧
        solution.success = true ∧
        (((Segment.sketch 0).solve Rotation.engine none).sketch.solve
          Rotation.engine none).outcome = .error (.degenerate .length (.whole 0) 0 .flatLine) := by
  have away : (Tolerance.solved : ℝ) ≤ |1 - 0| := by norm_num [Tolerance.solved]
  obtain ⟨solution, answered, success, applied⟩ := Segment.solve_sketch le_rfl away
  rw [sub_zero, add_zero] at applied
  refine ⟨Segment.check_constraint le_rfl, solution, answered, success, ?_⟩
  obtain ⟨-, solved, written, sketch⟩ := Sketch.solve_written answered success
  cases applied.symm.trans written
  rw [sketch]
  exact Sketch.solve_outcome_of_error (Segment.solve_collapsed _ _ _)

end PlanarSketch
