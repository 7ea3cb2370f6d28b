import PlanarSketch.Proofs.Conflict.Pairs
import PlanarSketch.Proofs.Solve.Nearest
import PlanarSketch.Proofs.System.Columns
import PlanarSketch.Sketch

/-!
# The counts of a solution

The numbers in a solution are counted in several ways.  Equations are counted by the kinds of
the constraints, and they are the rows that the bound relations have
(`Problem.rows_driving`).  Free parameters are counted entity by entity, and they are the
positions at which the mask of the layout is true (`Problem.length_free`).  The rank counts
singular values.

All these counts agree (`counts_agree`), for all entities and constraints, whatever the
numbers are.  Of the engine it is only assumed that it finds as many singular values as a matrix
has rows or columns, whichever are fewer.
-/

namespace PlanarSketch

set_option autoImplicit false

open Outcome

variable {α : Type} [Scalar α]

/-- The singular values of a matrix are as many as it has rows or columns, whichever are fewer. -/
def Engine.FindsAllStretches (engine : Engine α) : Prop :=
  ∀ J width, (∀ row ∈ J, row.length = width) →
    (engine.singularValues J width).length = min J.length width

/-- A rank counts singular values. -/
theorem Engine.rank_le_length (engine : Engine α) (J : List (List α)) (width : Nat)
    (fraction : α) : engine.rank J width fraction ≤ (engine.singularValues J width).length := by
  unfold rank
  split
  · exact Nat.zero_le _
  · rename_i largest rest found
    rw [found]
    split
    · exact Nat.zero_le _
    · exact List.length_filter_le _ _

theorem Engine.Exact.findsAllStretches {engine : Engine ℝ} (exact : engine.Exact) :
    engine.FindsAllStretches := by
  intro J width rectangular
  rw [exact.singularValues J width rectangular, List.length_map, List.length_range]

/-! ## Equations -/

variable {entities : List (Entity α)} {constraints : List (Constraint α)} {q : Problem α}

/-- The rows of the driving blocks are the equations of the driving constraints. -/
theorem Problem.rows_driving (prepared : prepare entities constraints = .ok q) (step : α) :
    (q.driving step).rows = equationCount constraints := by
  obtain ⟨-, -, -, -, compiled⟩ := prepare_eq_ok prepared
  have steps := mapM_eq_ok.1 compiled
  unfold driving System.rows equationCount
  dsimp only
  clear compiled prepared
  generalize q.blocks = blocks at steps
  induction steps with
  | nil => rfl
  | @cons c b cs bs first _ ih =>
      have rows := Block.rows_of_compiled first
      rw [List.filter_cons, List.filter_cons, Block.constraint_of_compiled first]
      split
      · rw [List.foldr_cons, List.foldr_cons, ih, rows]
      · exact ih

/-! ## Free parameters -/

/-- The free positions are as many as a mask is true. -/
theorem length_freePositions (mask : Array Bool) :
    (freePositions mask).length = mask.toList.count true := by
  have entries : mask.toList = (List.range mask.size).map fun i => mask.getD i false := by
    refine List.ext_getElem (by simp) fun i inside _ => ?_
    simp [Array.getD_eq_getD_getElem?, show i < mask.size from inside]
  rw [freePositions, entries, List.count, List.countP_map, List.countP_eq_length_filter]
  refine congrArg List.length (List.filter_congr fun i _ => ?_)
  simp

/-- A mask is true along the parameters that a solve may change. -/
theorem Layout.count_maskOf (entities : List (Entity α)) :
    (entities.flatMap maskOf).count true = freedomCount entities := by
  induction entities with
  | nil => rfl
  | cons e es ih =>
      have own : (maskOf e).count true = e.freedom := by
        unfold maskOf Entity.freedom
        cases e.isFixed with
        | true => simp [List.count_replicate]
        | false => simp
      rw [List.flatMap_cons, List.count_append, ih, own]
      rfl

theorem Problem.length_free (prepared : prepare entities constraints = .ok q) :
    q.free.length = freedomCount entities := by
  rw [free_of_prepared prepared, length_freePositions, Layout.count_maskOf]

/-! ## The warning -/

namespace Conflict

variable {tolerance : α}

/-- Constraints that conflict with one another are no matter of counting. -/
theorem cause_ne_of_pairwise {cs : List (Constraint α)} {conflict : Conflict α} {balance : Int}
    (among : conflict ∈ pairwise tolerance cs) : conflict.cause ≠ .overConstrained balance := by
  obtain ⟨a, b, -, found⟩ := mem_pairwise_iff.1 among
  intro warning
  have severe := (between?_eq_some_iff.1 found).2.severity
  rw [warning] at severe
  cases severe

/-- The balance of the driving constraints is that of all constraints. -/
theorem freedomBalance_driving (entities : List (Entity α)) (constraints : List (Constraint α)) :
    freedomBalance entities (constraints.filter Constraint.isDriving) =
      freedomBalance entities constraints := by
  rw [freedomBalance, freedomBalance, equationCount, equationCount, List.filter_filter]
  simp only [Bool.and_self]

/-- There is a warning exactly if the balance is negative. -/
theorem exists_overConstrained_iff {entities : List (Entity α)}
    {constraints : List (Constraint α)} :
    (∃ conflict ∈ find entities constraints tolerance,
        ∃ balance, conflict.cause = .overConstrained balance) ↔
      freedomBalance entities constraints < 0 := by
  unfold find
  dsimp only
  rw [freedomBalance_driving]
  constructor
  · rintro ⟨conflict, among, balance, cause⟩
    rcases List.mem_append.1 among with here | paired
    · split at here
      · assumption
      · cases here
    · exact absurd cause (cause_ne_of_pairwise paired)
  · intro negative
    rw [if_pos negative]
    exact ⟨_, List.mem_append_left _ List.mem_cons_self, _, rfl⟩

end Conflict

/-! ## All counts -/

/-- The counts of a solution, each of them counted in several ways. -/
structure Solution.CountsAgree (s : Solution α) (driving : System α) (entities : List (Entity α))
    (constraints : List (Constraint α)) : Prop where
  equations : s.equations = equationCount constraints
  residuals : ∀ p, (driving.residuals p).length = s.equations
  freeParams : s.freeParams = freedomCount entities
  mask : ∃ mask, s.layout.freeMask entities = .ok mask ∧ mask.count true = s.freeParams
  rank : s.diagnosis.rank ≤ min s.equations s.freeParams
  freedom : s.statistics.freedom = freedomBalance entities constraints
  balance : s.diagnosis.remaining - s.diagnosis.redundant = s.statistics.freedom
  /-- No freedom that a sketch shows is lost. -/
  sketch : ∀ sketch : Sketch α, sketch.entities = entities → sketch.constraints = constraints →
    (sketch.freedom : Int) ≤ s.diagnosis.remaining
  /-- The sketch is warned of exactly if there are more equations than free parameters. -/
  warning : (∃ conflict ∈ s.conflicts, ∃ balance, conflict.cause = .overConstrained balance) ↔
    s.freeParams < s.equations

variable {engine : Engine α} {o : Options α} {s : Solution α} {J : List (List α)}

/-- A solution takes its counts over from the problem, and its conflicts from the constraints. -/
theorem Problem.counts_of_answered
    (answered : (solve engine o entities constraints).outcome = .ok s)
    (prepared : prepare entities constraints = .ok q) :
    s.equations = (q.driving o.differenceStep).rows ∧ s.freeParams = q.free.length ∧
      s.statistics.freedom = freedomBalance entities constraints ∧
      s.conflicts = Conflict.find entities constraints Tolerance.sameValue := by
  obtain ⟨diagnosis, -, solution⟩ := exists_solution_eq answered prepared
  rw [solution]
  exact ⟨rfl, rfl, rfl, rfl⟩

/-- The rank exceeds neither the number of rows nor that of columns. -/
theorem Problem.Diagnosed.rank_le (diagnosed : q.Diagnosed engine o s J)
    (stretches : engine.FindsAllStretches) : s.diagnosis.rank ≤ min J.length q.free.length := by
  rw [diagnosed.rank, ← stretches J _ (System.length_of_mem_matrix diagnosed.matrix)]
  exact engine.rank_le_length J _ _

/-- **All counts agree**, whenever a solve answers, provided that the engine finds as many singular
values as there are.  Equations are those of the driving constraints, of the driving blocks and of
their residuals; free parameters are those of the entities and of the mask.  The rank exceeds
neither, and so what remains free less what is redundant is the balance of the two. -/
theorem counts_agree (stretches : engine.FindsAllStretches)
    (answered : (solve engine o entities constraints).outcome = .ok s) :
    ∃ q, Problem.prepare entities constraints = .ok q ∧
      s.CountsAgree (q.driving o.differenceStep) entities constraints := by
  obtain ⟨q, prepared⟩ := exists_prepared answered
  obtain ⟨distinct, -, layout, -, -⟩ := Problem.prepare_eq_ok prepared
  obtain ⟨J, diagnosed⟩ := Problem.exists_diagnosed answered prepared
  obtain ⟨equations, freeParams, freedom, conflicts⟩ :=
    Problem.counts_of_answered answered prepared
  have rows := Problem.rows_driving prepared o.differenceStep
  have free := Problem.length_free prepared
  have laid := (Problem.reports_of_answered answered prepared).layout.trans layout
  have size : J.length = s.equations := (System.length_matrix diagnosed.matrix).trans equations.symm
  have rank := diagnosed.rank_le stretches
  have remaining := diagnosed.remaining
  have redundant := diagnosed.redundant
  rw [size, ← freeParams] at rank
  rw [← freeParams] at remaining
  rw [size] at redundant
  have counted : freedomBalance entities constraints = (s.freeParams : Int) - s.equations := by
    rw [freedomBalance, equations, freeParams, rows, free]
  refine ⟨q, prepared, equations.trans rows, ?residuals, freeParams.trans free, ?mask, rank,
    freedom, ?balance, ?sketch, ?warning⟩
  case residuals => exact fun p => (System.length_residuals _ p).trans equations.symm
  case mask =>
    refine ⟨_, by rw [laid, Layout.freeMask_tiling distinct], ?_⟩
    rw [List.count_toArray, Layout.count_maskOf, freeParams, free]
  case balance => omega
  case sketch =>
    rintro sketch rfl rfl
    unfold Sketch.freedom
    omega
  case warning =>
    rw [conflicts, Conflict.exists_overConstrained_iff]
    omega

/-- The counts of a sketch with two points that shall be level: one equation, four parameters. -/
theorem counts_agree_level :
    ∃ s, (solve Engine.exact .standard Levelling.entities [Levelling.constraint]).outcome = .ok s ∧
      s.equations = 1 ∧ s.freeParams = 4 ∧ s.diagnosis.rank ≤ 1 ∧
      s.diagnosis.remaining - s.diagnosis.redundant = 3 := by
  obtain ⟨s, answered⟩ := Levelling.exists_solution Engine.exact
  obtain ⟨q, -, agree⟩ := counts_agree Engine.exact_exact.findsAllStretches answered
  have one : s.equations = 1 := agree.equations
  have four : s.freeParams = 4 := agree.freeParams
  have rank := agree.rank
  rw [one, four] at rank
  refine ⟨s, answered, one, four, rank, ?_⟩
  rw [agree.balance, agree.freedom]
  rfl

end PlanarSketch
