import Mathlib.Data.List.GetD
import PlanarSketch.Proofs.Descent.Invariants
import PlanarSketch.Proofs.Layout.Relocation
import PlanarSketch.Proofs.Relation.Translations
import PlanarSketch.Proofs.Solve.Nearest
import PlanarSketch.Proofs.Solve.Unmoved
import PlanarSketch.Proofs.Solve.WriteBack

/-!
# Sketches that float

A sketch floats when none of its entities is fixed.  Then all positions are free, and a
translation of all entities is a direction in which a solve may go.  If the driving
constraints are in closed form, the derivative sends every translation to zero, wherever it is
taken (`Problem.tableMap_translation`).

Two things follow.  The translations along the axes are independent, so the rank of the
derivative is two short at least, and a floating sketch is never fully constrained
(`floating_not_fully_constrained`).  And a solve whose steps are in the row space is perpendicular
to the translations.  The sums of the coordinates of all points are inner products with them, so
both sums stay what they are (`floating_never_drifts`).
-/

namespace PlanarSketch

set_option autoImplicit false

open Outcome
open Module (finrank)
open scoped InnerProductSpace

/-! ## Translations of all entities -/

/-- How the parameter vector changes when all entities are translated by `(a, b)`. -/
noncomputable def translation (a b : ℝ) (entities : List (Entity ℝ)) : List ℝ :=
  entities.flatMap fun e => e.kind.translation a b

variable {entities : List (Entity ℝ)} {constraints : List (Constraint ℝ)} {a b : ℝ}

theorem EntityKind.length_translation (kind : EntityKind) (a b : ℝ) :
    (kind.translation a b).length = kind.paramCount := by
  cases kind with
  | _ => rfl

theorem length_translation (a b : ℝ) (entities : List (Entity ℝ)) :
    (translation a b entities).length = Layout.extent entities := by
  simp [translation, Layout.extent, List.length_flatMap, EntityKind.length_translation,
    Layout.length_params]

namespace Layout

theorem exists_split_of_mem_tiled {start : ℕ} {es : List (Entity ℝ)} {place : Place}
    (among : place ∈ tiled start es) :
    ∃ before e after, es = before ++ e :: after ∧
      place = ⟨e.id, e.kind, start + extent before⟩ := by
  induction es generalizing start with
  | nil => cases among
  | cons e es ih =>
      rcases List.mem_cons.1 among with rfl | later
      · exact ⟨[], e, es, rfl, rfl⟩
      · obtain ⟨before, f, after, rfl, rfl⟩ := ih later
        exact ⟨e :: before, f, after, rfl, by rw [extent_cons, Nat.add_assoc]⟩

/-- The translation of all entities translates each of them. -/
theorem translates {place : Place} (among : place ∈ (tiling entities).places) :
    Translates (fun i => (translation a b entities).getD i 0) a b place.kind place.offset := by
  obtain ⟨before, e, after, rfl, rfl⟩ := exists_split_of_mem_tiled among
  intro k inside
  have sizes (e : Entity ℝ) : (e.kind.translation a b).length = e.params.length := by
    rw [EntityKind.length_translation, length_params]
  have cell : (cells (before ++ e :: after))[extent before + k]? = some (e, k) :=
    getElem?_cells_split ((length_params e).symm ▸ inside)
  dsimp only at inside ⊢
  rw [Nat.zero_add, translation, flatMap_eq_map_cells 0 sizes, List.getD_eq_getElem?_getD,
    List.getElem?_map, cell]
  rfl

end Layout

/-- The translation of all entities translates the relation of any block. -/
theorem Block.translated {start : Valuation ℝ} {c : Constraint ℝ} {block : Block ℝ}
    (compiled : compile entities (Layout.tiling entities) start c = .ok block) :
    block.relation.Translated (fun i => (translation a b entities).getD i 0) a b := by
  obtain ⟨places, located, bound, -, -⟩ := compile_binds compiled
  refine bound.translated fun slot among => ?_
  have place : slot.place ∈ places := by
    rw [← map_place_slotsOf c places]
    exact List.mem_map_of_mem among
  exact Layout.translates (mem_places_of_located located _ place)

/-! ## What the derivative does along them -/

namespace System

variable {s : System ℝ} {free : List ℕ} {p : Valuation ℝ} {J : List (List ℝ)} {t : ℕ → ℝ}

/-- Where all blocks are in closed form, a row of the matrix of the derivative has the entries of a
gradient. -/
theorem exists_gradient_of_mem (numbered : (s.blocks.map Block.id).Nodup)
    (closed : ∀ b ∈ s.blocks, b.relation.analytic = true)
    (matrix : finiteMatrix? (s.jacobian p free) = some J) {row : List ℝ} (among : row ∈ J) :
    ∃ b ∈ s.blocks, ∃ gradients, b.relation.gradients? p = some gradients ∧
      ∃ g ∈ gradients, row = free.map g.entry := by
  have listed := map_some_mem_jacobian matrix among
  rw [jacobian_eq_map numbered] at listed
  obtain ⟨⟨b, k⟩, equation, slopes⟩ := List.mem_map.1 listed
  obtain ⟨present, inside⟩ := mem_equations.1 equation
  obtain ⟨gradients, known⟩ := Relation.exists_gradients p (closed b present)
  have count : k < gradients.length := by rwa [Relation.length_gradients _ known]
  refine ⟨b, present, gradients, known, gradients[k], List.getElem_mem count, ?_⟩
  refine List.map_injective_iff.2 (Option.some_injective ℝ) ?_
  rw [← slopes, List.map_map]
  refine List.map_congr_left fun j _ => ?_
  rw [Block.slopeAt_closed known inside, List.getD_eq_getElem?_getD,
    List.getElem?_eq_getElem count]
  rfl

/-- A direction along which no gradient changes is sent to zero by the derivative. -/
theorem tableMap_eq_zero (numbered : (s.blocks.map Block.id).Nodup) (distinct : free.Nodup)
    (closed : ∀ b ∈ s.blocks, b.relation.analytic = true) (within : ∀ i, i ∉ free → t i = 0)
    (level : ∀ b ∈ s.blocks, ∀ gradients, b.relation.gradients? p = some gradients →
      ∀ g ∈ gradients, g.along t = 0)
    (matrix : finiteMatrix? (s.jacobian p free) = some J) :
    tableMap J free.length (vector free.length (free.map t)) = 0 := by
  refine PiLp.ext fun i => ?_
  have among : J.getD i [] ∈ J := by
    rw [List.getD_eq_getElem?_getD, List.getElem?_eq_getElem i.isLt]
    exact List.getElem_mem _
  obtain ⟨b, present, gradients, known, g, listed, row⟩ :=
    exists_gradient_of_mem numbered closed matrix among
  have width (f : ℕ → ℝ) : (free.map f).length = free.length := List.length_map _
  have products := sum_zipWith_mul (width g.entry) (width t)
  rw [List.zipWith_map, List.zipWith_self, Gradient.sum_entry_mul
    (Relation.simple_gradients known g listed) distinct within,
    level b present gradients known g listed] at products
  rw [tableMap_apply, row]
  exact products.symm

end System

namespace Problem

variable {q : Problem ℝ} {step : ℝ} {p : Valuation ℝ} {J : List (List ℝ)}

/-- All driving constraints are bound to relations in closed form, none of which pairs a curve with
itself.  Only a demand of equal radii or of a common center can, if it names a curve twice
(`Block.entityIds_of_selfPaired`). -/
def InClosedForm (q : Problem ℝ) : Prop :=
  ∀ b ∈ q.blocks, b.constraint.isDriving = true →
    b.relation.analytic = true ∧ ¬b.relation.SelfPaired

variable (prepared : prepare entities constraints = .ok q)
variable (floating : ∀ e ∈ entities, e.isFixed = false)

include prepared floating

/-- Where nothing is fixed, all positions are free. -/
theorem free_eq_range : q.free = List.range (Layout.extent entities) := by
  have mask : ∀ free ∈ entities.flatMap Layout.maskOf, free = true := by
    intro free among
    obtain ⟨e, present, listed⟩ := List.mem_flatMap.1 among
    rw [Layout.maskOf, floating e present] at listed
    exact (List.mem_replicate.1 listed).2
  rw [free_of_prepared prepared, freePositions, List.size_toArray,
    Layout.length_flatMap_maskOf, List.filter_eq_self]
  intro i below
  rw [List.mem_range, ← Layout.length_flatMap_maskOf] at below
  rw [Array.getD_eq_getD_getElem?, List.getElem?_toArray, List.getElem?_eq_getElem below]
  exact mask _ (List.getElem_mem below)

theorem map_free_translation :
    (q.free.map fun i => (translation a b entities).getD i 0) = translation a b entities := by
  rw [free_eq_range prepared floating, ← length_translation a b]
  refine List.ext_getElem (by simp) fun k inside there => ?_
  simp [there]

/-- **The derivative sends every translation of a floating sketch to zero**, wherever it is
taken. -/
theorem tableMap_translation (closed : q.InClosedForm)
    (matrix : finiteMatrix? ((q.driving step).jacobian p q.free) = some J) :
    tableMap J q.free.length (vector q.free.length (translation a b entities)) = 0 := by
  obtain ⟨-, -, -, -, compiled⟩ := prepare_eq_ok prepared
  have zero := System.tableMap_eq_zero (t := fun i => (translation a b entities).getD i 0)
    (distinct_driving prepared step) (nodup_free prepared) ?closed ?within ?level matrix
  · rwa [map_free_translation prepared floating] at zero
  case closed =>
    intro block present
    obtain ⟨listed, drives⟩ := List.mem_filter.1 present
    exact (closed block listed drives).1
  case within =>
    intro i outside
    rw [free_eq_range prepared floating, List.mem_range, ← length_translation a b] at outside
    exact List.getD_eq_default _ _ (not_lt.1 outside)
  case level =>
    intro block present gradients known
    obtain ⟨listed, drives⟩ := List.mem_filter.1 present
    obtain ⟨c, -, bound⟩ := exists_of_mem_mapM compiled listed
    exact Relation.along_eq_zero (Block.translated bound) (closed block listed drives).2 known

end Problem

/-! ## Loose sketches -/

/-- A map that sends two independent directions to zero misses two dimensions. -/
theorem finrank_range_add_two_le {E F : Type*} [AddCommGroup E] [Module ℝ E]
    [FiniteDimensional ℝ E] [AddCommGroup F] [Module ℝ F] {T : E →ₗ[ℝ] F} {u v : E}
    (independent : LinearIndependent ℝ ![u, v]) (first : T u = 0) (second : T v = 0) :
    finrank ℝ T.range + 2 ≤ finrank ℝ E := by
  have plane : Submodule.span ℝ (Set.range ![u, v]) ≤ T.ker := by
    rw [Submodule.span_le]
    rintro _ ⟨i, rfl⟩
    fin_cases i
    · exact first
    · exact second
  have two : finrank ℝ (Submodule.span ℝ (Set.range ![u, v])) = 2 :=
    finrank_span_eq_card independent
  rw [← T.finrank_range_add_finrank_ker, ← two]
  exact Nat.add_le_add_left (Submodule.finrank_mono plane) _

/-- The first two parameters of any entity are the coordinates of a point. -/
theorem exists_translation_eq_cons (nonempty : entities ≠ []) :
    ∃ rest : ℝ → ℝ → List ℝ, ∀ a b, translation a b entities = a :: b :: rest a b := by
  obtain ⟨e, es, rfl⟩ := List.exists_cons_of_ne_nil nonempty
  refine ⟨fun a b => (e.kind.translation a b).drop 2 ++ translation a b es, fun a b => ?_⟩
  unfold translation
  rw [List.flatMap_cons]
  cases e.kind with
  | _ => rfl

/-- The translations along the two axes are independent. -/
theorem independent_translations {n : ℕ} (size : n = Layout.extent entities)
    (nonempty : entities ≠ []) :
    LinearIndependent ℝ
      ![vector n (translation 1 0 entities), vector n (translation 0 1 entities)] := by
  obtain ⟨rest, starts⟩ := exists_translation_eq_cons nonempty
  have long : 2 ≤ n := by
    rw [size, ← length_translation 0 0, starts]
    exact Nat.le_add_left 2 _
  rw [LinearIndependent.pair_iff]
  intro x y zero
  have component (k : ℕ) (inside : k < n) :
      x * (translation 1 0 entities).getD k 0 + y * (translation 0 1 entities).getD k 0 = 0 :=
    congrFun (congrArg WithLp.ofLp zero) ⟨k, inside⟩
  have first := component 0 (by omega)
  have second := component 1 (by omega)
  simp only [starts] at first second
  simpa using And.intro first second

variable {engine : Engine ℝ} {o : Options ℝ} {s : Solution ℝ} {q : Problem ℝ}

/-- Neither of the two points is fixed. -/
theorem Levelling.floating : ∀ e ∈ Levelling.entities, e.isFixed = false := by
  simp [Levelling.entities, Exact.entity, Entity.isFixed]

theorem Levelling.inClosedForm : Levelling.problem.InClosedForm := by
  intro b present _
  rw [List.mem_singleton.1 present]
  exact ⟨rfl, not_false⟩

/-- **A floating sketch is never fully constrained.**  Let no entity be fixed, let all driving
constraints of the prepared problem be in closed form, and let the rank that the engine finds be no
larger than that of the matrix.  Wherever the solve has ended, the derivative sends the translations
along both axes to zero.  So at least two parameters remain undetermined, and the diagnosis is not
that the sketch is fully constrained. -/
theorem floating_not_fully_constrained (nonempty : entities ≠ [])
    (prepared : Problem.prepare entities constraints = .ok q)
    (floating : ∀ e ∈ entities, e.isFixed = false) (closed : q.InClosedForm)
    (bounded : ∀ J width, (∀ row ∈ J, row.length = width) →
      engine.rank J width o.rankTolerance ≤ finrank ℝ (tableMap J width).range)
    (answered : (solve engine o entities constraints).outcome = .ok s) :
    (∃ J, finiteMatrix?
          ((q.driving o.differenceStep).jacobian (.ofArray s.params) q.free) = some J ∧
        tableMap J q.free.length (vector q.free.length (translation 1 0 entities)) = 0 ∧
        tableMap J q.free.length (vector q.free.length (translation 0 1 entities)) = 0) ∧
      2 ≤ s.diagnosis.remaining ∧ s.diagnosis.status ≠ .fullyConstrained := by
  obtain ⟨J, diagnosed⟩ := Problem.exists_diagnosed answered prepared
  have level {a b : ℝ} := Problem.tableMap_translation (a := a) (b := b) prepared floating closed
    diagnosed.matrix
  have size : q.free.length = Layout.extent entities := by
    rw [Problem.free_eq_range prepared floating, List.length_range]
  have loose : s.diagnosis.rank + 2 ≤ q.free.length := by
    have reached := finrank_range_add_two_le (independent_translations size nonempty) level level
    rw [finrank_euclideanSpace_fin] at reached
    rw [diagnosed.rank]
    exact (Nat.add_le_add_right
      (bounded J _ (System.length_of_mem_matrix diagnosed.matrix)) 2).trans reached
  refine ⟨⟨J, diagnosed.matrix, level, level⟩, ?_, fun pinned => ?_⟩
  · rw [diagnosed.remaining]
    omega
  · have all := diagnosed.full pinned
    omega

/-- Two points that shall be level can be moved together. -/
theorem floating_not_fully_constrained_level :
    ∃ s, (solve Engine.exact .standard Levelling.entities [Levelling.constraint]).outcome = .ok s ∧
      2 ≤ s.diagnosis.remaining ∧ s.diagnosis.status ≠ .fullyConstrained := by
  obtain ⟨s, answered⟩ := Levelling.exists_solution Engine.exact
  have positive := (Options.positive_of_check Exact.standard_check).rankTolerance
  exact ⟨s, answered, (floating_not_fully_constrained (List.cons_ne_nil _ _)
    Levelling.prepare_problem Levelling.floating Levelling.inClosedForm
    (fun J width rectangular => Engine.exact_exact.rank_le rectangular positive) answered).2⟩

/-! ## Sums of coordinates -/

/-- The first coordinates of the points that a shape is given by. -/
def Shape.abscissas {α : Type} : Shape α → List α
  | point x _ => [x]
  | line x₁ _ x₂ _ => [x₁, x₂]
  | circle cx _ _ => [cx]
  | arc cx _ _ _ _ => [cx]

/-- The second coordinates of the points that a shape is given by. -/
def Shape.ordinates {α : Type} : Shape α → List α
  | point _ y => [y]
  | line _ y₁ _ y₂ => [y₁, y₂]
  | circle _ cy _ => [cy]
  | arc _ cy _ _ _ => [cy]

/-- The first coordinates of the points that entities are given by. -/
def abscissas {α : Type} [Scalar α] (entities : List (Entity α)) : List α :=
  entities.flatMap fun e => e.shape.abscissas

/-- The second coordinates of the points that entities are given by. -/
def ordinates {α : Type} [Scalar α] (entities : List (Entity α)) : List α :=
  entities.flatMap fun e => e.shape.ordinates

theorem Shape.sum_translation (shape : Shape ℝ) (a b : ℝ) :
    (List.zipWith (· * ·) (shape.kind.translation a b) shape.params).sum =
      a * shape.abscissas.sum + b * shape.ordinates.sum := by
  cases shape with
  | _ =>
      simp only [kind, EntityKind.translation, params, abscissas, ordinates, List.zipWith_cons_cons,
        List.zipWith_nil_right, List.sum_cons, List.sum_nil]
      ring

/-- Along a translation the parameters add up to sums of coordinates. -/
theorem sum_translation (a b : ℝ) (entities : List (Entity ℝ)) :
    (List.zipWith (· * ·) (translation a b entities) (flat entities).toList).sum =
      a * (abscissas entities).sum + b * (ordinates entities).sum := by
  unfold abscissas ordinates
  induction entities with
  | nil => simp [translation, flat]
  | cons e es ih =>
      have size : (e.kind.translation a b).length = e.params.length := by
        rw [EntityKind.length_translation, Layout.length_params]
      have split : List.zipWith (· * ·) (translation a b (e :: es)) (flat (e :: es)).toList =
          List.zipWith (· * ·) (e.kind.translation a b) e.params ++
            List.zipWith (· * ·) (translation a b es) (flat es).toList :=
        List.zipWith_append size
      rw [split, List.sum_append, ih, List.flatMap_cons, List.flatMap_cons, List.sum_append,
        List.sum_append, Entity.params, Entity.kind, e.shape.sum_translation]
      ring

theorem translation_of_matches {es fs : List (Entity ℝ)}
    (same : List.Forall₂ Entity.Matches es fs) : translation a b es = translation a b fs := by
  unfold translation
  induction same with
  | nil => rfl
  | cons first _ ih => rw [List.flatMap_cons, List.flatMap_cons, ih, first.kind]

section Drift

variable {engine : Engine ℝ} {o : Options ℝ} {s : Solution ℝ} {q : Problem ℝ}

/-- Where all positions are free, a displacement is a difference of parameter vectors. -/
theorem System.displacement_of_free_eq_range {free : List ℕ} {n : ℕ} (all : free = List.range n)
    (params moved : Array ℝ) :
    displacement free params moved =
      vector free.length moved.toList - vector free.length params.toList := by
  subst all
  refine PiLp.ext fun k => ?_
  have inside : (k : ℕ) < n := k.isLt.trans_eq List.length_range
  simp [displacement, List.getD_eq_getElem?_getD, inside]

namespace Problem

/-- A solve goes nowhere along a translation of a floating sketch. -/
theorem inner_displacement_of_answered (combining : engine.StepsInRowSpace)
    (prepared : prepare entities constraints = .ok q)
    (floating : ∀ e ∈ entities, e.isFixed = false) (closed : q.InClosedForm)
    (answered : (solve engine o entities constraints).outcome = .ok s) :
    ⟪vector q.free.length (translation a b entities),
      System.displacement q.free q.params s.params⟫_ℝ = 0 := by
  have walked := Descent.run_walked engine (q.driving o.differenceStep) q.free o q.params
  rw [(reports_of_answered answered prepared).params]
  exact walked.inner_displacement_final combining (nodup_free prepared) (lt_size_of_free prepared)
    fun other J matrix => tableMap_translation prepared floating closed matrix

/-- Along a translation a solve does not change the sum of the parameters. -/
theorem sum_translation_of_answered (combining : engine.StepsInRowSpace)
    (prepared : prepare entities constraints = .ok q)
    (floating : ∀ e ∈ entities, e.isFixed = false) (closed : q.InClosedForm)
    (answered : (solve engine o entities constraints).outcome = .ok s) :
    (List.zipWith (· * ·) (translation a b entities) s.params.toList).sum =
      (List.zipWith (· * ·) (translation a b entities) (flat entities).toList).sum := by
  obtain ⟨-, -, -, start, -⟩ := prepare_eq_ok prepared
  have all := free_eq_range prepared floating
  have size : q.free.length = Layout.extent entities := by
    rw [all, List.length_range]
  have initial : q.params.toList.length = q.free.length := by
    rw [start, size]
    rfl
  have final : s.params.toList.length = q.free.length := by
    rw [Array.length_toList, size_params answered prepared, size]
  have length : (translation a b entities).length = q.free.length := by
    rw [size, length_translation]
  have still := inner_displacement_of_answered (a := a) (b := b) combining prepared floating closed
    answered
  rw [System.displacement_of_free_eq_range all, inner_sub_right, inner_vector length final,
    inner_vector length initial, sub_eq_zero, start] at still
  exact still

end Problem

/-- **Solving does not let a floating sketch drift.**  Let no entity be fixed, let all driving
constraints of the prepared problem be in closed form, and let the steps of the engine be
combinations of rows.  Whenever the solve answers, successful or not and after any steps, its
parameters can be written back to the entities, and the sum of the first coordinates of all their
points is what it was, and so is the sum of the second ones. -/
theorem floating_never_drifts (combining : engine.StepsInRowSpace)
    (prepared : Problem.prepare entities constraints = .ok q)
    (floating : ∀ e ∈ entities, e.isFixed = false) (closed : q.InClosedForm)
    (answered : (solve engine o entities constraints).outcome = .ok s) :
    ∃ solved, s.apply entities = .ok solved ∧ flat solved = s.params ∧
      (abscissas solved).sum = (abscissas entities).sum ∧
      (ordinates solved).sum = (ordinates entities).sum := by
  obtain ⟨distinct, -, layout, -, -⟩ := Problem.prepare_eq_ok prepared
  have laid : s.layout = Layout.tiling entities :=
    (Problem.reports_of_answered answered prepared).layout.trans layout
  have size := Problem.size_params answered prepared
  obtain ⟨solved, applied⟩ := Solution.exists_apply (fun x _ => Exact.isFinite x) laid size distinct
  obtain ⟨matching, written⟩ := Solution.apply_spec laid size distinct applied
  have sums (a b : ℝ) : a * (abscissas solved).sum + b * (ordinates solved).sum =
      a * (abscissas entities).sum + b * (ordinates entities).sum := by
    rw [← sum_translation, ← sum_translation, written, translation_of_matches matching]
    exact Problem.sum_translation_of_answered combining prepared floating closed answered
  refine ⟨solved, applied, written, ?_, ?_⟩
  · simpa using sums 1 0
  · simpa using sums 0 1

/-- Two points that are made level keep the sums of their coordinates. -/
theorem floating_never_drifts_level :
    ∃ s solved, (solve Engine.exact .standard Levelling.entities [Levelling.constraint]).outcome =
        .ok s ∧ s.apply Levelling.entities = .ok solved ∧
      (abscissas solved).sum = 1 ∧ (ordinates solved).sum = 1 := by
  obtain ⟨s, answered⟩ := Levelling.exists_solution Engine.exact
  obtain ⟨solved, applied, -, first, second⟩ := floating_never_drifts
    Engine.exact_exact.toExactSteps.stepsInRowSpace Levelling.prepare_problem Levelling.floating
    Levelling.inClosedForm answered
  refine ⟨s, solved, answered, applied, first.trans ?_, second.trans ?_⟩
  · simp [abscissas, Levelling.entities, Exact.entity, Shape.abscissas]
  · simp [ordinates, Levelling.entities, Exact.entity, Shape.ordinates]

end Drift

end PlanarSketch
