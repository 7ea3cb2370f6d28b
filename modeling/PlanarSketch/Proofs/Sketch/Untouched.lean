import PlanarSketch.Proofs.Sketch.Atomicity
import PlanarSketch.Proofs.Solve.Nearest
import PlanarSketch.Proofs.Solve.Unmoved
import PlanarSketch.Proofs.Solve.WriteBack

/-!
# What solves and drags leave of a sketch

A sketch is retouched if nothing of it has changed but the parameters of entities that may be
moved, and what its latest solution is (`Sketch.Retouched`).  A solution that is applied
retouches the entities that it was computed for (`Solution.retouched_apply`), since fixed ones
take their own parameters back, and a drag begins by moving an entity that is not fixed
(`Sketch.retouched_withEntity`).  So solves and drags, however they end, retouch the sketch
(`Sketch.retouched_solve`, `Sketch.retouched_drag`).

What is said of entities that no driving constraint names needs numbers to which multiples of zero
add nothing.  Doubles are not of that kind; over doubles such entities keep parameters that compare
as equal to what they were (`bystanders_equal`).
-/

namespace PlanarSketch

set_option autoImplicit false

open Outcome

variable {α : Type} [Scalar α]

/-- An entity and what it was before: only its parameters may differ, and not even these if it is
fixed. -/
structure Entity.Retouched (after before : Entity α) : Prop extends after.Matches before where
  kept : before.isFixed = true → after = before

/-- A sketch and what it was before: the entities are the same in the same order, retouched, and
all but the latest solution is as it was. -/
structure Sketch.Retouched (after before : Sketch α) : Prop where
  name : after.name = before.name
  entities : List.Forall₂ Entity.Retouched after.entities before.entities
  constraints : after.constraints = before.constraints
  defaults : after.defaults = before.defaults
  nextEntity : after.nextEntity = before.nextEntity
  nextConstraint : after.nextConstraint = before.nextConstraint

namespace Entity

theorem Retouched.refl (e : Entity α) : e.Retouched e := ⟨⟨rfl, rfl, rfl⟩, fun _ => rfl⟩

theorem Retouched.trans {e f g : Entity α} (later : g.Retouched f) (first : f.Retouched e) :
    g.Retouched e := by
  refine ⟨⟨later.id.trans first.id, later.kind.trans first.kind, later.fixed.trans first.fixed⟩,
    fun fixed => ?_⟩
  have same := first.kept fixed
  rw [later.kept (same ▸ fixed), same]

theorem retouched_refl (es : List (Entity α)) : List.Forall₂ Retouched es es :=
  List.forall₂_same.2 fun e _ => .refl e

theorem retouched_trans {es fs gs : List (Entity α)} (later : List.Forall₂ Retouched gs fs)
    (first : List.Forall₂ Retouched fs es) : List.Forall₂ Retouched gs es := by
  induction first generalizing gs with
  | nil => exact later
  | cons here _ ih =>
      obtain ⟨g, rest, again, others, rfl⟩ := List.forall₂_cons_right_iff.1 later
      exact .cons (again.trans here) (ih others)

/-- An entity is retouched by other parameters if it may be moved, and by its own. -/
theorem retouched_withParams {e changed : Entity α} {params : List α}
    (made : e.withParams params = .ok changed) (kept : e.isFixed = true → params = e.params) :
    changed.Retouched e := by
  refine ⟨(withParams_eq_ok made).1, fun fixed => ?_⟩
  rw [kept fixed, withParams, make_params] at made
  exact (Except.ok.inj made).symm

end Entity

/-- **A solution retouches the entities that it was computed for.** -/
theorem Solution.retouched_apply {engine : Engine α} {o : Options α}
    {entities solved : List (Entity α)} {constraints : List (Constraint α)} {s : Solution α}
    (answered : (PlanarSketch.solve engine o entities constraints).outcome = .ok s)
    (applied : s.apply entities = .ok solved) : List.Forall₂ Entity.Retouched solved entities := by
  refine forall₂_of_mapM applied fun e among changed made => ?_
  unfold applyTo at made
  split at made
  · rename_i place found
    refine Entity.retouched_withParams made fun fixed => ?_
    have params := paramsOf_of_fixed answered among fixed
    rw [paramsOf, Layout.place, found] at params
    exact Except.ok.inj params
  · cases made
    exact .refl e

namespace Sketch

variable {s : Sketch α}

theorem Retouched.refl (s : Sketch α) : s.Retouched s :=
  ⟨rfl, Entity.retouched_refl _, rfl, rfl, rfl, rfl⟩

theorem Retouched.trans {t u : Sketch α} (later : u.Retouched t) (first : t.Retouched s) :
    u.Retouched s where
  name := later.name.trans first.name
  entities := Entity.retouched_trans later.entities first.entities
  constraints := later.constraints.trans first.constraints
  defaults := later.defaults.trans first.defaults
  nextEntity := later.nextEntity.trans first.nextEntity
  nextConstraint := later.nextConstraint.trans first.nextConstraint

/-- A solve of a sketch retouches it, whether it succeeds, fails or is refused. -/
theorem retouched_solve (s : Sketch α) (engine : Engine α) (options : Option (Options α)) :
    (s.solve engine options).sketch.Retouched s := by
  generalize h : s.solve engine options = edit
  cases solveEdit h with
  | faulted => exact .refl s
  | unwritten => exact .refl s
  | unsolved => exact ⟨rfl, Entity.retouched_refl _, rfl, rfl, rfl, rfl⟩
  | written answered success applied =>
      exact ⟨rfl, Solution.retouched_apply answered applied, rfl, rfl, rfl, rfl⟩

/-- An entity that is put in the place of one that it retouches retouches the list. -/
theorem retouched_putEntity {es : List (Entity α)} {e changed : Entity α}
    (found : es.find? (·.id == changed.id) = some e) (retouched : changed.Retouched e) :
    List.Forall₂ Entity.Retouched (putEntity changed es) es := by
  induction es with
  | nil => cases found
  | cons f rest ih =>
      unfold putEntity
      rw [List.find?_cons] at found
      by_cases here : f.id = changed.id
      · rw [if_pos here]
        rw [beq_iff_eq.2 here] at found
        cases found
        exact .cons retouched (Entity.retouched_refl rest)
      · rw [if_neg here]
        rw [beq_false_of_ne here] at found
        exact .cons (.refl f) (ih found)

/-- Only an entity that is not fixed can be dragged. -/
theorem retouched_withEntity {id : Int} {x y : α} {selector : String} {changed : Entity α}
    (dragged : s.dragged id x y selector = .ok changed) :
    (s.withEntity changed).Retouched s := by
  obtain ⟨e, present, rest⟩ := bind_eq_ok.1 dragged
  obtain ⟨params, placed, made⟩ := bind_eq_ok.1 rest
  have free : ¬e.isFixed = true := by
    intro fixed
    rw [draggedParams, if_pos fixed] at placed
    cases placed
  have retouched := Entity.retouched_withParams made fun fixed => absurd fixed free
  refine ⟨rfl, retouched_putEntity ?_ retouched, rfl, rfl, rfl, rfl⟩
  unfold entity at present
  split at present
  · rename_i f found
    cases present
    have same : e.id = id := by simpa using List.find?_some found
    rw [retouched.id, same]
    exact found
  · cases present

/-- A drag of a sketch retouches it, whether it succeeds, is taken back or is refused. -/
theorem retouched_drag (s : Sketch α) (engine : Engine α) (id : Int) (x y : α)
    (selector : String) : (s.drag engine id x y selector).sketch.Retouched s := by
  generalize h : s.drag engine id x y selector = edit
  cases dragEdit h with
  | unmoved => exact .refl s
  | faulted movable solved | unsolved movable solved =>
      -- The entities are put back; the solve of the moved sketch has left the rest alone.
      subst solved
      have rest := (retouched_solve _ engine (some s.dragOptions)).trans
        (retouched_withEntity movable)
      exact ⟨rest.name, Entity.retouched_refl _, rest.constraints, rest.defaults, rest.nextEntity,
        rest.nextConstraint⟩
  | kept movable solved =>
      subst solved
      exact (retouched_solve _ engine _).trans (retouched_withEntity movable)

end Sketch

/-! ## Bystanders -/

namespace Bystanders

/-- The two points that shall be level, a fixed point, and a circle that nothing is said about. -/
noncomputable def entities : List (Entity ℝ) :=
  Levelling.entities ++
    [(Exact.entity 2 (.point 1 0)).withFixed (.of true), Exact.entity 3 (.circle 0 0 1)]

/-- The problem of the four entities and the demand on the first two. -/
noncomputable def problem : Problem ℝ :=
  ⟨Layout.tiling entities, flat entities, [Levelling.block], [0, 1, 2, 3, 6, 7, 8]⟩

theorem prepare_problem : Problem.prepare entities [Levelling.constraint] = .ok problem := by
  have distinct : (entities.map Entity.id).Nodup := by
    change ([0, 1, 2, 3] : List Int).Nodup
    decide
  have numbered : ([Levelling.constraint].map Constraint.id).Nodup := List.nodup_singleton _
  exact Problem.prepare_of_compiled distinct numbered (mapM_eq_ok.2 (.cons rfl .nil))

theorem exists_solution (engine : Engine ℝ) :
    ∃ s, (solve engine .standard entities [Levelling.constraint]).outcome = .ok s := by
  refine Problem.exists_solution prepare_problem ?_ Exact.standard_check
  exact Levelling.isAffine

end Bystanders

/-! ## What may move -/

/-- **Solving moves only what it may move.**  Whenever a solve answers, successful or not and after
any steps: every fixed entity has its initial parameters, for every engine and all numbers; and if
the steps of the engine are combinations of rows, and multiples of zero add nothing, so has every
entity that no driving constraint names.  A solve and a drag of a sketch, however they end, leave
all of it as it was but the parameters of entities that are not fixed, and its latest solution. -/
theorem solving_moves_only (engine : Engine α) :
    (∀ (o : Options α) (entities : List (Entity α)) (constraints : List (Constraint α))
        (s : Solution α), (solve engine o entities constraints).outcome = .ok s →
      (∀ e ∈ entities, e.isFixed = true → s.paramsOf e.id = .ok e.params) ∧
      (Scalar.Inert α → engine.StepsInRowSpace → ∀ e ∈ entities,
        (∀ c ∈ constraints, c.isDriving = true → e.id ∉ c.entityIds) →
          s.paramsOf e.id = .ok e.params)) ∧
    (∀ (sketch : Sketch α) (options : Option (Options α)),
      (sketch.solve engine options).sketch.Retouched sketch) ∧
    ∀ (sketch : Sketch α) (id : Int) (x y : α) (selector : String),
      (sketch.drag engine id x y selector).sketch.Retouched sketch := by
  refine ⟨fun o entities constraints s answered => ⟨?fixed, ?unreferenced⟩, ?solve, ?drag⟩
  case fixed => exact fun e among fixed => paramsOf_of_fixed answered among fixed
  case unreferenced =>
    exact fun inert combining e among unreferenced =>
      paramsOf_of_unreferenced inert combining answered among unreferenced
  case solve => exact fun sketch options => sketch.retouched_solve engine options
  case drag => exact fun sketch id x y selector => sketch.retouched_drag engine id x y selector

/-- The fixed point and the circle stay where they are while the two points are made level. -/
theorem solving_moves_only_bystanders :
    ∃ s, (solve Engine.exact .standard Bystanders.entities [Levelling.constraint]).outcome = .ok s ∧
      s.paramsOf 2 = .ok [1, 0] ∧ s.paramsOf 3 = .ok [0, 0, 1] := by
  obtain ⟨s, answered⟩ := Bystanders.exists_solution Engine.exact
  obtain ⟨fixed, unreferenced⟩ := (solving_moves_only Engine.exact).1 _ _ _ _ answered
  refine ⟨s, answered, fixed ((Exact.entity 2 (.point 1 0)).withFixed (.of true)) ?_ rfl, ?_⟩
  · simp [Bystanders.entities]
  · refine unreferenced Exact.inert Engine.exact_exact.toExactSteps.stepsInRowSpace
      (Exact.entity 3 (.circle 0 0 1)) ?_ ?_
    · simp [Bystanders.entities]
    · intro c among _
      rw [List.mem_singleton.1 among]
      change (3 : Int) ∉ [0, 1]
      decide

end PlanarSketch
