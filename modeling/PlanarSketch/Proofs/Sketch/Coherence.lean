import PlanarSketch.Proofs.Inference.Suggestions
import PlanarSketch.Proofs.Sketch.Atomicity
import PlanarSketch.Proofs.Solve.Identity

/-!
# Sketches stay coherent

A sketch is coherent when its identifiers tell things apart and lead somewhere: no two
entities share one, constraints stand in the order of theirs, both counters are ahead of
all of them, and each constraint passes its check and names entities that are there
(`Sketch.Coherent`).  Every command keeps a sketch coherent (`Coherent.perform`), so every
session on an empty sketch does.

A coherent sketch can be solved without a fault about identity (`Coherent.solve_spares`).
-/

namespace PlanarSketch

set_option autoImplicit false

open Outcome

variable {α : Type} [Scalar α]

/-- Identifiers tell entities and constraints apart, and those that are used lead somewhere. -/
structure Sketch.Coherent (s : Sketch α) : Prop where
  distinct : (s.entities.map Entity.id).Nodup
  entityBound : ∀ id ∈ s.entities.map Entity.id, id < s.nextEntity
  ascending : (s.constraints.map Constraint.id).Pairwise (· < ·)
  constraintBound : ∀ c ∈ s.constraints, c.id < s.nextConstraint
  known : ∀ c ∈ s.constraints, ∀ id ∈ c.entityIds, id ∈ s.entities.map Entity.id
  valid : ∀ c ∈ s.constraints, c.check = .ok ()

/-- What holds of a sketch and of every result of an edit holds after the edit. -/
theorem Edit.of_keeps {β : Type} {P : Sketch α → Prop} {s : Sketch α}
    {result : Except (Fault α) (Sketch α × β)} (before : P s)
    (after : ∀ t answer, result = .ok (t, answer) → P t) : P (Edit.of s result).sketch := by
  cases outcome : result with
  | ok changed => exact after changed.1 changed.2 outcome
  | error fault => exact before

namespace Sketch

/-! ## Entities in a list -/

theorem map_id_putEntity {e : Entity α} {es : List (Entity α)}
    (present : e.id ∈ es.map Entity.id) : (putEntity e es).map Entity.id = es.map Entity.id := by
  induction es with
  | nil => cases present
  | cons f rest ih =>
      unfold putEntity
      split
      · rename_i same
        rw [List.map_cons, List.map_cons, same]
      · rename_i other
        rw [List.map_cons, List.mem_cons] at present
        rw [List.map_cons, List.map_cons, ih (present.resolve_left fun same => other same.symm)]

theorem putEntity_of_absent {e : Entity α} {es : List (Entity α)}
    (absent : e.id ∉ es.map Entity.id) : putEntity e es = es ++ [e] := by
  induction es with
  | nil => rfl
  | cons f rest ih =>
      rw [List.map_cons, List.mem_cons, not_or] at absent
      rw [putEntity, if_neg fun same => absent.1 same.symm, ih absent.2]
      rfl

theorem entity_eq_ok {s : Sketch α} {id : Int} {e : Entity α} (found : s.entity id = .ok e) :
    e ∈ s.entities ∧ e.id = id := by
  unfold entity at found
  split at found
  · rename_i _ looked
    cases found
    exact ⟨List.mem_of_find?_eq_some looked, by simpa using List.find?_some looked⟩
  · cases found

theorem constraint_eq_ok {s : Sketch α} {id : Int} {c : Constraint α}
    (found : s.constraint id = .ok c) : c ∈ s.constraints ∧ c.id = id := by
  unfold constraint at found
  split at found
  · rename_i _ looked
    cases found
    exact ⟨List.mem_of_find?_eq_some looked, by simpa using List.find?_some looked⟩
  · cases found

/-- Other parameters leave an entity its identifier. -/
theorem id_withParams {e changed : Entity α} {params : List α}
    (made : e.withParams params = .ok changed) : changed.id = e.id :=
  (Entity.make_spares e.id e.kind params e.fixed).answer made

namespace Coherent

variable {s : Sketch α}

/-- Each entity of a coherent sketch is found under its own identifier. -/
theorem entity_id (coherent : s.Coherent) {e : Entity α} (present : e ∈ s.entities) :
    s.entity e.id = .ok e := by
  rw [entity, find?_of_nodup coherent.distinct present]

/-- Coherence depends on identifiers, constraints and counters only. -/
theorem congr {t : Sketch α} (coherent : s.Coherent)
    (ids : t.entities.map Entity.id = s.entities.map Entity.id)
    (constraints : t.constraints = s.constraints) (entityCounter : t.nextEntity = s.nextEntity)
    (constraintCounter : t.nextConstraint = s.nextConstraint) : t.Coherent where
  distinct := ids ▸ coherent.distinct
  entityBound := by rw [ids, entityCounter]; exact coherent.entityBound
  ascending := constraints ▸ coherent.ascending
  constraintBound := by rw [constraints, constraintCounter]; exact coherent.constraintBound
  known := by rw [constraints, ids]; exact coherent.known
  valid := constraints ▸ coherent.valid

/-- A coherent sketch with fewer constraints is coherent. -/
theorem sublist (coherent : s.Coherent) {kept : List (Constraint α)}
    (fewer : kept.Sublist s.constraints) : { s with constraints := kept }.Coherent where
  distinct := coherent.distinct
  entityBound := coherent.entityBound
  ascending := coherent.ascending.sublist (fewer.map Constraint.id)
  constraintBound c among := coherent.constraintBound c (fewer.subset among)
  known c among := coherent.known c (fewer.subset among)
  valid c among := coherent.valid c (fewer.subset among)

/-- A coherent sketch with another version of one of its entities is coherent. -/
theorem withEntity (coherent : s.Coherent) {e : Entity α}
    (present : e.id ∈ s.entities.map Entity.id) : (s.withEntity e).Coherent :=
  coherent.congr (map_id_putEntity present) rfl rfl rfl

/-- A coherent sketch with sound constraints behind its own, numbered from its counter on, is
coherent. -/
theorem append (coherent : s.Coherent) {added : List (Constraint α)} {next : Int}
    (numbered : Numbered s.nextConstraint next (added.map Constraint.id))
    (known : ∀ c ∈ added, ∀ id ∈ c.entityIds, id ∈ s.entities.map Entity.id)
    (valid : ∀ c ∈ added, c.check = .ok ()) :
    { s with constraints := s.constraints ++ added, nextConstraint := next }.Coherent where
  distinct := coherent.distinct
  entityBound := coherent.entityBound
  ascending := by
    rw [List.map_append, List.pairwise_append]
    refine ⟨coherent.ascending, numbered.ascending, fun id old other new => ?_⟩
    obtain ⟨c, among, rfl⟩ := List.mem_map.1 old
    exact (coherent.constraintBound c among).trans_le (numbered.within other new).1
  constraintBound c among := by
    rcases List.mem_append.1 among with old | new
    · exact (coherent.constraintBound c old).trans_le numbered.order
    · exact (numbered.within c.id (List.mem_map_of_mem new)).2
  known c among := by
    rcases List.mem_append.1 among with old | new
    · exact coherent.known c old
    · exact known c new
  valid c among := by
    rcases List.mem_append.1 among with old | new
    · exact coherent.valid c old
    · exact valid c new

/-! ## Commands keep sketches coherent -/

theorem addEntity (coherent : s.Coherent) (kind : EntityKind) (params : List α) (fixed : Mark) :
    (s.addEntity kind params fixed).sketch.Coherent := by
  refine Edit.of_keeps coherent ?_
  intro t answer made
  obtain ⟨e, built, rest⟩ := bind_eq_ok.1 made
  cases rest
  have id : e.id = s.nextEntity := (Entity.make_spares s.nextEntity kind params fixed).answer built
  have fresh : e.id ∉ s.entities.map Entity.id := fun present =>
    absurd (coherent.entityBound e.id present) (by rw [id]; exact lt_irrefl _)
  have ids : (putEntity e s.entities).map Entity.id = s.entities.map Entity.id ++ [e.id] := by
    rw [putEntity_of_absent fresh, List.map_append]
    rfl
  refine ⟨?_, ?_, coherent.ascending, coherent.constraintBound, ?_, coherent.valid⟩
  · rw [Sketch.withEntity, ids, List.nodup_append_comm]
    exact List.nodup_cons.2 ⟨fresh, coherent.distinct⟩
  · rw [Sketch.withEntity, ids]
    intro other among
    rcases List.mem_append.1 among with old | new
    · exact (coherent.entityBound other old).trans (Int.lt_succ _)
    · rw [List.mem_singleton.1 new, id]
      exact Int.lt_succ _
  · intro c among other named
    rw [Sketch.withEntity, ids]
    exact List.mem_append_left _ (coherent.known c among other named)

theorem addArcThrough (coherent : s.Coherent) (sx sy mx my ex ey : α) (fixed : Mark) :
    (s.addArcThrough sx sy mx my ex ey fixed).sketch.Coherent := by
  unfold Sketch.addArcThrough
  split
  · exact coherent.addEntity _ _ _
  · exact coherent

theorem setParams (coherent : s.Coherent) (id : Int) (params : List α) :
    (s.setParams id params).sketch.Coherent := by
  refine Edit.of_keeps coherent ?_
  intro t answer made
  obtain ⟨e, found, rest⟩ := bind_eq_ok.1 made
  obtain ⟨changed, built, rest⟩ := bind_eq_ok.1 rest
  cases rest
  refine coherent.withEntity ?_
  rw [id_withParams built]
  exact List.mem_map_of_mem (entity_eq_ok found).1

theorem setFixed (coherent : s.Coherent) (id : Int) (fixed : Mark) :
    (s.setFixed id fixed).sketch.Coherent := by
  refine Edit.of_keeps coherent ?_
  intro t answer made
  obtain ⟨e, found, rest⟩ := bind_eq_ok.1 made
  cases rest
  have present : e.id ∈ s.entities.map Entity.id := List.mem_map_of_mem (entity_eq_ok found).1
  exact coherent.withEntity present

/-- An entity that is removed takes every constraint with it that names it. -/
theorem removeEntity (coherent : s.Coherent) (id : Int) :
    (s.removeEntity id).sketch.Coherent := by
  unfold Sketch.removeEntity
  split
  · exact coherent
  · -- What is kept of the constraints does not name the entity, so it still knows all it names.
    rw [List.partition_eq_filter_filter]
    dsimp only
    have kept : (s.constraints.filter (not ∘ fun c => c.entityIds.contains id)).Sublist
        s.constraints := List.filter_sublist
    have fewer := coherent.sublist kept
    have ids : (s.entities.filter (·.id != id)).map Entity.id =
        (s.entities.map Entity.id).filter (· != id) := by
      rw [List.filter_map]
      rfl
    refine ⟨?_, ?_, fewer.ascending, fewer.constraintBound, ?_, fewer.valid⟩
    · rw [ids]
      exact coherent.distinct.filter _
    · rw [ids]
      exact fun other among => coherent.entityBound other (List.mem_of_mem_filter among)
    · intro c among other named
      rw [ids, List.mem_filter]
      refine ⟨fewer.known c among other named, ?_⟩
      have avoids := (List.mem_filter.1 among).2
      simp only [Function.comp_apply, Bool.not_eq_true', List.contains_eq_mem,
        decide_eq_false_iff_not] at avoids
      rw [bne_iff_ne]
      rintro rfl
      exact avoids named

theorem addConstraint (coherent : s.Coherent) (kind : ConstraintKind) (ids : List Int)
    (value : Option α) (selectors : List String) (driving : Mark) :
    (s.addConstraint kind ids value selectors driving).sketch.Coherent := by
  refine Edit.of_keeps coherent ?_
  intro t answer made
  obtain ⟨⟨⟩, checked, rest⟩ := bind_eq_ok.1 made
  split at rest
  · cases rest
  · rename_i none_missing
    cases rest
    refine coherent.append (Numbered.single s.nextConstraint) ?_ ?_
    · intro c among id named
      rw [List.mem_singleton.1 among] at named
      have present := List.find?_eq_none.1 none_missing id named
      simp only [Bool.not_eq_true, Bool.not_eq_false', List.any_eq_true, beq_iff_eq] at present
      exact List.mem_map.2 present
    · intro c among
      rw [List.mem_singleton.1 among]
      exact checked

theorem updateConstraint (coherent : s.Coherent) (id : Int) (value : Option α) :
    (s.updateConstraint id value).sketch.Coherent := by
  refine Edit.of_keeps coherent ?_
  intro t answer made
  obtain ⟨old, found, rest⟩ := bind_eq_ok.1 made
  obtain ⟨⟨⟩, checked, rest⟩ := bind_eq_ok.1 rest
  cases rest
  obtain ⟨present, same⟩ := constraint_eq_ok found
  -- The new version replaces what has its identifier, which leaves the identifiers as they are.
  generalize new : old.withValue _ = changed at checked ⊢
  have id_changed : changed.id = id := by rw [← new, ← same]; rfl
  have ids : (s.constraints.map fun c => if c.id = id then changed else c).map Constraint.id =
      s.constraints.map Constraint.id := by
    rw [List.map_map]
    refine List.map_congr_left ?_
    intro c _
    rw [Function.comp_apply]
    split
    · rename_i here
      rw [id_changed, here]
    · rfl
  refine ⟨coherent.distinct, coherent.entityBound, ?_, ?_, ?_, ?_⟩
  · rw [ids]
    exact coherent.ascending
  · intro c among
    have listed : c.id ∈ s.constraints.map Constraint.id := ids ▸ List.mem_map_of_mem among
    obtain ⟨d, present, same⟩ := List.mem_map.1 listed
    exact same ▸ coherent.constraintBound d present
  · intro c among
    obtain ⟨d, present', rfl⟩ := List.mem_map.1 among
    split
    · rw [← new]
      exact coherent.known old present
    · exact coherent.known d present'
  · intro c among
    obtain ⟨d, present', rfl⟩ := List.mem_map.1 among
    split
    · exact checked
    · exact coherent.valid d present'

/-- Inferred constraints are about entities of the sketch and are numbered from its counter on. -/
theorem inferConstraints (coherent : s.Coherent) (apply : Bool) :
    (s.inferConstraints apply).sketch.Coherent := by
  unfold Sketch.inferConstraints
  dsimp only
  split
  · rename_i last final
    rw [Inference.next_of_last final]
    refine coherent.append (Inference.accept_numbered _ _ _) ?_ ?_
    · intro c among
      obtain ⟨suggestion, proposed, n, rfl⟩ := Inference.mem_accept among
      exact (Inference.suggestions_sound proposed).known
    · intro c among
      obtain ⟨suggestion, proposed, n, rfl⟩ := Inference.mem_accept among
      exact (Inference.suggestions_sound proposed).check n
  · exact coherent

/-- A solution changes parameters of entities, and never their identifiers. -/
theorem ids_apply {solution : Solution α} {es solved : List (Entity α)}
    (applied : solution.apply es = .ok solved) : solved.map Entity.id = es.map Entity.id := by
  have steps := mapM_eq_ok.1 applied
  clear applied
  induction steps with
  | nil => rfl
  | @cons e changed _ _ first _ ih =>
      have same : changed.id = e.id := by
        unfold Solution.applyTo at first
        split at first
        · exact id_withParams first
        · cases first
          rfl
      rw [List.map_cons, List.map_cons, same, ih]

theorem solve (coherent : s.Coherent) (engine : Engine α) (options : Option (Options α)) :
    (s.solve engine options).sketch.Coherent := by
  generalize h : s.solve engine options = edit
  cases solveEdit h with
  | faulted => exact coherent
  | unwritten => exact coherent
  | unsolved => exact coherent.congr rfl rfl rfl rfl
  | written _ _ applied => exact coherent.congr (ids_apply applied) rfl rfl rfl

/-- The entity that is dragged is one of the sketch. -/
theorem id_dragged {id : Int} {x y : α} {selector : String} {e : Entity α}
    (moved : s.dragged id x y selector = .ok e) : e.id ∈ s.entities.map Entity.id := by
  obtain ⟨old, found, rest⟩ := bind_eq_ok.1 moved
  obtain ⟨params, _, made⟩ := bind_eq_ok.1 rest
  rw [id_withParams made]
  exact List.mem_map_of_mem (entity_eq_ok found).1

theorem drag (coherent : s.Coherent) (engine : Engine α) (id : Int) (x y : α) (selector : String) :
    (s.drag engine id x y selector).sketch.Coherent := by
  cases outcome : (s.drag engine id x y selector).outcome with
  | error fault =>
      rw [atomic_drag s engine id x y selector fault outcome]
      exact coherent
  | ok solution =>
      cases success : solution.success with
      | false =>
          rw [drag_unsolved outcome success]
          exact coherent.congr rfl rfl rfl rfl
      | true =>
          generalize h : s.drag engine id x y selector = edit at outcome ⊢
          cases dragEdit h with
          | unmoved => cases outcome
          | faulted => cases outcome
          | unsolved _ _ _ failure =>
              cases outcome
              rw [failure] at success
              cases success
          | kept movable solved =>
              rw [← solved]
              exact (coherent.withEntity (id_dragged movable)).solve engine _

/-- **Every command keeps a sketch coherent**, whether it is refused or not. -/
theorem perform (coherent : s.Coherent) (engine : Engine α) (command : Command α) :
    (s.perform engine command).sketch.Coherent := by
  cases command with
  | addShape shape fixed => exact coherent.addEntity _ _ _
  | addArcThrough sx sy mx my ex ey fixed => exact coherent.addArcThrough sx sy mx my ex ey fixed
  | setParams id params => exact coherent.setParams id params
  | fix id => exact coherent.setFixed id _
  | unfix id => exact coherent.setFixed id _
  | removeEntity id => exact coherent.removeEntity id
  | addConstraint kind ids value selectors driving =>
      exact coherent.addConstraint kind ids value selectors driving
  | updateConstraint id value => exact coherent.updateConstraint id value
  | removeConstraint id => exact coherent.sublist List.eraseP_sublist
  | clearConstraints => exact coherent.sublist (List.nil_sublist _)
  | infer apply => exact coherent.inferConstraints apply
  | solve options => exact coherent.solve engine options
  | drag id x y selector => exact coherent.drag engine id x y selector

omit s in
theorem blank (name : Document) (defaults : Options α) :
    (Sketch.blank name defaults).Coherent where
  distinct := List.nodup_nil
  entityBound _ among := absurd among List.not_mem_nil
  ascending := List.Pairwise.nil
  constraintBound _ among := absurd among List.not_mem_nil
  known _ among := absurd among List.not_mem_nil
  valid _ among := absurd among List.not_mem_nil

theorem after (coherent : s.Coherent) (engine : Engine α) (session : List (Command α)) :
    (s.after engine session).Coherent := by
  induction session generalizing s with
  | nil => exact coherent
  | cons command rest ih => exact ih (coherent.perform engine command)

/-- A coherent sketch is not kept from being solved by an identifier. -/
theorem solve_spares (coherent : s.Coherent) (engine : Engine α) (options : Option (Options α)) :
    Spares (fun _ => True) (s.solve engine options).outcome := by
  have numbered : (s.constraints.map Constraint.id).Nodup :=
    coherent.ascending.imp fun less => Int.ne_of_lt less
  generalize h : s.solve engine options = edit
  cases solveEdit h with
  | faulted faulty =>
      exact .error ((PlanarSketch.solve_spares coherent.distinct numbered coherent.known).spared
        faulty)
  | unwritten _ _ applied => exact .error ((Solution.apply_spares _ _).spared applied)
  | unsolved => exact .ok trivial
  | written => exact .ok trivial

end Coherent

end Sketch

end PlanarSketch
