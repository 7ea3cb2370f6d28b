import PlanarSketch.Proofs.Sketch.Coherence

/-!
# What a session issues

The counters of a sketch say more than the sketch does, since they remember what was
removed.  What a command issues lies between the counters before and after it
(`Sketch.perform_issues`), so over a whole session all issued identifiers ascend, and none
is issued twice.

Together with coherence this is what holds of every sketch that a session can lead to
(`session_coherent`).
-/

namespace PlanarSketch

set_option autoImplicit false

open Outcome

variable {α : Type} [Scalar α]

/-! ## Issued identifiers -/

/-- The identifier of what was added. -/
def Reply.addedId : Except (Fault α) (Reply α) → List Int
  | .ok (.added id) => [id]
  | _ => []

/-- The identifiers of constraints that were listed. -/
def Reply.listedIds : Except (Fault α) (Reply α) → List Int
  | .ok (.constraints found) => found.map Constraint.id
  | _ => []

/-- The identifiers of entities that a command issues, given its outcome. -/
def Command.entitiesIssued : Command α → Except (Fault α) (Reply α) → List Int
  | .addShape .., outcome | .addArcThrough .., outcome => Reply.addedId outcome
  | _, _ => []

/-- The identifiers of constraints that a command issues, given its outcome. -/
def Command.constraintsIssued : Command α → Except (Fault α) (Reply α) → List Int
  | .addConstraint .., outcome => Reply.addedId outcome
  | .infer true, outcome => Reply.listedIds outcome
  | _, _ => []

namespace Sketch

/-- What a session issues from a sketch on, in order, given what one command issues. -/
def issued (issues : Command α → Except (Fault α) (Reply α) → List Int) (engine : Engine α) :
    Sketch α → List (Command α) → List Int
  | _, [] => []
  | s, command :: rest =>
    issues command (s.perform engine command).outcome ++
      issued issues engine (s.perform engine command).sketch rest

/-- What was issued between two sketches lies between their counters. -/
structure Issues (s t : Sketch α) (entities constraints : List Int) : Prop where
  entities : Numbered s.nextEntity t.nextEntity entities
  constraints : Numbered s.nextConstraint t.nextConstraint constraints

/-- Both counters of two sketches are the same. -/
def SameCounters (s t : Sketch α) : Prop :=
  t.nextEntity = s.nextEntity ∧ t.nextConstraint = s.nextConstraint

variable {s t : Sketch α}

theorem SameCounters.issues (same : SameCounters s t) : Issues s t [] [] :=
  ⟨.nil same.1.symm, .nil same.2.symm⟩

/-! ## Commands that issue nothing -/

theorem sameCounters_setParams (s : Sketch α) (id : Int) (params : List α) :
    SameCounters s (s.setParams id params).sketch := by
  refine Edit.of_keeps (And.intro rfl rfl) ?_
  intro t answer made
  obtain ⟨_, _, rest⟩ := bind_eq_ok.1 made
  obtain ⟨_, _, rest⟩ := bind_eq_ok.1 rest
  cases rest
  exact ⟨rfl, rfl⟩

theorem sameCounters_setFixed (s : Sketch α) (id : Int) (fixed : Mark) :
    SameCounters s (s.setFixed id fixed).sketch := by
  refine Edit.of_keeps (And.intro rfl rfl) ?_
  intro t answer made
  obtain ⟨_, _, rest⟩ := bind_eq_ok.1 made
  cases rest
  exact ⟨rfl, rfl⟩

theorem sameCounters_updateConstraint (s : Sketch α) (id : Int) (value : Option α) :
    SameCounters s (s.updateConstraint id value).sketch := by
  refine Edit.of_keeps (And.intro rfl rfl) ?_
  intro t answer made
  obtain ⟨_, _, rest⟩ := bind_eq_ok.1 made
  obtain ⟨_, _, rest⟩ := bind_eq_ok.1 rest
  cases rest
  exact ⟨rfl, rfl⟩

theorem sameCounters_removeEntity (s : Sketch α) (id : Int) :
    SameCounters s (s.removeEntity id).sketch := by
  unfold removeEntity
  split
  · exact ⟨rfl, rfl⟩
  · exact ⟨rfl, rfl⟩

theorem sameCounters_solve (s : Sketch α) (engine : Engine α) (options : Option (Options α)) :
    SameCounters s (s.solve engine options).sketch := by
  generalize h : s.solve engine options = edit
  cases solveEdit h with
  | _ => exact ⟨rfl, rfl⟩

theorem sameCounters_drag (s : Sketch α) (engine : Engine α) (id : Int) (x y : α)
    (selector : String) : SameCounters s (s.drag engine id x y selector).sketch := by
  generalize h : s.drag engine id x y selector = edit
  cases dragEdit h with
  | unmoved => exact ⟨rfl, rfl⟩
  | faulted _ solved => exact solved ▸ sameCounters_solve _ engine _
  | unsolved _ solved => exact solved ▸ sameCounters_solve _ engine _
  | kept _ solved => exact solved ▸ sameCounters_solve _ engine _

/-! ## Commands that issue identifiers -/

/-- An addition is refused, or it yields the next identifier and advances one counter. -/
theorem addEntity_cases (s : Sketch α) (kind : EntityKind) (params : List α) (fixed : Mark) :
    (∃ fault, s.addEntity kind params fixed = .refused s fault) ∨
      ∃ t, s.addEntity kind params fixed = .done t s.nextEntity ∧ Issues s t [s.nextEntity] [] := by
  unfold addEntity
  cases Entity.make s.nextEntity kind params fixed with
  | error fault => exact .inl ⟨fault, rfl⟩
  | ok e => exact .inr ⟨_, rfl, .single _, .nil rfl⟩

theorem issues_addShape (s : Sketch α) (shape : Shape α) (fixed : Mark) :
    Issues s (s.addShape shape fixed).sketch
      (Reply.addedId ((s.addShape shape fixed).map Reply.added).outcome) [] := by
  unfold addShape
  rcases s.addEntity_cases shape.kind shape.params fixed with ⟨fault, same⟩ | ⟨t, same, issues⟩
  · rw [same]
    exact SameCounters.issues ⟨rfl, rfl⟩
  · rw [same]
    exact issues

theorem issues_addArcThrough (s : Sketch α) (sx sy mx my ex ey : α) (fixed : Mark) :
    Issues s (s.addArcThrough sx sy mx my ex ey fixed).sketch
      (Reply.addedId ((s.addArcThrough sx sy mx my ex ey fixed).map Reply.added).outcome) [] := by
  unfold addArcThrough
  split
  · exact s.issues_addShape _ fixed
  · exact SameCounters.issues ⟨rfl, rfl⟩

theorem addConstraint_cases (s : Sketch α) (kind : ConstraintKind) (ids : List Int)
    (value : Option α) (selectors : List String) (driving : Mark) :
    (∃ fault, s.addConstraint kind ids value selectors driving = .refused s fault) ∨
      ∃ t, s.addConstraint kind ids value selectors driving = .done t s.nextConstraint ∧
        Issues s t [] [s.nextConstraint] := by
  unfold addConstraint
  dsimp only
  generalize (Constraint.check _ : Except (Fault α) Unit) = checked
  cases checked with
  | error fault => exact .inl ⟨fault, rfl⟩
  | ok _ =>
      dsimp only [bind, Except.bind]
      split
      · exact .inl ⟨_, rfl⟩
      · exact .inr ⟨_, rfl, .nil rfl, .single _⟩

theorem issues_addConstraint (s : Sketch α) (kind : ConstraintKind) (ids : List Int)
    (value : Option α) (selectors : List String) (driving : Mark) :
    Issues s (s.addConstraint kind ids value selectors driving).sketch []
      (Reply.addedId
        ((s.addConstraint kind ids value selectors driving).map Reply.added).outcome) := by
  rcases s.addConstraint_cases kind ids value selectors driving with
    ⟨fault, same⟩ | ⟨t, same, issues⟩
  · rw [same]
    exact SameCounters.issues ⟨rfl, rfl⟩
  · rw [same]
    exact issues

/-- An inference that is applied issues what it has found; one that finds nothing changes
nothing. -/
theorem issues_inferConstraints (s : Sketch α) :
    Issues s (s.inferConstraints true).sketch []
      (Reply.listedIds ((s.inferConstraints true).map Reply.constraints).outcome) := by
  unfold inferConstraints
  dsimp only [Edit.map, Except.map, Reply.listedIds]
  split
  · rename_i last _ final
    rw [Inference.next_of_last final]
    exact ⟨.nil rfl, Inference.accept_numbered _ _ _⟩
  · rename_i nothing
    have empty : Inference.infer .standard s.entities s.constraints s.nextConstraint = [] := by
      rw [← List.getLast?_eq_none_iff, Option.eq_none_iff_forall_ne_some]
      exact fun last final => nothing last rfl final
    rw [empty]
    exact ⟨.nil rfl, .nil rfl⟩

/-- **What a command issues lies between the counters before and after it.** -/
theorem perform_issues (s : Sketch α) (engine : Engine α) (command : Command α) :
    Issues s (s.perform engine command).sketch
      (command.entitiesIssued (s.perform engine command).outcome)
      (command.constraintsIssued (s.perform engine command).outcome) := by
  cases command with
  | addShape shape fixed => exact s.issues_addShape shape fixed
  | addArcThrough sx sy mx my ex ey fixed => exact s.issues_addArcThrough sx sy mx my ex ey fixed
  | addConstraint kind ids value selectors driving =>
      exact s.issues_addConstraint kind ids value selectors driving
  | infer apply =>
      cases apply with
      | false => exact SameCounters.issues ⟨rfl, rfl⟩
      | true => exact s.issues_inferConstraints
  | setParams id params => exact (s.sameCounters_setParams id params).issues
  | fix id => exact (s.sameCounters_setFixed id _).issues
  | unfix id => exact (s.sameCounters_setFixed id _).issues
  | updateConstraint id value => exact (s.sameCounters_updateConstraint id value).issues
  | removeEntity id => exact (s.sameCounters_removeEntity id).issues
  | removeConstraint id => exact SameCounters.issues ⟨rfl, rfl⟩
  | clearConstraints => exact SameCounters.issues ⟨rfl, rfl⟩
  | solve options => exact (s.sameCounters_solve engine options).issues
  | drag id x y selector => exact (s.sameCounters_drag engine id x y selector).issues

/-- What a session issues lies between the counters before and after it. -/
theorem after_issues (s : Sketch α) (engine : Engine α) (session : List (Command α)) :
    Issues s (s.after engine session) (issued Command.entitiesIssued engine s session)
      (issued Command.constraintsIssued engine s session) := by
  induction session generalizing s with
  | nil => exact SameCounters.issues ⟨rfl, rfl⟩
  | cons command rest ih =>
      have first := s.perform_issues engine command
      have others := ih (s.perform engine command).sketch
      exact ⟨first.entities.append others.entities, first.constraints.append others.constraints⟩

end Sketch

/-- **Sessions keep sketches coherent.**  After any session on an empty sketch, refusals included,
the sketch is coherent, each of its entities is found under its own identifier, and a solve of it
is not refused for the sake of an identifier.  Over the whole session the identifiers that were
issued ascend, those of entities and those of constraints, so none was issued twice. -/
theorem session_coherent (engine : Engine α) (name : Document) (defaults : Options α)
    (session : List (Command α)) :
    ((Sketch.blank name defaults).after engine session).Coherent ∧
    (∀ e ∈ ((Sketch.blank name defaults).after engine session).entities,
      ((Sketch.blank name defaults).after engine session).entity e.id = .ok e) ∧
    (Sketch.issued Command.entitiesIssued engine (.blank name defaults) session).Pairwise (· < ·) ∧
    (Sketch.issued Command.constraintsIssued engine (.blank name defaults) session).Pairwise
      (· < ·) ∧
    ∀ options fault,
      (((Sketch.blank name defaults).after engine session).solve engine options).outcome =
        .error fault → ¬fault.AboutIdentity := by
  have coherent := (Sketch.Coherent.blank name defaults).after engine session
  have issues := (Sketch.blank name defaults).after_issues engine session
  refine ⟨coherent, fun e present => coherent.entity_id present, issues.entities.ascending,
    issues.constraints.ascending, fun options fault refusal => ?_⟩
  exact (coherent.solve_spares engine options).spared refusal

end PlanarSketch
