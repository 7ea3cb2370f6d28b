import PlanarSketch.Proofs.Sketch.Coherence
import PlanarSketch.Proofs.Sketch.Untouched

/-!
# Names and marks of sketches

No command changes the name of a sketch (`Sketch.name_perform`).

A mark can be written as any document that counts as true or as false; it is plain when it is
written as the truth value that it counts as (`Mark.Plain`).  A sketch is tidy when its entities
have different identifiers and plain marks, and the marks of its constraints have a property that
is asked of them (`Sketch.Tidy`).  Commands that give such marks keep a sketch tidy
(`Sketch.Tidy.perform`), whatever their identifiers are: an entity that is added takes the place
of one that has its identifier already.
-/

namespace PlanarSketch

set_option autoImplicit false

open Outcome

variable {α : Type} [Scalar α]

/-! ## Names -/

namespace Sketch

variable (s : Sketch α)

/-- An edit that leaves the name alone whenever it is not refused leaves it alone. -/
theorem name_of {β : Type} {result : Except (Fault α) (Sketch α × β)}
    (kept : ∀ t answer, result = .ok (t, answer) → t.name = s.name) :
    (Edit.of s result).sketch.name = s.name :=
  Edit.of_keeps (P := fun t => t.name = s.name) rfl kept

theorem name_addEntity (kind : EntityKind) (params : List α) (fixed : Mark) :
    (s.addEntity kind params fixed).sketch.name = s.name := by
  refine s.name_of fun t answer made => ?_
  obtain ⟨e, -, rest⟩ := bind_eq_ok.1 made
  cases rest
  rfl

theorem name_addArcThrough (sx sy mx my ex ey : α) (fixed : Mark) :
    (s.addArcThrough sx sy mx my ex ey fixed).sketch.name = s.name := by
  unfold addArcThrough
  split
  · exact s.name_addEntity _ _ _
  · rfl

theorem name_setParams (id : Int) (params : List α) :
    (s.setParams id params).sketch.name = s.name := by
  refine s.name_of fun t answer made => ?_
  obtain ⟨e, -, rest⟩ := bind_eq_ok.1 made
  obtain ⟨changed, -, rest⟩ := bind_eq_ok.1 rest
  cases rest
  rfl

theorem name_setFixed (id : Int) (fixed : Mark) : (s.setFixed id fixed).sketch.name = s.name := by
  refine s.name_of fun t answer made => ?_
  obtain ⟨e, -, rest⟩ := bind_eq_ok.1 made
  cases rest
  rfl

theorem name_removeEntity (id : Int) : (s.removeEntity id).sketch.name = s.name := by
  unfold removeEntity
  split <;> rfl

theorem name_addConstraint (kind : ConstraintKind) (ids : List Int) (value : Option α)
    (selectors : List String) (driving : Mark) :
    (s.addConstraint kind ids value selectors driving).sketch.name = s.name := by
  refine s.name_of fun t answer made => ?_
  obtain ⟨⟨⟩, -, rest⟩ := bind_eq_ok.1 made
  split at rest <;> cases rest
  rfl

theorem name_updateConstraint (id : Int) (value : Option α) :
    (s.updateConstraint id value).sketch.name = s.name := by
  refine s.name_of fun t answer made => ?_
  obtain ⟨old, -, rest⟩ := bind_eq_ok.1 made
  obtain ⟨⟨⟩, -, rest⟩ := bind_eq_ok.1 rest
  cases rest
  rfl

theorem name_inferConstraints (apply : Bool) :
    (s.inferConstraints apply).sketch.name = s.name := by
  unfold inferConstraints
  dsimp only
  split <;> rfl

/-- **No command changes the name of a sketch.** -/
theorem name_perform (engine : Engine α) (command : Command α) :
    (s.perform engine command).sketch.name = s.name := by
  cases command with
  | addShape shape fixed => exact s.name_addEntity _ _ _
  | addArcThrough sx sy mx my ex ey fixed => exact s.name_addArcThrough sx sy mx my ex ey fixed
  | setParams id params => exact s.name_setParams id params
  | fix id => exact s.name_setFixed id _
  | unfix id => exact s.name_setFixed id _
  | removeEntity id => exact s.name_removeEntity id
  | addConstraint kind ids value selectors driving =>
      exact s.name_addConstraint kind ids value selectors driving
  | updateConstraint id value => exact s.name_updateConstraint id value
  | removeConstraint id => rfl
  | clearConstraints => rfl
  | infer apply => exact s.name_inferConstraints apply
  | solve options => exact (retouched_solve s engine options).name
  | drag id x y selector => exact (retouched_drag s engine id x y selector).name

theorem name_after (engine : Engine α) (session : List (Command α)) :
    (s.after engine session).name = s.name := by
  induction session generalizing s with
  | nil => rfl
  | cons command rest ih => exact (ih _).trans (s.name_perform engine command)

end Sketch

/-! ## Marks -/

/-- A mark that is written as the truth value that it counts as. -/
def Mark.Plain (m : Mark) : Prop := ∃ on, m = .of on

theorem Mark.plain_of (on : Bool) : (Mark.of on).Plain := ⟨on, rfl⟩

/-- A command that gives entities plain marks and constraints marks of some property, if it gives
any. -/
def Command.Marks (P : Mark → Prop) : Command α → Prop
  | .addShape _ fixed => fixed.Plain
  | .addArcThrough _ _ _ _ _ _ fixed => fixed.Plain
  | .addConstraint _ _ _ _ driving => P driving
  | _ => True

/-- A sketch whose entities have different identifiers and plain marks, and whose constraints have
marks of some property. -/
structure Sketch.Tidy (P : Mark → Prop) (s : Sketch α) : Prop where
  distinct : (s.entities.map Entity.id).Nodup
  fixed : ∀ e ∈ s.entities, e.fixed.Plain
  driving : ∀ c ∈ s.constraints, P c.driving

theorem Entity.fixed_make {id : Int} {kind : EntityKind} {params : List α} {fixed : Mark}
    {e : Entity α} (made : Entity.make id kind params fixed = .ok e) : e.fixed = fixed := by
  unfold make at made
  split at made
  · cases made
  · split at made
    · cases made
      rfl
    · cases made

namespace Sketch

theorem mem_putEntity {e other : Entity α} {es : List (Entity α)} (among : other ∈ putEntity e es) :
    other = e ∨ other ∈ es := by
  induction es with
  | nil => exact .inl (List.mem_singleton.1 among)
  | cons f rest ih =>
      rw [putEntity] at among
      split at among
      · exact (List.mem_cons.1 among).imp id (List.mem_cons_of_mem f)
      · rcases List.mem_cons.1 among with rfl | later
        · exact .inr List.mem_cons_self
        · exact (ih later).imp id (List.mem_cons_of_mem f)

theorem nodup_putEntity {e : Entity α} {es : List (Entity α)}
    (distinct : (es.map Entity.id).Nodup) : ((putEntity e es).map Entity.id).Nodup := by
  by_cases present : e.id ∈ es.map Entity.id
  · rwa [map_id_putEntity present]
  · rw [putEntity_of_absent present, List.map_append, List.nodup_append_comm]
    exact List.nodup_cons.2 ⟨present, distinct⟩

namespace Tidy

variable {P : Mark → Prop} {s t : Sketch α}

theorem blank (name : Document) (defaults : Options α) : (Sketch.blank name defaults).Tidy P :=
  ⟨List.nodup_nil, fun _ among => absurd among List.not_mem_nil,
    fun _ among => absurd among List.not_mem_nil⟩

theorem imp {Q : Mark → Prop} (tidy : s.Tidy P) (weaker : ∀ m, P m → Q m) : s.Tidy Q :=
  ⟨tidy.distinct, tidy.fixed, fun c among => weaker c.driving (tidy.driving c among)⟩

/-- Tidiness is about entities and constraints only. -/
theorem congr (tidy : s.Tidy P) (entities : t.entities = s.entities)
    (constraints : t.constraints = s.constraints) : t.Tidy P :=
  ⟨entities ▸ tidy.distinct, entities ▸ tidy.fixed, constraints ▸ tidy.driving⟩

/-- A tidy sketch with another entity of a plain mark is tidy. -/
theorem withEntity (tidy : s.Tidy P) {e : Entity α} (fixed : e.fixed.Plain) :
    (s.withEntity e).Tidy P where
  distinct := nodup_putEntity tidy.distinct
  fixed other among := by
    rcases mem_putEntity among with rfl | old
    · exact fixed
    · exact tidy.fixed other old
  driving := tidy.driving

/-- A retouched sketch has the identifiers and the marks that it had. -/
theorem retouched (tidy : s.Tidy P) (same : t.Retouched s) : t.Tidy P where
  distinct := by
    rw [map_id_of_matches (same.entities.imp fun _ _ retouched => retouched.toMatches)]
    exact tidy.distinct
  fixed e among := by
    have marks : t.entities.map Entity.fixed = s.entities.map Entity.fixed := by
      rw [← List.forall₂_eq_eq_eq, List.forall₂_map_left_iff, List.forall₂_map_right_iff]
      exact same.entities.imp fun _ _ retouched => retouched.fixed
    have listed : e.fixed ∈ s.entities.map Entity.fixed := marks ▸ List.mem_map_of_mem among
    obtain ⟨before, present, mark⟩ := List.mem_map.1 listed
    exact mark ▸ tidy.fixed before present
  driving := same.constraints ▸ tidy.driving

/-- A tidy sketch with fewer entities and constraints is tidy. -/
theorem fewer (tidy : s.Tidy P) (entities : t.entities.Sublist s.entities)
    (constraints : t.constraints.Sublist s.constraints) : t.Tidy P where
  distinct := tidy.distinct.sublist (entities.map Entity.id)
  fixed e among := tidy.fixed e (entities.subset among)
  driving c among := tidy.driving c (constraints.subset among)

/-- A tidy sketch with more constraints of the right marks is tidy. -/
theorem append (tidy : s.Tidy P) {added : List (Constraint α)} (next : Int)
    (driving : ∀ c ∈ added, P c.driving) :
    { s with constraints := s.constraints ++ added, nextConstraint := next }.Tidy P where
  distinct := tidy.distinct
  fixed := tidy.fixed
  driving c among := by
    rcases List.mem_append.1 among with old | new
    · exact tidy.driving c old
    · exact driving c new

theorem addEntity (tidy : s.Tidy P) (kind : EntityKind) (params : List α) {fixed : Mark}
    (plain : fixed.Plain) : (s.addEntity kind params fixed).sketch.Tidy P := by
  refine Edit.of_keeps tidy fun t answer made => ?_
  obtain ⟨e, built, rest⟩ := bind_eq_ok.1 made
  cases rest
  have added := tidy.withEntity (e := e) (Entity.fixed_make built ▸ plain)
  exact added.congr rfl rfl

theorem addArcThrough (tidy : s.Tidy P) (sx sy mx my ex ey : α) {fixed : Mark}
    (plain : fixed.Plain) : (s.addArcThrough sx sy mx my ex ey fixed).sketch.Tidy P := by
  unfold Sketch.addArcThrough
  split
  · exact tidy.addEntity _ _ plain
  · exact tidy

theorem setParams (tidy : s.Tidy P) (id : Int) (params : List α) :
    (s.setParams id params).sketch.Tidy P := by
  refine Edit.of_keeps tidy fun t answer made => ?_
  obtain ⟨e, found, rest⟩ := bind_eq_ok.1 made
  obtain ⟨changed, built, rest⟩ := bind_eq_ok.1 rest
  cases rest
  exact tidy.withEntity (Entity.fixed_make built ▸ tidy.fixed e (entity_eq_ok found).1)

theorem setFixed (tidy : s.Tidy P) (id : Int) {fixed : Mark} (plain : fixed.Plain) :
    (s.setFixed id fixed).sketch.Tidy P := by
  refine Edit.of_keeps tidy fun t answer made => ?_
  obtain ⟨e, found, rest⟩ := bind_eq_ok.1 made
  cases rest
  exact tidy.withEntity plain

theorem removeEntity (tidy : s.Tidy P) (id : Int) : (s.removeEntity id).sketch.Tidy P := by
  unfold Sketch.removeEntity
  split
  · exact tidy
  · rw [List.partition_eq_filter_filter]
    exact tidy.fewer List.filter_sublist List.filter_sublist

theorem addConstraint (tidy : s.Tidy P) (kind : ConstraintKind) (ids : List Int)
    (value : Option α) (selectors : List String) {driving : Mark} (mark : P driving) :
    (s.addConstraint kind ids value selectors driving).sketch.Tidy P := by
  refine Edit.of_keeps tidy fun t answer made => ?_
  obtain ⟨⟨⟩, -, rest⟩ := bind_eq_ok.1 made
  split at rest
  · cases rest
  · cases rest
    refine tidy.append _ fun c among => ?_
    rw [List.mem_singleton.1 among]
    exact mark

theorem updateConstraint (tidy : s.Tidy P) (id : Int) (value : Option α) :
    (s.updateConstraint id value).sketch.Tidy P := by
  refine Edit.of_keeps tidy fun t answer made => ?_
  obtain ⟨old, found, rest⟩ := bind_eq_ok.1 made
  obtain ⟨⟨⟩, -, rest⟩ := bind_eq_ok.1 rest
  cases rest
  refine ⟨tidy.distinct, tidy.fixed, fun c among => ?_⟩
  obtain ⟨d, present, rfl⟩ := List.mem_map.1 among
  split
  · exact tidy.driving old (constraint_eq_ok found).1
  · exact tidy.driving d present

/-- Constraints that are inferred are driving, and marked so by a truth value. -/
theorem inferConstraints (tidy : s.Tidy P) (inferred : P (.of true)) (apply : Bool) :
    (s.inferConstraints apply).sketch.Tidy P := by
  unfold Sketch.inferConstraints
  dsimp only
  split
  · refine tidy.append _ fun c among => ?_
    obtain ⟨suggestion, -, n, rfl⟩ := Inference.mem_accept among
    exact inferred
  · exact tidy

/-- **Every command that gives the right marks keeps a sketch tidy.** -/
theorem perform (tidy : s.Tidy P) (inferred : P (.of true)) (engine : Engine α)
    {command : Command α} (marks : command.Marks P) : (s.perform engine command).sketch.Tidy P := by
  cases command with
  | addShape shape fixed => exact tidy.addEntity _ _ marks
  | addArcThrough sx sy mx my ex ey fixed => exact tidy.addArcThrough sx sy mx my ex ey marks
  | setParams id params => exact tidy.setParams id params
  | fix id => exact tidy.setFixed id (Mark.plain_of true)
  | unfix id => exact tidy.setFixed id (Mark.plain_of false)
  | removeEntity id => exact tidy.removeEntity id
  | addConstraint kind ids value selectors driving =>
      exact tidy.addConstraint kind ids value selectors marks
  | updateConstraint id value => exact tidy.updateConstraint id value
  | removeConstraint id => exact tidy.fewer (List.Sublist.refl _) List.eraseP_sublist
  | clearConstraints => exact tidy.fewer (List.Sublist.refl _) (List.nil_sublist _)
  | infer apply => exact tidy.inferConstraints inferred apply
  | solve options => exact tidy.retouched (retouched_solve s engine options)
  | drag id x y selector => exact tidy.retouched (retouched_drag s engine id x y selector)

theorem after (tidy : s.Tidy P) (inferred : P (.of true)) (engine : Engine α)
    {session : List (Command α)} (marks : ∀ command ∈ session, command.Marks P) :
    (s.after engine session).Tidy P := by
  induction session generalizing s with
  | nil => exact tidy
  | cons command rest ih =>
      obtain ⟨first, later⟩ := List.forall_mem_cons.1 marks
      exact ih (tidy.perform inferred engine first) later

end Tidy

end Sketch

end PlanarSketch
