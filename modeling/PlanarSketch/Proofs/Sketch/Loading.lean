import PlanarSketch.Engine.Double
import PlanarSketch.Proofs.Registry.Faithfulness
import PlanarSketch.Proofs.Sketch.Sessions
import PlanarSketch.Proofs.Solve.Preparation

/-!
# The counters of loaded sketches

A counter that is stored is taken as it stands, and only one that is missing is made to follow the
identifiers that were loaded (`Sketch.counted_of_ofDocument`).

No session issues an identifier below the counter that it starts from, and some session issues any
given one from the counter on.  So a loaded entity can be overwritten, and the identifier of a
loaded constraint can be given again, exactly when its identifier is not below the counter
(`stored_counters_trusted`).  Once two constraints share an identifier, every solve is refused.
-/

namespace PlanarSketch

set_option autoImplicit false

open Outcome

theorem Fault.ofDocument_eq_ok {α β : Type} {result : Except DocumentFault β} {b : β}
    (read : (Fault.ofDocument result : Except (Fault α) β) = .ok b) : result = .ok b := by
  cases result with
  | ok _ => exact congrArg _ (Except.ok.inj read)
  | error cause => cases read

namespace Sketch

/-! ## Counters of a stored sketch -/

/-- A counter is the one that is stored, or ahead of all identifiers in use if none is stored. -/
def Counted (stored : Option Document) (ids : List Int) (counter : Int) : Prop :=
  match stored with
  | none => ∀ id ∈ ids, id < counter
  | some n => n.integer = .ok counter

theorem lt_following {ids : List Int} {id : Int} (used : id ∈ ids) : id < following ids := by
  cases ids with
  | nil => cases used
  | cons first rest =>
      have largest : (first :: rest).max? = some (rest.foldl max first) := List.max?_cons'
      exact Int.lt_add_one_of_le ((List.max?_eq_some_iff.1 largest).2 id used)

theorem counted_of_storedNumber {d : Document} {key : String} {ids : List Int} {counter : Int}
    (read : storedNumber d key (following ids) = .ok counter) :
    Counted (d.field? key) ids counter := by
  unfold storedNumber at read
  unfold Counted
  cases stored : d.field? key with
  | none =>
      rw [stored] at read
      cases read
      exact fun id used => lt_following used
  | some n =>
      rw [stored] at read
      exact read

/-- Both counters of a loaded sketch are the stored ones, or else ahead of what was loaded. -/
theorem counted_of_ofDocument {d : Document} {s : Sketch Float} (read : ofDocument d = .ok s) :
    Counted (d.field? "next_eid") (s.entities.map Entity.id) s.nextEntity ∧
      Counted (d.field? "next_cid") (s.constraints.map Constraint.id) s.nextConstraint := by
  obtain ⟨-, -, rest⟩ := bind_eq_ok.1 read
  obtain ⟨_, -, rest⟩ := bind_eq_ok.1 rest
  obtain ⟨_, -, rest⟩ := bind_eq_ok.1 rest
  obtain ⟨_, -, rest⟩ := bind_eq_ok.1 rest
  obtain ⟨_, -, rest⟩ := bind_eq_ok.1 rest
  obtain ⟨nextEntity, first, rest⟩ := bind_eq_ok.1 rest
  obtain ⟨nextConstraint, second, rest⟩ := bind_eq_ok.1 rest
  cases rest
  exact ⟨counted_of_storedNumber (Fault.ofDocument_eq_ok first),
    counted_of_storedNumber (Fault.ofDocument_eq_ok second)⟩

end Sketch

/-! ## What a session can reach -/

section Reached

variable {α : Type} [Scalar α]

/-- The numbers that a command gives to constraints, be they added or only inferred. -/
def Command.constraintsNumbered : Command α → Except (Fault α) (Reply α) → List Int
  | .addConstraint .., outcome => Reply.addedId outcome
  | .infer _, outcome => Reply.listedIds outcome
  | _, _ => []

namespace Sketch

variable {s : Sketch α}

/-- After some session, a command issues an identifier under which there is an entity. -/
def Overwrites (engine : Engine α) (s : Sketch α) (id : Int) : Prop :=
  ∃ session, ∃ command : Command α, id ∈ (s.after engine session).entities.map Entity.id ∧
    id ∈ command.entitiesIssued ((s.after engine session).perform engine command).outcome

/-- After some session, a command gives a constraint some identifier. -/
def Repeats (engine : Engine α) (s : Sketch α) (id : Int) : Prop :=
  ∃ session, ∃ command : Command α,
    id ∈ command.constraintsNumbered ((s.after engine session).perform engine command).outcome

/-- Constraints are numbered from the counter on, whether they are kept or not. -/
theorem le_of_constraintsNumbered (engine : Engine α) {command : Command α} {id : Int}
    (numbered : id ∈ command.constraintsNumbered (s.perform engine command).outcome) :
    s.nextConstraint ≤ id := by
  cases command with
  | addConstraint kind ids value selectors driving =>
      exact ((s.issues_addConstraint kind ids value selectors driving).constraints.within id
        numbered).1
  | infer apply => exact ((Inference.accept_numbered _ _ _).within id numbered).1
  | _ => cases numbered

/-! ## Additions that succeed -/

/-- A shape of ordinary numbers is added. -/
theorem perform_addShape (engine : Engine α) {shape : Shape α} (finite : shape.isFinite = true)
    (fixed : Mark) :
    s.perform engine (.addShape shape fixed) = .done
      { s.withEntity ⟨s.nextEntity, shape, fixed, finite⟩ with nextEntity := s.nextEntity + 1 }
      (.added s.nextEntity) := by
  have made : Entity.make s.nextEntity shape.kind shape.params fixed =
      .ok ⟨s.nextEntity, shape, fixed, finite⟩ := Entity.make_params ⟨s.nextEntity, _, _, finite⟩
  change Edit.map Reply.added (s.addShape shape fixed) = _
  rw [addShape, addEntity, made]
  rfl

/-- A constraint that passes its check and names entities that are there is added. -/
theorem perform_addConstraint (engine : Engine α) {kind : ConstraintKind} {ids : List Int}
    {value : Option α} {selectors : List String} {driving : Mark}
    (checked : Constraint.check ⟨s.nextConstraint, kind, ids, value, selectors, driving⟩ = .ok ())
    (known : ∀ id ∈ ids, id ∈ s.entities.map Entity.id) :
    s.perform engine (.addConstraint kind ids value selectors driving) = .done
      { s with
        constraints := s.constraints ++ [⟨s.nextConstraint, kind, ids, value, selectors, driving⟩]
        nextConstraint := s.nextConstraint + 1 } (.added s.nextConstraint) := by
  have none : (ids.find? fun id => !s.entities.any (·.id == id)) = none := by
    rw [List.find?_eq_none]
    intro id named
    obtain ⟨e, present, same⟩ := List.mem_map.1 (known id named)
    simpa using ⟨e, present, same⟩
  change Edit.map Reply.added (s.addConstraint kind ids value selectors driving) = _
  unfold addConstraint
  dsimp only
  rw [checked]
  dsimp only [bind, Except.bind]
  rw [none]
  rfl

theorem mem_putEntity_self {e : Entity α} {es : List (Entity α)} : e ∈ putEntity e es := by
  induction es with
  | nil => exact List.mem_singleton_self e
  | cons f rest ih =>
      unfold putEntity
      split
      · exact List.mem_cons_self
      · exact List.mem_cons_of_mem f ih

theorem mem_putEntity_of_ne {e other : Entity α} {es : List (Entity α)} (among : other ∈ es)
    (differ : other.id ≠ e.id) : other ∈ putEntity e es := by
  induction es with
  | nil => cases among
  | cons f rest ih =>
      unfold putEntity
      rcases List.mem_cons.1 among with rfl | later
      · rw [if_neg differ]
        exact List.mem_cons_self
      · split
        · exact List.mem_cons_of_mem e later
        · exact List.mem_cons_of_mem f (ih later)

/-! ## Additions one after the other -/

theorem after_cons (engine : Engine α) (command : Command α) (rest : List (Command α)) :
    s.after engine (command :: rest) = (s.perform engine command).sketch.after engine rest := rfl

theorem after_concat (engine : Engine α) (session : List (Command α)) (command : Command α) :
    s.after engine (session ++ [command]) =
      ((s.after engine session).perform engine command).sketch := by
  rw [after, List.foldl_append]
  rfl

/-- What a command keeps up is kept up when it is performed again and again. -/
theorem after_replicate {engine : Engine α} {command : Command α} {P : ℕ → Sketch α → Prop}
    (start : P 0 s) (step : ∀ k t, P k t → P (k + 1) (t.perform engine command).sketch) (k : ℕ) :
    P k (s.after engine (List.replicate k command)) := by
  induction k with
  | zero => exact start
  | succ k ih =>
      rw [List.replicate_succ', after_concat]
      exact step k _ ih

/-- Additions one after the other number what they add from the counter on, and leave the entities
whose identifiers are behind these numbers. -/
theorem after_additions (engine : Engine α) {shape : Shape α} (finite : shape.isFinite = true)
    (fixed : Mark) (k : ℕ) :
    (s.after engine (List.replicate k (.addShape shape fixed))).nextEntity = s.nextEntity + k ∧
      ∀ e ∈ s.entities, s.nextEntity + k ≤ e.id →
        e ∈ (s.after engine (List.replicate k (.addShape shape fixed))).entities := by
  refine after_replicate (P := fun k t => t.nextEntity = s.nextEntity + k ∧
    ∀ e ∈ s.entities, s.nextEntity + k ≤ e.id → e ∈ t.entities)
    ⟨(Int.add_zero _).symm, fun e present _ => present⟩ ?_ k
  rintro k t ⟨counter, kept⟩
  rw [perform_addShape engine finite fixed]
  push_cast
  constructor
  · rw [← Int.add_assoc, ← counter]
    rfl
  intro e present ahead
  refine mem_putEntity_of_ne (kept e present (by omega)) fun same => ?_
  have number : e.id = t.nextEntity := same
  omega

/-- The demand that a line is horizontal. -/
def level (id : Int) : Command α := .addConstraint .horizontal [id] none [] (.of true)

theorem perform_level (engine : Engine α) {id : Int} (known : id ∈ s.entities.map Entity.id) :
    s.perform engine (level id) = .done
      { s with
        constraints := s.constraints ++ [⟨s.nextConstraint, .horizontal, [id], none, [], .of true⟩]
        nextConstraint := s.nextConstraint + 1 } (.added s.nextConstraint) :=
  perform_addConstraint engine rfl fun _ named => List.mem_singleton.1 named ▸ known

/-- Demands on one line, added one after the other, are numbered from the counter on and stand
behind the constraints that are there. -/
theorem after_levels (engine : Engine α) {id : Int} (known : id ∈ s.entities.map Entity.id)
    (k : ℕ) :
    (s.after engine (List.replicate k (level id))).entities = s.entities ∧
      (s.after engine (List.replicate k (level id))).nextConstraint = s.nextConstraint + k ∧
      s.constraints ⊆ (s.after engine (List.replicate k (level id))).constraints := by
  refine after_replicate (P := fun k t => t.entities = s.entities ∧
    t.nextConstraint = s.nextConstraint + k ∧ s.constraints ⊆ t.constraints)
    ⟨rfl, (Int.add_zero _).symm, List.Subset.refl _⟩ ?_ k
  rintro k t ⟨entities, counter, kept⟩
  rw [perform_level engine (entities ▸ known)]
  push_cast
  refine ⟨entities, ?_, List.subset_append_of_subset_left _ kept⟩
  rw [← Int.add_assoc, ← counter]
  rfl

/-- A solve is refused for two constraints of one identifier, whatever else there is. -/
theorem solve_of_repeated (engine : Engine α) (distinct : (s.entities.map Entity.id).Nodup)
    (repeated : ¬(s.constraints.map Constraint.id).Nodup) (options : Option (Options α)) :
    ∃ c ∈ s.constraints,
      (s.solve engine options).outcome = .error (.duplicateConstraint c.identifier) := by
  obtain ⟨c, among, refused⟩ := Problem.prepare_of_repeated distinct repeated
  refine ⟨c, among, solve_outcome_of_error ?_⟩
  rw [solve_outcome, refused]
  rfl

end Sketch

end Reached

/-! ## Loaded sketches -/

namespace Sketch

variable {s : Sketch Float}

/-- An entity can be overwritten exactly when its identifier is not below the counter. -/
theorem overwrites_iff (engine : Engine Float) {e : Entity Float} (present : e ∈ s.entities) :
    s.Overwrites engine e.id ↔ s.nextEntity ≤ e.id := by
  constructor
  · rintro ⟨session, command, -, issued⟩
    have later := (s.after_issues engine session).entities.order
    exact later.trans
      (((s.after engine session).perform_issues engine command).entities.within e.id issued).1
  · intro ahead
    have finite : (Shape.point 0 0 : Shape Float).isFinite = true := by decide
    obtain ⟨k, reached⟩ := Int.le.dest ahead
    obtain ⟨counter, kept⟩ := after_additions (s := s) engine finite (.of false) k
    have there := List.mem_map_of_mem (f := Entity.id) (kept e present reached.le)
    refine ⟨_, .addShape (.point 0 0) (.of false), there, ?_⟩
    rw [perform_addShape engine finite]
    exact List.mem_singleton.2 (reached.symm.trans counter.symm)

/-- A line, and some demands on it. -/
def demanding (s : Sketch Float) (k : ℕ) : List (Command Float) :=
  .addShape (.line 0 0 1 0) (.of false) :: List.replicate k (level s.nextEntity)

/-- A session of demands leaves the line and all constraints there, and it has advanced the counter
of constraints. -/
theorem after_demanding (engine : Engine Float) (k : ℕ) :
    s.nextEntity ∈ (s.after engine (s.demanding k)).entities.map Entity.id ∧
      (s.after engine (s.demanding k)).nextConstraint = s.nextConstraint + k ∧
      s.constraints ⊆ (s.after engine (s.demanding k)).constraints ∧
      ((s.entities.map Entity.id).Nodup →
        ((s.after engine (s.demanding k)).entities.map Entity.id).Nodup) := by
  have finite : (Shape.line 0 0 1 0 : Shape Float).isFinite = true := by decide
  rw [demanding, after_cons, perform_addShape engine finite]
  have known : s.nextEntity ∈ (putEntity ⟨s.nextEntity, _, .of false, finite⟩ s.entities).map
      Entity.id := List.mem_map_of_mem (f := Entity.id) mem_putEntity_self
  obtain ⟨entities, counter, kept⟩ := after_levels engine (s := { s.withEntity
    ⟨s.nextEntity, _, .of false, finite⟩ with nextEntity := s.nextEntity + 1 }) known k
  refine ⟨?_, counter, kept, fun distinct => ?_⟩
  · exact entities ▸ known
  · exact entities ▸ nodup_putEntity distinct

/-- An identifier can be given to a constraint exactly when it is not below the counter. -/
theorem repeats_iff (engine : Engine Float) {id : Int} :
    s.Repeats engine id ↔ s.nextConstraint ≤ id := by
  constructor
  · rintro ⟨session, command, numbered⟩
    have later := (s.after_issues engine session).constraints.order
    exact later.trans (le_of_constraintsNumbered engine numbered)
  · intro ahead
    obtain ⟨k, reached⟩ := Int.le.dest ahead
    obtain ⟨known, counter, -, -⟩ := after_demanding (s := s) engine k
    refine ⟨s.demanding k, level s.nextEntity, ?_⟩
    rw [perform_level engine known]
    exact List.mem_singleton.2 (reached.symm.trans counter.symm)

/-- If the identifier of a constraint is not below the counter, then some session leads to a sketch
that cannot be solved any more. -/
theorem exists_unsolvable (engine : Engine Float) (distinct : (s.entities.map Entity.id).Nodup)
    {c : Constraint Float} (present : c ∈ s.constraints) (ahead : s.nextConstraint ≤ c.id) :
    ∃ session, ∀ options, ∃ d ∈ (s.after engine session).constraints,
      ((s.after engine session).solve engine options).outcome =
        .error (.duplicateConstraint d.identifier) := by
  obtain ⟨k, reached⟩ := Int.le.dest ahead
  obtain ⟨known, counter, kept, apart⟩ := after_demanding (s := s) engine k
  refine ⟨s.demanding k ++ [level s.nextEntity], ?_⟩
  rw [after_concat, perform_level engine known]
  refine solve_of_repeated engine (apart distinct) fun numbered => ?_
  -- the last demand has the number of the constraint that is still there
  dsimp only [Edit.done] at numbered
  rw [List.map_append, List.nodup_append_comm] at numbered
  refine (List.nodup_cons.1 numbered).1 ?_
  exact List.mem_map.2 ⟨c, kept present, (counter.trans reached).symm⟩

end Sketch

/-- **Loading trusts the counters that are stored.**  A counter that is missing is ahead of all
identifiers that were loaded; one that is stored is taken, whatever was loaded.  A loaded entity can
be overwritten by an addition, and the identifier of a loaded constraint can be given to another
one that is added or inferred, exactly when its identifier is not below the counter.  For such a
constraint there is a session after which every solve is refused, since an identifier is
repeated. -/
theorem stored_counters_trusted {d : Document} {s : Sketch Float}
    (read : Sketch.ofDocument d = .ok s) (engine : Engine Float) :
    Sketch.Counted (d.field? "next_eid") (s.entities.map Entity.id) s.nextEntity ∧
    Sketch.Counted (d.field? "next_cid") (s.constraints.map Constraint.id) s.nextConstraint ∧
    (∀ e ∈ s.entities, s.Overwrites engine e.id ↔ s.nextEntity ≤ e.id) ∧
    ∀ c ∈ s.constraints, (s.Repeats engine c.id ↔ s.nextConstraint ≤ c.id) ∧
      (s.nextConstraint ≤ c.id → ∃ session, ∀ options,
        ∃ other ∈ (s.after engine session).constraints,
          ((s.after engine session).solve engine options).outcome =
            .error (.duplicateConstraint other.identifier)) := by
  obtain ⟨entities, constraints⟩ := Sketch.counted_of_ofDocument read
  have distinct := (Sketch.tidy_ofDocument read).distinct
  refine ⟨entities, constraints, fun e present => Sketch.overwrites_iff engine present, ?_⟩
  intro c present
  exact ⟨Sketch.repeats_iff engine, Sketch.exists_unsolvable engine distinct present⟩

namespace Sketch.Behind

/-- A stored sketch of one point, whose counter stands at the identifier of that point. -/
def stored : Document :=
  .record
    [("entities", .list [.record
        [("eid", .whole 0), ("kind", .text "POINT"), ("params", .list [.whole 1, .whole 2])]]),
      ("next_eid", .whole 0)]

/-- The point that is stored. -/
def loaded : Entity Float := ⟨0, .point 1 2, .of false, by decide⟩

/-- The point that is added next. -/
def added : Entity Float := ⟨0, .point 3 4, .of false, by decide⟩

/-- The sketch of one point, with a given counter. -/
def sketch (e : Entity Float) (next : Int) : Sketch Float :=
  { Sketch.blank standardName .standard with entities := [e], nextEntity := next }

theorem ofDocument_stored : ofDocument stored = .ok (sketch loaded 0) := rfl

end Sketch.Behind

open Sketch.Behind in
/-- The point that was loaded can be overwritten. -/
theorem stored_counters_trusted_behind :
    Sketch.ofDocument stored = .ok (sketch loaded 0) ∧
      (sketch loaded 0).Overwrites Double.engine loaded.id := by
  obtain ⟨-, -, overwritten, -⟩ := stored_counters_trusted ofDocument_stored Double.engine
  exact ⟨ofDocument_stored, (overwritten loaded (List.mem_singleton_self _)).2 (Int.le_refl 0)⟩

open Sketch.Behind in
/-- **The next point that is added takes the place of the one that was loaded.** -/
theorem loaded_point_overwritten :
    Sketch.ofDocument stored = .ok (sketch loaded 0) ∧
      ¬(∀ e ∈ (sketch loaded 0).entities, e.id < (sketch loaded 0).nextEntity) ∧
      (sketch loaded 0).addShape (.point 3 4) (.of false) = .done (sketch added 1) 0 :=
  ⟨ofDocument_stored, fun ahead => absurd (ahead loaded (List.mem_singleton_self _)) (by decide),
    rfl⟩

end PlanarSketch
