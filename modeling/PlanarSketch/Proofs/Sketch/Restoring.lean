import PlanarSketch.Engine.Double
import PlanarSketch.Proofs.Sketch.Storage

/-!
# Going on with a restored sketch

A sketch that is stored and loaded has lost its options and its latest solution.  Neither is looked
at by a command that edits or infers (`Command.edits`), so such a command does to what is left of a
sketch what it does to the sketch (`Sketch.perform_stored`), and every session of such commands gets
the same replies from both (`Sketch.replies_stored`).

All of this holds of whatever a session makes of an empty sketch (`sketch_restored`), for any indent
that is blank.  With another indent the written form is no document (`sketch_not_restored_letter`).
-/

namespace PlanarSketch

set_option autoImplicit false

open Outcome

/-- A sketch that has everything of another one that is stored. -/
structure Sketch.Restores (t s : Sketch Float) : Prop where
  name : t.name = s.name
  entities : t.entities = s.entities
  constraints : t.constraints = s.constraints
  nextEntity : t.nextEntity = s.nextEntity
  nextConstraint : t.nextConstraint = s.nextConstraint

/-- Whether a command edits a sketch or infers constraints, rather than solving. -/
def Command.edits {α : Type} : Command α → Bool
  | .solve _ => false
  | .drag _ _ _ _ => false
  | _ => true

/-- What a session is replied, command by command. -/
def Sketch.replies {α : Type} [Scalar α] (engine : Engine α) (s : Sketch α) :
    List (Command α) → List (Except (Fault α) (Reply α))
  | [] => []
  | command :: rest =>
    (s.perform engine command).outcome :: (s.perform engine command).sketch.replies engine rest

/-- The edit as it is for what is stored of a sketch. -/
def Edit.stored {β : Type} (e : Edit Float β) : Edit Float β := { e with sketch := e.sketch.stored }

theorem Edit.of_stored {β : Type} {s : Sketch Float}
    {result result' : Except (Fault Float) (Sketch Float × β)}
    (same : result' = result.map fun (t, answer) => (t.stored, answer)) :
    Edit.of s.stored result' = (Edit.of s result).stored := by
  rw [same]
  cases result <;> rfl

namespace Sketch

variable {s : Sketch Float}

theorem entity_stored (id : Int) : s.stored.entity id = s.entity id := rfl

theorem constraint_stored (id : Int) : s.stored.constraint id = s.constraint id := rfl

theorem addEntity_stored (kind : EntityKind) (params : List Float) (fixed : Mark) :
    s.stored.addEntity kind params fixed = (s.addEntity kind params fixed).stored := by
  refine Edit.of_stored ?_
  change Entity.make s.nextEntity kind params fixed >>= _ = _
  cases Entity.make s.nextEntity kind params fixed <;> rfl

theorem addArcThrough_stored (sx sy mx my ex ey : Float) (fixed : Mark) :
    s.stored.addArcThrough sx sy mx my ex ey fixed =
      (s.addArcThrough sx sy mx my ex ey fixed).stored := by
  unfold addArcThrough
  split
  · exact addEntity_stored _ _ _
  · rfl

theorem setParams_stored (id : Int) (params : List Float) :
    s.stored.setParams id params = (s.setParams id params).stored := by
  refine Edit.of_stored ?_
  rw [entity_stored]
  cases s.entity id with
  | error fault => rfl
  | ok e =>
      change e.withParams params >>= _ = (e.withParams params >>= _).map _
      cases e.withParams params <;> rfl

theorem setFixed_stored (id : Int) (fixed : Mark) :
    s.stored.setFixed id fixed = (s.setFixed id fixed).stored := by
  refine Edit.of_stored ?_
  rw [entity_stored]
  cases s.entity id <;> rfl

theorem removeEntity_stored (id : Int) :
    s.stored.removeEntity id = (s.removeEntity id).stored := by
  rw [removeEntity, removeEntity, entity_stored]
  cases s.entity id <;> rfl

theorem addConstraint_stored (kind : ConstraintKind) (ids : List Int) (value : Option Float)
    (selectors : List String) (driving : Mark) :
    s.stored.addConstraint kind ids value selectors driving =
      (s.addConstraint kind ids value selectors driving).stored := by
  have dangling : (ids.find? fun id => !s.stored.entities.any (·.id == id)) =
      ids.find? fun id => !s.entities.any (·.id == id) := rfl
  unfold addConstraint
  rw [dangling]
  refine Edit.of_stored ?_
  change (Constraint.mk s.nextConstraint kind ids value selectors driving).check >>= _ =
    ((Constraint.mk s.nextConstraint kind ids value selectors driving).check >>= _).map _
  cases (Constraint.mk s.nextConstraint kind ids value selectors driving).check with
  | error fault => rfl
  | ok _ =>
      generalize (ids.find? fun id => !s.entities.any (·.id == id)) = found
      cases found <;> rfl

theorem updateConstraint_stored (id : Int) (value : Option Float) :
    s.stored.updateConstraint id value = (s.updateConstraint id value).stored := by
  refine Edit.of_stored ?_
  rw [constraint_stored]
  cases s.constraint id with
  | error fault => rfl
  | ok old =>
      let new := old.withValue (if old.kind = .angle then value.map Scalar.radians else value)
      change new.check >>= _ = (new.check >>= _).map _
      cases new.check <;> rfl

theorem inferConstraints_stored (apply : Bool) :
    s.stored.inferConstraints apply = (s.inferConstraints apply).stored := by
  have found : Inference.infer .standard s.stored.entities s.stored.constraints
      s.stored.nextConstraint =
    Inference.infer .standard s.entities s.constraints s.nextConstraint := rfl
  unfold inferConstraints
  rw [found]
  generalize Inference.infer .standard s.entities s.constraints s.nextConstraint = found
  cases apply with
  | false => rfl
  | true =>
      dsimp only
      cases found.getLast? <;> rfl

/-- **A command that edits or infers does to what is stored of a sketch what it does to the
sketch**, and answers and reports the same. -/
theorem perform_stored (engine : Engine Float) {command : Command Float}
    (edits : command.edits = true) :
    s.stored.perform engine command = (s.perform engine command).stored := by
  cases command with
  | addShape shape fixed => exact congrArg (Edit.map _) (addEntity_stored _ _ _)
  | addArcThrough sx sy mx my ex ey fixed =>
      exact congrArg (Edit.map _) (addArcThrough_stored sx sy mx my ex ey fixed)
  | setParams id params => exact congrArg (Edit.map _) (setParams_stored id params)
  | fix id => exact congrArg (Edit.map _) (setFixed_stored id _)
  | unfix id => exact congrArg (Edit.map _) (setFixed_stored id _)
  | removeEntity id => exact congrArg (Edit.map _) (removeEntity_stored id)
  | addConstraint kind ids value selectors driving =>
      exact congrArg (Edit.map _) (addConstraint_stored kind ids value selectors driving)
  | updateConstraint id value => exact congrArg (Edit.map _) (updateConstraint_stored id value)
  | removeConstraint id => rfl
  | clearConstraints => rfl
  | infer apply => exact congrArg (Edit.map _) (inferConstraints_stored apply)
  | solve options => cases edits
  | drag id x y selector => cases edits

/-- Sessions that edit or infer get the same replies, and leave the same of what is stored. -/
theorem replies_stored (engine : Engine Float) {session : List (Command Float)}
    (edits : ∀ command ∈ session, command.edits = true) :
    s.stored.replies engine session = s.replies engine session ∧
      s.stored.after engine session = (s.after engine session).stored := by
  induction session generalizing s with
  | nil => exact ⟨rfl, rfl⟩
  | cons command rest ih =>
      obtain ⟨first, later⟩ := List.forall_mem_cons.1 edits
      have performed := perform_stored (s := s) engine first
      obtain ⟨replies, left⟩ := ih (s := (s.perform engine command).sketch) later
      constructor
      · rw [Sketch.replies, Sketch.replies, performed]
        exact congrArg _ replies
      · rw [Sketch.after, List.foldl_cons, performed]
        exact left

theorem restores_stored (s : Sketch Float) : s.stored.Restores s := ⟨rfl, rfl, rfl, rfl, rfl⟩

end Sketch

/-- **A sketch is restored as it was.**  Let a session on an empty sketch edit, infer, solve and
drag, with refusals on the way, and with truth values for marks.  Its record is loaded as a sketch
of the same name, entities, constraints and counters.  So is its written form, with any blank
indent or none and in either order of fields, if the texts, truth values, whole numbers and
ordinary reals in it are read back when they stand alone.  Whatever is edited or inferred later has
the same answers and refusals on the restored sketch, and restores it again. -/
theorem sketch_restored (engine : Engine Float) (name : String) (defaults : Options Float)
    {session : List (Command Float)} (plain : ∀ command ∈ session, command.Marks Mark.Plain)
    {s : Sketch Float} (reached : s = (Sketch.blank (.text name) defaults).after engine session) :
    ∃ t, Sketch.ofDocument s.toDocument = .ok t ∧
      ((∀ d ∈ s.toDocument.scalars, d.Ordinary → d.ReadsBack) →
        ∀ (indent : Option String) (sorted : Bool),
          (∀ step ∈ indent, Document.Blank step.toList) →
            Sketch.ofText (s.toText (.of indent sorted)) = .ok t) ∧
      t.Restores s ∧
      ∀ later : List (Command Float), (∀ command ∈ later, command.edits = true) →
        t.replies engine later = s.replies engine later ∧
          (t.after engine later).Restores (s.after engine later) := by
  have coherent : s.Coherent := reached ▸ (Sketch.Coherent.blank _ defaults).after engine session
  have tidy : s.Tidy Mark.Plain :=
    reached ▸ (Sketch.Tidy.blank _ defaults).after (Mark.plain_of true) engine plain
  have named : s.name = .text name := reached ▸ Sketch.name_after _ engine session
  refine ⟨s.stored, Sketch.ofDocument_toDocument tidy, ?_, s.restores_stored, ?_⟩
  · intro reads indent sorted blank
    exact Sketch.ofText_toText coherent tidy named reads (Document.Spacing.lawful_of blank sorted)
  · intro later edits
    obtain ⟨replies, left⟩ := Sketch.replies_stored (s := s) engine edits
    exact ⟨replies, left ▸ (s.after engine later).restores_stored⟩

namespace Sketch.Plate

/-- A line that is removed again, and a circle with a radius to meet. -/
def session : List (Command Float) :=
  [.addShape (.line 0 0 1.5 (-0.25)) (.of true),
    .addShape (.circle 0.5 (-0.25) 1.5) (.of false), .removeEntity 0,
    .addConstraint .radius [1] (some 1.5) [] (.of true)]

/-- The sketch of the circle, whose counters are ahead of its identifiers. -/
def plate : Sketch Float :=
  (Sketch.blank (.text "Plate") .standard).after Double.engine session

theorem reads_plate : ∀ d ∈ plate.toDocument.scalars, d.ReadsBack := by
  have scalars : plate.toDocument.scalars =
      [.text "name", .text "Plate", .text "entities", .text "eid", .whole 1, .text "kind",
        .text "CIRCLE", .text "params", .real 0.5, .real (-0.25), .real 1.5, .text "fixed",
        .truth false, .text "constraints", .text "cid", .whole 0, .text "kind", .text "RADIUS",
        .text "entity_ids", .whole 1, .text "value", .real 1.5, .text "selectors", .text "driving",
        .truth true, .text "next_eid", .whole 2, .text "next_cid", .whole 1] := rfl
  rw [scalars]
  simp only [List.forall_mem_cons]
  refine ⟨rfl, rfl, rfl, rfl, rfl, rfl, rfl, rfl, rfl, rfl, rfl, rfl, rfl, rfl, rfl, rfl, rfl, rfl,
    rfl, rfl, rfl, rfl, rfl, rfl, rfl, rfl, rfl, rfl, rfl, ?_⟩
  exact fun _ among => absurd among List.not_mem_nil

end Sketch.Plate

/-- The sketch of the circle is restored from its written form with tabs and fields in order. -/
theorem sketch_restored_plate :
    (∀ command ∈ Sketch.Plate.session, command.Marks Mark.Plain) ∧
    ∃ t, Sketch.ofText (Sketch.Plate.plate.toText (.of (some "\t") true)) = .ok t ∧
      t.Restores Sketch.Plate.plate ∧ t.replies Double.engine [.removeEntity 1] =
        Sketch.Plate.plate.replies Double.engine [.removeEntity 1] := by
  have plain : ∀ command ∈ Sketch.Plate.session, command.Marks Mark.Plain := by
    simp only [Sketch.Plate.session, List.forall_mem_cons]
    exact ⟨Mark.plain_of true, Mark.plain_of false, trivial, Mark.plain_of true,
      fun _ among => absurd among List.not_mem_nil⟩
  obtain ⟨t, -, read, restores, later⟩ :=
    sketch_restored Double.engine "Plate" .standard plain (s := Sketch.Plate.plate) rfl
  refine ⟨plain, t, ?_, restores, (later [.removeEntity 1] (by simp [Command.edits])).1⟩
  refine read (fun d among _ => Sketch.Plate.reads_plate d among) (some "\t") true ?_
  decide

/-- **An indent that is not blank spoils the written form.**  The scalars of the empty sketch are
all read back, but its written form with a letter for an indent is refused. -/
theorem sketch_not_restored_letter :
    (∀ d ∈ (Sketch.blank Sketch.standardName .standard : Sketch Float).toDocument.scalars,
      d.ReadsBack) ∧
    Sketch.ofText ((Sketch.blank Sketch.standardName .standard).toText (.of (some "x") false)) =
      .error (.document .malformed) := by
  refine ⟨?_, rfl⟩
  have scalars : (Sketch.blank Sketch.standardName .standard : Sketch Float).toDocument.scalars =
      [.text "name", .text "Sketch", .text "entities", .text "constraints", .text "next_eid",
        .whole 0, .text "next_cid", .whole 0] := rfl
  rw [scalars]
  simp only [List.forall_mem_cons]
  refine ⟨rfl, rfl, rfl, rfl, rfl, rfl, rfl, rfl, ?_⟩
  exact fun _ among => absurd among List.not_mem_nil

end PlanarSketch
