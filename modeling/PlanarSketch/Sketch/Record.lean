import PlanarSketch.Constraint.Record
import PlanarSketch.Document.Reader
import PlanarSketch.Document.Writer
import PlanarSketch.Entity.Record
import PlanarSketch.Sketch

/-!
# Stored sketches

A sketch is stored as a record of its name, its entities, its constraints and the
two numbers that come next.  Everything may be missing: numbers that are not stored
are taken to follow the largest that is in use.  Those that are stored have to be
whole.  Entities that share an identifier are one entity, the last of them in the
place of the first.

The options of a sketch and its latest solution are not stored.
-/

namespace PlanarSketch.Sketch

set_option autoImplicit false

/-- The record of a sketch. -/
def toDocument (s : Sketch Float) : Document :=
  .record
    [("name", s.name), ("entities", .list (s.entities.map Entity.toDocument)),
      ("constraints", .list (s.constraints.map Constraint.toDocument)),
      ("next_eid", .whole s.nextEntity), ("next_cid", .whole s.nextConstraint)]

/-- The number that follows all of some numbers, and is not negative for none. -/
def following (ids : List Int) : Int :=
  match ids with
  | [] => 0
  | id :: rest => rest.foldl max id + 1

/-- A stored number, or the one to take when it is missing.  Only whole numbers can come next in a
sketch, so anything else that is stored is refused, which is stricter than taking it as it stands;
a truth value is taken for the number that it equals. -/
def storedNumber (d : Document) (key : String) (otherwise : Int) : Except DocumentFault Int :=
  match d.field? key with
  | none => .ok otherwise
  | some n => n.integer

/-- The sketch of a record, with standard options. -/
def ofDocument (d : Document) : Except (Fault Float) (Sketch Float) := do
  let _ ← Fault.ofDocument d.fields
  let name := (d.field? "name").getD standardName
  let entityRecords ← Fault.ofDocument (((d.field? "entities").getD (.list [])).items)
  let read ← entityRecords.mapM Entity.ofDocument
  let entities := read.foldl (fun kept e => putEntity e kept) []
  let constraintRecords ← Fault.ofDocument (((d.field? "constraints").getD (.list [])).items)
  let constraints ← constraintRecords.mapM Constraint.ofDocument
  let nextEntity ← Fault.ofDocument
    (storedNumber d "next_eid" (following (entities.map Entity.id)))
  let nextConstraint ← Fault.ofDocument
    (storedNumber d "next_cid" (following (constraints.map Constraint.id)))
  .ok
    { name, entities, constraints, defaults := .standard, lastSolution := none, nextEntity,
      nextConstraint }

/-- The entity that is looked up; one that a number equals counts as looked up by it. -/
def lookUpEntity (s : Sketch Float) (asked : Document) : Except (Fault Float) (Entity Float) := do
  let asked ← Fault.ofDocument asked.key
  Fault.require (.noEntity s.name asked)
    (asked.whole?.bind fun id => s.entities.find? (·.id == id))

/-- The constraint that is looked up. -/
def lookUpConstraint (s : Sketch Float) (asked : Document) :
    Except (Fault Float) (Constraint Float) :=
  Fault.require (.noConstraint s.name asked)
    (asked.whole?.bind fun id => s.constraints.find? (·.id == id))

/-- The name of the point that an entity is dragged by, when it is one that it can be dragged by. -/
def dragSelector (e : Entity Float) (selector : Document) : Except (Fault Float) String :=
  match selector with
  | .text name => (draggedParams e name 0.0 0.0).map fun _ => name
  | _ => (draggedParams e Anchor.center.name 0.0 0.0).bind fun _ =>
    .error (.dragPoint e.kind selector)

/-- The written form of a sketch. -/
def toText (s : Sketch Float) (spacing : Document.Spacing) : String :=
  s.toDocument.write spacing

/-- The sketch of a written form. -/
def ofText (text : String) : Except (Fault Float) (Sketch Float) := do
  let d ← Fault.ofDocument (Document.ofText text)
  ofDocument d

/-- The sketch with everything that is stored taken from another one. -/
def restored (s stored : Sketch Float) : Sketch Float :=
  { stored with defaults := s.defaults, lastSolution := s.lastSolution }

end PlanarSketch.Sketch
