import PlanarSketch.Document.Number
import PlanarSketch.Entity
import PlanarSketch.Scalar.Double

/-!
# Stored entities

An entity is stored as a record of its identifier, the name of its kind, its
parameters and its mark.  The fields are read in this order, so the first that is
missing is the fault; the mark may be missing and is then taken to be off.
-/

namespace PlanarSketch

set_option autoImplicit false

/-- The kind that a document names, which must be known. -/
def EntityKind.ofDocument {α : Type} (name : Document) : Except (Fault α) EntityKind :=
  match name with
  | .text s => Fault.require (.unknownName name) (ofName? s)
  | _ => .error (.unnamed name)

namespace Entity

/-- The record of an entity. -/
def toDocument (e : Entity Float) : Document :=
  .record
    [("eid", .whole e.id), ("kind", .text e.kind.name),
      ("params", .list (e.params.map .real)), ("fixed", e.fixed.written)]

/-- The entity of a record. -/
def ofDocument (d : Document) : Except (Fault Float) (Entity Float) := do
  let id ← Fault.ofDocument (d.field "eid" >>= Document.truncated)
  let kind ← EntityKind.ofDocument (← Fault.ofDocument (d.field "kind"))
  let params ← Fault.ofDocument (d.field "params" >>= Document.items)
  let fixed := Mark.of ((d.field? "fixed").getD .null).holds
  let values ← Fault.ofDocument (params.mapM Document.number)
  make id kind values fixed

/-- The point of an entity that a document selects. -/
def pointSelected (e : Entity Float) (selector : Document) : Except (Fault Float) (Float × Float) :=
  match selector with
  | .text s => e.pointAt s
  | _ => .error (.noPoint e.kind selector)

end Entity

end PlanarSketch
