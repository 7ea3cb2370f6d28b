import PlanarSketch.Constraint
import PlanarSketch.Document.Number
import PlanarSketch.Scalar.Double

/-!
# Stored constraints

A constraint is stored as a record of its fields.  Identifier, kind and entities
must be there; a constraint without value, selectors and mark has no target value,
selects no points and is driving.  A selector that is no text is taken as it is shown.
A constraint that is read is not tested, so a
stored sketch can be loaded even if it cannot be solved.  Its mark is kept as it was written.
-/

namespace PlanarSketch

set_option autoImplicit false

/-- The kind that a document names, which must be known. -/
def ConstraintKind.ofDocument {α : Type} (name : Document) : Except (Fault α) ConstraintKind :=
  match name with
  | .text s => Fault.require (.unknownName name) (ofName? s)
  | _ => .error (.unnamed name)

namespace Constraint

/-- The record of a constraint. -/
def toDocument (c : Constraint Float) : Document :=
  .record
    [("cid", c.identifier.toDocument), ("kind", .text c.kind.name),
      ("entity_ids", .list (c.entityIds.map .whole)),
      ("value", (c.value.map Document.real).getD .null),
      ("selectors", .list (c.selectors.map .text)), ("driving", c.driving.written)]

/-- The selector in a slot: a slot behind the last selector has an empty one, and negative slots
count from the end. -/
def selectorIn (c : Constraint Float) (slot : Document) : Except (Fault Float) String :=
  let count : Int := c.selectors.length
  match slot with
  | .real x => if x < Float.ofInt count then .error (.document .wrongForm) else .ok ""
  | d => do
    let i ← Fault.ofDocument d.integer
    if 0 ≤ i then .ok (c.selector i.toNat)
    else if 0 ≤ i + count then .ok (c.selector (i + count).toNat)
    else .error .outOfRange

/-- A value that may be null or missing. -/
def readValue : Option Document → Except DocumentFault (Option Float)
  | none => .ok none
  | some .null => .ok none
  | some d => d.number.map some

/-- The constraint of a record. -/
def ofDocument (d : Document) : Except (Fault Float) (Constraint Float) := do
  let identifier ← Fault.ofDocument (d.field "cid" >>= Identifier.ofDocument)
  let kind ← ConstraintKind.ofDocument (← Fault.ofDocument (d.field "kind"))
  let ids ← Fault.ofDocument (d.field "entity_ids" >>= Document.items)
  let selectors ← Fault.ofDocument (((d.field? "selectors").getD (.list [])).items)
  let driving : Mark := ⟨(d.field? "driving").getD (.truth true)⟩
  let entityIds ← Fault.ofDocument (ids.mapM Document.truncated)
  let value ← Fault.ofDocument (readValue (d.field? "value"))
  .ok { identifier, kind, entityIds, value, selectors := selectors.map Document.shown, driving }

end Constraint

end PlanarSketch
