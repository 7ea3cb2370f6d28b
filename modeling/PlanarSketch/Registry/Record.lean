import PlanarSketch.Registry
import PlanarSketch.Sketch.Record

/-!
# Stored registries

A registry is stored as a record of its counter and of its sketches by label.
Loading registers the sketches again, one after the other; the counter is then at
least the stored one, and at least the number of every label.
-/

namespace PlanarSketch.Registry

set_option autoImplicit false

/-- The record of a registry. -/
def toDocument (r : Registry Float) : Document :=
  .record
    [("counter", .whole r.counter),
      ("sketches", .record (r.toList.map fun (label, s) => (label, s.toDocument)))]

/-- Register the sketch of a record under its label. -/
def load (r : Registry Float) (entry : String × Document) :
    Except (Fault Float) (Registry Float) := do
  let s ← Sketch.ofDocument entry.2
  (r.register s (some entry.1)).map Prod.fst

/-- The registry of a record. -/
def ofDocument (d : Document) : Except (Fault Float) (Registry Float) := do
  let _ ← Fault.ofDocument d.fields
  let entries ← Fault.ofDocument (((d.field? "sketches").getD (.record [])).fields)
  let loaded ← entries.foldlM load empty
  let counter ← Fault.ofDocument (((d.field? "counter").getD (.whole 0)).truncated)
  .ok { loaded with counter := max loaded.counter counter.toNat }

end PlanarSketch.Registry
