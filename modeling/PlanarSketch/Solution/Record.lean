import PlanarSketch.Document.Number
import PlanarSketch.Journal.Line
import PlanarSketch.Solution

/-!
# Solutions as documents

A solution is told as a record, for readers outside.  A residual that is undefined
is told as no number, a norm that is missing as an infinite one.
-/

namespace PlanarSketch

set_option autoImplicit false

/-- A number that may be undefined. -/
def Document.optional (x : Option Float) : Document := .real (x.getD (0.0 / 0.0))

/-- The record of a layout. -/
def Layout.toDocument (layout : Layout) : Document :=
  .record
    [("offsets", .record (layout.places.map fun p => (toString p.id, .whole p.offset))),
      ("kinds", .record (layout.places.map fun p => (toString p.id, .text p.kind.name))),
      ("size", .whole layout.size)]

/-- The place that is looked up; an identifier that a number equals counts as looked up by it. -/
def Layout.lookUp (layout : Layout) (asked : Document) : Except (Fault Float) Place := do
  let asked ← Fault.ofDocument asked.key
  Fault.require (.notLaidOut asked) (asked.whole?.bind layout.place?)

/-- The record of a conflict. -/
def Conflict.toDocument (c : Conflict Float) : Document :=
  .record
    [("constraint_ids", .list (c.constraints.map Identifier.toDocument)),
      ("message", .text c.cause.message), ("severity", .text c.cause.severity.name),
      ("suggestions", .list (c.cause.suggestions.map .text))]

/-- A discrepancy as a number, or as a list of numbers. -/
def Discrepancy.toDocument : Discrepancy Float → Document
  | single value => .optional value
  | several values => .list (values.map .optional)

/-- Discrepancies by identifier. -/
def discrepanciesDocument (found : List (Identifier × Discrepancy Float)) : Document :=
  .record (found.map fun (id, d) => (id.shown, d.toDocument))

/-- The record of statistics. -/
def Statistics.toDocument (s : Statistics) : Document :=
  .record
    [("total_constraints", .whole s.constraints), ("satisfied_constraints", .whole s.satisfied),
      ("geometric_constraints", .whole s.geometric),
      ("dimensional_constraints", .whole s.dimensional), ("conflicts", .whole s.conflicts),
      ("degrees_of_freedom", .whole s.freedom)]

/-- The record of a solution. -/
def Solution.toDocument (s : Solution Float) : Document :=
  .record
    [("success", .truth s.success), ("parameters", .list (s.params.toList.map .real)),
      ("iterations", .whole s.iterations), ("residual_norm", .real (s.norm.getD (1.0 / 0.0))),
      ("constraint_residuals", discrepanciesDocument s.discrepancies),
      ("diagnosis", .text s.diagnosis.status.name), ("rank", .whole s.diagnosis.rank),
      ("equations", .whole s.equations), ("free_parameters", .whole s.freeParams),
      ("remaining_dof", .whole s.diagnosis.remaining),
      ("redundant", .whole s.diagnosis.redundant),
      ("conflicts", .list (s.conflicts.map Conflict.toDocument)),
      ("layout", s.layout.toDocument), ("statistics", s.statistics.toDocument),
      ("tolerance", .real s.tolerance)]

end PlanarSketch
