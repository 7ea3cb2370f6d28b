import PlanarSketch.Decimal.Text
import PlanarSketch.Journal
import PlanarSketch.Scalar.Double
import PlanarSketch.Text.Lines
import PlanarSketch.Text.Quoted

/-!
# Lines of a journal

Every event is written as one entry: the name of the program, the level, and the
message.  Entries stand one below the other, each with a line feed at its end; one
with a break in it, as a label can have, takes up several lines.  Norms have four
significant digits in scientific form; a norm that is missing is written as an
infinite one.
-/

namespace PlanarSketch

set_option autoImplicit false

/-- The wording of a conflict. -/
def ConflictCause.message : ConflictCause Float → String
  | overConstrained balance => s!"Sketch is over-constrained (DOF: {balance})"
  | parallelPerpendicular => "Lines cannot be both parallel and perpendicular"
  | values kind first second =>
    s!"Conflicting {kind.name} values {Decimal.compact first} and {Decimal.compact second} " ++
      "on the same entities"

namespace Event

/-- The text of a norm. -/
def normText (norm : Option Float) : String := Decimal.scientific 4 (norm.getD (1.0 / 0.0))

/-- The wording of an event. -/
def message : Event Float → String
  | conflict c =>
    s!"Constraint conflict {Text.bracketed (c.constraints.map Identifier.shown)}: {c.cause.message}"
  | step number norm fraction =>
    s!"iteration {number}: |F| = {normText norm} (alpha = {Decimal.compact fraction})"
  | solved constraints iterations status norm remaining =>
    s!"Solved {constraints} constraints in {iterations} iterations: {status.name} " ++
      s!"(|F| = {normText norm}, remaining DOF {remaining})"
  | unsolved iterations status norm =>
    s!"Solve did not converge after {iterations} iterations: {status.name} " ++
      s!"(|F| = {normText norm})"
  | inferred count => s!"Inferred {count} constraints"
  | removed entity constraints =>
    s!"Removed entity {entity} and {constraints} dependent constraints"
  | sketchesUnsolved ids total =>
    s!"{ids.length}/{total} sketches unsolved: " ++ ", ".intercalate ids
  | sketchesSolved total => s!"Solved {total} sketches"

/-- The entry of an event. -/
def entry (e : Event Float) : String := s!"[sketchsolver] {e.level.name}: {e.message}"

/-- Whether a reader who asks for details, or for none, is shown an event. -/
def shown (detailed : Bool) (e : Event Float) : Bool := detailed || e.level != .debug

end Event

/-- The lines of a journal, with the details or without them. -/
def journalLines (detailed : Bool) (events : List (Event Float)) : List String :=
  Text.lines (String.join ((events.filter (Event.shown detailed)).map fun e => e.entry ++ "\n"))

end PlanarSketch
