import PlanarSketch.Decimal.Text
import PlanarSketch.Document.Shown
import PlanarSketch.Fault
import PlanarSketch.Scalar.Double
import PlanarSketch.Text.Digit
import PlanarSketch.Text.Quoted

/-!
# The wording of faults

One message for each cause.  Numbers in a message are written with the fewest
digits that read back; names that come from outside are quoted.  A text that should
spell a whole number is quoted as far as there is room for it.
-/

namespace PlanarSketch

set_option autoImplicit false

open Text (quoted bracketed tuple)

/-- What is wrong with a degenerate entity. -/
def Degeneracy.message (entity : Int) : Degeneracy Float → String
  | .flatLine => s!"line {entity} has zero length"
  | .smallCircle r => s!"circle {entity} has non-positive radius {Decimal.full r}"
  | .smallArc r => s!"arc {entity} has non-positive radius {Decimal.full r}"
  | .closedArc => s!"arc {entity} has coincident endpoints"
  | .endlessArc => s!"arc {entity} has an unbounded sweep"

/-- What a slot needs. -/
def SlotRole.description : SlotRole → String
  | point => "a point"
  | line => "a line"
  | curve => "a circle or arc"

/-- The name of an option that must be positive. -/
def PositiveOption.name : PositiveOption → String
  | tolerance => "tolerance"
  | minStep => "min_step"
  | rankTolerance => "rank_tolerance"
  | differenceStep => "fd_step"
  | gradientTolerance => "gradient_tolerance"

/-- The text of a count as it was given. -/
def GivenCount.text : GivenCount Float → String
  | whole n => toString n
  | real x _ => Decimal.full x
  | spelled s => s
  | unusable _ => ""

/-- The numbers of entities that a kind takes. -/
def ConstraintKind.arityText (kind : ConstraintKind) : String :=
  " or ".intercalate (kind.arities.map toString)

/-- How much room there is in a message for a text that spells no whole number, quotes included. -/
def numeralRoom : Nat := 200

/-- The wording of a document that cannot be read. -/
def DocumentFault.message : DocumentFault → String
  | missing key => quoted key
  | tooLarge => "number too large"
  | notWhole => "cannot convert float NaN to integer"
  | notNumber text => s!"could not convert string to float: {quoted text}"
  | notInteger text =>
    s!"invalid literal for int() with base 10: {Text.clipped numeralRoom (quoted text)}"
  | tooManyDigits count =>
    s!"Exceeds the limit ({Text.digitLimit} digits) for integer string conversion: value has " ++
      s!"{count} digits; use sys.set_int_max_str_digits() to increase the limit"
  | tooLong =>
    s!"Exceeds the limit ({Text.digitLimit} digits) for integer string conversion; use " ++
      "sys.set_int_max_str_digits() to increase the limit"
  | wrongForm => "unexpected form"
  | notRecord => "no record"
  | malformed => "malformed text"

/-- The wording of a fault. -/
def Fault.message : Fault Float → String
  | paramCount kind entity given =>
    s!"{kind.name} entity {entity} needs {kind.paramCount} parameters, got {given}"
  | nonFiniteParams entity params =>
    s!"Entity {entity} has non-finite parameters: {tuple (params.map Decimal.full)}"
  | noPoint kind selector => s!"Selector {selector.quoted} is not valid for {kind.name}"
  | noLength kind entity => s!"{kind.name} entity {entity} has no length"
  | noRadius kind entity => s!"{kind.name} entity {entity} has no radius"
  | duplicateEntity entity => s!"Duplicate entity id {entity}"
  | notLaidOut entity => s!"Entity {entity.shown} is not in the layout"
  | placeSize given place =>
    s!"could not broadcast input array from shape ({given},) into shape ({place},)"
  | arity kind constraint given =>
    s!"{kind.name} constraint {constraint.shown} takes {kind.arityText} entities, got {given}"
  | selectorCount constraint selectors entities =>
    s!"Constraint {constraint.shown} has {selectors} selectors for {entities} entities"
  | unwantedValue kind constraint =>
    s!"Geometric constraint {constraint.shown} ({kind.name}) takes no value"
  | missingValue kind constraint =>
    s!"{kind.name} constraint {constraint.shown} needs a finite target value"
  | negativeValue kind constraint value =>
    s!"{kind.name} constraint {constraint.shown} target must be >= 0, got {Decimal.full value}"
  | nonPositiveValue kind constraint value =>
    s!"{kind.name} constraint {constraint.shown} target must be > 0, got {Decimal.full value}"
  | duplicateConstraint constraint => s!"Duplicate constraint id {constraint.shown}"
  | missingEntity kind constraint entity =>
    s!"Constraint {constraint.shown} ({kind.name}) references missing entity {entity}"
  | slot kind constraint entity entityKind selector role =>
    s!"{kind.name} constraint {constraint.shown}: entity {entity} ({entityKind.name}, selector " ++
      s!"{quoted selector}) is not {role.description}"
  | incomparable constraint first second =>
    s!"EQUAL constraint {constraint.shown} needs two lines or two circles/arcs, got " ++
      s!"{first.name} and {second.name}"
  | degenerate kind constraint entity reason =>
    s!"{kind.name} constraint {constraint.shown} is undefined: {reason.message entity}"
  | endlessAngle => "math domain error"
  | nonFiniteMatrix => "array must not contain infs or NaNs"
  | slopeShape given available positions =>
    s!"shape mismatch: value array of shape ({given},{positions}) could not be broadcast to " ++
      s!"indexing result of shape ({available},{positions})"
  | matrixSize given rows columns =>
    s!"cannot reshape array of size {given} into shape ({rows},{columns})"
  | heights matrix vector =>
    s!"Shape mismatch: a and b should have the same number of rows ({matrix} != {vector})."
  | unpaired first second =>
    s!"operands could not be broadcast together with shapes ({first},) ({second},) "
  | productSizes given needed =>
    "matmul: Input operand 1 has a mismatch in its core dimension 0, with gufunc signature " ++
      s!"(n?,k),(k,m?)->(n?,m?) (size {given} is different from {needed})"
  | outOfRange => "out of range"
  | endlessSearch => "the line search does not end"
  | noEntity sketch entity => s!"Sketch {sketch.quoted} has no entity {entity.shown}"
  | noConstraint sketch constraint =>
    s!"Sketch {sketch.quoted} has no constraint {constraint.shown}"
  | danglingConstraint sketch _ entity =>
    s!"Constraint on missing entity {entity} in sketch {sketch.quoted}"
  | collinearArc => "Arc points are collinear"
  | dragFixed entity => s!"Entity {entity} is fixed and cannot be dragged"
  | dragLine => "Dragging a line needs selector 'start' or 'end'"
  | dragPoint kind selector => s!"Cannot drag {kind.name} selector {selector.quoted}"
  | unknownOptions names => s!"Unknown solve options: {bracketed (names.map quoted)}"
  | iterationLimit given => s!"max_iterations must be a non-negative integer, got {given.text}"
  | dampingFactor given => s!"damping_factor must be in (0, 1), got {Decimal.full given}"
  | nonPositiveOption option given => s!"{option.name} must be positive, got {Decimal.full given}"
  | unknownName name => name.quoted
  | noWorkers => "max_workers must be greater than 0"
  | document cause => cause.message

end PlanarSketch
