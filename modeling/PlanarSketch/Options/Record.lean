import PlanarSketch.Document.Number
import PlanarSketch.Options
import PlanarSketch.Scalar.Double

/-!
# Stored options

Options are stored as a record with a field for each of them.  Changes to options
are a record with some of the fields; a field of any other name is a fault, and all
such names are told at once, in alphabetical order.  A number too large for a double
and a text that spells no number are faults before that, whatever their name.
-/

namespace PlanarSketch

set_option autoImplicit false

namespace Options

/-- The names of all options. -/
def names : List String :=
  ["max_iterations", "tolerance", "damping_factor", "min_step", "rank_tolerance", "fd_step",
    "gradient_tolerance"]

/-- The record of options. -/
def toDocument (o : Options Float) : Document :=
  .record
    [("max_iterations", .whole o.maxIterations), ("tolerance", .real o.tolerance),
      ("damping_factor", .real o.damping), ("min_step", .real o.minStep),
      ("rank_tolerance", .real o.rankTolerance), ("fd_step", .real o.differenceStep),
      ("gradient_tolerance", .real o.gradientTolerance)]

end Options

/-- A count as a document gives it. -/
def GivenCount.ofDocument : Document → GivenCount Float
  | .whole n => .whole n
  | .truth b => .whole (if b then 1 else 0)
  | .real x =>
    match (Document.real x).truncated with
    | .ok n => .real x (if Decimal.isWhole x then some n else none)
    | .error cause => .unusable cause
  | .text s =>
    match Document.wholeOfText s with
    | .ok _ => .spelled s
    | .error cause => .unusable cause
  | _ => .unusable .wrongForm

namespace OptionChanges

/-- Whether a document can be told to be no number by its form alone. -/
def formless : Document → Bool
  | .null | .list _ | .record _ => true
  | _ => false

/-- Test that what is given for an option other than the number of steps is a number, or else no
number by its form. -/
def checkNumber (field : String × Document) : Except (Fault Float) Unit :=
  if field.1 = "max_iterations" || formless field.2 then .ok ()
  else Fault.ofDocument (field.2.number.map fun _ => ())

/-- Test all numbers of a record in the order of its fields. -/
def checkNumbers (d : Document) : Except (Fault Float) Unit := do
  (← Fault.ofDocument d.fields).forM checkNumber

/-- The number that is given for an option, when one is given. -/
def number (d : Document) (name : String) : Except (Fault Float) (Option Float) :=
  match d.field? name with
  | none => .ok none
  | some value => Fault.ofDocument (value.number.map some)

/-- The names in a record that are names of no option, in alphabetical order. -/
def unknownNames (d : Document) : List String :=
  match d with
  | .record fields =>
    ((fields.map Prod.fst).filter fun name => !Options.names.contains name).mergeSort
      Text.precedes
  | _ => []

/-- The changes that a record describes.  Numbers are read before names are looked at. -/
def ofDocument (d : Document) : Except (Fault Float) (OptionChanges Float) := do
  checkNumbers d
  match unknownNames d with
  | [] =>
    let maxIterations := (d.field? "max_iterations").map GivenCount.ofDocument
    let tolerance ← number d "tolerance"
    let damping ← number d "damping_factor"
    let minStep ← number d "min_step"
    let rankTolerance ← number d "rank_tolerance"
    let differenceStep ← number d "fd_step"
    let gradientTolerance ← number d "gradient_tolerance"
    .ok
      { maxIterations, tolerance, damping, minStep, rankTolerance, differenceStep,
        gradientTolerance }
  | names => .error (.unknownOptions names)

end OptionChanges

/-- The options of a record: the standard ones with its changes. -/
def Options.ofDocument (d : Document) : Except (Fault Float) (Options Float) := do
  let changes ← OptionChanges.ofDocument d
  standard.revise changes

end PlanarSketch
