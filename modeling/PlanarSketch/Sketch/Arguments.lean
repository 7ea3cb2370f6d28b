import PlanarSketch.Constraint.Record
import PlanarSketch.Document.Spelled

/-!
# Arguments of calls

A call has arguments in order, and may end with a record of further arguments by
name.  Each call has a list of parameters, those that must be given in front of those
that may be left out.  The arguments must fit the parameters: no more of them than
there are parameters, no name that is none of theirs, and none given twice.

An argument is read only once it is known to be there; then it can still be something
that cannot be read.
-/

namespace PlanarSketch

set_option autoImplicit false

/-- The arguments of a call by the names of its parameters. -/
structure Arguments where
  given : List (String × Document)

namespace Arguments

/-- The arguments in order, and those by name, which a record at the end holds. -/
def split (args : List Document) : List Document × List (String × Document) :=
  match args.getLast? with
  | some (.record fields) => (args.dropLast, fields)
  | _ => (args, [])

/-- Arguments as those of parameters that must be given and of parameters that may be left out. -/
def bind (needed optional : List String) (args : List Document) :
    Except (Fault Float) Arguments :=
  let (listed, named) := split args
  let parameters := needed ++ optional
  let taken := parameters.take listed.length
  let free := parameters.drop listed.length
  let fits := decide (listed.length ≤ parameters.length) &&
    named.all fun (name, _) => free.contains name
  let complete := needed.all fun name => taken.contains name || named.any (·.1 == name)
  if fits && complete then .ok ⟨List.zip taken listed ++ named⟩ else .error (.document .wrongForm)

/-- The argument of a parameter, unless it is left out. -/
def find? (a : Arguments) (name : String) : Option Document := a.given.lookup name

/-- An argument that must be given. -/
def get (a : Arguments) (name : String) : Except (Fault Float) Document :=
  Fault.require (.document .wrongForm) (a.find? name)

/-- A number in a call, where one without a literal is spelled. -/
def readNumber (d : Document) : Except (Fault Float) Float := Fault.ofDocument d.revived.number

/-- A number that must be given. -/
def number (a : Arguments) (name : String) : Except (Fault Float) Float := do
  readNumber (← a.get name)

/-- A number that may be left out. -/
def numberOr (otherwise : Float) (a : Arguments) (name : String) : Except (Fault Float) Float :=
  match a.find? name with
  | some d => readNumber d
  | none => .ok otherwise

/-- A number that must be given, and not spelled in a text. -/
def plainNumber (a : Arguments) (name : String) : Except (Fault Float) Float := do
  Fault.ofDocument (← a.get name).revived.plainNumber

/-- A whole number that must be given. -/
def integer (a : Arguments) (name : String) : Except (Fault Float) Int := do
  Fault.ofDocument (← a.get name).revived.truncated

/-- A selector, which is empty when it is left out. -/
def selector (a : Arguments) (name : String) : String :=
  ((a.find? name).map Document.shown).getD ""

/-- A truth value that may be left out. -/
def flagOr (otherwise : Bool) (a : Arguments) (name : String) : Bool :=
  ((a.find? name).map Document.holds).getD otherwise

/-- A mark that may be left out. -/
def markOr (otherwise : Bool) (a : Arguments) (name : String) : Mark :=
  ((a.find? name).map Mark.mk).getD (.of otherwise)

/-- A list of numbers that must be given. -/
def numbers (a : Arguments) (name : String) : Except (Fault Float) (List Float) := do
  (← Fault.ofDocument (← a.get name).items).mapM readNumber

/-- The two coordinates of a point that must be given; what follows them is not looked at. -/
def pair (a : Arguments) (name : String) : Except (Fault Float) (Document × Document) := do
  match ← a.get name with
  | .null | .truth _ | .whole _ | .real _ | .record _ => .error (.document .wrongForm)
  | d =>
    match ← Fault.ofDocument d.items with
    | x :: y :: _ => .ok (x, y)
    | _ => .error .outOfRange

/-- A value that may be null or left out. -/
def value (a : Arguments) (name : String) : Except (Fault Float) (Option Float) :=
  Fault.ofDocument (Constraint.readValue ((a.find? name).map Document.revived))

end Arguments

end PlanarSketch
