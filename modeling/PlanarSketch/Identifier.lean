import PlanarSketch.Document.Shown

/-!
# Identifiers

A constraint is identified by a whole number.  Where a truth value is given instead it
counts as one or zero, and is shown as the truth value that it is.  Two identifiers are
the same when their values are.
-/

namespace PlanarSketch

set_option autoImplicit false

/-- A whole number that something is identified by, as it was written. -/
inductive Identifier where
  | whole (value : Int)
  | truth (value : Bool)
deriving DecidableEq, Repr

namespace Identifier

/-- A whole number is an identifier. -/
instance : Coe Int Identifier := ⟨whole⟩

/-- The number that an identifier is. -/
def value : Identifier → Int
  | whole n => n
  | truth b => if b then 1 else 0

/-- The number of an identifier that is written as one. -/
@[simp] theorem value_whole (n : Int) : (whole n).value = n := rfl

/-- An identifier as a document. -/
def toDocument : Identifier → Document
  | whole n => .whole n
  | truth b => .truth b

/-- The identifier that a document is. -/
def ofDocument : Document → Except DocumentFault Identifier
  | .whole n => .ok (.whole n)
  | .truth b => .ok (.truth b)
  | _ => .error .wrongForm

/-- An identifier is read back from its document. -/
@[simp] theorem ofDocument_toDocument (i : Identifier) : ofDocument i.toDocument = .ok i := by
  cases i <;> rfl

/-- An identifier as it is shown. -/
def shown (i : Identifier) : String := i.toDocument.shown

end Identifier

end PlanarSketch
