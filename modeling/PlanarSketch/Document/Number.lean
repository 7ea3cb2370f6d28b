import PlanarSketch.Decimal.Binary
import PlanarSketch.Document.Numeral

/-!
# Numbers in documents

A real is read from a number, from a truth value, which counts as one or zero, or
from a text that spells it.  A whole number is read from the same; the fraction of
a real is cut off.

What is looked up among identifiers need not be a whole number.  A real without a
fraction finds the identifier it equals; other reals, texts and null find none.
-/

namespace PlanarSketch.Document

set_option autoImplicit false

/-- The double nearest to a whole number. -/
def realOfInt (n : Int) : Except DocumentFault Float :=
  let x := Float.ofInt n
  if x.isFinite then .ok x else .error .tooLarge

/-- A number that is not spelled in a text, as a double. -/
def plainNumber : Document → Except DocumentFault Float
  | .real x => .ok x
  | .whole n => realOfInt n
  | .truth b => .ok (if b then 1.0 else 0.0)
  | _ => .error .wrongForm

/-- A number as a double. -/
def number : Document → Except DocumentFault Float
  | .text s => realOfText s
  | d => d.plainNumber

/-- A whole number that is written as one. -/
def integer : Document → Except DocumentFault Int
  | .whole n => .ok n
  | .truth b => .ok (if b then 1 else 0)
  | _ => .error .wrongForm

/-- A number cut to its whole part. -/
def truncated : Document → Except DocumentFault Int
  | .real x =>
    match Decimal.truncate? x with
    | some n => .ok n
    | none => .error (if x.isNaN then .notWhole else .tooLarge)
  | .text s => wholeOfText s
  | d => d.integer

/-- The whole number that a number equals. -/
def whole? : Document → Option Int
  | .whole n => some n
  | .truth b => some (if b then 1 else 0)
  | .real x => if Decimal.isWhole x then Decimal.truncate? x else none
  | _ => none

/-- A document in the place of something that is looked up, which is neither a list nor a
record. -/
def key : Document → Except DocumentFault Document
  | .list _ => .error .wrongForm
  | .record _ => .error .wrongForm
  | d => .ok d

end PlanarSketch.Document
