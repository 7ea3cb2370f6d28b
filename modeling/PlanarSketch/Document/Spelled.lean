import PlanarSketch.Decimal.Text
import PlanarSketch.Document.Number

/-!
# Spelled numbers

A written document has no literal for the values that are no ordinary numbers, and
two readers need not agree on the last digits of a computed one.  Where that
matters, every real is spelled as a text: exactly, or with a fixed count of
significant digits, in which case everything too small to matter is spelled alike.

In the other direction a text that spells one of the values without a literal is
taken as that value, where a number is wanted.
-/

namespace PlanarSketch

set_option autoImplicit false

/-- How a real is spelled. -/
inductive Spelling where
  /-- With the fewest digits that read back. -/
  | exact
  /-- With a count of significant digits, zero standing for everything tiny. -/
  | digits (count : Nat)
deriving DecidableEq, Repr

/-- The text of a real. -/
def Spelling.text : Spelling → Float → String
  | exact, x => Decimal.full x
  | digits count, x =>
    if x.abs < Document.nearest 1 (-((count : Int) + 2)) then "0"
    else Decimal.scientific count x

namespace Document

mutual

/-- A document with every real spelled as a text. -/
def spelled (spelling : Spelling) : Document → Document
  | .real x => .text (spelling.text x)
  | .list items => .list (spelledItems spelling items)
  | .record fields => .record (spelledFields spelling fields)
  | d => d

/-- The items of a list with every real spelled as a text. -/
def spelledItems (spelling : Spelling) : List Document → List Document
  | [] => []
  | d :: ds => spelled spelling d :: spelledItems spelling ds

/-- The fields of a record with every real spelled as a text. -/
def spelledFields (spelling : Spelling) :
    List (String × Document) → List (String × Document)
  | [] => []
  | (key, d) :: ds => (key, spelled spelling d) :: spelledFields spelling ds

end

/-- The real that a text spells, when it is one without a literal; all else as it is. -/
def revived : Document → Document
  | .text "nan" => .real (0.0 / 0.0)
  | .text "inf" => .real (1.0 / 0.0)
  | .text "-inf" => .real (-1.0 / 0.0)
  | d => d

/-- A list with each item changed; all else as it is. -/
def mapItems (f : Document → Document) : Document → Document
  | .list items => .list (items.map f)
  | d => d

/-- A record with each field changed; all else as it is. -/
def mapFields (f : String → Document → Document) : Document → Document
  | .record fields => .record (fields.map fun (key, d) => (key, f key d))
  | d => d

end Document

end PlanarSketch
