import PlanarSketch.Decimal.Text
import PlanarSketch.Document
import PlanarSketch.Text.Quoted

/-!
# Documents in messages

A message names what it is about, and that can be any document.  Texts are quoted,
unless they are the whole of what is shown; reals are written with the fewest digits
that read back.  What is shown is for readers and is not read again.
-/

namespace PlanarSketch.Document

set_option autoImplicit false

mutual

/-- A document as it is shown within another one. -/
def quoted : Document → String
  | .null => "None"
  | .truth b => if b then "True" else "False"
  | .whole n => toString n
  | .real x => Decimal.full x
  | .text s => Text.quoted s
  | .list items => Text.bracketed (quotedItems items)
  | .record fields => "\x7b" ++ ", ".intercalate (quotedFields fields) ++ "\x7d"

/-- The items of a list as they are shown. -/
def quotedItems : List Document → List String
  | [] => []
  | d :: ds => quoted d :: quotedItems ds

/-- The fields of a record as they are shown. -/
def quotedFields : List (String × Document) → List String
  | [] => []
  | (key, d) :: ds => (Text.quoted key ++ ": " ++ quoted d) :: quotedFields ds

end

/-- A document as it is shown on its own. -/
def shown : Document → String
  | .text s => s
  | d => quoted d

end PlanarSketch.Document
