import PlanarSketch.Document
import PlanarSketch.Text.Digit

/-!
# Labels that are numbered automatically

A registry makes up labels by numbering them.  A label counts as numbered when it
has the form of those: the common word, then one or more decimal digits of any
script.  A single line feed may follow the digits.  A number with more digits than
are read or written is a fault, on either way.
-/

namespace PlanarSketch.Label

set_option autoImplicit false

/-- The word that numbered labels begin with. -/
def word : String := "Sketch"

/-- The numbered label of a number. -/
def numbered (n : Nat) : Except DocumentFault String :=
  let digits := toString n
  if Text.digitLimit < digits.length then .error .tooLong else .ok (word ++ digits)

/-- The characters behind the common word, when a label begins with it. -/
def behindWord? : List Char → List Char → Option (List Char)
  | [], rest => some rest
  | _ :: _, [] => none
  | w :: ws, c :: cs => if w = c then behindWord? ws cs else none

/-- A list of characters without the single line feed at its end. -/
def withoutLineFeed (cs : List Char) : List Char :=
  if cs.getLast? = some '\n' then cs.dropLast else cs

/-- The digits of a numbered label. -/
def digits? (label : String) : Option (List Char) :=
  ((behindWord? word.toList label.toList).map withoutLineFeed).filter fun cs =>
    !cs.isEmpty && cs.all fun c => (Text.digitValue? c).isSome

/-- The number of a numbered label; nothing for a label of another form. -/
def number? (label : String) : Except DocumentFault (Option Nat) :=
  match digits? label with
  | none => .ok none
  | some cs =>
    if Text.digitLimit < cs.length then .error (.tooManyDigits cs.length)
    else .ok (Text.decimalValue? cs)

end PlanarSketch.Label
