/-!
# Lines of text

A text falls into lines at its breaks.  A carriage return with a line feed behind it
is one break; otherwise each of the characters that end a line, a page, a section or
a paragraph is a break of its own.  A break ends the line in front of it, so a text
that ends in a break has no empty line behind that.
-/

namespace PlanarSketch.Text

set_option autoImplicit false

/-- The code points of the characters that end a line. -/
def breaks : List Nat := [0x0a, 0x0b, 0x0c, 0x0d, 0x1c, 0x1d, 0x1e, 0x85, 0x2028, 0x2029]

/-- Whether a character ends a line. -/
def isBreak (c : Char) : Bool := breaks.contains c.toNat

/-- The lines of a list of characters. -/
def splitLines : List Char → List (List Char)
  | [] => []
  | '\r' :: '\n' :: cs => [] :: splitLines cs
  | c :: cs =>
    if isBreak c then [] :: splitLines cs
    else
      match splitLines cs with
      | [] => [[c]]
      | line :: rest => (c :: line) :: rest

/-- The lines of a text. -/
def lines (s : String) : List String := (splitLines s.toList).map String.ofList

end PlanarSketch.Text
