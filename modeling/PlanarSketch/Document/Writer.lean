import PlanarSketch.Decimal.Text
import PlanarSketch.Text.Quoted
import PlanarSketch.Document

/-!
# Writing documents

A written document uses printable ASCII only: every other character of a text is
escaped, one beyond the first plane as a pair of halves, and half of a pair that
stands alone by itself.  A `Spacing` says what
stands between items, between a name and its value, and how nested items are
indented when each stands on a line of its own.
-/

namespace PlanarSketch.Document

set_option autoImplicit false

/-- How the parts of a written document are set apart. -/
structure Spacing where
  /-- What follows an item that another one follows. -/
  comma : String
  /-- What follows the name of a field. -/
  colon : String
  /-- What one level of nesting is indented by; nothing to keep all on one line. -/
  indent : Option String
  /-- Whether the fields of a record are put in the order of their names. -/
  sorted : Bool

/-- A single line with a space behind each separator. -/
def Spacing.line : Spacing := ⟨", ", ": ", none, false⟩

/-- A single line without spaces. -/
def Spacing.dense : Spacing := ⟨",", ":", none, false⟩

/-- One item a line, each level of nesting indented further. -/
def Spacing.indented (by_ : String) : Spacing := ⟨",", ": ", some by_, false⟩

/-- What an indent, if there is one, and the order of fields are asked for with. -/
def Spacing.of (indent : Option String) (sorted : Bool) : Spacing :=
  match indent with
  | none => { Spacing.line with sorted }
  | some step => { Spacing.indented step with sorted }

/-- The escape of one code unit. -/
def unitEscape (n : Nat) : String := "\\u" ++ Text.hexadecimal 4 n

/-- How one character of a text is written. -/
def charText (c : Char) : String :=
  if c = '\x22' then "\\\""
  else if c = '\\' then "\\\\"
  else if c = '\n' then "\\n"
  else if c = '\r' then "\\r"
  else if c = '\t' then "\\t"
  else if c = '\x08' then "\\b"
  else if c = '\x0c' then "\\f"
  else if ' ' ≤ c ∧ c ≤ '~' then String.singleton c
  else if c.toNat < 0x10000 then unitEscape c.toNat
  else
    let n := c.toNat - 0x10000
    unitEscape (0xD800 + n / 0x400) ++ unitEscape (0xDC00 + n % 0x400)

/-- How one piece of a text is written. -/
def pieceText : Text.Piece → String
  | .char c => charText c
  | p => unitEscape p.code

/-- A text in its written form. -/
def stringText (s : String) : String := "\"" ++ String.join ((Text.pieces s).map pieceText) ++ "\""

/-- Written items between an opening and a closing bracket, at a depth of nesting. -/
def Spacing.enclose (spacing : Spacing) (depth : Nat) (opening closing : String)
    (parts : List String) : String :=
  if parts.isEmpty then opening ++ closing
  else
    match spacing.indent with
    | none => opening ++ spacing.comma.intercalate parts ++ closing
    | some step =>
      let margin (n : Nat) := "\n" ++ String.join (List.replicate n step)
      opening ++ margin (depth + 1) ++ (spacing.comma ++ margin (depth + 1)).intercalate parts ++
        margin depth ++ closing

/-- Fields in the order in which they are written. -/
def Spacing.arrange (spacing : Spacing) (fields : List (String × String)) :
    List (String × String) :=
  if spacing.sorted then fields.mergeSort fun a b => Text.precedes a.1 b.1 else fields

mutual

/-- The written form of a document at a depth of nesting. -/
def writeAt (spacing : Spacing) (depth : Nat) : Document → String
  | .null => "null"
  | .truth b => if b then "true" else "false"
  | .whole n => toString n
  | .real x => Decimal.inDocument x
  | .text s => stringText s
  | .list items => spacing.enclose depth "[" "]" (writeItems spacing (depth + 1) items)
  | .record fields =>
    let written := spacing.arrange (writeFields spacing (depth + 1) fields)
    spacing.enclose depth "\x7b" "\x7d"
      (written.map fun (key, value) => stringText key ++ spacing.colon ++ value)

/-- The written forms of the items of a list. -/
def writeItems (spacing : Spacing) (depth : Nat) : List Document → List String
  | [] => []
  | d :: ds => writeAt spacing depth d :: writeItems spacing depth ds

/-- The names of the fields of a record with the written forms of their values. -/
def writeFields (spacing : Spacing) (depth : Nat) :
    List (String × Document) → List (String × String)
  | [] => []
  | (key, d) :: ds => (key, writeAt spacing depth d) :: writeFields spacing depth ds

end

/-- The written form of a document. -/
def write (spacing : Spacing) (d : Document) : String := writeAt spacing 0 d

end PlanarSketch.Document
