import PlanarSketch.Text.Piece
import PlanarSketch.Text.Visible

/-!
# Quoted text

Names from outside appear in messages between quotes.  Single quotes are used,
unless the text holds a single quote and no double quote.  The backslash and the
quote in use are preceded by a backslash; line feed, carriage return and tab have
letters of their own; every other character that cannot be shown is written by
the hexadecimal digits of its code point, in two, four or eight places.  Half of a
pair that stands alone is written by its own digits.
-/

namespace PlanarSketch.Text

set_option autoImplicit false

/-- A number in hexadecimal digits, padded with zeros to a number of places. -/
def hexadecimal (places n : Nat) : String :=
  let ds := Nat.toDigits 16 n
  String.ofList (List.replicate (places - ds.length) '0' ++ ds)

/-- How a character that cannot be shown is written. -/
def codePointText (c : Char) : String :=
  if c.toNat < 0x100 then "\\x" ++ hexadecimal 2 c.toNat
  else if c.toNat < 0x10000 then "\\u" ++ hexadecimal 4 c.toNat
  else "\\U" ++ hexadecimal 8 c.toNat

/-- How one character is written between a pair of quotes. -/
def quotedChar (quote c : Char) : String :=
  if c = '\\' ∨ c = quote then String.ofList ['\\', c]
  else if c = '\n' then "\\n"
  else if c = '\r' then "\\r"
  else if c = '\t' then "\\t"
  else if isVisible c then ofPieces [.char c]
  else codePointText c

/-- How one piece is written between a pair of quotes. -/
def quotedPiece (quote : Char) : Piece → String
  | .char c => quotedChar quote c
  | p => "\\u" ++ hexadecimal 4 p.code

/-- The quote that a text is put between. -/
def quoteFor (s : String) : Char :=
  if s.toList.contains '\x27' && !s.toList.contains '\x22' then '\x22' else '\x27'

/-- A text between quotes. -/
def quoted (s : String) : String :=
  let quote := quoteFor s
  String.singleton quote ++ String.join ((pieces s).map (quotedPiece quote)) ++
    String.singleton quote

/-- The first pieces of a text, so many of them as there is room for. -/
def clipped (room : Nat) (s : String) : String := ofPieces ((pieces s).take room)

/-- Several items between brackets, separated by commas. -/
def bracketed (items : List String) : String := "[" ++ ", ".intercalate items ++ "]"

/-- A tuple of items: a single one is followed by a comma. -/
def tuple (items : List String) : String :=
  match items with
  | [only] => s!"({only},)"
  | _ => "(" ++ ", ".intercalate items ++ ")"

end PlanarSketch.Text
