import PlanarSketch.Document.Numeral
import PlanarSketch.Text.Piece

/-!
# Reading documents

The written form is the usual notation of records in braces and lists in
brackets, widened by three words for the reals that are no ordinary numbers.
Blanks are the space, the tab, the line feed and the carriage return; no other
control character may stand in a text, and nothing may follow the document but
blanks.  What stands in a text without a backslash is kept as it is kept in the
input.  A whole number with too many digits is refused where it stands, whatever
follows it.

Every reader takes characters from the front of a list.  A nested value is read
with one unit of fuel less; each level of nesting uses up a character, so as
much fuel as there are characters is enough.
-/

namespace PlanarSketch.Document

set_option autoImplicit false

/-- The input without the blanks in front of it. -/
def skipBlanks (cs : List Char) : List Char :=
  cs.dropWhile fun c => c == ' ' || c == '\t' || c == '\n' || c == '\r'

/-- The input behind a word that it must begin with. -/
def skipWord? : List Char → List Char → Option (List Char)
  | [], rest => some rest
  | _ :: _, [] => none
  | w :: ws, c :: cs => if w = c then skipWord? ws cs else none

/-- The digits behind a point, when there is a point with digits behind it. -/
def takeFraction (cs : List Char) : List Char × List Char :=
  match cs with
  | '.' :: rest =>
    match takeDigits rest with
    | ([], _) => ([], cs)
    | taken => taken
  | _ => ([], cs)

/-- The digits of an exponent with a sign that may be missing. -/
def takeSigned (cs : List Char) : Option (Int × List Char) :=
  let (negative, rest) := takeSign cs
  match takeDigits rest with
  | ([], _) => none
  | (ds, rest) => some ((if negative then -1 else 1) * (digitsValue ds : Int), rest)

/-- The exponent in front of the input, when there is one with digits. -/
def takeExponent (cs : List Char) : Option (Int × List Char) :=
  match cs with
  | 'e' :: rest => takeSigned rest
  | 'E' :: rest => takeSigned rest
  | _ => none

/-- The whole part of a number: a single zero, or digits that begin with none. -/
def takeWhole (cs : List Char) : Option (List Char × List Char) :=
  match takeDigits cs with
  | ([], _) => none
  | ('0' :: more, rest) => some (['0'], more ++ rest)
  | taken => some taken

/-- What is read from the front of the input, with the rest. -/
abbrev Taken (β : Type) := Except DocumentFault (β × List Char)

/-- The number in front of the input, without its sign. -/
def takeMagnitude (negative : Bool) (cs : List Char) : Taken Document :=
  match takeWhole cs with
  | none => .error .malformed
  | some (front, rest) =>
    let (fraction, rest) := takeFraction rest
    match fraction, takeExponent rest with
    | [], none =>
      (wholeOfDigits front).map fun n => (.whole (if negative then -(n : Int) else n), rest)
    | _, found =>
      let (exponent, rest) := found.getD (0, rest)
      let x := nearest (digitsValue (front ++ fraction)) (exponent - (fraction.length : Int))
      .ok (.real (if negative then -x else x), rest)

/-- The value of a hexadecimal digit. -/
def hexValue? (c : Char) : Option Nat :=
  if c.isDigit then some (c.toNat - '0'.toNat)
  else if 'a' ≤ c ∧ c ≤ 'f' then some (c.toNat - 'a'.toNat + 10)
  else if 'A' ≤ c ∧ c ≤ 'F' then some (c.toNat - 'A'.toNat + 10)
  else none

/-- Four hexadecimal digits as a number. -/
def takeUnit (cs : List Char) : Option (Nat × List Char) :=
  match cs with
  | a :: b :: c :: d :: rest => do
    let a ← hexValue? a
    let b ← hexValue? b
    let c ← hexValue? c
    let d ← hexValue? d
    some (4096 * a + 256 * b + 16 * c + d, rest)
  | _ => none

/-- The piece of text that an escape with a code unit stands for, behind its letter. -/
def takeCodePoint (cs : List Char) : Option (Text.Piece × List Char) :=
  match takeUnit cs with
  | none => none
  | some (first, rest) =>
    let alone := some (Text.Piece.ofUnit first, rest)
    if Text.isHighHalf first then
      match rest with
      | '\\' :: 'u' :: more =>
        match takeUnit more with
        | some (second, tail) =>
          if Text.isLowHalf second then
            some (Text.Piece.ofPair first second, tail)
          else alone
        | none => alone
      | _ => alone
    else alone

/-- The piece of text that an escape stands for, behind its backslash. -/
def takeEscape (cs : List Char) : Option (Text.Piece × List Char) :=
  match cs with
  | '\x22' :: rest => some (.char '\x22', rest)
  | '\\' :: rest => some (.char '\\', rest)
  | '/' :: rest => some (.char '/', rest)
  | 'b' :: rest => some (.char '\x08', rest)
  | 'f' :: rest => some (.char '\x0c', rest)
  | 'n' :: rest => some (.char '\n', rest)
  | 'r' :: rest => some (.char '\r', rest)
  | 't' :: rest => some (.char '\t', rest)
  | 'u' :: rest => takeCodePoint rest
  | _ => none

/-- The characters that a text is kept as, behind its opening quote. -/
def takeChars : Nat → List Char → List Char → Taken (List Char)
  | 0, _, _ => .error .malformed
  | fuel + 1, acc, cs =>
    match cs with
    | [] => .error .malformed
    | '\x22' :: rest => .ok (acc.reverse, rest)
    | '\\' :: rest =>
      match takeEscape rest with
      | some (p, rest) => takeChars fuel (p.kept.reverse ++ acc) rest
      | none => .error .malformed
    | c :: rest => if c.toNat < 0x20 then .error .malformed else takeChars fuel (c :: acc) rest

/-- A text, behind its opening quote. -/
def takeText (cs : List Char) : Taken String :=
  (takeChars (cs.length + 1) [] cs).map fun (taken, rest) => (String.ofList taken, rest)

/-- A document for which a word stands, behind the word. -/
def takeWord (word : String) (d : Document) (cs : List Char) : Taken Document :=
  match skipWord? word.toList cs with
  | some rest => .ok (d, rest)
  | none => .error .malformed

mutual

/-- The value in front of the input. -/
def takeValue : Nat → List Char → Taken Document
  | 0, _ => .error .malformed
  | fuel + 1, cs =>
    match cs with
    | '\x22' :: rest => (takeText rest).map fun (s, rest) => (.text s, rest)
    | '\x7b' :: rest =>
      match skipBlanks rest with
      | '\x7d' :: rest => .ok (.record [], rest)
      | rest => (takeFields fuel rest).map fun (fs, rest) => (ofFields fs, rest)
    | '[' :: rest =>
      match skipBlanks rest with
      | ']' :: rest => .ok (.list [], rest)
      | rest => (takeItems fuel rest).map fun (xs, rest) => (.list xs, rest)
    | 'n' :: rest => takeWord "ull" .null rest
    | 't' :: rest => takeWord "rue" (.truth true) rest
    | 'f' :: rest => takeWord "alse" (.truth false) rest
    | 'N' :: rest => takeWord "aN" (.real (0.0 / 0.0)) rest
    | 'I' :: rest => takeWord "nfinity" (.real (1.0 / 0.0)) rest
    | '-' :: 'I' :: rest => takeWord "nfinity" (.real (-1.0 / 0.0)) rest
    | '-' :: rest => takeMagnitude true rest
    | _ => takeMagnitude false cs

/-- The items of a list up to its closing bracket; there is at least one. -/
def takeItems : Nat → List Char → Taken (List Document)
  | 0, _ => .error .malformed
  | fuel + 1, cs =>
    match takeValue fuel cs with
    | .error cause => .error cause
    | .ok (x, rest) =>
      match skipBlanks rest with
      | ']' :: rest => .ok ([x], rest)
      | ',' :: rest => (takeItems fuel (skipBlanks rest)).map fun (xs, rest) => (x :: xs, rest)
      | _ => .error .malformed

/-- The fields of a record up to its closing brace; there is at least one. -/
def takeFields : Nat → List Char → Taken (List (String × Document))
  | 0, _ => .error .malformed
  | fuel + 1, cs =>
    match cs with
    | '\x22' :: rest =>
      match takeText rest with
      | .error cause => .error cause
      | .ok (key, rest) =>
        match skipBlanks rest with
        | ':' :: rest =>
          match takeValue fuel (skipBlanks rest) with
          | .error cause => .error cause
          | .ok (value, rest) =>
            match skipBlanks rest with
            | '\x7d' :: rest => .ok ([(key, value)], rest)
            | ',' :: rest =>
              (takeFields fuel (skipBlanks rest)).map fun (fs, rest) =>
                ((key, value) :: fs, rest)
            | _ => .error .malformed
        | _ => .error .malformed
    | _ => .error .malformed

end

/-- The document that a text is the written form of. -/
def ofText (s : String) : Except DocumentFault Document :=
  let cs := s.toList
  match takeValue (cs.length + 1) (skipBlanks cs) with
  | .ok (d, rest) => if (skipBlanks rest).isEmpty then .ok d else .error .malformed
  | .error cause => .error cause

end PlanarSketch.Document
