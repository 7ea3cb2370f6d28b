import PlanarSketch.Document
import PlanarSketch.Text.Digit

/-!
# Numbers spelled in text

A text can stand where a number is wanted, if it spells one.  There may be blanks
around the number and a sign in front of it, the digits may be those of any script,
and a single underscore may stand between two digits.  A whole number is digits
alone.  A real has digits in front of a point, behind it or both, and perhaps an
exponent; or it is one of the words for what is no ordinary number, in letters of
either case.

Whole numbers have at most `Text.digitLimit` digits.  That there are too many is noticed
before what follows them is looked at, but after their underscores.
-/

namespace PlanarSketch.Document

set_option autoImplicit false

/-- The digits in front of the input, and the rest. -/
def takeDigits (cs : List Char) : List Char × List Char :=
  (cs.takeWhile Char.isDigit, cs.dropWhile Char.isDigit)

/-- The value of a list of digits. -/
def digitsValue (ds : List Char) : Nat :=
  ds.foldl (fun n c => 10 * n + (c.toNat - '0'.toNat)) 0

/-- The double nearest to `digits * 10 ^ exponent`. -/
def nearest (digits : Nat) (exponent : Int) : Float :=
  let size := (Nat.toDigits 10 digits).length
  if digits = 0 then 0.0
  else if 400 < exponent + (size : Int) then 1.0 / 0.0
  else if exponent + (size : Int) < -400 then 0.0
  else if exponent < 0 then Float.ofScientific digits true exponent.natAbs
  else Float.ofScientific digits false exponent.natAbs

/-- The whole number that digits spell, unless there are too many of them. -/
def wholeOfDigits (ds : List Char) : Except DocumentFault Nat :=
  if Text.digitLimit < ds.length then .error (.tooManyDigits ds.length) else .ok (digitsValue ds)

/-- The code points of the characters that may stand around a number. -/
def blanks : List Nat := [
  0x09, 0x0a, 0x0b, 0x0c, 0x0d, 0x20, 0x85, 0xa0, 0x1680, 0x2000, 0x2001, 0x2002, 0x2003,
  0x2004, 0x2005, 0x2006, 0x2007, 0x2008, 0x2009, 0x200a, 0x2028, 0x2029, 0x202f, 0x205f,
  0x3000]

/-- Whether a character may stand around a number. -/
def isBlank (c : Char) : Bool := blanks.contains c.toNat

/-- The same digit of the common script, for a digit of any script. -/
def commonDigit (c : Char) : Char :=
  match Text.digitValue? c with
  | some n => Char.ofNat ('0'.toNat + n)
  | none => c

/-- The characters of a text without the blanks around them, with common digits. -/
def numeralChars (s : String) : List Char :=
  let front := s.toList.dropWhile isBlank
  (front.reverse.dropWhile isBlank).reverse.map commonDigit

/-- A sign in front of the input, true for a minus, and the rest. -/
def takeSign : List Char → Bool × List Char
  | '-' :: rest => (true, rest)
  | '+' :: rest => (false, rest)
  | cs => (false, cs)

/-- The digits in front of the input, where single underscores may stand between them, and the
rest. -/
def takeGrouped : List Char → List Char × List Char
  | [] => ([], [])
  | [c] => if c.isDigit then ([c], []) else ([], [c])
  | c :: d :: rest =>
    if !c.isDigit then ([], c :: d :: rest)
    else if d = '_' then
      match takeGrouped rest with
      | ([], _) => ([c], d :: rest)
      | (more, behind) => (c :: more, behind)
    else
      let (more, behind) := takeGrouped (d :: rest)
      (c :: more, behind)

/-- The exponent in front of the input, zero when there is none, and the rest. -/
def takeGroupedExponent (cs : List Char) : Int × List Char :=
  match cs with
  | [] => (0, [])
  | e :: rest =>
    if e = 'e' ∨ e = 'E' then
      let (negative, digits) := takeSign rest
      match takeGrouped digits with
      | ([], _) => (0, cs)
      | (ds, rest) => ((if negative then -1 else 1) * (digitsValue ds : Int), rest)
    else (0, cs)

/-- The magnitude that characters spell in digits. -/
def decimal? (cs : List Char) : Option Float :=
  let (front, rest) := takeGrouped cs
  let (fraction, rest) :=
    match rest with
    | '.' :: rest => takeGrouped rest
    | _ => ([], rest)
  match front ++ fraction, takeGroupedExponent rest with
  | [], _ => none
  | ds, (exponent, []) => some (nearest (digitsValue ds) (exponent - (fraction.length : Int)))
  | _, _ => none

/-- The magnitude that characters spell, in digits or by a word. -/
def magnitude? (cs : List Char) : Option Float :=
  let word := String.ofList (cs.map Char.toLower)
  if word = "inf" ∨ word = "infinity" then some (1.0 / 0.0)
  else if word = "nan" then some (0.0 / 0.0)
  else decimal? cs

/-- The real that a text spells. -/
def realOfText (s : String) : Except DocumentFault Float :=
  let (negative, cs) := takeSign (numeralChars s)
  match magnitude? cs with
  | some x => .ok (if negative then -x else x)
  | none => .error (.notNumber s)

/-- The whole number that a text spells. -/
def wholeOfText (s : String) : Except DocumentFault Int :=
  let (negative, cs) := takeSign (numeralChars s)
  match takeGrouped cs with
  | ([], _) => .error (.notInteger s)
  | (_, '_' :: _) => .error (.notInteger s)
  | (ds, rest) => do
    let n ← wholeOfDigits ds
    if rest.isEmpty then .ok (if negative then -(n : Int) else n) else .error (.notInteger s)

end PlanarSketch.Document
