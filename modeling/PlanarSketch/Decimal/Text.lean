import PlanarSketch.Decimal.Digits

/-!
# The text of a number

Three ways of writing a double are in use: the fewest digits that read back, a
fixed count of significant digits in scientific form, and the compact form with
six digits that appears in messages.  They share one writer, `Style.write`; a
`Style` says between which orders of magnitude a number is written without an
exponent and whether a whole number keeps a fractional zero.

An exponent always has a sign and at least two digits.
-/

namespace PlanarSketch.Decimal

set_option autoImplicit false

/-- The decisions of one written form. -/
structure Style where
  /-- The least order of magnitude that is written without an exponent. -/
  positionalFrom : Int
  /-- The least order of magnitude above those that is written with one. -/
  positionalBelow : Int
  /-- What follows a whole number. -/
  wholeMark : String
  /-- The text of a value that is no number. -/
  nan : String
  /-- The text of a value beyond all numbers. -/
  infinity : String

/-- The form that reads back: no exponent from `0.0001` up to below `10 ^ 16`, `1.0` for one. -/
def Style.full : Style := ⟨-4, 16, ".0", "nan", "inf"⟩

/-- The form inside a document, which spells the values that are no numbers its own way. -/
def Style.document : Style := ⟨-4, 16, ".0", "NaN", "Infinity"⟩

/-- The compact form: six digits, no exponent from `0.0001` up to below a million. -/
def Style.compact : Style := ⟨-4, 6, "", "nan", "inf"⟩

/-- The scientific form: always with an exponent. -/
def Style.scientific : Style := ⟨0, 0, "", "nan", "inf"⟩

/-- Digits as text. -/
def digitText (ds : List Nat) : String :=
  String.ofList (ds.map fun d => Char.ofNat ('0'.toNat + d))

/-- The text of an exponent: its sign and at least two digits. -/
def exponentText (e : Int) : String :=
  let sign := if e < 0 then "-" else "+"
  let ds := digitsOf e.natAbs
  let padded := if ds.length < 2 then 0 :: ds else ds
  s!"e{sign}{digitText padded}"

/-- Digits with a point after the first `whole` of them, and nothing at all after the last. -/
def pointed (mark : String) (whole : Nat) (ds : List Nat) : String :=
  let fraction := ds.drop whole
  digitText (ds.take whole) ++ (if fraction.isEmpty then mark else s!".{digitText fraction}")

/-- Write the magnitude that the digits stand for. -/
def Style.writeDigits (style : Style) (d : Digits) : String :=
  if style.positionalFrom ≤ d.order ∧ d.order < style.positionalBelow then
    if d.order < 0 then
      pointed style.wholeMark 1 (List.replicate (-d.order).toNat 0 ++ d.digits)
    else
      let whole := d.order.toNat + 1
      pointed style.wholeMark whole (d.digits ++ List.replicate (whole - d.digits.length) 0)
  else
    pointed "" 1 d.digits ++ exponentText d.order

/-- Write a double, with `choose` picking the digits of a magnitude other than zero. -/
def Style.write (style : Style) (choose : Binary → Digits) (zero : Digits) (x : Float) : String :=
  let signed (negative : Bool) (text : String) := if negative then "-" ++ text else text
  match Reading.ofFloat x with
  | .nan => style.nan
  | .infinite negative => signed negative style.infinity
  | .finite b =>
    signed b.negative (style.writeDigits (if b.significand = 0 then zero else choose b))

/-- The fewest digits that read back as the same double. -/
def full (x : Float) : String := Style.full.write shortest ⟨[0], 0⟩ x

/-- The same digits as `full`, with a document's spelling of the values that are no numbers. -/
def inDocument (x : Float) : String := Style.document.write shortest ⟨[0], 0⟩ x

/-- A count of significant digits in scientific form, a half going to the even neighbour. -/
def scientific (count : Nat) (x : Float) : String :=
  Style.scientific.write (fun b => rounded count b.numerator b.denominator)
    ⟨List.replicate count 0, 0⟩ x

/-- At most six significant digits, without zeros at the end. -/
def compact (x : Float) : String :=
  Style.compact.write (fun b => (rounded 6 b.numerator b.denominator).trimmed) ⟨[0], 0⟩ x

end PlanarSketch.Decimal
