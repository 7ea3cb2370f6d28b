/-!
# Doubles as multiples of powers of two

A finite double is a sign, a natural significand below `2 ^ 53` and a power of
two.  Everything this library says about the decimal text of a number, and every
exact reduction of an angle by a period, is computed on that triple with natural
numbers, so nothing is lost to a second rounding.
-/

namespace PlanarSketch.Decimal

set_option autoImplicit false

/-- The number `significand * 2 ^ exponent`, negated when `negative` holds. -/
structure Binary where
  negative : Bool
  significand : Nat
  exponent : Int
deriving DecidableEq, Repr

/-- What the bits of a double stand for. -/
inductive Reading where
  | nan
  | infinite (negative : Bool)
  | finite (value : Binary)
deriving DecidableEq, Repr

/-- How many fractions each exponent of a double has: two to the power of 52. -/
def fractions : Nat := 0x10000000000000

/-- Read the three bit fields of a double: a sign, an exponent of eleven bits, a fraction. -/
def Reading.ofBits (bits : Nat) : Reading :=
  let negative := bits / fractions / 2048 % 2 == 1
  let field : Nat := bits / fractions % 2048
  let fraction : Nat := bits % fractions
  if field = 2047 then
    if fraction = 0 then .infinite negative else .nan
  else if field = 0 then
    .finite ⟨negative, fraction, -1074⟩
  else
    .finite ⟨negative, fraction + fractions, (field : Int) - 1075⟩

/-- What a double stands for. -/
def Reading.ofFloat (x : Float) : Reading := .ofBits x.toBits.toNat

namespace Binary

/-- The significand with its sign. -/
def signed (b : Binary) : Int := if b.negative then -(b.significand : Int) else b.significand

/-- The numerator of the magnitude over `denominator`. -/
def numerator (b : Binary) : Nat := b.significand * Nat.pow 2 b.exponent.toNat

/-- A power of two that makes the magnitude a quotient of naturals. -/
def denominator (b : Binary) : Nat := Nat.pow 2 (-b.exponent).toNat

/-- The significand this number has when it is written over a lower power of two. -/
def significandAt (b : Binary) (exponent : Int) : Int :=
  b.signed * (Nat.pow 2 (b.exponent - exponent).toNat : Int)

/-- A whole multiple of a power of two as a double; exact when a double has that value. -/
def toFloat (value : Int) (exponent : Int) : Float :=
  let magnitude := Float.scaleB (Float.ofNat value.natAbs) exponent
  if value < 0 then -magnitude else magnitude

end Binary

/-- The whole part of a double, towards zero; nothing for the values that are not numbers. -/
def truncate? (x : Float) : Option Int :=
  match Reading.ofFloat x with
  | .finite b =>
    let whole := b.numerator / b.denominator
    some (if b.negative then -(whole : Int) else whole)
  | _ => none

/-- Whether a double is a whole number. -/
def isWhole (x : Float) : Bool :=
  match Reading.ofFloat x with
  | .finite b => b.numerator % b.denominator == 0
  | _ => false

end PlanarSketch.Decimal
