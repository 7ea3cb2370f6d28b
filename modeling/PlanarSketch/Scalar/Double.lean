import PlanarSketch.Decimal.Binary
import PlanarSketch.Scalar

/-!
# Doubles as scalars

The numbers this library computes with.  Comparison is the one in which a value
that is no number compares with nothing.

Both reductions by a period are exact before they are rounded: dividend and
period become whole multiples of one power of two, and the remainder is taken
there.  An angle of `10 ^ 18` radians is reduced as correctly as a small one.

There are finitely many positive doubles, ordered as their bits are.  So the bits are a
countdown for any factor and any positive bound.
-/

namespace PlanarSketch.Double

set_option autoImplicit false

open PlanarSketch.Decimal (Reading Binary)

/-- Neither beyond all numbers nor no number at all. -/
def isFinite (x : Float) : Bool := x.isFinite

/-- The nearest whole number to `n / d`, of two equally near ones the even one. -/
def nearestQuotient (n : Int) (d : Nat) : Int :=
  let whole := Int.fdiv n d
  let twice := 2 * Int.fmod n d
  if twice < d then whole
  else if (d : Int) < twice then whole + 1
  else if whole % 2 = 0 then whole else whole + 1

/-- Dividend and period as whole multiples of one power of two. -/
def commensurate (x y : Float) : Option (Int × Nat × Int) :=
  match Reading.ofFloat x, Reading.ofFloat y with
  | .finite a, .finite b =>
    let unit := min a.exponent b.exponent
    let period := (b.significandAt unit).natAbs
    if period = 0 then none else some (a.significandAt unit, period, unit)
  | _, _ => none

/-- No number. -/
def nan : Float := 0.0 / 0.0

/-- Beyond all numbers. -/
def infinity : Float := 1.0 / 0.0

/-- What is left after the nearest multiple of the period is taken away. -/
def remainder (x y : Float) : Float :=
  match commensurate x y with
  | some (n, d, unit) => Binary.toFloat (n - nearestQuotient n d * d) unit
  | none => nan

/-- What is left after the largest multiple of the period below is taken away. -/
def modulo (x y : Float) : Float :=
  match commensurate x y with
  | some (n, d, unit) =>
    let rest := Binary.toFloat (Int.tmod n d) unit
    if rest == 0.0 then 0.0
    else if (rest < 0.0) != (y < 0.0) then rest + y
    else rest
  | none => nan

/-- Two doubles whose exact sum is the value that is meant; the second is the smaller one. -/
structure Pair where
  high : Float
  low : Float

/-- The exact square of a double, as long as nothing in it is too large or too small. -/
def square (x : Float) : Pair :=
  let shifted := 134217729.0 * x
  let head := shifted - (shifted - x)
  let tail := x - head
  let rounded := x * x
  ⟨rounded, head * head - rounded + 2.0 * (head * tail) + tail * tail⟩

/-- The length of a direction with components of moderate size, the first one the larger.  The
root of the rounded sum of squares is corrected by what the rounding has left out. -/
def moderateLength (a b : Float) : Float :=
  let p := square a
  let q := square b
  let sum := p.high + q.high
  let left := p.high - sum + q.high + (p.low + q.low)
  let root := Float.sqrt sum
  let back := square root
  root + (sum - back.high - back.low + left) / (2.0 * root)

/-- The length of a direction, rounded once; components of extreme size are scaled by a power of
two before they are squared. -/
def hypot (x y : Float) : Float :=
  let a := x.abs
  let b := y.abs
  if a == infinity || b == infinity then infinity
  else if a.isNaN || b.isNaN then nan
  else
    let large := if a < b then b else a
    let small := if a < b then a else b
    if large == 0.0 then 0.0
    else if 1e-100 < large && large < 1e100 then moderateLength large small
    else
      let (_, exponent) := large.frExp
      (moderateLength (large.scaleB (-exponent)) (small.scaleB (-exponent))).scaleB exponent

instance : Scalar Float where
  zero := 0.0
  one := 1.0
  decideLT := Float.decLt
  decideLE := Float.decLe
  abs := Float.abs
  sqrt := Float.sqrt
  sin := Float.sin
  cos := Float.cos
  atan2 := Float.atan2
  hypot := hypot
  pi := 3.141592653589793
  remainder := remainder
  modulo := modulo
  isFinite := isFinite
  countdown _ _ x := x.toBits.toNat

end PlanarSketch.Double
