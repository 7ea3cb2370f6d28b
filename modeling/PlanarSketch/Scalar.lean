/-!
# Scalars

Every geometric rule of this library is written once, over an abstract number
type.  A `Scalar` has field arithmetic, an order that can be decided, decimal
literals, and the few functions of plane geometry: root, sine, cosine, the
angle of a direction, the length of a direction, the two ways of reducing
an angle by a period, and a countdown for numbers that are made smaller again and
again.

The order is not assumed to be total and division is not assumed to invert
multiplication: doubles have values that compare with nothing.  Statements about
exact arithmetic are statements about an instance whose operations are those of
a field.
-/

namespace PlanarSketch

set_option autoImplicit false

/-- The operations a number type needs in order to carry sketch geometry. -/
class Scalar (α : Type) extends Zero α, One α, Add α, Sub α, Mul α, Div α, Neg α, LT α, LE α,
    BEq α, OfScientific α where
  /-- Strict comparison can be decided. -/
  decideLT : DecidableLT α
  /-- Comparison can be decided. -/
  decideLE : DecidableLE α
  /-- Distance from zero. -/
  abs : α → α
  /-- Square root. -/
  sqrt : α → α
  /-- Sine of an angle in radians. -/
  sin : α → α
  /-- Cosine of an angle in radians. -/
  cos : α → α
  /-- The angle of the direction `(x, y)`, called with `y` first. -/
  atan2 : α → α → α
  /-- The length of the direction `(x, y)`. -/
  hypot : α → α → α
  /-- Half a turn, in radians. -/
  pi : α
  /-- What is left of a number after the nearest multiple of a period is taken away. -/
  remainder : α → α → α
  /-- What is left of a number after the largest multiple of a period below it is taken away. -/
  modulo : α → α → α
  /-- Whether the value is an ordinary number. -/
  isFinite : α → Bool
  /-- A count that goes down when a number that is at least some bound is multiplied by a factor
  and gets smaller; called with the factor and the bound first. -/
  countdown : α → α → α → Nat

attribute [reducible, instance] Scalar.decideLT Scalar.decideLE

namespace Scalar

variable {α : Type} [Scalar α]

/-- Twice one. -/
def two : α := 1 + 1

/-- A full turn, in radians. -/
def turn : α := pi + pi

/-- The value itself, but never less than one. -/
def atLeastOne (x : α) : α := if 1 < x then x else 1

/-- An angle given in degrees, in radians. -/
def radians (degrees : α) : α := degrees * (pi / 180.0)

/-- The sum of a list, added from the left. -/
@[specialize] def sum (xs : List α) : α := xs.foldl (· + ·) 0

/-- The sum of the squares of a list, added from the left. -/
@[specialize] def sumOfSquares (xs : List α) : α := xs.foldl (fun acc x => acc + x * x) 0

/-- The Euclidean length of a list of components. -/
@[specialize] def length (xs : List α) : α := sqrt (sumOfSquares xs)

/-- A number with the products of the entries of two lists added, one after the other. -/
@[specialize] def addProducts (acc : α) : List α → List α → α
  | x :: xs, y :: ys => addProducts (acc + x * y) xs ys
  | _, _ => acc

/-- The inner product of two lists. -/
@[specialize] def inner (xs ys : List α) : α := addProducts 0 xs ys

end Scalar

end PlanarSketch
