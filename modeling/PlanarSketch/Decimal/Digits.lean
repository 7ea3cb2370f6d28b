import PlanarSketch.Decimal.Binary

/-!
# Decimal digits of a double

A positive double lies between two neighbours on every decimal grid.  Two
choices among grid points are made here, both in exact arithmetic.

`shortest` looks for the coarsest grid with a point that reads back as the same
double, and of two such points takes the nearer.  The reals that read back form
an interval around the double that reaches half way to its neighbours; the ends
belong to it exactly when the significand is even.

`rounded` takes the nearest point on the grid with a given number of significant
digits, and the even one of two equally near points.
-/

namespace PlanarSketch.Decimal

set_option autoImplicit false

/-- A decimal number: the first digit stands at `10 ^ order`, the others follow. -/
structure Digits where
  digits : List Nat
  order : Int
deriving DecidableEq, Repr

/-- The decimal digits of a natural number, most significant first. -/
def digitsOf (n : Nat) : List Nat := (Nat.toDigits 10 n).map fun c => c.toNat - '0'.toNat

namespace Digits

/-- The same number without the zeros at its end; one digit always stays. -/
def trimmed (d : Digits) : Digits :=
  match (d.digits.reverse.dropWhile (· == 0)).reverse with
  | [] => { d with digits := [0] }
  | kept => { d with digits := kept }

/-- The number `n * 10 ^ place`, with as many digits as `n` has. -/
def ofGrid (n : Nat) (place : Int) : Digits :=
  let ds := digitsOf n
  ⟨ds, place + (ds.length : Int) - 1⟩

end Digits

/-- The quotient `num / den` measured in units of `10 ^ place`, as a quotient again. -/
def inUnits (num den : Nat) (place : Int) : Nat × Nat :=
  (num * Nat.pow 10 (-place).toNat, den * Nat.pow 10 place.toNat)

/-- Whether a positive quotient is less than `10 ^ k`. -/
def belowPower (num den : Nat) (k : Int) : Bool :=
  let (n, d) := inUnits num den k
  n < d

/-- The `k` for which a positive quotient is at least `10 ^ k` and less than `10 ^ (k + 1)`. -/
def order (num den : Nat) : Int :=
  let guess := ((num.log2 : Int) - (den.log2 : Int)) * 30103 / 100000
  match [guess - 2, guess - 1, guess, guess + 1, guess + 2].find? fun k =>
      belowPower num den (k + 1) with
  | some k => k
  | none => guess + 3

/-- The whole number nearest to a quotient; of two equally near ones the even one. -/
def nearestEven (num den : Nat) : Nat :=
  let whole := num / den
  let twice := 2 * (num % den)
  if twice < den then whole
  else if den < twice then whole + 1
  else if whole % 2 = 0 then whole else whole + 1

/-- A positive quotient rounded to a number of significant digits. -/
def rounded (count num den : Nat) : Digits :=
  let top := order num den
  let place := top + 1 - (count : Int)
  let (n, d) := inUnits num den place
  let whole := nearestEven n d
  if whole = Nat.pow 10 count then ⟨1 :: List.replicate (count - 1) 0, top + 1⟩
  else .ofGrid whole place

/-- The reals that read back as a given double, as multiples of a quarter of its unit. -/
structure Neighbourhood where
  low : Nat
  value : Nat
  high : Nat
  inclusive : Bool

/-- The neighbourhood of a double; below a power of two the spacing is halved. -/
def Neighbourhood.of (b : Binary) : Neighbourhood :=
  let m := b.significand
  let narrow := m == fractions && decide (-1074 < b.exponent)
  ⟨4 * m - (if narrow then 1 else 2), 4 * m, 4 * m + 2, m % 2 == 0⟩

/-- Whether `point / scale` lies in the neighbourhood. -/
def Neighbourhood.contains (h : Neighbourhood) (point scale : Nat) : Bool :=
  if h.inclusive then h.low * scale ≤ point && point ≤ h.high * scale
  else h.low * scale < point && point < h.high * scale

/-- The point of the grid of `10 ^ place` that reads back as the double, when there is one. -/
def readBack? (b : Binary) (place : Int) : Option Digits :=
  let h := Neighbourhood.of b
  let quarter : Int := b.exponent - 2
  let up := Nat.pow 2 quarter.toNat * Nat.pow 10 (-place).toNat
  let down := Nat.pow 2 (-quarter).toNat * Nat.pow 10 place.toNat
  let below := h.value * up / down
  let above := below + 1
  let hit (n : Nat) : Bool := h.contains (n * down) up
  let gapBelow := h.value * up - below * down
  let gapAbove := above * down - h.value * up
  let pick : Option Nat :=
    match hit below, hit above with
    | true, true =>
      if gapBelow < gapAbove then some below
      else if gapAbove < gapBelow then some above
      else some (if below % 2 = 0 then below else above)
    | true, false => some below
    | false, true => some above
    | false, false => none
  pick.map fun n => (Digits.ofGrid n place).trimmed

/-- The fewest digits that read back as a positive double. -/
def shortest (b : Binary) : Digits :=
  let top := order b.numerator b.denominator
  match (List.range 17).findSome? fun (n : Nat) => readBack? b (top - n) with
  | some d => d
  | none => (rounded 17 b.numerator b.denominator).trimmed

end PlanarSketch.Decimal
