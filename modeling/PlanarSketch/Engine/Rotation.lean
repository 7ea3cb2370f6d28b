import PlanarSketch.Engine

/-!
# An engine by plane rotations

The columns of a matrix are turned against one another, two at a time, until all
of them are perpendicular.  Their lengths are then the singular values.  Each
column carries along the combination of given columns that it has become, so
that a right-hand side can be resolved into perpendicular parts and the shortest
solution be put together from them.

A matrix that is wider than high is turned on its rows instead.  A matrix whose
largest entry is very large or very small is brought to a moderate scale first.
What is small beside the largest entry is not lost for that: a sum of squares that
would leave the range of the numbers is taken of quotients instead.

A sweep visits all pairs of columns once.  Sweeps are repeated until one finds
nothing left to turn; there are at most `sweepLimit` of them.
-/

namespace PlanarSketch.Rotation

set_option autoImplicit false

variable {α : Type} [Scalar α]

/-- A column and the combination of the given columns that it is. -/
structure Column (α : Type) where
  image : List α
  source : List α

/-! ## Lengths and angles of columns -/

/-- Whether a sum of squares is far from the limits of the numbers. -/
@[specialize] def moderate (squares : α) : Bool :=
  decide (1e-280 < squares) && decide (squares < 1e280)

/-- The distance from zero of the entry farthest from it. -/
@[specialize] def largestOf (xs : List α) : α :=
  xs.foldl (fun m x => if m < Scalar.abs x then Scalar.abs x else m) 0

/-- The length of a list of components of any size. -/
@[specialize] def extent (xs : List α) : α :=
  let squares := Scalar.sumOfSquares xs
  if moderate squares then Scalar.sqrt squares
  else
    let largest := largestOf xs
    if largest == 0 then 0 else largest * Scalar.length (xs.map fun x => x / largest)

/-- The squares of the lengths of two columns and their inner product, all of them perhaps divided
by one number. -/
structure Gram (α : Type) where
  first : α
  second : α
  mixed : α

/-- The squares of two lengths and the inner product, divided by the product of the lengths where
the squares themselves are out of range. -/
@[specialize] def Gram.of (x y : List α) : Gram α :=
  let a := Scalar.sumOfSquares x
  let b := Scalar.sumOfSquares y
  if moderate a && moderate b then ⟨a, b, Scalar.inner x y⟩
  else
    let la := extent x
    let lb := extent y
    if la == 0 || lb == 0 then ⟨0, 0, 0⟩
    else ⟨la / lb, lb / la, Scalar.inner (x.map fun v => v / la) (y.map fun v => v / lb)⟩

/-- The tangent of the turn that makes two columns perpendicular; zero when they are, or when the
turn is too small for the numbers. -/
@[specialize] def Gram.tangent (bound : α) (g : Gram α) : α :=
  if Scalar.abs g.mixed ≤ bound * (Scalar.sqrt g.first * Scalar.sqrt g.second) then 0
  else
    let zeta := (g.second - g.first) / (Scalar.two * g.mixed)
    let size := Scalar.abs zeta
    let whole := size + if size < 1e100 then Scalar.sqrt (1 + zeta * zeta) else size
    if zeta < 0 then -(1 / whole) else 1 / whole

/-! ## Sweeps -/

/-- The entries of two lists combined with the cosine and the sine of a turn. -/
@[specialize] def turn (c s : α) : List α → List α → List α
  | x :: xs, y :: ys => (c * x - s * y) :: turn c s xs ys
  | _, _ => []

/-- Two columns turned until they are perpendicular, when they are not already.  How far they may
be from it grows with the root of their length, as the rounding of an inner product does. -/
@[specialize] def straighten (bound : α) (x y : Column α) : Option (Column α × Column α) :=
  let t := (Gram.of x.image y.image).tangent bound
  if t == 0 then none
  else
    let c := 1 / Scalar.sqrt (1 + t * t)
    let s := c * t
    some (⟨turn c s x.image y.image, turn c s x.source y.source⟩,
      ⟨turn c (-s) y.image x.image, turn c (-s) y.source x.source⟩)

/-- A column straightened against others in turn; the flag tells whether anything was turned. -/
@[specialize] def straightenAll (bound : α) (x : Column α) :
    List (Column α) → Column α × List (Column α) × Bool
  | [] => (x, [], false)
  | y :: ys =>
    match straighten bound x y with
    | none =>
      let (x, ys, moved) := straightenAll bound x ys
      (x, y :: ys, moved)
    | some (x, y) =>
      let (x, ys, _) := straightenAll bound x ys
      (x, y :: ys, true)

/-- One visit of all pairs of columns, as many columns as there is fuel. -/
@[specialize] def sweep (bound : α) : Nat → List (Column α) → List (Column α) × Bool
  | 0, columns => (columns, false)
  | _ + 1, [] => ([], false)
  | fuel + 1, x :: ys =>
    let (x, ys, moved) := straightenAll bound x ys
    let (ys, more) := sweep bound fuel ys
    (x :: ys, moved || more)

/-- Columns in the order of their lengths, the longest first. -/
@[specialize] def byLength (columns : List (Column α)) : List (Column α) :=
  let measured := columns.map fun c => (extent c.image, c)
  (measured.mergeSort fun a b => decide (b.1 ≤ a.1)).map Prod.snd

/-- How many sweeps are made at most. -/
def sweepLimit : Nat := 60

/-- Sweeps until nothing is left to turn. -/
@[specialize] def perpendicular (bound : α) : Nat → List (Column α) → List (Column α)
  | 0, columns => columns
  | fuel + 1, columns =>
    match sweep bound columns.length (byLength columns) with
    | (columns, true) => perpendicular bound fuel columns
    | (columns, false) => columns

/-- The columns of a matrix of `width` columns that is given by rows. -/
def transpose (width : Nat) (rows : List (List α)) : List (List α) :=
  rows.foldr (fun row columns => List.zipWith (· :: ·) row columns) (List.replicate width [])

/-- The distance from zero of the entry of a matrix farthest from it. -/
@[specialize] def largestEntry (rows : List (List α)) : α := largestOf (rows.map largestOf)

/-- Columns as combinations of themselves. -/
@[specialize] def initial (columns : List (List α)) : List (Column α) :=
  columns.zipIdx.map fun (image, i) =>
    ⟨image, (List.range columns.length).map fun j => if j = i then 1 else 0⟩

/-- The relative precision of doubles. -/
@[specialize] def precision : α := 1.1102230246251565e-16

/-- Perpendicular columns of a matrix of lists, each a combination of the given ones. -/
@[specialize] def decompose (columns : List (List α)) : List (Column α) :=
  let height := (columns.head?.map List.length).getD 0
  let bound := precision * Scalar.sqrt ((List.replicate (height + 4) (1 : α)).foldl (· + ·) 0)
  perpendicular bound sweepLimit (initial columns)

/-! ## Scales -/

/-- A change of scale: what to multiply by, and what to multiply by in order to undo it. -/
structure Scaling (α : Type) where
  factor : α
  undo : α

/-- The change of scale that brings a size, when it is out of bounds and not zero, to the nearer
bound. -/
@[specialize] def Scaling.into (low high size : α) : Scaling α :=
  if size == 0 then ⟨1, 1⟩
  else if size < low then ⟨low / size, size / low⟩
  else if high < size then ⟨high / size, size / high⟩
  else ⟨1, 1⟩

/-- The scaling of a matrix, given its largest entry. -/
@[specialize] def matrixScaling (largest : α) : Scaling α :=
  .into 6.717876107567089e-139 1.488565707357403e138 largest

/-- The scaling of a right-hand side, given its largest entry. -/
@[specialize] def vectorScaling (largest : α) : Scaling α :=
  .into 2.004168360008973e-292 4.9896007738368e291 largest

/-- A matrix that has been decomposed. -/
structure Decomposition (α : Type) where
  /-- The scaling that the matrix was brought to a moderate scale with. -/
  scaling : Scaling α
  columns : List (Column α)
  /-- Whether the rows of the matrix were turned instead of its columns. -/
  onRows : Bool

/-- The perpendicular columns of a matrix, unless all its entries are zero. -/
@[specialize] def decomposition? (J : List (List α)) (width : Nat) : Option (Decomposition α) :=
  let largest := largestEntry J
  if largest == 0 then none
  else
    let scaling := matrixScaling largest
    let rows := J.map fun row => row.map fun x => x * scaling.factor
    let onRows := decide (J.length < width)
    some ⟨scaling, decompose (if onRows then rows else transpose width rows), onRows⟩

/-! ## Answers -/

/-- The singular values of a matrix, the largest first. -/
@[specialize] def singularValues (J : List (List α)) (width : Nat) : List α :=
  match decomposition? J width with
  | none => List.replicate (min J.length width) 0
  | some d =>
    (d.columns.map fun c => extent c.image * d.scaling.undo).mergeSort fun a b => decide (b ≤ a)

/-- The fraction of the largest singular value up to which others are dropped; the precision of
doubles stands in for one that is no fraction. -/
@[specialize] def effective (cutoff : α) : α :=
  if cutoff ≤ 0 ∨ 1 ≤ cutoff then precision else cutoff

/-- A list of numbers with a multiple of another one added. -/
@[specialize] def addScaled (c : α) : List α → List α → List α
  | x :: xs, a :: acc => (a + c * x) :: addScaled c xs acc
  | _, _ => []

/-- The contribution of one perpendicular column to a solution, given its length: how often a list
is taken, and the list. -/
@[specialize] def Decomposition.part (d : Decomposition α) (b : List α) (c : Column α) (v : α) :
    α × List α :=
  let unit := c.image.map fun x => x / v
  if d.onRows then (Scalar.inner c.source b, unit) else (Scalar.inner unit b, c.source)

/-- The shortest solution that comes nearest to a right-hand side. -/
@[specialize] def leastSquares (J : List (List α)) (b : List α) (width : Nat) (cutoff : α) :
    List α :=
  let nothing := List.replicate width 0
  match decomposition? J width with
  | none => nothing
  | some d =>
    let scaling := vectorScaling (largestOf b)
    let target := b.map fun x => x * scaling.factor
    let measured := d.columns.map fun c => (c, extent c.image)
    let largest := largestOf (measured.map Prod.snd)
    let unit := 1 / largest
    let limit := effective cutoff * (largest * unit)
    let solution := measured.foldl
      (fun acc (c, v) =>
        let stretch := v * unit
        if v == 0 || decide (stretch ≤ limit) then acc
        else
          let (times, direction) := d.part target c v
          addScaled (times / stretch / largest) direction acc)
      nothing
    solution.map fun x => x * d.scaling.factor * scaling.undo

/-- The engine that turns columns. -/
@[specialize] def engine : Engine α where
  leastSquares J b width cutoff := leastSquares J b width cutoff
  singularValues J width := singularValues J width

end PlanarSketch.Rotation
