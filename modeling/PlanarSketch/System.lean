import PlanarSketch.Block

/-!
# Systems of equations

A system stacks the blocks of several constraints: their residuals one below the
other, and their derivatives in the same rows over all parameters.

The rows of a block are found by the identifier of its constraint.  Should several
blocks share an identifier, their derivatives all go to the rows of the last of
them: closed forms add up there, differences replace what stood at their
positions, and those of a single equation fill all rows there are.  What does not
fit is a fault.  A solve never gets that far, since it refuses repeated identifiers.

An angle that has moved beyond all numbers is a fault as well, when an end of its
arc is asked for.  The residuals and derivatives themselves are total; whether they
may be asked for at a point is what `checkResiduals`, `checkJacobian` and
`checkDifferences` test.
-/

namespace PlanarSketch

set_option autoImplicit false

/-- The residual of one constraint: a single number, or one for each equation. -/
inductive Discrepancy (α : Type) where
  | single (value : Option α)
  | several (values : List (Option α))
deriving DecidableEq, Repr

/-- All values of a list, unless one of them is missing or no ordinary number. -/
def allFinite? {α : Type} [Scalar α] (values : List (Option α)) : Option (List α) :=
  values.mapM fun
    | some v => if Scalar.isFinite v then some v else none
    | none => none

namespace Discrepancy

variable {α : Type}

/-- The residual of a block, given its rows. -/
def ofRows : List (Option α) → Discrepancy α
  | [value] => single value
  | values => several values

/-- The discrepancy of an identifier among those that were found. -/
def find? (id : Int) (found : List (Identifier × Discrepancy α)) : Option (Discrepancy α) :=
  (found.find? fun e => e.1.value == id).map Prod.snd

variable [Scalar α]

/-- How far a constraint is from holding; missing where its residual is undefined. -/
def magnitude : Discrepancy α → Option α
  | single value => value.map Scalar.abs
  | several values => (values.mapM id).map Scalar.length

/-- Whether a constraint holds up to a tolerance. -/
def within (tolerance : α) (d : Discrepancy α) : Bool :=
  match d.magnitude with
  | some m => m < tolerance
  | none => false

end Discrepancy

/-- A stack of blocks over a vector of parameters. -/
structure System (α : Type) where
  blocks : List (Block α)
  /-- The number of parameters. -/
  size : Nat
  /-- The relative step of differences. -/
  step : α

/-- Consecutive rows of a system. -/
structure RowRange where
  start : Nat
  count : Nat
deriving DecidableEq, Repr

namespace System

variable {α : Type}

/-- The number of equations of a system. -/
def rows (s : System α) : Nat := s.blocks.foldr (fun b n => b.rows + n) 0

/-- Blocks with the rows they take when the first one begins at `start`. -/
def rangesFrom : Nat → List (Block α) → List (Int × RowRange)
  | _, [] => []
  | start, b :: bs => (b.id, ⟨start, b.rows⟩) :: rangesFrom (start + b.rows) bs

/-- The rows of each constraint; of constraints with one identifier, those of the last. -/
def rowRange? (s : System α) (id : Int) : Option RowRange :=
  ((rangesFrom 0 s.blocks).reverse.lookup id)

variable [Scalar α]

/-- The rows that the derivative of a block is entered at. -/
def rowsOf (s : System α) (b : Block α) : RowRange := (s.rowRange? b.id).getD ⟨0, 0⟩

/-- Test that all residuals can be evaluated at a point. -/
def checkResiduals (s : System α) (p : Valuation α) : Except (Fault α) Unit :=
  if s.blocks.any fun b => b.endless p then .error .endlessAngle else .ok ()

/-- Test that the derivative of a block in closed form fits in the system. -/
def checkClosed (s : System α) (b : Block α) : Except (Fault α) Unit :=
  if (s.rowsOf b).start + b.rows ≤ s.rows then .ok () else .error .outOfRange

/-- Test that the differences of a block can be taken, and that they fit in the system. -/
def checkNumeric (s : System α) (p : Valuation α) (b : Block α) : Except (Fault α) Unit :=
  let available := (s.rowsOf b).count
  if b.endlessNearby s.step p then .error .endlessAngle
  else if b.rows = 1 ∨ b.rows = available then .ok ()
  else .error (.slopeShape b.rows available b.positions.length)

/-- Test block by block that the derivative can be formed at a point. -/
def checkJacobian (s : System α) (p : Valuation α) : Except (Fault α) Unit :=
  s.blocks.forM fun b => if b.relation.analytic then s.checkClosed b else s.checkNumeric p b

/-- Test block by block that all differences can be taken at a point. -/
def checkDifferences (s : System α) (p : Valuation α) : Except (Fault α) Unit :=
  s.blocks.forM (s.checkNumeric p)

/-- The residuals of all blocks. -/
def residuals (s : System α) (p : Valuation α) : List (Option α) :=
  s.blocks.flatMap fun b => b.residual p

/-- An entry of a row increased by a value; it stays missing when it or the value is. -/
def addEntry (i : Nat) (v : Option α) : SlopeRow α → SlopeRow α
  | [] => [(i, v)]
  | (j, w) :: rest =>
    if j = i then
      (i, match w, v with
        | some w, some v => some (w + v)
        | _, _ => none) :: rest
    else (j, w) :: addEntry i v rest

/-- A row with the entries of another one entered: added in closed form, put in place otherwise. -/
def enter (closed : Bool) (row entries : SlopeRow α) : SlopeRow α :=
  entries.foldl (fun row (i, v) => if closed then addEntry i v row else Gradient.put i v row) row

/-- The derivative of a block with the row at which it is entered. -/
structure Contribution (α : Type) where
  start : Nat
  closed : Bool
  slopes : List (SlopeRow α)

/-- One row of the derivative, from the contributions of all blocks. -/
def assemble (contributions : List (Contribution α)) (i : Nat) : SlopeRow α :=
  contributions.foldl
    (fun row c =>
      if c.start ≤ i then enter c.closed row (c.slopes.getD (i - c.start) []) else row)
    []

/-- The rows of differences as they are entered: those of a single equation fill all rows. -/
def spread (count : Nat) : List (SlopeRow α) → List (SlopeRow α)
  | [row] => List.replicate count row
  | rows => rows

/-- What a block contributes to the derivative, given how a block's derivative is obtained. -/
def contribution (s : System α) (closed : Block α → Bool) (slopes : Block α → List (SlopeRow α))
    (b : Block α) : Contribution α :=
  let range := s.rowsOf b
  ⟨range.start, closed b, if closed b then slopes b else spread range.count (slopes b)⟩

/-- The derivative of a system by sparse rows, given how a block's derivative is obtained. -/
def sparseRows (s : System α) (closed : Block α → Bool)
    (slopes : Block α → List (SlopeRow α)) : List (SlopeRow α) :=
  (List.range s.rows).map (assemble (s.blocks.map (s.contribution closed slopes)))

/-- Sparse rows written out over given positions; absent entries are zero. -/
def dense (columns : List Nat) (rows : List (SlopeRow α)) : List (List (Option α)) :=
  rows.map fun row => columns.map fun j => (row.lookup j).getD (some 0)

/-- The derivative of a system by given positions, in closed form where there is one. -/
def jacobian (s : System α) (p : Valuation α) (columns : List Nat) : List (List (Option α)) :=
  dense columns (s.sparseRows (fun b => b.relation.analytic) fun b => b.derivative s.step p)

/-- The derivative of a system by given positions, by differences throughout. -/
def differences (s : System α) (p : Valuation α) (columns : List Nat) :
    List (List (Option α)) :=
  dense columns (s.sparseRows (fun _ => false) fun b => b.differences s.step p)

/-- The discrepancy of every constraint by identifier; a repeated identifier keeps the last. -/
def discrepancies (s : System α) (p : Valuation α) : List (Identifier × Discrepancy α) :=
  s.blocks.foldl
    (fun found b =>
      let d := Discrepancy.ofRows (b.residual p)
      if found.any (·.1.value == b.id) then
        found.map fun e => if e.1.value == b.id then (e.1, d) else e
      else found ++ [(b.constraint.identifier, d)])
    []

end System

end PlanarSketch
