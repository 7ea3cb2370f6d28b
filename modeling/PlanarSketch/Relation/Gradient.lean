import PlanarSketch.Scalar

/-!
# Sparse gradients

A row of a derivative touches a few parameters only, so it is kept as a list of
positions with partial derivatives.  A position occurs at most once.  Positions
that do not occur have the partial derivative zero.

There are two ways to enter a value: `Gradient.put` replaces what stands at a
position, `Gradient.add` adds to it.  A linear combination adds, and leaves out
the terms whose coefficient is zero.
-/

namespace PlanarSketch

set_option autoImplicit false

/-- Partial derivatives by position. -/
abbrev Gradient (α : Type) := List (Nat × α)

namespace Gradient

variable {α : Type}

/-- The gradient with a value in the place of what stands at a position. -/
def put (i : Nat) (v : α) : Gradient α → Gradient α
  | [] => [(i, v)]
  | (j, w) :: rest => if j = i then (i, v) :: rest else (j, w) :: put i v rest

/-- The gradient of listed entries; of entries at one position the last one counts. -/
def ofEntries (entries : List (Nat × α)) : Gradient α :=
  entries.foldl (fun g (i, v) => put i v g) []

variable [Scalar α]

/-- The partial derivative at a position. -/
def entry (g : Gradient α) (i : Nat) : α := (g.lookup i).getD 0

/-- The gradient with a value added at a position. -/
def add (i : Nat) (v : α) : Gradient α → Gradient α
  | [] => [(i, 0 + v)]
  | (j, w) :: rest => if j = i then (i, w + v) :: rest else (j, w) :: add i v rest

/-- The gradient with a multiple of another one added to it. -/
def addScaled (c : α) (g : Gradient α) (sum : Gradient α) : Gradient α :=
  if c == 0 then sum else g.foldl (fun acc (i, v) => add i (c * v) acc) sum

/-- The linear combination of gradients with given coefficients. -/
def combine (terms : List (α × Gradient α)) : Gradient α :=
  terms.foldl (fun acc (c, g) => addScaled c g acc) []

end Gradient

end PlanarSketch
