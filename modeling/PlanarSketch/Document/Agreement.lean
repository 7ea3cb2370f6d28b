import PlanarSketch.Document.Number

/-!
# Documents that say the same

Two documents say the same when they are built alike from the same values.  Numbers are
compared as numbers, so a whole number agrees with the real of its value and with the
truth value that counts as it; what is no number at all differs from itself.
-/

namespace PlanarSketch.Document

set_option autoImplicit false

/-- Whether two documents are one whole number, whatever they are written as. -/
def sameWhole (x y : Document) : Bool :=
  match x.whole?, y.whole? with
  | some m, some n => m == n
  | _, _ => false

mutual

/-- Whether two documents say the same. -/
def agrees : Document → Document → Bool
  | .null, .null => true
  | .truth a, .truth b => a == b
  | .whole m, .whole n => m == n
  | .real x, .real y => x == y
  | .text s, .text t => s == t
  | .list xs, .list ys => agreesItems xs ys
  | .record xs, .record ys => agreesFields xs ys
  | x, y => sameWhole x y

/-- Whether two lists of items say the same. -/
def agreesItems : List Document → List Document → Bool
  | [], [] => true
  | x :: xs, y :: ys => agrees x y && agreesItems xs ys
  | _, _ => false

/-- Whether two lists of fields say the same. -/
def agreesFields : List (String × Document) → List (String × Document) → Bool
  | [], [] => true
  | (k, x) :: xs, (l, y) :: ys => k == l && agrees x y && agreesFields xs ys
  | _, _ => false

end

end PlanarSketch.Document
