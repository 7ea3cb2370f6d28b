import PlanarSketch.Document.Agreement

/-!
# Marks

A mark is on or off.  Every document counts as true or as false and can be written where
a mark is wanted, so a mark keeps what was written and is shown that way.  Nothing that
a sketch does depends on more of a mark than whether it is on.
-/

namespace PlanarSketch

set_option autoImplicit false

/-- A mark as it was written. -/
structure Mark where
  written : Document

namespace Mark

/-- The mark that is written as a truth value. -/
def of (on : Bool) : Mark := ⟨.truth on⟩

/-- Whether a mark is on: what was written counts as true. -/
def on (m : Mark) : Bool := m.written.holds

/-- A mark that is written as a truth value is on when that value is. -/
@[simp] theorem on_of (b : Bool) : (of b).on = b := rfl

/-- Whether two marks are written as the same. -/
def agrees (a b : Mark) : Bool := a.written.agrees b.written

end Mark

end PlanarSketch
