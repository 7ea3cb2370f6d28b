import PlanarSketch.Registry.Record

/-!
# Actions on registries

Everything that can be done to a registry, as data.  A run is a list of actions, taken
one after the other.  An action that is refused leaves the registry to go on with, and a
document that cannot be loaded leaves the registry that was there.
-/

namespace PlanarSketch

set_option autoImplicit false

namespace Registry

/-- Something that can be done to a registry. -/
inductive Action where
  | register (s : Sketch Float) (label? : Option String)
  /-- Register the sketch under a label also under another one. -/
  | registerAlso (label? other? : Option String)
  | remove (label : String)
  | clear
  /-- Perform a command on the sketch under a label. -/
  | edit (label : String) (command : Command Float)
  | solveAll (options : Option (Options Float)) (workers : Option Int)
  /-- Go on with the registry of a document. -/
  | load (stored : Document)
  /-- Go on with what the registry is stored as. -/
  | reload

/-- The registry after an action. -/
def next (engine : Engine Float) (r : Registry Float) : Action → Registry Float
  | .register s label? => ((r.register s label?).map Prod.fst).toOption.getD r
  | .registerAlso label? other? => ((r.registerAlso label? other?).map Prod.fst).toOption.getD r
  | .remove label => r.remove label
  | .clear => empty
  | .edit label command =>
    ((r.edit? label fun s => s.perform engine command).map Change.registry).getD r
  | .solveAll options workers => (r.solveAll engine options workers).registry
  | .load stored => (ofDocument stored).toOption.getD r
  | .reload => (ofDocument r.toDocument).toOption.getD r

/-- The registry after a run, whatever was refused on the way. -/
def after (engine : Engine Float) (r : Registry Float) (run : List Action) : Registry Float :=
  run.foldl (next engine) r

end Registry

end PlanarSketch
