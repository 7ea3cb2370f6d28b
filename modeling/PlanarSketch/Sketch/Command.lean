import PlanarSketch.Sketch

/-!
# Commands on sketches

Everything that can be done to a sketch, as data: a command is performed on a
sketch and yields an edit with a reply.  A session is a list of commands, performed
one after the other; the run of a session goes on after a fault, from the sketch as
it was.
-/

namespace PlanarSketch

set_option autoImplicit false

variable {α : Type}

/-- Something that can be done to a sketch. -/
inductive Command (α : Type) where
  | addShape (shape : Shape α) (fixed : Mark)
  | addArcThrough (sx sy mx my ex ey : α) (fixed : Mark)
  | setParams (id : Int) (params : List α)
  | fix (id : Int)
  | unfix (id : Int)
  | removeEntity (id : Int)
  | addConstraint (kind : ConstraintKind) (entityIds : List Int) (value : Option α)
      (selectors : List String) (driving : Mark)
  | updateConstraint (id : Int) (value : Option α)
  | removeConstraint (id : Int)
  | clearConstraints
  | infer (apply : Bool)
  | solve (options : Option (Options α))
  | drag (id : Int) (x y : α) (selector : String)

/-- What a sketch replies to a command. -/
inductive Reply (α : Type) where
  /-- The command has no answer but that it was performed. -/
  | performed
  /-- The identifier of what was added. -/
  | added (id : Int)
  | constraint (c : Constraint α)
  | constraint? (c : Option (Constraint α))
  | constraints (cs : List (Constraint α))
  | solution (s : Solution α)

variable [Scalar α]

namespace Sketch

/-- Perform a command. -/
def perform (engine : Engine α) (s : Sketch α) : Command α → Edit α (Reply α)
  | .addShape shape fixed => (s.addShape shape fixed).map .added
  | .addArcThrough sx sy mx my ex ey fixed =>
    (s.addArcThrough sx sy mx my ex ey fixed).map .added
  | .setParams id params => (s.setParams id params).map fun _ => .performed
  | .fix id => (s.setFixed id (.of true)).map fun _ => .performed
  | .unfix id => (s.setFixed id (.of false)).map fun _ => .performed
  | .removeEntity id => (s.removeEntity id).map .constraints
  | .addConstraint kind ids value selectors driving =>
    (s.addConstraint kind ids value selectors driving).map .added
  | .updateConstraint id value => (s.updateConstraint id value).map .constraint
  | .removeConstraint id => (s.removeConstraint id).map .constraint?
  | .clearConstraints => s.clearConstraints.map fun _ => .performed
  | .infer apply => (s.inferConstraints apply).map .constraints
  | .solve options => (s.solve engine options).map .solution
  | .drag id x y selector => (s.drag engine id x y selector).map .solution

/-- The sketch after a session, whatever was refused on the way. -/
def after (engine : Engine α) (s : Sketch α) (session : List (Command α)) : Sketch α :=
  session.foldl (fun s command => (s.perform engine command).sketch) s

end Sketch

end PlanarSketch
