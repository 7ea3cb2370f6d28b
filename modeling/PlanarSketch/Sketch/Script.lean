import PlanarSketch.Options.Record
import PlanarSketch.Sketch.Arguments
import PlanarSketch.Sketch.Command
import PlanarSketch.Sketch.Record

/-!
# Commands in scripts

A script calls commands by name.  Optional arguments may be left out: a shape is
movable, a circle has radius one about the origin, a constraint is driving and
selects no points.

The constraints that are added most often have calls of their own.  Such a call is
described by the names of its arguments: the entities, the target value if the kind
has one, and the selectors.

An entity or a constraint that is to be changed must be there before the rest of
the call is read, so a call that is wrong in both ways is refused for the former.
-/

namespace PlanarSketch

set_option autoImplicit false

/-- Options in a script, where a number without a literal is spelled. -/
def Options.ofSpelled (d : Document) : Except (Fault Float) (Options Float) :=
  Options.ofDocument (d.mapFields fun _ v => v.revived)

/-- The names of the arguments of a call that adds a constraint of one kind. -/
structure ConstraintCall where
  kind : ConstraintKind
  /-- The entities, all of which must be given. -/
  entities : List String
  /-- An entity besides, which may be null or left out. -/
  another : Option String
  value : Option String
  /-- The selectors, in the order of the entities; an entity behind them is taken as a whole. -/
  selectors : List String

namespace ConstraintCall

/-- The call that relates two entities as a whole. -/
def whole (kind : ConstraintKind) (first second : String) : ConstraintCall :=
  ⟨kind, [first, second], none, none, []⟩

/-- The call that measures a single entity. -/
def single (kind : ConstraintKind) (entity value : String) : ConstraintCall :=
  ⟨kind, [entity], none, some value, []⟩

/-- The call that measures between points of two entities. -/
def between (kind : ConstraintKind) : ConstraintCall :=
  ⟨kind, ["eid_a", "eid_b"], none, some "dist", ["sel_a", "sel_b"]⟩

/-- The call that aligns a single line, or points of two entities. -/
def alignment (kind : ConstraintKind) : ConstraintCall :=
  ⟨kind, ["eid_a"], some "eid_b", none, ["sel_a", "sel_b"]⟩

/-- The call that puts a point on a line. -/
def incidence (kind : ConstraintKind) : ConstraintCall :=
  ⟨kind, ["point_eid", "line_eid"], none, none, ["sel"]⟩

/-- The calls that add a constraint of one kind. -/
def all : List (String × ConstraintCall) :=
  [("constrain_coincident", ⟨.coincident, ["eid_a", "eid_b"], none, none, ["sel_a", "sel_b"]⟩),
    ("constrain_horizontal", alignment .horizontal), ("constrain_vertical", alignment .vertical),
    ("constrain_distance", between .distance),
    ("constrain_horizontal_distance", between .horizontalDistance),
    ("constrain_vertical_distance", between .verticalDistance),
    ("constrain_angle", ⟨.angle, ["line_a", "line_b"], none, some "angle_deg", []⟩),
    ("constrain_perpendicular", whole .perpendicular "line_a" "line_b"),
    ("constrain_parallel", whole .parallel "line_a" "line_b"),
    ("constrain_collinear", whole .collinear "line_a" "line_b"),
    ("constrain_equal", whole .equal "eid_a" "eid_b"),
    ("constrain_tangent", whole .tangent "eid_a" "eid_b"),
    ("constrain_concentric", whole .concentric "curve_a" "curve_b"),
    ("constrain_radius", single .radius "curve_eid" "radius"),
    ("constrain_diameter", single .diameter "curve_eid" "diameter"),
    ("constrain_length", single .length "line_eid" "length"),
    ("constrain_point_on_line", incidence .pointOnLine),
    ("constrain_midpoint", incidence .midpoint),
    ("constrain_symmetric",
      ⟨.symmetric, ["eid_a", "eid_b", "line_eid"], none, none, ["sel_a", "sel_b"]⟩)]

/-- The arguments of a call that adds a constraint. -/
def bind (call : ConstraintCall) (args : List Document) : Except (Fault Float) Arguments :=
  Arguments.bind (call.entities ++ call.value.toList) (call.another.toList ++ call.selectors) args

/-- The target value that a call gives; an angle is given in degrees. -/
def target (call : ConstraintCall) (a : Arguments) : Except (Fault Float) (Option Float) :=
  match call.value with
  | none => .ok none
  | some name =>
    if call.kind = .angle then (a.plainNumber name).map fun x => some (Scalar.radians x)
    else a.value name

/-- The entities of a call, and whether the one that may be left out is. -/
def entityNames (call : ConstraintCall) (a : Arguments) : List String × Bool :=
  match call.another with
  | none => (call.entities, false)
  | some name =>
    match a.find? name with
    | none | some .null => (call.entities, true)
    | some _ => (call.entities ++ [name], false)

/-- The names of points that a call selects, as many as there are entities; none for a call
without selectors, and none for a single line. -/
def selected (call : ConstraintCall) (a : Arguments) (entities : Nat) (alone : Bool) :
    List String :=
  if alone || call.selectors.isEmpty then []
  else
    call.selectors.map a.selector ++ List.replicate (entities - call.selectors.length) ""

/-- The command of a call that adds a constraint.  Degrees are read before anything else. -/
def command (call : ConstraintCall) (a : Arguments) : Except (Fault Float) (Command Float) := do
  if call.kind = .angle then let _ ← call.target a
  let (names, alone) := call.entityNames a
  let ids ← names.mapM a.integer
  let value ← call.target a
  .ok (.addConstraint call.kind ids value (call.selected a names.length alone) (.of true))

end ConstraintCall

namespace Command

/-- The options that a call of a solve gives, when it gives any. -/
def solveOptions? : List Document → Except (Fault Float) (Option (Options Float))
  | [] => .ok none
  | d :: _ =>
    match (d.field? "options").getD d with
    | .null => .ok none
    | d => (Options.ofSpelled d).map some

/-- The command of a call that adds an entity. -/
def ofAddCall? (name : String) (args : List Document) :
    Except (Fault Float) (Option (Command Float)) := do
  match name with
  | "add_point" =>
    let a ← Arguments.bind [] ["x", "y", "fixed"] args
    return some (.addShape (.point (← a.numberOr 0.0 "x") (← a.numberOr 0.0 "y"))
      (a.markOr false "fixed"))
  | "add_line" =>
    let a ← Arguments.bind ["start", "end"] ["fixed"] args
    let (x₁, y₁) ← a.pair "start"
    let (x₂, y₂) ← a.pair "end"
    return some (.addShape
      (.line (← Arguments.readNumber x₁) (← Arguments.readNumber y₁)
        (← Arguments.readNumber x₂) (← Arguments.readNumber y₂))
      (a.markOr false "fixed"))
  | "add_circle" =>
    let a ← Arguments.bind [] ["center", "radius", "fixed"] args
    let (x, y) ←
      if (a.find? "center").isSome then a.pair "center" else .ok (.real 0.0, .real 0.0)
    return some (.addShape
      (.circle (← Arguments.readNumber x) (← Arguments.readNumber y) (← a.numberOr 1.0 "radius"))
      (a.markOr false "fixed"))
  | "add_arc" =>
    let a ← Arguments.bind ["center", "radius", "start_angle", "end_angle"] ["fixed"] args
    let (x, y) ← a.pair "center"
    return some (.addShape
      (.arc (← Arguments.readNumber x) (← Arguments.readNumber y) (← a.number "radius")
        (← a.number "start_angle") (← a.number "end_angle"))
      (a.markOr false "fixed"))
  | "add_arc_3pt" =>
    let a ← Arguments.bind ["start", "mid", "end"] ["fixed"] args
    let (sx, sy) ← a.pair "start"
    let (mx, my) ← a.pair "mid"
    let (ex, ey) ← a.pair "end"
    let read (d : Document) : Except (Fault Float) Float :=
      Fault.ofDocument d.revived.plainNumber
    return some (.addArcThrough (← read sx) (← read sy) (← read mx) (← read my) (← read ex)
      (← read ey) (a.markOr false "fixed"))
  | _ => return none

/-- The command of a call that changes an entity. -/
def ofEntityCall? (s : Sketch Float) (name : String) (args : List Document) :
    Except (Fault Float) (Option (Command Float)) := do
  let only : Except (Fault Float) Int := do
    let a ← Arguments.bind ["eid"] [] args
    return (← s.lookUpEntity (← a.get "eid")).id
  match name with
  | "set_params" =>
    let a ← Arguments.bind ["eid", "params"] [] args
    let e ← s.lookUpEntity (← a.get "eid")
    return some (.setParams e.id (← a.numbers "params"))
  | "fix" => return some (.fix (← only))
  | "unfix" => return some (.unfix (← only))
  | "remove_entity" => return some (.removeEntity (← only))
  | "drag" =>
    let a ← Arguments.bind ["eid", "x", "y"] ["selector"] args
    let e ← s.lookUpEntity (← a.get "eid")
    let selector ← Sketch.dragSelector e ((a.find? "selector").getD (.text Anchor.own.name))
    return some (.drag e.id (← a.number "x") (← a.number "y") selector)
  | _ => return none

/-- The command of a call that adds or changes a constraint, or that asks for a solve. -/
def ofConstraintCall? (s : Sketch Float) (name : String) (args : List Document) :
    Except (Fault Float) (Option (Command Float)) := do
  match name with
  | "add_constraint" =>
    let a ← Arguments.bind ["kind", "entity_ids"] ["value", "selectors", "driving"] args
    let kind ← ConstraintKind.ofDocument (← a.get "kind")
    let ids ← Fault.ofDocument (← a.get "entity_ids").items
    let selectors ← Fault.ofDocument ((a.find? "selectors").getD (.list [])).items
    let entityIds ← ids.mapM fun d => Fault.ofDocument d.revived.truncated
    return some (.addConstraint kind entityIds (← a.value "value")
      (selectors.map Document.shown) (a.markOr true "driving"))
  | "update_constraint" =>
    let a ← Arguments.bind ["cid", "value"] [] args
    let c ← s.lookUpConstraint (← a.get "cid")
    let value ←
      if c.kind = .angle then (a.plainNumber "value").map some else a.value "value"
    return some (.updateConstraint c.id value)
  | "remove_constraint" =>
    let a ← Arguments.bind ["cid"] [] args
    let unused := Sketch.following (s.constraints.map Constraint.id)
    return some (.removeConstraint ((← a.get "cid").whole?.getD unused))
  | "clear_constraints" =>
    let _ ← Arguments.bind [] [] args
    return some .clearConstraints
  | "infer_constraints" =>
    let a ← Arguments.bind [] ["apply"] args
    return some (.infer (a.flagOr true "apply"))
  | "solve" => return some (.solve (← solveOptions? args))
  | _ =>
    match ConstraintCall.all.lookup name with
    | none => return none
    | some call => return some (← call.command (← call.bind args))

/-- The command of a call on a sketch, when there is a command of that name. -/
def ofCall? (s : Sketch Float) (name : String) (args : List Document) :
    Except (Fault Float) (Option (Command Float)) := do
  match ← ofAddCall? name args with
  | some command => return some command
  | none =>
    match ← ofEntityCall? s name args with
    | some command => return some command
    | none => ofConstraintCall? s name args

end Command

end PlanarSketch
