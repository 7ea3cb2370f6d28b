import PlanarSketch.Entity

/-!
# Parameter layouts

A solve works on one long vector of parameters.  A layout gives every entity a
place in that vector: consecutive positions, as many as the kind of the entity
has parameters, one entity after the other in the order in which they are given.
An identifier can have one place only.

Flattening writes the parameters of entities at their places; the mask of free
positions is false exactly at the places of fixed entities.
-/

namespace PlanarSketch

set_option autoImplicit false

/-- Where the parameters of one entity stand. -/
structure Place where
  id : Int
  kind : EntityKind
  offset : Nat
deriving DecidableEq, Repr

/-- The position behind the last one of a place. -/
def Place.stop (place : Place) : Nat := place.offset + place.kind.paramCount

/-- The positions of a place. -/
def Place.positions (place : Place) : List Nat :=
  List.range' place.offset place.kind.paramCount

/-- The places of entities in a vector of `size` parameters. -/
structure Layout where
  places : List Place
  size : Nat
deriving DecidableEq, Repr

namespace Layout

/-- The layout of no entities. -/
def empty : Layout := ⟨[], 0⟩

/-- The place of an identifier. -/
def place? (layout : Layout) (id : Int) : Option Place :=
  layout.places.find? fun place => place.id == id

/-- Whether an identifier has a place. -/
def contains (layout : Layout) (id : Int) : Bool := (layout.place? id).isSome

variable {α : Type} [Scalar α]

/-- The place of an identifier that must have one. -/
def place (layout : Layout) (id : Int) : Except (Fault α) Place :=
  match layout.place? id with
  | some place => .ok place
  | none => .error (.notLaidOut (.whole id))

/-- A layout with one more entity behind the others. -/
def push (layout : Layout) (e : Entity α) : Except (Fault α) Layout :=
  if layout.contains e.id then .error (.duplicateEntity e.id)
  else
    .ok ⟨layout.places ++ [⟨e.id, e.kind, layout.size⟩], layout.size + e.kind.paramCount⟩

/-- The layout of a list of entities. -/
def ofEntities (entities : List (Entity α)) : Except (Fault α) Layout :=
  entities.foldlM push empty

/-- A vector with consecutive values written over it from a position on. -/
def overwrite {β : Type} (p : Array β) (start : Nat) : List β → Array β
  | [] => p
  | x :: xs => overwrite (p.setIfInBounds start x) (start + 1) xs

/-- A vector with the parameters of one entity written at its place. -/
def write (layout : Layout) (p : Array α) (e : Entity α) : Except (Fault α) (Array α) :=
  match layout.place e.id with
  | .error fault => .error fault
  | .ok place =>
    if e.params.length = place.kind.paramCount then .ok (overwrite p place.offset e.params)
    else .error (.placeSize e.params.length place.kind.paramCount)

/-- The parameters of entities as one vector; positions of absent entities are zero. -/
def flatten (layout : Layout) (entities : List (Entity α)) : Except (Fault α) (Array α) :=
  entities.foldlM layout.write (Array.replicate layout.size 0)

/-- A mask with the positions of an entity cleared when the entity is fixed. -/
def clearFixed (layout : Layout) (mask : Array Bool) (e : Entity α) :
    Except (Fault α) (Array Bool) :=
  if e.isFixed then
    match layout.place e.id with
    | .error fault => .error fault
    | .ok place =>
      .ok (overwrite mask place.offset (List.replicate place.kind.paramCount false))
  else .ok mask

/-- Which positions a solve may change. -/
def freeMask (layout : Layout) (entities : List (Entity α)) : Except (Fault α) (Array Bool) :=
  entities.foldlM layout.clearFixed (Array.replicate layout.size true)

/-- The values of a vector at a place. -/
def read {β : Type} (p : Array β) (place : Place) : List β :=
  (p.toList.drop place.offset).take place.kind.paramCount

end Layout

/-- The positions at which a mask is true, in ascending order. -/
def freePositions (mask : Array Bool) : List Nat :=
  (List.range mask.size).filter fun i => mask.getD i false

end PlanarSketch
