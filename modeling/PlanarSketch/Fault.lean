import PlanarSketch.Constraint.Kind
import PlanarSketch.Entity.Kind
import PlanarSketch.Identifier

/-!
# Faults

A fault is the reason why an operation has no answer.  Each constructor is one
cause, with the data that the cause is about; how it is worded is a separate
matter.  That a sketch cannot be solved is not a fault but an ordinary result.  What
was looked up in vain need not have been an identifier or a name at all, so it is kept
as the document that asked for it.

`Fault.constraintId` and `Fault.entityId` tell which constraint and which entity
a fault is about, when it is about one.
-/

namespace PlanarSketch

set_option autoImplicit false

/-- Why the geometry of an entity is degenerate. -/
inductive Degeneracy (α : Type) where
  /-- A line without length. -/
  | flatLine
  /-- A circle without a positive radius. -/
  | smallCircle (radius : α)
  /-- An arc without a positive radius. -/
  | smallArc (radius : α)
  /-- An arc whose ends coincide. -/
  | closedArc
  /-- An arc whose sweep is beyond all numbers, so that it cannot be reduced to a turn. -/
  | endlessArc
deriving DecidableEq, Repr

/-- What a slot of a constraint must be filled with. -/
inductive SlotRole where
  | point
  | line
  | curve
deriving DecidableEq, Repr

/-- An option of a solve that must be positive. -/
inductive PositiveOption where
  | tolerance
  | minStep
  | rankTolerance
  | differenceStep
  | gradientTolerance
deriving DecidableEq, Repr

/-- A count as it was given. -/
inductive GivenCount (α : Type) where
  /-- A whole number. -/
  | whole (value : Int)
  /-- A number that may have a fraction, with its whole value when it has none. -/
  | real (value : α) (whole? : Option Int)
  /-- A text that spells a whole number. -/
  | spelled (value : String)
  /-- Something that has no whole part. -/
  | unusable (cause : DocumentFault)
deriving DecidableEq, Repr

/-- Why an operation has no answer. -/
inductive Fault (α : Type) where
  /-- An entity has another number of parameters than its kind demands. -/
  | paramCount (kind : EntityKind) (entity : Int) (given : Nat)
  /-- An entity has a parameter that is no ordinary number. -/
  | nonFiniteParams (entity : Int) (params : List α)
  /-- A name selects no point on an entity of a kind. -/
  | noPoint (kind : EntityKind) (selector : Document)
  /-- The length of an entity other than a line is asked for. -/
  | noLength (kind : EntityKind) (entity : Int)
  /-- The radius of an entity other than a curve is asked for. -/
  | noRadius (kind : EntityKind) (entity : Int)
  /-- Two entities have one identifier. -/
  | duplicateEntity (entity : Int)
  /-- A layout has no place for an entity. -/
  | notLaidOut (entity : Document)
  /-- An entity has another number of parameters than its place in a layout. -/
  | placeSize (given place : Nat)
  /-- A constraint has a number of entities that its kind does not take. -/
  | arity (kind : ConstraintKind) (constraint : Identifier) (given : Nat)
  /-- A constraint has more selectors than entities. -/
  | selectorCount (constraint : Identifier) (selectors entities : Nat)
  /-- A constraint of a kind without target value has one. -/
  | unwantedValue (kind : ConstraintKind) (constraint : Identifier)
  /-- A constraint lacks an ordinary number as its target value. -/
  | missingValue (kind : ConstraintKind) (constraint : Identifier)
  /-- A target value that must not be negative is. -/
  | negativeValue (kind : ConstraintKind) (constraint : Identifier) (value : α)
  /-- A target value that must be positive is not. -/
  | nonPositiveValue (kind : ConstraintKind) (constraint : Identifier) (value : α)
  /-- Two constraints have one identifier. -/
  | duplicateConstraint (constraint : Identifier)
  /-- A constraint names an entity that is not among those given. -/
  | missingEntity (kind : ConstraintKind) (constraint : Identifier) (entity : Int)
  /-- An entity does not fit the slot of a constraint that it fills. -/
  | slot (kind : ConstraintKind) (constraint : Identifier) (entity : Int) (entityKind : EntityKind)
      (selector : String) (role : SlotRole)
  /-- The two entities that shall be equal have nothing in common to be equal in. -/
  | incomparable (constraint : Identifier) (first second : EntityKind)
  /-- A constraint is about degenerate geometry. -/
  | degenerate (kind : ConstraintKind) (constraint : Identifier) (entity : Int)
      (reason : Degeneracy α)
  /-- An angle or a sweep is beyond all numbers. -/
  | endlessAngle
  /-- A matrix or a vector holds something other than ordinary numbers. -/
  | nonFiniteMatrix
  /-- A derivative has another number of rows than there is room for, at some positions. -/
  | slopeShape (given available positions : Nat)
  /-- The entries of a matrix do not make up as many rows and columns as it shall have. -/
  | matrixSize (given rows columns : Nat)
  /-- A matrix and a right-hand side have different numbers of rows. -/
  | heights (matrix vector : Nat)
  /-- The entries of two vectors cannot be taken in pairs. -/
  | unpaired (first second : Nat)
  /-- A vector has another number of entries than the matrix it is multiplied with has columns. -/
  | productSizes (given needed : Nat)
  /-- Something is asked for at a place where there is nothing. -/
  | outOfRange
  /-- No step is short enough for the search to give up, and no step helps. -/
  | endlessSearch
  /-- A sketch has no entity of an identifier. -/
  | noEntity (sketch entity : Document)
  /-- A sketch has no constraint of an identifier. -/
  | noConstraint (sketch constraint : Document)
  /-- A constraint to be added to a sketch names an entity that the sketch lacks. -/
  | danglingConstraint (sketch : Document) (constraint : Identifier) (entity : Int)
  /-- The three points that an arc shall pass lie on one line. -/
  | collinearArc
  /-- A fixed entity is dragged. -/
  | dragFixed (entity : Int)
  /-- A line is dragged, but not by one of its ends. -/
  | dragLine
  /-- An entity is dragged by a point that cannot be dragged. -/
  | dragPoint (kind : EntityKind) (selector : Document)
  /-- Options are given that do not exist. -/
  | unknownOptions (names : List String)
  /-- A number of steps is not a natural number. -/
  | iterationLimit (given : GivenCount α)
  /-- The damping factor is not strictly between zero and one. -/
  | dampingFactor (given : α)
  /-- An option that must be positive is not. -/
  | nonPositiveOption (option : PositiveOption) (given : α)
  /-- A name is none of those that are known. -/
  | unknownName (name : Document)
  /-- Work is handed to no workers at all. -/
  | noWorkers
  /-- A stored document cannot be read. -/
  | document (cause : DocumentFault)

namespace Fault

variable {α : Type}

/-- The constraint that a fault is about. -/
def constraintId : Fault α → Option Document
  | arity _ c _ | selectorCount c _ _ | unwantedValue _ c | missingValue _ c
  | negativeValue _ c _ | nonPositiveValue _ c _ | duplicateConstraint c | missingEntity _ c _
  | slot _ c _ _ _ _ | incomparable c _ _ | degenerate _ c _ _ | danglingConstraint _ c _ =>
    some c.toDocument
  | noConstraint _ asked => some asked
  | _ => none

/-- The entity that a fault is about. -/
def entityId : Fault α → Option Document
  | duplicateEntity e | missingEntity _ _ e | degenerate _ _ e _ | danglingConstraint _ _ e =>
    some (.whole e)
  | notLaidOut asked | noEntity _ asked => some asked
  | _ => none

/-- The fault that something which cannot be a name is none of the known names. -/
def unnamed : Document → Fault α
  | .list _ => .document .wrongForm
  | .record _ => .document .wrongForm
  | d => .unknownName d

/-- What has been found, or the fault that there is no such thing. -/
def require {β : Type} (fault : Fault α) (found : Option β) : Except (Fault α) β :=
  match found with
  | some b => .ok b
  | none => .error fault

end Fault

/-- What was read from a document, where a failure to read is a fault. -/
def Fault.ofDocument {α β : Type} : Except DocumentFault β → Except (Fault α) β
  | .ok b => .ok b
  | .error e => .error (.document e)

end PlanarSketch
