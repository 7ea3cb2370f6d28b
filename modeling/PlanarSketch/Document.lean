import PlanarSketch.Text.Piece

/-!
# Documents

A document is what a sketch is stored as: a tree of records and lists over
texts, truth values and numbers.  Whole numbers and reals are told apart, since
an identifier is a whole number of any size and a coordinate is a double.  A
record keeps its fields in the order in which they were first written.  Where items
are asked for, a text gives its pieces and a record its names.

Looking something up or reading a number can fail for a few reasons only; they
are the constructors of `DocumentFault`.
-/

namespace PlanarSketch

set_option autoImplicit false

/-- A tree of stored data. -/
inductive Document where
  | null
  | truth (value : Bool)
  | whole (value : Int)
  | real (value : Float)
  | text (value : String)
  | list (items : List Document)
  | record (fields : List (String × Document))

/-- Why a document does not say what is asked of it. -/
inductive DocumentFault where
  /-- A record lacks a field it must have. -/
  | missing (key : String)
  /-- A whole number lies beyond all doubles, or a whole number is asked of an infinite one. -/
  | tooLarge
  /-- A whole number is asked of a value that is no number. -/
  | notWhole
  /-- A number is asked of a text that spells none. -/
  | notNumber (text : String)
  /-- A whole number is asked of a text that spells none. -/
  | notInteger (text : String)
  /-- A whole number is spelled with more digits than are read. -/
  | tooManyDigits (count : Nat)
  /-- A whole number has more digits than are written. -/
  | tooLong
  /-- A part has another form than the one that is read. -/
  | wrongForm
  /-- Fields that may all be missing are asked of something that is no record. -/
  | notRecord
  /-- A text is not a written document at all. -/
  | malformed
deriving DecidableEq, Repr

namespace Document

/-- Replace the field of a name where it stands, or add it at the end. -/
def put (key : String) (value : Document) :
    List (String × Document) → List (String × Document)
  | [] => [(key, value)]
  | (k, v) :: rest => if k = key then (key, value) :: rest else (k, v) :: put key value rest

/-- Fields in order, where a repeated name keeps its first place and its last value. -/
def ofFields (fields : List (String × Document)) : Document :=
  .record (fields.foldl (fun acc (k, v) => put k v acc) [])

/-- The field of a name, when this is a record that has it. -/
def field? (key : String) : Document → Option Document
  | .record fields => fields.lookup key
  | _ => none

/-- The field of a name. -/
def field (key : String) : Document → Except DocumentFault Document
  | .record fields =>
    match fields.lookup key with
    | some value => .ok value
    | none => .error (.missing key)
  | _ => .error .wrongForm

/-- The fields of a record. -/
def fields : Document → Except DocumentFault (List (String × Document))
  | .record fields => .ok fields
  | _ => .error .notRecord

/-- The items of a list; those of a text are its pieces, those of a record its names. -/
def items : Document → Except DocumentFault (List Document)
  | .list items => .ok items
  | .text s => .ok ((Text.pieces s).map fun p => .text (Text.ofPieces [p]))
  | .record fields => .ok (fields.map fun (key, _) => .text key)
  | _ => .error .wrongForm

/-- A text. -/
def string : Document → Except DocumentFault String
  | .text s => .ok s
  | _ => .error .wrongForm

/-- Whether a document counts as true: it is neither null, nor false, nor zero, nor empty. -/
def holds : Document → Bool
  | .null => false
  | .truth b => b
  | .whole n => n != 0
  | .real x => x != 0.0
  | .text s => s != ""
  | .list items => !items.isEmpty
  | .record fields => !fields.isEmpty

end Document

end PlanarSketch
