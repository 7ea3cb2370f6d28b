/-!
# Pieces of text

A text is a list of pieces, and most pieces are characters.  Documents write a
character beyond the first plane as a pair of code units, though, and can hold one
half of such a pair without the other.  A half that stands alone is no character; it
is a piece of its own, and must be the same piece when the document is written again.

Texts are kept as strings.  A half is kept as a mark with a character behind it that
tells which half it is, and a character that is itself the mark is kept as two marks.
So the pieces of a text can always be found again, and different texts are kept as
different strings.
-/

namespace PlanarSketch.Text

set_option autoImplicit false

/-- Whether a code unit is the first half of a pair. -/
def isHighHalf (n : Nat) : Bool := 0xD800 ≤ n && n < 0xDC00

/-- Whether a code unit is the second half of a pair. -/
def isLowHalf (n : Nat) : Bool := 0xDC00 ≤ n && n < 0xE000

/-- What a text consists of: characters, and halves of pairs by their place among all halves. -/
inductive Piece where
  | char (c : Char)
  | half (place : Fin 0x800)
deriving DecidableEq, Repr

namespace Piece

/-- The piece that a single code unit stands for. -/
def ofUnit (n : Nat) : Piece :=
  if h : 0xD800 ≤ n ∧ n < 0xE000 then half ⟨n - 0xD800, by omega⟩ else char (Char.ofNat n)

/-- The character that a pair of code units stands for, the first half before the second. -/
def ofPair (high low : Nat) : Piece :=
  char (Char.ofNat (0x10000 + (high - 0xD800) * 0x400 + (low - 0xDC00)))

/-- The code point of a character, or the code unit of a half. -/
def code : Piece → Nat
  | char c => c.toNat
  | half place => 0xD800 + place.val

end Piece

/-! ## Keeping pieces in a string -/

/-- The character in front of the one that tells a half. -/
def mark : Char := Char.ofNat 0x10FFFF

/-- The character that tells a half, behind the mark. -/
def halfChar (place : Fin 0x800) : Char := Char.ofNat (0xE000 + place.val)

/-- The half that a character behind the mark tells. -/
def halfOf? (c : Char) : Option (Fin 0x800) :=
  if h : 0xE000 ≤ c.toNat ∧ c.toNat < 0xE800 then some ⟨c.toNat - 0xE000, by omega⟩ else none

/-- The characters that a piece is kept as. -/
def Piece.kept : Piece → List Char
  | char c => if c = mark then [mark, mark] else [c]
  | half place => [mark, halfChar place]

/-- The pieces that characters are kept for; a mark with anything else behind it stands for
itself. -/
def piecesOf : List Char → List Piece
  | [] => []
  | [c] => [.char c]
  | c :: d :: rest =>
    if c = mark then
      if d = mark then .char mark :: piecesOf rest
      else
        match halfOf? d with
        | some place => .half place :: piecesOf rest
        | none => .char mark :: piecesOf (d :: rest)
    else .char c :: piecesOf (d :: rest)

/-- The text of some pieces. -/
def ofPieces (ps : List Piece) : String := String.ofList (ps.flatMap Piece.kept)

/-- The pieces of a text. -/
def pieces (s : String) : List Piece := piecesOf s.toList

/-- The text of a string that consists of characters alone. -/
def ofString (s : String) : String := ofPieces (s.toList.map .char)

/-- Whether pieces come before others or are the same, by the first codes in which they differ. -/
def inOrder : List Piece → List Piece → Bool
  | [], _ => true
  | _ :: _, [] => false
  | p :: ps, q :: qs => p.code < q.code || (p.code == q.code && inOrder ps qs)

/-- Whether a text comes before another one or is the same. -/
def precedes (s t : String) : Bool := inOrder (pieces s) (pieces t)

/-! ## Finding them again -/

/-- The code point of the character that tells a half. -/
theorem toNat_halfChar (place : Fin 0x800) : (halfChar place).toNat = 0xE000 + place.val := by
  have valid : (0xE000 + place.val).isValidChar := by
    right
    omega
  rw [halfChar, Char.ofNat, dif_pos valid]
  rfl

/-- The character that tells a half tells that half. -/
@[simp] theorem halfOf?_halfChar (place : Fin 0x800) : halfOf? (halfChar place) = some place := by
  have bounds : 0xE000 ≤ (halfChar place).toNat ∧ (halfChar place).toNat < 0xE800 := by
    rw [toNat_halfChar]
    omega
  simp only [halfOf?, bounds, and_self, ↓reduceDIte, Option.some.injEq]
  ext
  simp [toNat_halfChar]

/-- The character that tells a half is not the mark. -/
theorem halfChar_ne_mark (place : Fin 0x800) : halfChar place ≠ mark := by
  intro same
  have code := toNat_halfChar place
  rw [same] at code
  have : mark.toNat = 0x10FFFF := rfl
  omega

/-- A character that is not the mark stands for itself, whatever is behind it. -/
theorem piecesOf_cons {c : Char} (h : c ≠ mark) (rest : List Char) :
    piecesOf (c :: rest) = .char c :: piecesOf rest := by
  cases rest with
  | nil => rfl
  | cons d rest => simp [piecesOf, h]

/-- The pieces that characters are kept for are those that were kept. -/
theorem piecesOf_kept (ps : List Piece) : piecesOf (ps.flatMap Piece.kept) = ps := by
  induction ps with
  | nil => rfl
  | cons p ps ih =>
    rw [List.flatMap_cons]
    cases p with
    | char c =>
      by_cases h : c = mark
      · simp [Piece.kept, h, piecesOf, ih]
      · simp [Piece.kept, h, piecesOf_cons h, ih]
    | half place => simp [Piece.kept, piecesOf, halfChar_ne_mark, ih]

/-- A text has the pieces that it was made of. -/
@[simp] theorem pieces_ofPieces (ps : List Piece) : pieces (ofPieces ps) = ps := by
  simp [pieces, ofPieces, piecesOf_kept]

/-- Texts of different pieces are different. -/
theorem ofPieces_injective {ps qs : List Piece} (h : ofPieces ps = ofPieces qs) : ps = qs := by
  rw [← pieces_ofPieces ps, h, pieces_ofPieces]

end PlanarSketch.Text
