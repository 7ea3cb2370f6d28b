import Mathlib.Data.List.TakeWhile
import PlanarSketch.Document.Reader
import PlanarSketch.Proofs.Outcome

/-!
# Reading what stands in front of something else

A reader takes its part from the front of the input, so what it reads should not depend on what
comes behind.  Words and texts show where they end themselves.  A number ends where no more of it
can follow (`Stops`), and then it is read alike with and without its rest.  Scalars as a whole are
read in front of a stop as they are read alone (`takeValue_scalar_append`).
-/

namespace PlanarSketch.Document

set_option autoImplicit false

open Outcome

/-! ## Blanks -/

/-- Nothing but blanks. -/
def Blank (cs : List Char) : Prop := skipBlanks cs = []

instance (cs : List Char) : Decidable (Blank cs) := inferInstanceAs (Decidable (skipBlanks cs = []))

theorem Blank.skip_append {cs : List Char} (blank : Blank cs) (rest : List Char) :
    skipBlanks (cs ++ rest) = skipBlanks rest := by
  unfold Blank skipBlanks at blank
  rw [skipBlanks, List.dropWhile_append, blank]
  rfl

theorem Blank.append {cs ds : List Char} (first : Blank cs) (second : Blank ds) :
    Blank (cs ++ ds) :=
  (first.skip_append ds).trans second

theorem skip_append_of_not_blank {cs : List Char} (filled : ¬ Blank cs) (rest : List Char) :
    skipBlanks (cs ++ rest) = skipBlanks cs ++ rest := by
  unfold Blank skipBlanks at filled
  rw [skipBlanks, List.dropWhile_append, if_neg]
  · rfl
  · rwa [List.isEmpty_iff]

/-! ## Numbers -/

/-- What is behind a number does not go on with it: a separator, a closing bracket or a blank. -/
def Stops (rest : List Char) : Prop :=
  ∀ c ∈ rest.head?, c ∈ [',', ']', '\x7d', ' ', '\t', '\n', '\r']

/-- What was taken, in front of something else. -/
def before {β : Type} (rest : List Char) (taken : β × List Char) : β × List Char :=
  (taken.1, taken.2 ++ rest)

section Numbers

variable {rest : List Char}

/-- A stop is no part of a number. -/
theorem Stops.not_mem (stops : Stops rest) {c : Char} {behind : List Char}
    (same : rest = c :: behind) : c.isDigit = false ∧ c ∉ ['.', 'e', 'E', '+', '-'] := by
  have listed := stops c (by rw [same]; rfl)
  simp only [List.mem_cons, List.not_mem_nil, or_false] at listed
  rcases listed with rfl | rfl | rfl | rfl | rfl | rfl | rfl <;> decide

theorem takeDigits_append (stops : Stops rest) (cs : List Char) :
    takeDigits (cs ++ rest) = before rest (takeDigits cs) := by
  induction cs with
  | nil =>
      cases same : rest with
      | nil => rfl
      | cons c behind => simp [takeDigits, before, (stops.not_mem same).1]
  | cons c cs ih =>
      rw [before, Prod.ext_iff] at ih
      simp only [takeDigits] at ih
      cases digit : c.isDigit with
      | true => simp [takeDigits, before, digit, ih.1, ih.2]
      | false => simp [takeDigits, before, digit]

theorem takeSign_append (stops : Stops rest) (cs : List Char) :
    takeSign (cs ++ rest) = before rest (takeSign cs) := by
  cases cs with
  | nil =>
      cases same : rest with
      | nil => rfl
      | cons c behind =>
          have other := (stops.not_mem same).2
          rw [List.nil_append]
          unfold takeSign
          split <;> simp_all [before]
  | cons c cs =>
      rw [List.cons_append]
      unfold takeSign
      split <;> simp_all [before]

theorem takeWhole_append (stops : Stops rest) (cs : List Char) :
    takeWhole (cs ++ rest) = (takeWhole cs).map (before rest) := by
  rw [takeWhole, takeWhole, takeDigits_append stops]
  obtain ⟨digits, behind⟩ := takeDigits cs
  match digits with
  | [] => rfl
  | c :: more =>
      by_cases zero : c = '0'
      · simp [before, zero]
      · simp [before, zero]

theorem takeFraction_append (stops : Stops rest) (cs : List Char) :
    takeFraction (cs ++ rest) = before rest (takeFraction cs) := by
  cases cs with
  | nil =>
      cases same : rest with
      | nil => rfl
      | cons c behind =>
          have other := (stops.not_mem same).2
          rw [List.nil_append]
          unfold takeFraction
          split <;> simp_all [before]
  | cons c cs =>
      rw [List.cons_append]
      by_cases point : c = '.'
      · subst point
        rw [takeFraction, takeFraction, takeDigits_append stops]
        obtain ⟨digits, behind⟩ := takeDigits cs
        cases digits <;> rfl
      · simp [takeFraction, point, before]

theorem takeSigned_append (stops : Stops rest) (cs : List Char) :
    takeSigned (cs ++ rest) = (takeSigned cs).map (before rest) := by
  rw [takeSigned, takeSigned, takeSign_append stops]
  dsimp only [before]
  rw [takeDigits_append stops]
  obtain ⟨digits, behind⟩ := takeDigits (takeSign cs).2
  cases digits <;> rfl

theorem takeExponent_append (stops : Stops rest) (cs : List Char) :
    takeExponent (cs ++ rest) = (takeExponent cs).map (before rest) := by
  cases cs with
  | nil =>
      cases same : rest with
      | nil => rfl
      | cons c behind =>
          have other := (stops.not_mem same).2
          rw [List.nil_append]
          unfold takeExponent
          split <;> simp_all
  | cons c cs =>
      rw [List.cons_append]
      by_cases lower : c = 'e'
      · subst lower
        exact takeSigned_append stops cs
      · by_cases upper : c = 'E'
        · subst upper
          exact takeSigned_append stops cs
        · simp [takeExponent, lower, upper]

/-- **A number is read in front of a stop as it is read alone.** -/
theorem takeMagnitude_append (stops : Stops rest) (negative : Bool) (cs : List Char) :
    takeMagnitude negative (cs ++ rest) = (takeMagnitude negative cs).map (before rest) := by
  rw [takeMagnitude, takeMagnitude, takeWhole_append stops]
  cases takeWhole cs with
  | none => rfl
  | some taken =>
      obtain ⟨front, behind⟩ := taken
      simp only [Option.map_some, before, takeFraction_append stops, takeExponent_append stops]
      obtain ⟨fraction, behind⟩ := takeFraction behind
      cases fraction with
      | nil =>
          cases takeExponent behind with
          | none => cases wholeOfDigits front <;> rfl
          | some found => rfl
      | cons digit digits => cases takeExponent behind <;> rfl

end Numbers

/-! ## Words and texts -/

theorem skipWord?_append {word cs behind : List Char} (skipped : skipWord? word cs = some behind)
    (rest : List Char) : skipWord? word (cs ++ rest) = some (behind ++ rest) := by
  induction word generalizing cs with
  | nil =>
      cases skipped
      rfl
  | cons w ws ih =>
      cases cs with
      | nil => cases skipped
      | cons c cs =>
          rw [skipWord?] at skipped
          split at skipped
          · rename_i same
            rw [List.cons_append, skipWord?, if_pos same]
            exact ih skipped
          · cases skipped

theorem takeWord_append {word : String} {d e : Document} {cs behind : List Char}
    (taken : takeWord word d cs = .ok (e, behind)) (rest : List Char) :
    takeWord word d (cs ++ rest) = .ok (e, behind ++ rest) := by
  unfold takeWord at taken ⊢
  split at taken
  · rename_i skipped
    cases taken
    rw [skipWord?_append skipped]
  · cases taken

theorem takeUnit_append {cs behind : List Char} {n : Nat} (taken : takeUnit cs = some (n, behind))
    (rest : List Char) : takeUnit (cs ++ rest) = some (n, behind ++ rest) := by
  match cs with
  | a :: b :: c :: d :: cs =>
      simp only [takeUnit, List.cons_append, Option.bind_eq_bind,
        Option.bind_eq_some_iff] at taken ⊢
      obtain ⟨w, first, x, second, y, third, z, fourth, same⟩ := taken
      cases same
      exact ⟨w, first, x, second, y, third, z, fourth, rfl⟩
  | [] | [_] | [_, _] | [_, _, _] => cases taken

/-- The second half of a pair, where an escape with one stands in front. -/
def secondHalf? : List Char → Option (Nat × List Char)
  | '\\' :: 'u' :: more =>
    match takeUnit more with
    | some (n, tail) => if Text.isLowHalf n then some (n, tail) else none
    | none => none
  | _ => none

/-- A unit makes up a pair with the half behind it, or it stands for itself. -/
theorem takeCodePoint_eq (cs : List Char) :
    takeCodePoint cs = (takeUnit cs).map fun (first, rest) =>
      match if Text.isHighHalf first then secondHalf? rest else none with
      | some (second, tail) => (Text.Piece.ofPair first second, tail)
      | none => (Text.Piece.ofUnit first, rest) := by
  unfold takeCodePoint
  cases takeUnit cs with
  | none => rfl
  | some unit =>
      obtain ⟨first, rest⟩ := unit
      rw [Option.map_some]
      dsimp only
      split
      · split
        · rename_i more
          rw [secondHalf?]
          cases takeUnit more with
          | none => rfl
          | some second => by_cases low : Text.isLowHalf second.1 = true <;> simp [low]
        · rename_i other
          rw [secondHalf?]
          exact other
      · rfl

theorem secondHalf?_append {cs behind : List Char} {n : Nat}
    (found : secondHalf? cs = some (n, behind)) (rest : List Char) :
    secondHalf? (cs ++ rest) = some (n, behind ++ rest) := by
  unfold secondHalf? at found
  split at found
  · rename_i more
    cases unit : takeUnit more with
    | none =>
        rw [unit] at found
        cases found
    | some taken =>
        rw [unit] at found
        dsimp only at found
        split at found
        · rename_i low
          cases found
          rw [List.cons_append, List.cons_append, secondHalf?, takeUnit_append unit]
          exact if_pos low
        · cases found
  · cases found

/-- The input breaks off where a text is still open: at its end, or within an escape. -/
inductive BreaksOff : List Char → Prop where
  | nothing : BreaksOff []
  | backslash : BreaksOff ['\\']
  | unit {more : List Char} (short : takeUnit more = none) : BreaksOff ('\\' :: 'u' :: more)

/-- Where no second half is found, there is none with something else behind the input either,
unless the input breaks off. -/
theorem secondHalf?_append_eq_none {cs : List Char} (absent : secondHalf? cs = none)
    (goes : ¬ BreaksOff cs) (rest : List Char) : secondHalf? (cs ++ rest) = none := by
  match cs with
  | [] => exact absurd .nothing goes
  | [c] =>
      have other : c ≠ '\\' := by
        rintro rfl
        exact goes .backslash
      simp [secondHalf?, other]
  | c :: d :: more =>
      by_cases escape : c = '\\' ∧ d = 'u'
      · obtain ⟨rfl, rfl⟩ := escape
        cases unit : takeUnit more with
        | none => exact absurd (.unit unit) goes
        | some taken =>
            rw [secondHalf?, unit] at absent
            rw [List.cons_append, List.cons_append, secondHalf?, takeUnit_append unit]
            dsimp only at absent ⊢
            split at absent
            · cases absent
            · rename_i other
              exact if_neg other
      · rw [List.cons_append, List.cons_append]
        unfold secondHalf?
        split
        · simp_all
        · rfl

/-- Behind the first half of a pair the reader looks for the second one, so it is not enough that
the rest is not needed: the input must not break off where it was read to. -/
theorem takeCodePoint_append {cs behind : List Char} {p : Text.Piece}
    (taken : takeCodePoint cs = some (p, behind)) (goes : ¬ BreaksOff behind) (rest : List Char) :
    takeCodePoint (cs ++ rest) = some (p, behind ++ rest) := by
  rw [takeCodePoint_eq] at taken ⊢
  obtain ⟨⟨first, tail⟩, unit, read⟩ := Option.map_eq_some_iff.1 taken
  rw [takeUnit_append unit, Option.map_some]
  dsimp only at read ⊢
  by_cases high : Text.isHighHalf first = true
  · rw [if_pos high] at read ⊢
    cases second : secondHalf? tail with
    | none =>
        rw [second] at read
        cases read
        rw [secondHalf?_append_eq_none second goes]
    | some half =>
        rw [second] at read
        cases read
        rw [secondHalf?_append second]
  · rw [if_neg high] at read ⊢
    cases read
    rfl

theorem takeEscape_append {cs behind : List Char} {p : Text.Piece}
    (taken : takeEscape cs = some (p, behind)) (goes : ¬ BreaksOff behind) (rest : List Char) :
    takeEscape (cs ++ rest) = some (p, behind ++ rest) := by
  unfold takeEscape at taken
  split at taken
  case h_9 => exact takeCodePoint_append taken goes rest
  case h_10 => cases taken
  all_goals
    cases taken
    rfl

theorem takeChars_of_breaksOff {cs : List Char} (short : BreaksOff cs) (fuel : Nat)
    (acc : List Char) : takeChars fuel acc cs = .error .malformed := by
  cases fuel with
  | zero => rfl
  | succ fuel =>
      cases short with
      | nothing => rfl
      | backslash => rfl
      | @unit more short =>
          have none : takeEscape ('u' :: more) = none := by
            rw [takeEscape, takeCodePoint, short]
          rw [takeChars, none]

/-- A text that has come to its end is read alike whatever is behind it. -/
theorem takeChars_append {fuel fuel' : Nat} {acc cs taken behind : List Char}
    (read : takeChars fuel acc cs = .ok (taken, behind)) (enough : fuel ≤ fuel')
    (rest : List Char) : takeChars fuel' acc (cs ++ rest) = .ok (taken, behind ++ rest) := by
  induction fuel generalizing fuel' acc cs with
  | zero => cases read
  | succ fuel ih =>
      obtain ⟨more, rfl⟩ : ∃ more, fuel' = more + 1 := ⟨fuel' - 1, by omega⟩
      have enough : fuel ≤ more := by omega
      unfold takeChars at read
      split at read
      · cases read
      · cases read
        rfl
      · split at read
        · rename_i p tail escaped
          -- The text goes on behind the escape, so the escape was there as a whole.
          have goes : ¬ BreaksOff tail := by
            intro short
            rw [takeChars_of_breaksOff short] at read
            cases read
          rw [List.cons_append, takeChars, takeEscape_append escaped goes]
          exact ih read enough
        · cases read
      · split at read
        · cases read
        · rename_i c cs notQuote notBackslash printed
          rw [List.cons_append, takeChars, if_neg printed]
          · exact ih read enough
          · exact notQuote
          · exact notBackslash

theorem takeText_append {cs behind : List Char} {s : String} (read : takeText cs = .ok (s, behind))
    (rest : List Char) : takeText (cs ++ rest) = .ok (s, behind ++ rest) := by
  unfold takeText at read ⊢
  obtain ⟨taken, outcome, same⟩ := map_eq_ok.1 read
  cases same
  have room : cs.length + 1 ≤ (cs ++ rest).length + 1 := by simp
  rw [takeChars_append outcome room]
  rfl

/-! ## Scalars -/

/-- A document without parts. -/
def IsScalar : Document → Prop
  | .list _ => False
  | .record _ => False
  | _ => True

/-- **A scalar is read in front of a stop as it is read alone**, with any fuel. -/
theorem takeValue_scalar_append {fuel fuel' : Nat} {cs behind rest : List Char} {d : Document}
    (scalar : d.IsScalar) (read : takeValue (fuel + 1) cs = .ok (d, behind)) (stops : Stops rest) :
    takeValue (fuel' + 1) (cs ++ rest) = .ok (d, behind ++ rest) := by
  have number {negative : Bool} {cs : List Char}
      (read : takeMagnitude negative cs = .ok (d, behind)) :
      takeMagnitude negative (cs ++ rest) = .ok (d, behind ++ rest) := by
    rw [takeMagnitude_append stops, read]
    rfl
  unfold takeValue at read
  split at read
  case h_1 cs =>
    obtain ⟨taken, outcome, same⟩ := map_eq_ok.1 read
    cases same
    rw [List.cons_append, takeValue, takeText_append outcome]
    rfl
  -- Behind a bracket stands no scalar.
  case h_2 | h_3 =>
    split at read
    · cases read
      cases scalar
    · obtain ⟨taken, -, same⟩ := map_eq_ok.1 read
      cases same
      cases scalar
  case h_10 cs notWord =>
    cases cs with
    | nil => cases read
    | cons c cs =>
        rw [List.cons_append, takeValue]
        · exact number read
        · intro _ same
          cases same
          exact notWord _ rfl
  case h_11 =>
    cases cs with
    | nil => cases read
    | cons c cs =>
        rw [List.cons_append, takeValue]
        · exact number read
        all_goals
          intro _ same
          simp_all
  all_goals exact takeWord_append read rest

end PlanarSketch.Document
