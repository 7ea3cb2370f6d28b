import Mathlib.Data.List.Forall2
import Mathlib.Data.Nat.Digits.Defs
import PlanarSketch.Proofs.Outcome
import PlanarSketch.Registry

/-!
# Numbers of labels

A label is numbered if the common word is followed by decimal digits, in whatever script and
with whatever zeros in front (`Label.Numbered`).  The number of such a label is what its digits
stand for, position by position, so the counter is never behind the label that was used last
(`Registry.counterAfter_eq_ok`).  A label that is made up is a numbered one
(`Label.numbered_eq_ok`).
-/

namespace PlanarSketch

set_option autoImplicit false

open Outcome

/-! ## Digits -/

namespace Text

/-- Decimal digits that stand for a number, the digits of highest worth in front. -/
structure Denotes (digits : List Char) (n : Nat) : Prop where
  nonempty : digits ≠ []
  values : ∃ values : List Nat, List.Forall₂ (fun c v => digitValue? c = some v) digits values ∧
    Nat.ofDigits 10 values.reverse = n

/-- Digits are read from the left: what has been read moves up one place with each of them. -/
theorem foldlM_digits {digits : List Char} {values : List Nat}
    (worth : List.Forall₂ (fun c v => digitValue? c = some v) digits values) (n : Nat) :
    digits.foldlM (fun n c => (digitValue? c).map (10 * n + ·)) n =
      some (values.foldl (fun n v => 10 * n + v) n) := by
  induction worth generalizing n with
  | nil => rfl
  | cons first _ ih =>
      rw [List.foldlM_cons, first, List.foldl_cons]
      exact ih _

theorem foldl_digits (values : List Nat) :
    values.foldl (fun n v => 10 * n + v) 0 = Nat.ofDigits 10 values.reverse := by
  rw [Nat.ofDigits_eq_foldr, List.foldr_reverse]
  congr 1
  funext n v
  exact Nat.add_comm _ _

/-- Digits are read as the number that they denote. -/
theorem Denotes.decimalValue? {digits : List Char} {n : Nat} (denotes : Denotes digits n) :
    decimalValue? digits = some n := by
  obtain ⟨values, worth, rfl⟩ := denotes.values
  cases digits with
  | nil => exact absurd rfl denotes.nonempty
  | cons c cs => rw [Text.decimalValue?, foldlM_digits worth, foldl_digits]

theorem Denotes.isSome {digits : List Char} {n : Nat} (denotes : Denotes digits n) {c : Char}
    (among : c ∈ digits) : (digitValue? c).isSome = true := by
  obtain ⟨values, worth, -⟩ := denotes.values
  clear denotes
  induction worth with
  | nil => cases among
  | cons first _ ih =>
      rcases List.mem_cons.1 among with rfl | later
      · rw [first]
        rfl
      · exact ih later

/-- The common digits come first in the table. -/
theorem digitValue?_of_isDigit {c : Char} (digit : c.isDigit = true) :
    digitValue? c = some (c.toNat - '0'.toNat) := by
  have low : 48 ≤ c.toNat := Char.isDigit_iff_toNat.1 digit |>.1
  have high : c.toNat ≤ 57 := Char.isDigit_iff_toNat.1 digit |>.2
  have first : (decide (0x30 ≤ c.toNat) && decide (c.toNat < 0x30 + 10)) = true := by
    simp only [Bool.and_eq_true, decide_eq_true_eq]
    omega
  rw [digitValue?, zeros, List.find?_cons, first]
  rfl

/-- The usual digits of a number denote it. -/
theorem denotes_toDigits (n : Nat) : Denotes (Nat.toDigits 10 n) n where
  nonempty := Nat.toDigits_ne_nil
  values := by
    refine ⟨(Nat.toDigits 10 n).map fun c => c.toNat - '0'.toNat, ?_, ?_⟩
    · rw [List.forall₂_map_right_iff, List.forall₂_same]
      intro c among
      exact digitValue?_of_isDigit (Nat.isDigit_of_mem_toDigits (by omega) (by omega) among)
    · rw [← foldl_digits, List.foldl_map, ← Nat.ofDigitChars_eq_foldl]
      exact Nat.ofDigitChars_ten_toDigits

end Text

/-! ## Labels -/

namespace Label

/-- A label that consists of the common word and of digits for a number. -/
def Numbered (label : String) (n : Nat) : Prop :=
  ∃ digits, label = word ++ String.ofList digits ∧ Text.Denotes digits n

theorem behindWord?_append (w rest : List Char) : behindWord? w (w ++ rest) = some rest := by
  induction w with
  | nil => rfl
  | cons c cs ih => rw [List.cons_append, behindWord?, if_pos rfl, ih]

/-- Digits do not end in a line feed. -/
theorem withoutLineFeed_of_denotes {digits : List Char} {n : Nat}
    (denotes : Text.Denotes digits n) : withoutLineFeed digits = digits := by
  unfold withoutLineFeed
  rw [if_neg]
  intro last
  have digit := denotes.isSome (List.mem_of_getLast? last)
  revert digit
  decide

/-- The digits of a numbered label are found behind the word. -/
theorem digits?_of_denotes {digits : List Char} {n : Nat} (denotes : Text.Denotes digits n) :
    digits? (word ++ String.ofList digits) = some digits := by
  have behind : behindWord? word.toList (word ++ String.ofList digits).toList = some digits := by
    rw [String.toList_append, String.toList_ofList, behindWord?_append]
  have allDigits : (!digits.isEmpty && digits.all fun c => (Text.digitValue? c).isSome) = true := by
    rw [Bool.and_eq_true, List.all_eq_true]
    refine ⟨?_, fun c among => denotes.isSome among⟩
    rw [Bool.not_eq_true', List.isEmpty_eq_false_iff]
    exact denotes.nonempty
  rw [digits?, behind, Option.map_some, withoutLineFeed_of_denotes denotes, Option.filter_some,
    if_pos allDigits]

/-- A numbered label is refused for the length of its digits, or it has the number they denote. -/
theorem number?_of_numbered {label : String} {n : Nat} (numbered : Numbered label n)
    {number : Option Nat} (read : number? label = .ok number) : number = some n := by
  obtain ⟨digits, rfl, denotes⟩ := numbered
  rw [number?, digits?_of_denotes denotes] at read
  dsimp only at read
  split at read
  · cases read
  · rw [denotes.decimalValue?] at read
    exact (Except.ok.inj read).symm

/-- A label that is made up is numbered by what it was made up for. -/
theorem numbered_eq_ok {n : Nat} {label : String} (made : numbered n = .ok label) :
    Numbered label n := by
  unfold numbered at made
  dsimp only at made
  split at made
  · cases made
  · refine ⟨Nat.toDigits 10 n, ?_, Text.denotes_toDigits n⟩
    rw [← Nat.toString_eq_ofList_toDigits]
    exact (Except.ok.inj made).symm

end Label

namespace Registry

variable {α : Type}

/-- A label is refused only if its number is too long to be read. -/
theorem counterAfter_eq_ok_iff {counter next : Nat} {label : String} :
    (counterAfter counter label : Except (Fault α) Nat) = .ok next ↔
      ∃ number?, Label.number? label = .ok number? ∧ next = max counter (number?.getD 0) := by
  unfold counterAfter
  cases Label.number? label with
  | error cause => simp [Except.map, Fault.ofDocument]
  | ok number? => simp [Except.map, Fault.ofDocument, eq_comm]

/-- The counter never goes down, and it goes up to the number of a label that is used. -/
theorem counterAfter_eq_ok {counter next : Nat} {label : String}
    (used : (counterAfter counter label : Except (Fault α) Nat) = .ok next) :
    counter ≤ next ∧ ∀ n, Label.Numbered label n → n ≤ next := by
  obtain ⟨number?, read, rfl⟩ := counterAfter_eq_ok_iff.1 used
  refine ⟨le_max_left _ _, fun n numbered => ?_⟩
  rw [Label.number?_of_numbered numbered read]
  exact le_max_right _ _

end Registry

end PlanarSketch
