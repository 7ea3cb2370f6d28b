import PlanarSketch.Document.Writer
import PlanarSketch.Proofs.Document.Reading
import PlanarSketch.Proofs.Order

/-!
# Written documents are read back

A document that is written with separators that the reader takes for blanks (`Spacing.Lawful`) is
read back as it was, except that records come in the order in which they were written
(`ofText_write`).  How scalars and names are spelled is left open: all that is asked of them is
that each is read back when it stands alone (`ReadsBack`).

The reader may stop in front of blanks that belong to what it has read, so what is behind is only
told up to blanks (`TakenBack`).
-/

namespace PlanarSketch.Document

set_option autoImplicit false

open Outcome

/-! ## What is read back -/

/-- A document that is read back from its own written form. -/
def ReadsBack (d : Document) : Prop := ofText (d.write .line) = .ok d

/-- Documents that are put together from scalars and names of some property, where no record has a
name twice. -/
inductive Composed (P : Document → Prop) : Document → Prop where
  | scalar {d : Document} (scalar : d.IsScalar) (holds : P d) : Composed P d
  | list {items : List Document} (parts : ∀ d ∈ items, Composed P d) : Composed P (.list items)
  | record {fields : List (String × Document)} (distinct : (fields.map Prod.fst).Nodup)
      (names : ∀ field ∈ fields, P (.text field.1))
      (parts : ∀ field ∈ fields, Composed P field.2) : Composed P (.record fields)

mutual

/-- The scalars of a document, names of fields included as texts. -/
def scalars : Document → List Document
  | .list items => itemScalars items
  | .record fields => fieldScalars fields
  | d => [d]

/-- The scalars of some items. -/
def itemScalars : List Document → List Document
  | [] => []
  | d :: ds => scalars d ++ itemScalars ds

/-- The scalars of some fields with their names. -/
def fieldScalars : List (String × Document) → List Document
  | [] => []
  | (name, d) :: ds => .text name :: (scalars d ++ fieldScalars ds)

end

theorem mem_itemScalars {e d : Document} {items : List Document} (among : d ∈ items)
    (scalar : e ∈ d.scalars) : e ∈ itemScalars items := by
  induction items with
  | nil => cases among
  | cons first rest ih =>
      rw [itemScalars, List.mem_append]
      rcases List.mem_cons.1 among with rfl | later
      · exact .inl scalar
      · exact .inr (ih later)

theorem mem_fieldScalars {e : Document} {field : String × Document}
    {fields : List (String × Document)} (among : field ∈ fields)
    (scalar : e = .text field.1 ∨ e ∈ field.2.scalars) : e ∈ fieldScalars fields := by
  induction fields with
  | nil => cases among
  | cons first rest ih =>
      obtain ⟨name, d⟩ := first
      rw [fieldScalars, List.mem_cons, List.mem_append]
      rcases List.mem_cons.1 among with rfl | later
      · exact scalar.imp id .inl
      · exact .inr (.inr (ih later))

/-- A document may be put together from scalars of another property, if its own scalars have it. -/
theorem Composed.imp {P Q : Document → Prop} {d : Document} (composed : Composed P d)
    (holds : ∀ e ∈ d.scalars, P e → Q e) : Composed Q d := by
  induction composed with
  | @scalar d scalar property =>
      refine .scalar scalar (holds d ?_ property)
      cases d <;> first | exact List.mem_singleton_self _ | cases scalar
  | list _ ih =>
      refine .list fun d among => ih d among fun e scalar => holds e (mem_itemScalars among scalar)
  | record distinct names _ ih =>
      refine .record distinct (fun field among => ?_) fun field among => ?_
      · exact holds _ (mem_fieldScalars among (.inl rfl)) (names field among)
      · exact ih field among fun e scalar => holds e (mem_fieldScalars among (.inr scalar))

/-- Separators with nothing but blanks around comma and colon, and blank indents. -/
structure Spacing.Lawful (spacing : Spacing) : Prop where
  comma : ∃ blanks, Blank blanks ∧ spacing.comma.toList = ',' :: blanks
  colon : ∃ blanks, Blank blanks ∧ spacing.colon.toList = ':' :: blanks
  indent : ∀ step ∈ spacing.indent, Blank step.toList

/-! ## The order of fields -/

/-- Fields in the order in which they are written. -/
def inWrittenOrder {β : Type} (sorted : Bool) (fields : List (String × β)) : List (String × β) :=
  if sorted then fields.mergeSort fun a b => Text.precedes a.1 b.1 else fields

theorem inWrittenOrder_perm {β : Type} (sorted : Bool) (fields : List (String × β)) :
    (inWrittenOrder sorted fields).Perm fields := by
  unfold inWrittenOrder
  split
  · exact List.mergeSort_perm fields _
  · exact List.Perm.refl fields

/-- The order is that of the names, whatever stands under them. -/
theorem inWrittenOrder_map {β γ : Type} (sorted : Bool) (f : β → γ) (fields : List (String × β)) :
    inWrittenOrder sorted (fields.map fun field => (field.1, f field.2)) =
      (inWrittenOrder sorted fields).map fun field => (field.1, f field.2) := by
  unfold inWrittenOrder
  split
  · exact (List.map_mergeSort (f := fun field : String × β => (field.1, f field.2))
      fun _ _ _ _ => rfl).symm
  · rfl

mutual

/-- The document with all records in the order in which they are written. -/
def arranged (sorted : Bool) : Document → Document
  | .list items => .list (arrangedItems sorted items)
  | .record fields => .record (inWrittenOrder sorted (arrangedFields sorted fields))
  | d => d

/-- Items with all records in the order in which they are written. -/
def arrangedItems (sorted : Bool) : List Document → List Document
  | [] => []
  | d :: ds => arranged sorted d :: arrangedItems sorted ds

/-- Fields, in the order in which they stand, with all records within them in written order. -/
def arrangedFields (sorted : Bool) : List (String × Document) → List (String × Document)
  | [] => []
  | (name, d) :: ds => (name, arranged sorted d) :: arrangedFields sorted ds

end

theorem arrangedItems_eq_map (sorted : Bool) (items : List Document) :
    arrangedItems sorted items = items.map (arranged sorted) := by
  induction items with
  | nil => rfl
  | cons d ds ih => rw [arrangedItems, ih, List.map_cons]

theorem arrangedFields_eq_map (sorted : Bool) (fields : List (String × Document)) :
    arrangedFields sorted fields =
      fields.map fun field => (field.1, arranged sorted field.2) := by
  induction fields with
  | nil => rfl
  | cons field rest ih => rw [arrangedFields, ih, List.map_cons]

theorem writeItems_eq_map (spacing : Spacing) (depth : Nat) (items : List Document) :
    writeItems spacing depth items = items.map (writeAt spacing depth) := by
  induction items with
  | nil => rfl
  | cons d ds ih => rw [writeItems, ih, List.map_cons]

theorem writeFields_eq_map (spacing : Spacing) (depth : Nat) (fields : List (String × Document)) :
    writeFields spacing depth fields =
      fields.map fun field => (field.1, writeAt spacing depth field.2) := by
  induction fields with
  | nil => rfl
  | cons field rest ih => rw [writeFields, ih, List.map_cons]

/-- A field of a new name comes behind the others. -/
theorem put_of_not_mem {name : String} {d : Document} {fields : List (String × Document)}
    (absent : name ∉ fields.map Prod.fst) : put name d fields = fields ++ [(name, d)] := by
  induction fields with
  | nil => rfl
  | cons field rest ih =>
      rw [List.map_cons, List.mem_cons, not_or] at absent
      rw [put, if_neg fun same => absent.1 same.symm, ih absent.2]
      rfl

/-- Fields of different names are kept as they come. -/
theorem ofFields_of_nodup {fields : List (String × Document)}
    (distinct : (fields.map Prod.fst).Nodup) : ofFields fields = .record fields := by
  have kept : fields.foldl (fun acc field => put field.1 field.2 acc) [] = [] ++ fields :=
    foldl_put_of_nodup (fun _ _ fresh => put_of_not_mem fresh) distinct
  exact congrArg Document.record kept

/-! ## Parts of a written form -/

/-- The written form without its string around it. -/
def chars (spacing : Spacing) (depth : Nat) (d : Document) : List Char :=
  (writeAt spacing depth d).toList

/-- The line feed and the indent in front of a part. -/
theorem blank_margin {step : String} (blank : Blank step.toList) (n : Nat) :
    Blank ("\n" ++ String.join (List.replicate n step)).toList := by
  have indent : Blank (List.replicate n step.toList).flatten := by
    induction n with
    | zero => rfl
    | succ n ih => exact blank.append ih
  rw [String.toList_append, String.toList_join, List.flatMap_replicate]
  exact Blank.append (rfl : Blank ['\n']) indent

/-- What stands between the brackets is led in, set apart and closed by blanks. -/
theorem Spacing.Lawful.enclose {spacing : Spacing} (lawful : spacing.Lawful) (depth : Nat)
    (opening closing : String) (parts : List String) (filled : parts ≠ []) :
    ∃ lead sep tail, Blank lead ∧ Blank sep ∧ Blank tail ∧
      (spacing.enclose depth opening closing parts).toList = opening.toList ++
        (lead ++ ((',' :: sep).intercalate (parts.map String.toList) ++
          (tail ++ closing.toList))) := by
  obtain ⟨blanks, blank, comma⟩ := lawful.comma
  have full : parts.isEmpty = false := by
    rwa [Bool.eq_false_iff, Ne, List.isEmpty_iff]
  unfold Spacing.enclose
  rw [full, if_neg Bool.false_ne_true]
  cases indent : spacing.indent with
  | none =>
      refine ⟨[], blanks, [], rfl, blank, rfl, ?_⟩
      simp [String.toList_intercalate, comma]
  | some step =>
      have margin (n : Nat) : Blank ("\n" ++ String.join (List.replicate n step)).toList :=
        blank_margin (lawful.indent step indent) n
      refine ⟨_, blanks ++ ("\n" ++ String.join (List.replicate (depth + 1) step)).toList, _,
        margin (depth + 1), blank.append (margin (depth + 1)), margin depth, ?_⟩
      simp [String.toList_intercalate, comma]

/-! ## Reading it again -/

/-- A document is taken back from its written form, up to blanks, whatever follows that stops it. -/
def TakenBack (spacing : Spacing) (d : Document) : Prop :=
  ∀ depth fuel rest, Stops rest → (chars spacing depth d).length < fuel →
    ∃ behind, takeValue fuel (skipBlanks (chars spacing depth d ++ rest)) =
        .ok (d.arranged spacing.sorted, behind) ∧
      skipBlanks behind = skipBlanks rest

/-- Blanks in front of a stop. -/
theorem Stops.blank_append {blanks rest : List Char} (blank : Blank blanks) (stops : Stops rest) :
    Stops (blanks ++ rest) := by
  cases blanks with
  | nil => exact stops
  | cons c cs =>
      intro d first
      cases first
      unfold Blank skipBlanks at blank
      rw [List.dropWhile_eq_nil_iff] at blank
      have listed := blank c List.mem_cons_self
      simp only [Bool.or_eq_true, beq_iff_eq] at listed
      rcases listed with ((rfl | rfl) | rfl) | rfl <;> decide

theorem stops_cons {c : Char} (rest : List Char) (listed : c ∈ [',', ']', '\x7d']) :
    Stops (c :: rest) := by
  intro d first
  cases first
  revert listed
  simp only [List.mem_cons]
  tauto

/-- A text is read as what is taken from it, if only blanks are left. -/
theorem ofText_eq_ok {text : String} {d : Document} :
    ofText text = .ok d ↔
      ∃ behind, takeValue (text.toList.length + 1) (skipBlanks text.toList) = .ok (d, behind) ∧
        Blank behind := by
  rw [ofText]
  cases outcome : takeValue (text.toList.length + 1) (skipBlanks text.toList) with
  | error cause => simp
  | ok taken =>
      obtain ⟨e, behind⟩ := taken
      by_cases blank : skipBlanks behind = []
      · simp [Blank, blank]
      · simp [Blank, blank]

theorem takenBack_scalar {spacing : Spacing} {d : Document} (scalar : d.IsScalar)
    (reads : d.ReadsBack) : TakenBack spacing d := by
  intro depth fuel rest stops enough
  obtain ⟨behind, taken, blank⟩ := ofText_eq_ok.1 reads
  -- The written form of a scalar is the same everywhere.
  have same : (d.write .line).toList = chars spacing depth d := by
    cases d <;> first | rfl | cases scalar
  have kept : d.arranged spacing.sorted = d := by
    cases d <;> first | rfl | cases scalar
  rw [same] at taken
  have filled : ¬ Blank (chars spacing depth d) := by
    intro none
    rw [none] at taken
    cases taken
  obtain ⟨more, rfl⟩ : ∃ more, fuel = more + 1 := ⟨fuel - 1, by omega⟩
  refine ⟨behind ++ rest, ?_, blank.skip_append rest⟩
  rw [skip_append_of_not_blank filled, kept]
  exact takeValue_scalar_append scalar taken stops

/-! ## Parts of a whole -/

/-- A reader of parts takes a written part.  It ends behind a closing bracket, and behind a comma it
goes on. -/
structure TakesPart {γ : Type} (take : Nat → List Char → Taken (List γ)) (close : Char)
    (written : List Char) (value : γ) : Prop where
  last {fuel : Nat} {rest more : List Char} (stops : Stops rest) (enough : written.length < fuel)
    (closed : skipBlanks rest = close :: more) :
    take (fuel + 1) (skipBlanks (written ++ rest)) = .ok ([value], more)
  next {fuel : Nat} {rest more : List Char} (stops : Stops rest) (enough : written.length < fuel)
    (comma : skipBlanks rest = ',' :: more) :
    take (fuel + 1) (skipBlanks (written ++ rest)) =
      (take fuel (skipBlanks more)).map fun taken => (value :: taken.1, taken.2)

/-- Parts that are taken one by one are taken as the parts of a whole. -/
theorem take_parts {β γ : Type} {take : Nat → List Char → Taken (List γ)} {close : Char}
    {written : β → List Char} {value : β → γ} {parts : List β} {fuel : Nat} {sep tail : List Char}
    (closes : close = ']' ∨ close = '\x7d') (sepBlank : Blank sep) (tailBlank : Blank tail)
    (rest : List Char) (filled : parts ≠ [])
    (each : ∀ b ∈ parts, TakesPart take close (written b) (value b))
    (enough : ((',' :: sep).intercalate (parts.map written)).length + 1 < fuel) :
    take fuel (skipBlanks ((',' :: sep).intercalate (parts.map written) ++
        (tail ++ close :: rest))) = .ok (parts.map value, rest) := by
  induction parts generalizing fuel with
  | nil => exact absurd rfl filled
  | cons b others ih =>
      obtain ⟨fuel, rfl⟩ : ∃ more, fuel = more + 1 := ⟨fuel - 1, by omega⟩
      obtain ⟨here, later⟩ := List.forall_mem_cons.1 each
      -- The bracket is behind the last part only.
      cases others with
      | nil =>
          rw [List.map_singleton, List.intercalate_singleton] at enough ⊢
          have stops : Stops (close :: rest) := by
            refine stops_cons rest ?_
            rcases closes with rfl | rfl <;> decide
          have closed : skipBlanks (tail ++ close :: rest) = close :: rest := by
            rw [tailBlank.skip_append]
            rcases closes with rfl | rfl <;> rfl
          exact here.last (stops.blank_append tailBlank) (by omega) closed
      | cons next others =>
          rw [List.map_cons, List.map_cons, List.intercalate_cons_cons, ← List.map_cons] at enough ⊢
          simp only [List.length_append, List.length_cons] at enough
          rw [List.append_assoc, List.append_assoc, List.cons_append,
            here.next (stops_cons _ (by decide)) (by omega) rfl, sepBlank.skip_append,
            ih (List.cons_ne_nil _ _) later (by omega)]
          rfl

section Parts

variable {spacing : Spacing} {depth : Nat}

theorem TakenBack.takesPart {d : Document} (back : TakenBack spacing d) :
    TakesPart takeItems ']' (chars spacing depth d) (d.arranged spacing.sorted) where
  last {fuel rest _} stops enough closed := by
    obtain ⟨behind, taken, left⟩ := back depth fuel rest stops enough
    rewrite [takeItems, taken]
    dsimp only
    rewrite [left, closed]
    rfl
  next {fuel rest _} stops enough comma := by
    obtain ⟨behind, taken, left⟩ := back depth fuel rest stops enough
    rewrite [takeItems, taken]
    dsimp only
    rewrite [left, comma]
    rfl

/-- The written form of a field. -/
def fieldChars (spacing : Spacing) (depth : Nat) (field : String × Document) : List Char :=
  (stringText field.1).toList ++ (spacing.colon.toList ++ chars spacing depth field.2)

/-- A name that is read back is read behind its opening quote. -/
theorem exists_name {name : String} (reads : (Document.text name).ReadsBack) :
    ∃ body, (stringText name).toList = '\x22' :: body ∧
      ∀ more, ∃ behind, takeText (body ++ more) = .ok (name, behind) ∧
        skipBlanks behind = skipBlanks more := by
  obtain ⟨behind, taken, blank⟩ := ofText_eq_ok.1 reads
  obtain ⟨body, same⟩ : ∃ body, (stringText name).toList = '\x22' :: body :=
    ⟨_, by rw [stringText, String.append_assoc, String.toList_append]; rfl⟩
  change takeValue ((stringText name).toList.length + 1) (skipBlanks (stringText name).toList) = _
    at taken
  rw [same] at taken
  obtain ⟨read, alone, answer⟩ := map_eq_ok.1 taken
  cases answer
  exact ⟨body, same, fun more => ⟨_, takeText_append alone more, blank.skip_append more⟩⟩

/-- A written field is a name, a colon and a value, each of which is taken back. -/
theorem exists_field {field : String × Document} (lawful : spacing.Lawful)
    (reads : (Document.text field.1).ReadsBack) (back : TakenBack spacing field.2) {fuel : Nat}
    {rest : List Char} (stops : Stops rest)
    (enough : (fieldChars spacing depth field).length < fuel) :
    ∃ cs named more behind, skipBlanks (fieldChars spacing depth field ++ rest) = '\x22' :: cs ∧
      takeText cs = .ok (field.1, named) ∧ skipBlanks named = ':' :: more ∧
      takeValue fuel (skipBlanks more) = .ok (field.2.arranged spacing.sorted, behind) ∧
      skipBlanks behind = skipBlanks rest := by
  obtain ⟨body, quoted, read⟩ := exists_name reads
  obtain ⟨blanks, blank, colon⟩ := lawful.colon
  rw [fieldChars, quoted, colon] at enough ⊢
  simp only [List.length_append, List.length_cons] at enough
  obtain ⟨named, taken, left⟩ := read (':' :: (blanks ++ (chars spacing depth field.2 ++ rest)))
  obtain ⟨behind, value, left'⟩ := back depth fuel rest stops (by omega)
  refine ⟨_, named, _, behind, ?_, taken, left, ?_, left'⟩
  · simp [skipBlanks]
  · rw [blank.skip_append, value]

theorem takesPart_field {field : String × Document} (lawful : spacing.Lawful)
    (reads : (Document.text field.1).ReadsBack) (back : TakenBack spacing field.2) :
    TakesPart takeFields '\x7d' (fieldChars spacing depth field)
      (field.1, field.2.arranged spacing.sorted) where
  last stops enough closed := by
    obtain ⟨cs, _, _, behind, opened, named, colon, taken, left⟩ :=
      exists_field lawful reads back stops enough
    rewrite [opened, takeFields, named]
    simp only [colon, taken]
    rewrite [left, closed]
    rfl
  next stops enough comma := by
    obtain ⟨cs, _, _, behind, opened, named, colon, taken, left⟩ :=
      exists_field lawful reads back stops enough
    rewrite [opened, takeFields, named]
    simp only [colon, taken]
    rewrite [left, comma]
    rfl

end Parts

/-- Behind an opening bracket stand the items, if they can be taken there. -/
theorem takeValue_list {fuel : Nat} {cs rest : List Char} {items : List Document}
    (taken : takeItems fuel (skipBlanks cs) = .ok (items, rest)) :
    takeValue (fuel + 1) ('[' :: cs) = .ok (.list items, rest) := by
  rw [takeValue]
  split
  · rename_i closed
    rw [closed] at taken
    rcases fuel with _ | _ | fuel <;> cases taken
  · rw [taken]
    rfl

/-- Behind an opening brace stand the fields, if they can be taken there. -/
theorem takeValue_record {fuel : Nat} {cs rest : List Char} {fields : List (String × Document)}
    (taken : takeFields fuel (skipBlanks cs) = .ok (fields, rest)) :
    takeValue (fuel + 1) ('\x7b' :: cs) = .ok (ofFields fields, rest) := by
  rw [takeValue]
  split
  · rename_i closed
    rw [closed] at taken
    cases fuel <;> cases taken
  · rw [taken]
    rfl

/-- The written form of a list with items. -/
theorem exists_chars_list {spacing : Spacing} (lawful : spacing.Lawful) (depth : Nat)
    {items : List Document} (filled : items ≠ []) :
    ∃ lead sep tail, Blank lead ∧ Blank sep ∧ Blank tail ∧
      chars spacing depth (.list items) = '[' :: (lead ++
        ((',' :: sep).intercalate (items.map (chars spacing (depth + 1))) ++ (tail ++ [']']))) := by
  obtain ⟨lead, sep, tail, leadBlank, sepBlank, tailBlank, same⟩ :=
    lawful.enclose depth "[" "]" (items.map (writeAt spacing (depth + 1))) (by simpa using filled)
  refine ⟨lead, sep, tail, leadBlank, sepBlank, tailBlank, ?_⟩
  rw [chars, writeAt, writeItems_eq_map, same, List.map_map]
  rfl

/-- The written form of a record with fields, which stand in written order. -/
theorem exists_chars_record {spacing : Spacing} (lawful : spacing.Lawful) (depth : Nat)
    {fields : List (String × Document)} (filled : fields ≠ []) :
    ∃ lead sep tail, Blank lead ∧ Blank sep ∧ Blank tail ∧
      chars spacing depth (.record fields) = '\x7b' :: (lead ++
        ((',' :: sep).intercalate
          ((inWrittenOrder spacing.sorted fields).map (fieldChars spacing (depth + 1))) ++
          (tail ++ ['\x7d']))) := by
  have order := inWrittenOrder_perm spacing.sorted fields
  have written : spacing.arrange (writeFields spacing (depth + 1) fields) =
      (inWrittenOrder spacing.sorted fields).map fun field =>
        (field.1, writeAt spacing (depth + 1) field.2) := by
    rw [writeFields_eq_map]
    exact inWrittenOrder_map _ _ _
  obtain ⟨lead, sep, tail, leadBlank, sepBlank, tailBlank, same⟩ :=
    lawful.enclose depth "\x7b" "\x7d"
      ((inWrittenOrder spacing.sorted fields).map fun field =>
        stringText field.1 ++ spacing.colon ++ writeAt spacing (depth + 1) field.2)
      (by simpa using fun none => filled (none ▸ order).symm.eq_nil)
  have parts : ((inWrittenOrder spacing.sorted fields).map fun field =>
        stringText field.1 ++ spacing.colon ++ writeAt spacing (depth + 1) field.2).map
        String.toList =
      (inWrittenOrder spacing.sorted fields).map (fieldChars spacing (depth + 1)) := by
    rw [List.map_map]
    refine List.map_congr_left fun field _ => ?_
    rw [Function.comp_apply, String.toList_append, String.toList_append, List.append_assoc]
    rfl
  refine ⟨lead, sep, tail, leadBlank, sepBlank, tailBlank, ?_⟩
  rw [chars, writeAt, written, List.map_map]
  refine same.trans ?_
  rw [parts]
  rfl

theorem takenBack_list {spacing : Spacing} (lawful : spacing.Lawful) {items : List Document}
    (each : ∀ d ∈ items, TakenBack spacing d) : TakenBack spacing (.list items) := by
  intro depth fuel rest stops enough
  obtain ⟨fuel, rfl⟩ : ∃ more, fuel = more + 1 := ⟨fuel - 1, by omega⟩
  refine ⟨rest, ?_, rfl⟩
  by_cases filled : items = []
  · subst filled
    have written : chars spacing depth (.list []) = ['[', ']'] := by
      simp [chars, writeAt, writeItems, Spacing.enclose]
    rw [written]
    rfl
  · obtain ⟨lead, sep, tail, leadBlank, sepBlank, tailBlank, written⟩ :=
      exists_chars_list lawful depth filled
    have opened (cs : List Char) : skipBlanks ('[' :: cs) = '[' :: cs := rfl
    rw [written] at enough ⊢
    simp only [List.length_append, List.length_cons] at enough
    rw [List.cons_append, opened, arranged, arrangedItems_eq_map]
    refine takeValue_list ?_
    simp only [List.append_assoc, List.singleton_append]
    rw [leadBlank.skip_append]
    exact take_parts (.inl rfl) sepBlank tailBlank rest filled
      (fun d among => (each d among).takesPart) (by omega)

theorem takenBack_record {spacing : Spacing} (lawful : spacing.Lawful)
    {fields : List (String × Document)} (distinct : (fields.map Prod.fst).Nodup)
    (each : ∀ field ∈ fields, (Document.text field.1).ReadsBack ∧ TakenBack spacing field.2) :
    TakenBack spacing (.record fields) := by
  intro depth fuel rest stops enough
  obtain ⟨fuel, rfl⟩ : ∃ more, fuel = more + 1 := ⟨fuel - 1, by omega⟩
  refine ⟨rest, ?_, rfl⟩
  -- The fields are read in the order in which they were written.
  have order := inWrittenOrder_perm spacing.sorted fields
  by_cases filled : fields = []
  · subst filled
    have written : chars spacing depth (.record []) = ['\x7b', '\x7d'] := by
      simp [chars, writeAt, writeFields, Spacing.arrange, Spacing.enclose]
    rw [written, arranged, arrangedFields, (inWrittenOrder_perm _ []).eq_nil]
    rfl
  · obtain ⟨lead, sep, tail, leadBlank, sepBlank, tailBlank, written⟩ :=
      exists_chars_record lawful depth filled
    have opened (cs : List Char) : skipBlanks ('\x7b' :: cs) = '\x7b' :: cs := rfl
    have names : ((inWrittenOrder spacing.sorted fields).map fun field =>
        (field.1, field.2.arranged spacing.sorted)).map Prod.fst =
        (inWrittenOrder spacing.sorted fields).map Prod.fst := by
      rw [List.map_map]
      rfl
    rw [written] at enough ⊢
    simp only [List.length_append, List.length_cons] at enough
    rw [List.cons_append, opened, arranged, arrangedFields_eq_map, inWrittenOrder_map,
      ← ofFields_of_nodup (names ▸ (order.map Prod.fst).nodup_iff.2 distinct)]
    refine takeValue_record ?_
    simp only [List.append_assoc, List.singleton_append]
    rw [leadBlank.skip_append]
    refine take_parts (.inr rfl) sepBlank tailBlank rest ?_ (fun field among => ?_) (by omega)
    · exact fun none => filled (none ▸ order).symm.eq_nil
    · obtain ⟨reads, back⟩ := each field (order.mem_iff.1 among)
      exact takesPart_field lawful reads back

/-- **A document is taken back from its written form** if its scalars and names are. -/
theorem Composed.takenBack {d : Document} (composed : Composed ReadsBack d) {spacing : Spacing}
    (lawful : spacing.Lawful) : TakenBack spacing d := by
  induction composed with
  | scalar scalar reads => exact takenBack_scalar scalar reads
  | list _ each => exact takenBack_list lawful each
  | record distinct names _ each =>
      exact takenBack_record lawful distinct fun field among =>
        ⟨names field among, each field among⟩

/-- **Written documents are read back**, with records in the order in which they were written. -/
theorem ofText_write {d : Document} (composed : Composed ReadsBack d) {spacing : Spacing}
    (lawful : spacing.Lawful) : ofText (d.write spacing) = .ok (d.arranged spacing.sorted) := by
  obtain ⟨behind, taken, left⟩ := composed.takenBack lawful 0 ((chars spacing 0 d).length + 1) []
    (fun _ none => by cases none) (Nat.lt_succ_self _)
  rw [List.append_nil] at taken
  exact ofText_eq_ok.2 ⟨behind, taken, left⟩

/-! ## Fields in another order -/

mutual

theorem arranged_false : ∀ d : Document, d.arranged false = d
  | .null => rfl
  | .truth _ => rfl
  | .whole _ => rfl
  | .real _ => rfl
  | .text _ => rfl
  | .list items => by rw [arranged, arrangedItems_false items]
  | .record fields => by
      rw [arranged, arrangedFields_false fields]
      rfl

theorem arrangedItems_false : ∀ items : List Document, arrangedItems false items = items
  | [] => rfl
  | d :: ds => by rw [arrangedItems, arranged_false d, arrangedItems_false ds]

theorem arrangedFields_false :
    ∀ fields : List (String × Document), arrangedFields false fields = fields
  | [] => rfl
  | (name, d) :: ds => by rw [arrangedFields, arranged_false d, arrangedFields_false ds]

end

/-- No name stands twice, in case this is a record. -/
def NamesDiffer : Document → Prop
  | .record fields => (fields.map Prod.fst).Nodup
  | _ => True

/-- A field is found in a document whatever the order of its fields. -/
theorem field?_arranged {d : Document} (differ : d.NamesDiffer) (sorted : Bool) (name : String) :
    (d.arranged sorted).field? name = (d.field? name).map (arranged sorted) := by
  cases d with
  | record fields =>
      have names : (fields.map fun field => (field.1, arranged sorted field.2)).map Prod.fst =
          fields.map Prod.fst := by
        rw [List.map_map]
        rfl
      have order := (inWrittenOrder_perm sorted
        (fields.map fun field => (field.1, arranged sorted field.2))).symm
      have differ : (fields.map Prod.fst).Nodup := differ
      rw [arranged, field?, field?, arrangedFields_eq_map, lookup_perm order (names ▸ differ),
        lookup_map]
  | _ => rfl

theorem field_eq_ok {d value : Document} {name : String} :
    d.field name = .ok value ↔ d.field? name = some value := by
  cases d with
  | record fields =>
      rw [field, field?]
      cases fields.lookup name <;> simp
  | _ => simp [field, field?]

theorem field_arranged {d value : Document} (differ : d.NamesDiffer) (sorted : Bool) {name : String}
    (found : d.field name = .ok value) :
    (d.arranged sorted).field name = .ok (value.arranged sorted) := by
  rw [field_eq_ok] at found ⊢
  rw [field?_arranged differ, found]
  rfl

end PlanarSketch.Document
