import PlanarSketch.Proofs.Document.RoundTrip
import PlanarSketch.Proofs.Sketch.Tidiness
import PlanarSketch.Proofs.Solve.Acceptance
import PlanarSketch.Sketch.Record

/-!
# Stored sketches are loaded again

A tidy sketch is loaded from its record as it was, but for its options and its latest solution,
which are not stored (`Sketch.stored`).  The order in which fields come does not matter
(`Sketch.ofDocument_arranged`), so the same holds of its written form, for all separators that are
read as such (`Sketch.ofText_toText`).
-/

namespace PlanarSketch

set_option autoImplicit false

open Outcome

/-! ## Entities and constraints -/

theorem EntityKind.ofName?_name (kind : EntityKind) : ofName? kind.name = some kind := by
  cases kind <;> decide

theorem ConstraintKind.ofName?_name (kind : ConstraintKind) : ofName? kind.name = some kind := by
  cases kind <;> decide

/-- Items that are read one by one are read in any order of their parts. -/
theorem Document.mapM_arranged {β ε : Type} {read : Document → Except ε β} {write : β → Document}
    (sorted : Bool) {bs : List β} (each : ∀ b ∈ bs, read ((write b).arranged sorted) = .ok b) :
    (arrangedItems sorted (bs.map write)).mapM read = .ok bs := by
  rw [arrangedItems_eq_map, List.map_map, mapM_eq_ok, List.forall₂_map_left_iff, List.forall₂_same]
  exact each

theorem Entity.ofDocument_arranged {e : Entity Float} (plain : e.fixed.Plain) (sorted : Bool) :
    Entity.ofDocument (e.toDocument.arranged sorted) = .ok e := by
  have differ : e.toDocument.NamesDiffer := by
    change ["eid", "kind", "params", "fixed"].Nodup
    decide
  have field (name : String) {d : Document} (found : e.toDocument.field name = .ok d) :
      (e.toDocument.arranged sorted).field name = .ok (d.arranged sorted) :=
    Document.field_arranged differ sorted found
  have fixed : (e.toDocument.arranged sorted).field? "fixed" = some e.fixed.written := by
    obtain ⟨on, same⟩ := plain
    have written : e.toDocument.field? "fixed" = some e.fixed.written := rfl
    rw [Document.field?_arranged differ, written, same]
    rfl
  have values : (Document.arrangedItems sorted (e.params.map .real)).mapM Document.number =
      .ok e.params := Document.mapM_arranged sorted fun _ _ => rfl
  rw [Entity.ofDocument, field "eid" rfl, field "kind" rfl, field "params" rfl, fixed]
  change (do
    let kind ← Fault.require _ (EntityKind.ofName? e.kind.name)
    let values ← Fault.ofDocument
      ((Document.arrangedItems sorted (e.params.map .real)).mapM Document.number)
    Entity.make e.id kind values (Mark.of e.fixed.on) : Except (Fault Float) _) = _
  rw [EntityKind.ofName?_name, values]
  obtain ⟨on, same⟩ := plain
  have kept : Mark.of e.fixed.on = e.fixed := by
    rw [same]
    rfl
  rw [kept]
  exact e.make_params

/-- A mark that is the same in whatever order its fields are written. -/
def Mark.Steady (sorted : Bool) (m : Mark) : Prop := m.written.arranged sorted = m.written

theorem Mark.Plain.steady {m : Mark} (plain : m.Plain) (sorted : Bool) : m.Steady sorted := by
  obtain ⟨on, rfl⟩ := plain
  rfl

theorem Constraint.ofDocument_arranged {c : Constraint Float} {sorted : Bool}
    (steady : c.driving.Steady sorted) :
    Constraint.ofDocument (c.toDocument.arranged sorted) = .ok c := by
  have differ : c.toDocument.NamesDiffer := by
    change ["cid", "kind", "entity_ids", "value", "selectors", "driving"].Nodup
    decide
  have field (name : String) {d : Document} (found : c.toDocument.field name = .ok d) :
      (c.toDocument.arranged sorted).field name = .ok (d.arranged sorted) :=
    Document.field_arranged differ sorted found
  have field? (name : String) : (c.toDocument.arranged sorted).field? name =
      (c.toDocument.field? name).map (Document.arranged sorted) :=
    Document.field?_arranged differ sorted name
  have ids : (Document.arrangedItems sorted (c.entityIds.map .whole)).mapM Document.truncated =
      .ok c.entityIds := Document.mapM_arranged sorted fun _ _ => rfl
  have selectors : (Document.arrangedItems sorted (c.selectors.map .text)).map Document.shown =
      c.selectors := by
    rw [Document.arrangedItems_eq_map, List.map_map, List.map_map]
    exact List.map_id'' (fun _ => rfl) _
  have value : Constraint.readValue ((c.toDocument.field? "value").map (Document.arranged sorted)) =
      .ok c.value := by
    change Constraint.readValue
      (some (((c.value.map Document.real).getD .null).arranged sorted)) = _
    cases c.value <;> rfl
  have identifier : (c.identifier.toDocument.arranged sorted) = c.identifier.toDocument := by
    cases c.identifier <;> rfl
  have driving : (c.toDocument.field? "driving").map (Document.arranged sorted) =
      some c.driving.written := congrArg some steady
  rw [Constraint.ofDocument, field "cid" rfl, field "kind" rfl, field "entity_ids" rfl,
    field? "selectors", field? "driving", field? "value", driving, value, identifier]
  change (do
    let identifier ← Fault.ofDocument (Identifier.ofDocument c.identifier.toDocument)
    let kind ← Fault.require _ (ConstraintKind.ofName? c.kind.name)
    let entityIds ← Fault.ofDocument
      ((Document.arrangedItems sorted (c.entityIds.map .whole)).mapM Document.truncated)
    Except.ok (Constraint.mk identifier kind entityIds c.value
      ((Document.arrangedItems sorted (c.selectors.map .text)).map Document.shown)
      c.driving) : Except (Fault Float) _) = _
  rw [Identifier.ofDocument_toDocument, ConstraintKind.ofName?_name, ids, selectors]
  rfl

/-! ## Sketches -/

namespace Sketch

/-- Entities of different identifiers are kept as they come. -/
theorem foldl_putEntity {α : Type} [Scalar α] {es : List (Entity α)}
    (distinct : (es.map Entity.id).Nodup) :
    es.foldl (fun kept e => putEntity e kept) [] = es :=
  foldl_put_of_nodup (fun _ _ fresh => putEntity_of_absent fresh) distinct

/-- What is stored of a sketch: all but its options, which are the standard ones again, and its
latest solution. -/
def stored (s : Sketch Float) : Sketch Float :=
  { s with defaults := .standard, lastSolution := none }

/-- **What a sketch is stored as is loaded as that sketch**, in whatever order fields come. -/
theorem ofDocument_arranged {s : Sketch Float} {sorted : Bool} (tidy : s.Tidy (Mark.Steady sorted))
    (name : s.name.arranged sorted = s.name) :
    ofDocument (s.toDocument.arranged sorted) = .ok s.stored := by
  have differ : s.toDocument.NamesDiffer := by
    change ["name", "entities", "constraints", "next_eid", "next_cid"].Nodup
    decide
  have field? (name : String) : (s.toDocument.arranged sorted).field? name =
      (s.toDocument.field? name).map (Document.arranged sorted) :=
    Document.field?_arranged differ sorted name
  have entities : (Document.arrangedItems sorted (s.entities.map Entity.toDocument)).mapM
      Entity.ofDocument = .ok s.entities :=
    Document.mapM_arranged sorted fun e among =>
      Entity.ofDocument_arranged (tidy.fixed e among) sorted
  have constraints : (Document.arrangedItems sorted (s.constraints.map Constraint.toDocument)).mapM
      Constraint.ofDocument = .ok s.constraints :=
    Document.mapM_arranged sorted fun c among =>
      Constraint.ofDocument_arranged (tidy.driving c among)
  have number (key : String) {n : Int} (found : s.toDocument.field? key = some (.whole n))
      (otherwise : Int) :
      storedNumber (s.toDocument.arranged sorted) key otherwise = .ok n := by
    rw [storedNumber.eq_def, field?, found]
    rfl
  have nextEntity := number "next_eid" rfl
  have nextConstraint := number "next_cid" rfl
  rw [ofDocument, field? "name", field? "entities", field? "constraints"]
  change (do
    let read ← (Document.arrangedItems sorted (s.entities.map Entity.toDocument)).mapM
      Entity.ofDocument
    let constraints ← (Document.arrangedItems sorted (s.constraints.map Constraint.toDocument)).mapM
      Constraint.ofDocument
    let nextEntity ← Fault.ofDocument (storedNumber (s.toDocument.arranged sorted) "next_eid"
      (following ((read.foldl (fun kept e => putEntity e kept) []).map Entity.id)))
    let nextConstraint ← Fault.ofDocument (storedNumber (s.toDocument.arranged sorted) "next_cid"
      (following (constraints.map Constraint.id)))
    Except.ok (Sketch.mk (s.name.arranged sorted) (read.foldl (fun kept e => putEntity e kept) [])
      constraints .standard none nextEntity nextConstraint) : Except (Fault Float) _) = _
  simp only [entities, constraints, name, nextEntity, nextConstraint]
  change Except.ok
    (Sketch.mk s.name (s.entities.foldl (fun kept e => putEntity e kept) []) _ _ _ _ _) = _
  rw [foldl_putEntity tidy.distinct]
  rfl

/-- Where fields keep their order nothing is asked of the marks of constraints. -/
theorem ofDocument_toDocument {P : Mark → Prop} {s : Sketch Float} (tidy : s.Tidy P) :
    ofDocument s.toDocument = .ok s.stored := by
  rw [← Document.arranged_false s.toDocument]
  exact ofDocument_arranged (tidy.imp fun m _ => Document.arranged_false m.written)
    (Document.arranged_false s.name)

end Sketch

/-! ## Written sketches -/

namespace Document

/-- A scalar that is no real beyond all numbers and not undefined. -/
def Ordinary : Document → Prop
  | .real x => x.isFinite = true
  | _ => True

/-- Separators are lawful if the indent is blank, or if there is none. -/
theorem Spacing.lawful_of {indent : Option String} (blank : ∀ step ∈ indent, Blank step.toList)
    (sorted : Bool) : (Spacing.of indent sorted).Lawful := by
  have space : Blank [' '] := rfl
  have colon : ": ".toList = [':', ' '] := by decide
  cases indent with
  | none =>
      have comma : ", ".toList = [',', ' '] := by decide
      exact ⟨⟨_, space, comma⟩, ⟨_, space, colon⟩, fun _ none => by cases none⟩
  | some step =>
      have comma : ",".toList = [','] := by decide
      exact ⟨⟨[], rfl, comma⟩, ⟨_, space, colon⟩, blank⟩

theorem composed_items {P : Document → Prop} {β : Type} {write : β → Document} {bs : List β}
    (each : ∀ b ∈ bs, Composed P (write b)) : Composed P (.list (bs.map write)) := by
  refine .list fun d among => ?_
  obtain ⟨b, present, rfl⟩ := List.mem_map.1 among
  exact each b present

end Document

open Document (Composed Ordinary)

theorem Mark.Plain.composed {m : Mark} (plain : m.Plain) : Composed Ordinary m.written := by
  obtain ⟨on, rfl⟩ := plain
  exact .scalar trivial trivial

theorem Entity.composed_toDocument {e : Entity Float} (plain : e.fixed.Plain) :
    Composed Ordinary e.toDocument := by
  have finite : ∀ x ∈ e.params, x.isFinite = true := List.all_eq_true.1 e.finite
  refine .record ?_ (fun _ _ => trivial) ?_
  · change ["eid", "kind", "params", "fixed"].Nodup
    decide
  · simp only [List.forall_mem_cons]
    refine ⟨.scalar trivial trivial, .scalar trivial trivial, ?_, plain.composed, ?_⟩
    · exact Document.composed_items fun x among => .scalar trivial (finite x among)
    · exact fun _ among => absurd among List.not_mem_nil

theorem Constraint.composed_toDocument {c : Constraint Float} (plain : c.driving.Plain)
    (valid : c.check = .ok ()) : Composed Ordinary c.toDocument := by
  have identifier : Composed Ordinary c.identifier.toDocument := by
    cases c.identifier <;> exact .scalar trivial trivial
  have value : Composed Ordinary ((c.value.map Document.real).getD .null) := by
    have obeyed := (Constraint.check_eq_ok.1 valid).2.2
    cases given : c.value with
    | none => exact .scalar trivial trivial
    | some v =>
        rw [given] at obeyed
        exact .scalar trivial obeyed.2.1
  refine .record ?_ (fun _ _ => trivial) ?_
  · change ["cid", "kind", "entity_ids", "value", "selectors", "driving"].Nodup
    decide
  · simp only [List.forall_mem_cons]
    refine ⟨identifier, .scalar trivial trivial, ?_, value, ?_, plain.composed, ?_⟩
    · exact Document.composed_items fun n _ => .scalar trivial trivial
    · exact Document.composed_items fun t _ => .scalar trivial trivial
    · exact fun _ among => absurd among List.not_mem_nil

namespace Sketch

/-- All reals in the record of a coherent sketch are ordinary numbers. -/
theorem composed_toDocument {s : Sketch Float} (coherent : s.Coherent) (tidy : s.Tidy Mark.Plain)
    {name : String} (named : s.name = .text name) : Composed Ordinary s.toDocument := by
  refine .record ?_ (fun _ _ => trivial) ?_
  · change ["name", "entities", "constraints", "next_eid", "next_cid"].Nodup
    decide
  · simp only [List.forall_mem_cons]
    refine ⟨?_, ?_, ?_, .scalar trivial trivial, .scalar trivial trivial, ?_⟩
    · rw [named]
      exact .scalar trivial trivial
    · exact Document.composed_items fun e among => Entity.composed_toDocument (tidy.fixed e among)
    · exact Document.composed_items fun c among =>
        Constraint.composed_toDocument (tidy.driving c among) (coherent.valid c among)
    · exact fun _ among => absurd among List.not_mem_nil

/-- **What a sketch is written as is read as that sketch**, with any blank indent or none and in
either order of fields, if the scalars in it are read back when they stand alone. -/
theorem ofText_toText {s : Sketch Float} (coherent : s.Coherent) (tidy : s.Tidy Mark.Plain)
    {name : String} (named : s.name = .text name)
    (reads : ∀ d ∈ s.toDocument.scalars, d.Ordinary → d.ReadsBack) {spacing : Document.Spacing}
    (lawful : spacing.Lawful) : ofText (s.toText spacing) = .ok s.stored := by
  have read : Document.ofText (s.toText spacing) = .ok (s.toDocument.arranged spacing.sorted) :=
    Document.ofText_write ((composed_toDocument coherent tidy named).imp reads) lawful
  rw [ofText, read]
  refine ofDocument_arranged (tidy.imp fun _ plain => plain.steady spacing.sorted) ?_
  rw [named]
  rfl

end Sketch

end PlanarSketch
