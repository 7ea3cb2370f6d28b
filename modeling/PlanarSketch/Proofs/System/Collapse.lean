import PlanarSketch.Diagnosis
import PlanarSketch.Proofs.Exact
import PlanarSketch.Proofs.Outcome
import PlanarSketch.Proofs.Relation.Divisors
import PlanarSketch.Proofs.System.Rows

/-!
# Where derivatives are undefined

A derivative in closed form is defined everywhere.  A difference is taken between two
points, and it is undefined when a line that the residual divides by has collapsed at one
of them.  A system collapses near a point when that happens for one of its blocks, at a
position that is free (`System.Collapses`), and over exact numbers its derivative by the
free positions is undefined in this case and in no other
(`finiteMatrix?_jacobian_eq_none_iff`).

The residual at the point itself is of no help here.  It can be defined, and even zero,
while a line is as short as a difference is wide.
-/

namespace PlanarSketch

set_option autoImplicit false

variable {α : Type}

/-! ## Entering rows -/

theorem Gradient.put_of_absent {i : Nat} {v : α} {g : Gradient α} (absent : i ∉ g.map Prod.fst) :
    put i v g = g ++ [(i, v)] := by
  induction g with
  | nil => rfl
  | cons e rest ih =>
      obtain ⟨j, w⟩ := e
      rw [List.map_cons, List.mem_cons, not_or] at absent
      rw [put, if_neg fun same => absent.1 same.symm, ih absent.2]
      rfl

variable [Scalar α]

namespace System

theorem addEntry_of_absent {i : Nat} {v : Option α} {row : SlopeRow α}
    (absent : i ∉ row.map Prod.fst) : addEntry i v row = row ++ [(i, v)] := by
  induction row with
  | nil => rfl
  | cons e rest ih =>
      obtain ⟨j, w⟩ := e
      rw [List.map_cons, List.mem_cons, not_or] at absent
      unfold addEntry
      rw [if_neg fun same => absent.1 same.symm, ih absent.2]
      rfl

/-- Entries at positions that do not occur twice are entered one behind the other, in closed form
and otherwise. -/
theorem enter_distinct (closed : Bool) {row entries : SlopeRow α}
    (distinct : ((row ++ entries).map Prod.fst).Nodup) :
    enter closed row entries = row ++ entries := by
  induction entries generalizing row with
  | nil => exact (List.append_nil row).symm
  | cons e rest ih =>
      obtain ⟨i, v⟩ := e
      have regroup : row ++ (i, v) :: rest = (row ++ [(i, v)]) ++ rest := by simp
      have absent : i ∉ row.map Prod.fst := by
        rw [List.map_append, List.map_cons] at distinct
        exact fun among => List.disjoint_of_nodup_append distinct among List.mem_cons_self
      have first : (if closed then addEntry i v row else Gradient.put i v row) =
          row ++ [(i, v)] := by
        rw [addEntry_of_absent absent, Gradient.put_of_absent absent, ite_self]
      rw [regroup] at distinct ⊢
      rw [← ih distinct, ← first]
      rfl

theorem mem_addEntry {i : Nat} {v : Option α} {row : SlopeRow α}
    (row_defined : ∀ e ∈ row, e.2 ≠ none) (defined : v ≠ none) :
    ∀ e ∈ addEntry i v row, e.2 ≠ none := by
  induction row with
  | nil =>
      intro e among
      rw [List.mem_singleton.1 among]
      exact defined
  | cons e rest ih =>
      obtain ⟨j, w⟩ := e
      have rest_defined := fun e among => row_defined e (List.mem_cons_of_mem (j, w) among)
      have here : w ≠ none := row_defined (j, w) List.mem_cons_self
      unfold addEntry
      split
      · intro e among
        rcases List.mem_cons.1 among with rfl | later
        · cases w with
          | none => exact absurd rfl here
          | some w =>
              cases v with
              | none => exact absurd rfl defined
              | some v => exact Option.some_ne_none _
        · exact rest_defined e later
      · intro e among
        rcases List.mem_cons.1 among with rfl | later
        · exact here
        · exact ih rest_defined e later

/-- Defined entries that are added leave a row defined. -/
theorem mem_enter_add {row entries : SlopeRow α} (row_defined : ∀ e ∈ row, e.2 ≠ none)
    (defined : ∀ e ∈ entries, e.2 ≠ none) : ∀ e ∈ enter true row entries, e.2 ≠ none := by
  induction entries generalizing row with
  | nil => exact row_defined
  | cons e rest ih =>
      have first := mem_addEntry row_defined (defined e List.mem_cons_self) (i := e.1)
      exact ih first fun f among => defined f (List.mem_cons_of_mem e among)

end System

theorem lookup_eq_some_of_mem {β : Type} {row : List (Nat × β)} {j : Nat} {w : β}
    (found : row.lookup j = some w) : (j, w) ∈ row := by
  obtain ⟨before, after, rfl, -⟩ := List.lookup_eq_some_iff.1 found
  exact List.mem_append_right before List.mem_cons_self

/-- A value is found at a position that is listed once. -/
theorem lookup_map_self {β : Type} {positions : List Nat} {f : Nat → β} {j : Nat} {w : β} :
    (positions.map fun i => (i, f i)).lookup j = some w ↔ j ∈ positions ∧ f j = w := by
  induction positions with
  | nil => simp
  | cons i rest ih =>
      rw [List.map_cons, List.lookup_cons]
      by_cases here : j = i
      · subst here
        simp
      · rw [beq_false_of_ne here, List.mem_cons, or_iff_right here]
        exact ih

/-! ## Differences -/

namespace Block

variable (b : Block α) (step : α) (p : Valuation α)

/-- A line that a block divides by is too short to have a direction. -/
def Flat (b : Block α) (p : Valuation α) : Prop :=
  ∃ l ∈ b.relation.divisors, l.length p ≤ Tolerance.geometry

/-- A difference by a position reaches a point where a line has collapsed. -/
def FlatBeside (i : Nat) : Prop :=
  b.Flat (p.update i (p i + differenceStep step p i)) ∨
    b.Flat (p.update i (p i - differenceStep step p i))

theorem getElem?_residual {k : Nat} (inside : k < b.rows) :
    (b.residual p)[k]? = some none ↔ b.Flat p := by
  rw [residual, Relation.getElem?_residualRows p inside]
  simp [Flat, tooShort]

theorem getD_differenceColumn {k : Nat} (inside : k < b.rows) (i : Nat) :
    (b.differenceColumn step p i).getD k none = none ↔ b.FlatBeside step p i := by
  have entry (q : Valuation α) : ∃ v, (b.residual q)[k]? = some v :=
    ⟨_, List.getElem?_eq_getElem (by rw [residual, Relation.length_residualRows]; exact inside)⟩
  obtain ⟨above, upper⟩ := entry (p.update i (p i + differenceStep step p i))
  obtain ⟨below, lower⟩ := entry (p.update i (p i - differenceStep step p i))
  rw [FlatBeside, ← getElem?_residual _ _ inside, ← getElem?_residual _ _ inside, upper, lower,
    differenceColumn, List.getD_eq_getElem?_getD, List.getElem?_zipWith, upper, lower]
  cases above with
  | none => simp [slope]
  | some above =>
      cases below with
      | none => simp [slope]
      | some below => simp [slope]

theorem length_differences : (b.differences step p).length = b.rows := by
  rw [differences, List.length_map, List.length_range]

theorem length_derivative : (b.derivative step p).length = b.rows := by
  unfold derivative
  split
  · rename_i gradients closed
    rw [List.length_map]
    exact Relation.length_gradients p closed
  · exact length_differences b step p

/-- A derivative in closed form has no missing entry. -/
theorem derivative_defined (closed : b.relation.analytic = true) :
    ∀ row ∈ b.derivative step p, ∀ e ∈ row, e.2 ≠ none := by
  unfold derivative
  split
  · intro row among e present
    obtain ⟨g, -, rfl⟩ := List.mem_map.1 among
    obtain ⟨entry, -, rfl⟩ := List.mem_map.1 present
    exact Option.some_ne_none _
  · rename_i open_form
    rw [(Relation.gradients?_eq_none_iff p _).1 open_form] at closed
    cases closed

/-- A row of differences lists those by all positions. -/
theorem getD_differences {k : Nat} (inside : k < b.rows) :
    (b.differences step p).getD k [] =
      b.positions.map fun i => (i, (b.differenceColumn step p i).getD k none) := by
  rw [differences]
  simp [List.getD_eq_getElem?_getD, inside]

theorem derivative_differences (open_form : b.relation.analytic = false) {k : Nat}
    (inside : k < b.rows) :
    (b.derivative step p).getD k [] =
      b.positions.map fun i => (i, (b.differenceColumn step p i).getD k none) := by
  rw [derivative, (Relation.gradients?_eq_none_iff p _).2 open_form]
  exact b.getD_differences step p inside

end Block

namespace System

/-- A difference that the derivative of a system needs is undefined: one of a block that is not in
closed form, by a free position of that block. -/
def Collapses (s : System α) (free : List Nat) (p : Valuation α) : Prop :=
  ∃ b ∈ s.blocks, b.relation.analytic = false ∧
    ∃ i ∈ b.positions, i ∈ free ∧ b.FlatBeside s.step p i

/-- A row that a block enters lacks a value at a free position exactly when a difference by that
position is undefined. -/
theorem lookup_enter (b : Block α) (step : α) (p : Valuation α) (distinct : b.positions.Nodup)
    {k : Nat} (inside : k < b.rows) (j : Nat) :
    (enter b.relation.analytic [] ((b.derivative step p).getD k [])).lookup j = some none ↔
      b.relation.analytic = false ∧ j ∈ b.positions ∧ b.FlatBeside step p j := by
  cases form : b.relation.analytic with
  | true =>
      refine iff_of_false (fun found => ?_) (fun h => Bool.noConfusion h.1)
      have inside : k < (b.derivative step p).length := by rwa [b.length_derivative]
      rw [List.getD_eq_getElem?_getD, List.getElem?_eq_getElem inside, Option.getD_some] at found
      have defined := b.derivative_defined step p form _ (List.getElem_mem inside)
      exact mem_enter_add (fun e among => absurd among List.not_mem_nil) defined _
        (lookup_eq_some_of_mem found) rfl
  | false =>
      rw [b.derivative_differences step p form inside, enter_distinct, List.nil_append,
        lookup_map_self, b.getD_differenceColumn step p inside]
      · exact ⟨fun h => ⟨rfl, h⟩, fun h => h.2⟩
      · simpa [Function.comp_def] using distinct

end System

/-! ## Matrices of exact numbers -/

theorem allFinite?_eq_none_iff {values : List (Option ℝ)} :
    allFinite? values = none ↔ none ∈ values := by
  rw [allFinite?, Outcome.mapM_eq_none]
  constructor
  · rintro ⟨v, among, missing⟩
    cases v with
    | none => exact among
    | some v => cases missing
  · exact fun among => ⟨none, among, rfl⟩

theorem allFinite?_none_cons (rows : List (Option ℝ)) : allFinite? (none :: rows) = none := by
  rw [allFinite?, List.mapM_cons]
  rfl

theorem allFinite?_some_cons (v : ℝ) (rows : List (Option ℝ)) :
    allFinite? (some v :: rows) = (allFinite? rows).map (v :: ·) := by
  rw [Option.map_eq_bind, allFinite?, List.mapM_cons]
  rfl

theorem allFinite?_eq_some {rows : List (Option ℝ)} {values : List ℝ} :
    allFinite? rows = some values ↔ rows = values.map some := by
  induction rows generalizing values with
  | nil =>
      cases values with
      | nil => exact iff_of_true rfl rfl
      | cons v values => exact iff_of_false (fun same => by cases same) (fun same => by cases same)
  | cons row rows ih =>
      cases row with
      | none =>
          rw [allFinite?_none_cons]
          cases values with
          | nil => simp
          | cons v values => simp
      | some v =>
          rw [allFinite?_some_cons]
          cases values with
          | nil => simp
          | cons w values => simp [ih, and_comm]

theorem finiteMatrix?_eq_none_iff {J : List (List (Option ℝ))} :
    finiteMatrix? J = none ↔ ∃ row ∈ J, none ∈ row := by
  rw [finiteMatrix?, Outcome.mapM_eq_none]
  exact exists_congr fun row => and_congr_right fun _ => allFinite?_eq_none_iff

theorem finiteMatrix?_map_some (J : List (List ℝ)) :
    finiteMatrix? (J.map fun row => row.map some) = some J := by
  induction J with
  | nil => rfl
  | cons row rows ih =>
      have first : allFinite? (row.map some) = some row := allFinite?_eq_some.2 rfl
      have rest : (rows.map fun row => row.map some).mapM allFinite? = some rows := ih
      rw [List.map_cons, finiteMatrix?, List.mapM_cons, first, rest]
      rfl

theorem none_mem_dense {columns : List Nat} {rows : List (SlopeRow α)} :
    (∃ row ∈ System.dense columns rows, none ∈ row) ↔
      ∃ row ∈ rows, ∃ j ∈ columns, row.lookup j = some none := by
  unfold System.dense
  constructor
  · rintro ⟨_, among, missing⟩
    obtain ⟨row, present, rfl⟩ := List.mem_map.1 among
    obtain ⟨j, column, undefined⟩ := List.mem_map.1 missing
    refine ⟨row, present, j, column, ?_⟩
    cases found : row.lookup j with
    | none =>
        rw [found] at undefined
        cases undefined
    | some v =>
        rw [found] at undefined
        exact congrArg some undefined
  · rintro ⟨row, present, j, column, undefined⟩
    exact ⟨_, List.mem_map_of_mem present, List.mem_map.2 ⟨j, column, by rw [undefined]; rfl⟩⟩

/-- **A derivative is undefined exactly where the system collapses**, if identifiers differ and no
block lists a position twice. -/
theorem finiteMatrix?_jacobian_eq_none_iff {s : System ℝ} {free : List Nat} {p : Valuation ℝ}
    (distinct : (s.blocks.map Block.id).Nodup) (positions : ∀ b ∈ s.blocks, b.positions.Nodup) :
    finiteMatrix? (s.jacobian p free) = none ↔ s.Collapses free p := by
  rw [finiteMatrix?_eq_none_iff, System.jacobian, none_mem_dense]
  simp only [System.mem_sparseRows distinct fun b _ => b.length_derivative s.step p]
  constructor
  · rintro ⟨row, ⟨b, present, k, inside, rfl⟩, j, column, undefined⟩
    obtain ⟨form, among, flat⟩ :=
      (System.lookup_enter b s.step p (positions b present) inside j).1 undefined
    exact ⟨b, present, form, j, among, column, flat⟩
  · -- All rows of a block are undefined together, and a block has at least one.
    rintro ⟨b, present, form, j, among, column, flat⟩
    have inside : 0 < b.rows := b.relation.rows_pos
    exact ⟨_, ⟨b, present, 0, inside, rfl⟩, j, column,
      (System.lookup_enter b s.step p (positions b present) inside j).2 ⟨form, among, flat⟩⟩

end PlanarSketch
