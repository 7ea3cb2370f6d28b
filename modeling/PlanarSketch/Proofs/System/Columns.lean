import PlanarSketch.Diagnosis
import PlanarSketch.Proofs.Outcome
import PlanarSketch.Proofs.Relation.Supports
import PlanarSketch.Proofs.System.Rows

/-!
# The columns of a derivative

The derivative of a system by given positions has one row for each equation and one entry of
each row for each position (`System.length_jacobian`, `System.length_of_mem_jacobian`), and so has
its matrix of ordinary numbers (`finiteMatrix?_spec`).

A block lists its own positions only, in closed form and by differences
(`Block.within_derivative`).  Whatever rows the blocks are entered at, the column of a position
that belongs to no block is zero (`System.getD_of_outside`).
-/

namespace PlanarSketch

set_option autoImplicit false

open PlanarSketch.Gradient

variable {α : Type} [Scalar α]

/-! ## Matrices of ordinary numbers -/

theorem forall₂_of_allFinite? {values : List (Option α)} {row : List α}
    (finite : allFinite? values = some row) :
    List.Forall₂ (fun v value => Scalar.isFinite v = true ∧ some v = value) row values := by
  refine ((Outcome.mapM_eq_some finite).imp fun value v ordinary => ?_).flip
  split at ordinary
  · split at ordinary
    · rename_i sound
      cases ordinary
      exact ⟨sound, rfl⟩
    · cases ordinary
  · cases ordinary

theorem isFinite_of_allFinite? {values : List (Option α)} {row : List α}
    (finite : allFinite? values = some row) : ∀ v ∈ row, Scalar.isFinite v = true :=
  ((List.forall₂_and_left row values).1 (forall₂_of_allFinite? finite)).1

theorem allFinite?_spec {values : List (Option α)} {row : List α}
    (finite : allFinite? values = some row) : values = row.map some := by
  have entries := ((List.forall₂_and_left row values).1 (forall₂_of_allFinite? finite)).2
  rw [← List.forall₂_map_left_iff, List.forall₂_eq_eq_eq] at entries
  exact entries.symm

/-- A matrix of ordinary numbers has the entries of the derivative that it is taken from. -/
theorem finiteMatrix?_spec {J : List (List (Option α))} {matrix : List (List α)}
    (finite : finiteMatrix? J = some matrix) : J = matrix.map fun row => row.map some := by
  rw [← List.forall₂_eq_eq_eq, List.forall₂_map_right_iff]
  exact (Outcome.mapM_eq_some finite).imp fun _ _ ordinary => allFinite?_spec ordinary

/-- A matrix of ordinary numbers has nothing but ordinary numbers. -/
theorem isFinite_of_finiteMatrix? {J : List (List (Option α))} {matrix : List (List α)}
    (finite : finiteMatrix? J = some matrix) :
    ∀ row ∈ matrix, ∀ v ∈ row, Scalar.isFinite v = true := by
  have rows := ((Outcome.mapM_eq_some finite).imp fun _ _ => isFinite_of_allFinite?).flip
  exact ((List.forall₂_and_left matrix J).1 (rows.imp fun _ _ sound => ⟨sound, trivial⟩)).1

namespace System

variable {s : System α} {p : Valuation α} {columns : List Nat} {J : List (List α)}

theorem length_jacobian (s : System α) (p : Valuation α) (columns : List Nat) :
    (s.jacobian p columns).length = s.rows := by
  simp [jacobian, dense, sparseRows]

theorem length_of_mem_jacobian : ∀ row ∈ s.jacobian p columns, row.length = columns.length := by
  intro row among
  obtain ⟨entries, -, rfl⟩ := List.mem_map.1 among
  exact List.length_map _

theorem length_matrix (finite : finiteMatrix? (s.jacobian p columns) = some J) :
    J.length = s.rows := by
  rw [← s.length_jacobian p columns, finiteMatrix?_spec finite, List.length_map]

/-- A row of the matrix of a derivative is a row of the derivative. -/
theorem map_some_mem_jacobian (finite : finiteMatrix? (s.jacobian p columns) = some J)
    {row : List α} (among : row ∈ J) : row.map some ∈ s.jacobian p columns := by
  rw [finiteMatrix?_spec finite]
  exact List.mem_map_of_mem among

/-- The matrix of a derivative is rectangular. -/
theorem length_of_mem_matrix (finite : finiteMatrix? (s.jacobian p columns) = some J) :
    ∀ row ∈ J, row.length = columns.length := by
  intro row among
  rw [← length_of_mem_jacobian _ (map_some_mem_jacobian finite among), List.length_map]

end System

/-! ## What blocks list -/

/-- The differences of a block list its positions. -/
theorem Block.within_differences (b : Block α) (step : α) (p : Valuation α) :
    ∀ row ∈ b.differences step p, Within (· ∈ b.positions) row := by
  intro row among
  obtain ⟨r, -, rfl⟩ := List.mem_map.1 among
  intro e inside
  rw [List.map_map] at inside
  obtain ⟨i, position, rfl⟩ := List.mem_map.1 inside
  exact position

/-- A block lists its own positions only. -/
theorem Block.within_derivative {b : Block α} (covered : ∀ i ∈ b.relation.reads, i ∈ b.positions)
    (step : α) (p : Valuation α) :
    ∀ row ∈ b.derivative step p, Within (· ∈ b.positions) row := by
  unfold derivative
  split
  · rename_i gradients closed
    intro row among
    obtain ⟨g, listed, rfl⟩ := List.mem_map.1 among
    intro e inside
    obtain ⟨entry, present, rfl⟩ := List.mem_map.1 inside
    exact covered _ (Relation.within_gradients closed g listed entry present)
  · exact b.within_differences step p

namespace System

variable {P : Nat → Prop} {i j k : Nat} {row entries : SlopeRow α}

omit [Scalar α] in
/-- A row has no entry at a position that lacks the property of all that it lists. -/
theorem lookup_eq_none_of_within (within : Within P row) (outside : ¬P j) :
    row.lookup j = none := by
  rw [List.lookup_eq_none_iff]
  intro e inside
  rw [bne_iff_ne]
  rintro rfl
  exact outside (within e inside)

omit [Scalar α] in
theorem within_getD {rows : List (SlopeRow α)} (listed : ∀ row ∈ rows, Within P row) (k : Nat) :
    Within P (rows.getD k []) := by
  rw [List.getD_eq_getElem?_getD]
  cases found : rows[k]? with
  | none => exact within_nil
  | some entries => exact listed entries (List.mem_of_getElem? found)

theorem within_addEntry {v : Option α} (here : P i) (within : Within P row) :
    Within P (addEntry i v row) := by
  induction row with
  | nil => exact within_cons.2 ⟨here, within_nil⟩
  | cons e rest ih =>
      obtain ⟨first, later⟩ := within_cons.1 within
      unfold addEntry
      split
      · exact within_cons.2 ⟨here, later⟩
      · exact within_cons.2 ⟨first, ih later⟩

theorem within_enter {closed : Bool} (within : Within P row) (listed : Within P entries) :
    Within P (enter closed row entries) := by
  unfold enter
  induction entries generalizing row with
  | nil => exact within
  | cons e rest ih =>
      obtain ⟨first, later⟩ := within_cons.1 listed
      refine ih ?_ later
      dsimp only
      split
      · exact within_addEntry first within
      · exact within.put first

theorem within_assemble {contributions : List (Contribution α)}
    (listed : ∀ c ∈ contributions, ∀ row ∈ c.slopes, Within P row) :
    Within P (assemble contributions i) := by
  have onto (row : SlopeRow α) (within : Within P row) :
      Within P (contributions.foldl (fun row c => if c.start ≤ i then
        enter c.closed row (c.slopes.getD (i - c.start) []) else row) row) := by
    induction contributions generalizing row with
    | nil => exact within
    | cons c rest ih =>
        obtain ⟨first, later⟩ := List.forall_mem_cons.1 listed
        refine ih later _ ?_
        dsimp only
        split
        · exact within_enter within (within_getD first _)
        · exact within
  exact onto [] within_nil

variable {s : System α} {closed : Block α → Bool} {slopes : Block α → List (SlopeRow α)}

/-- The rows of a system list what its blocks list. -/
theorem within_sparseRows (listed : ∀ b ∈ s.blocks, ∀ row ∈ slopes b, Within P row) :
    ∀ row ∈ s.sparseRows closed slopes, Within P row := by
  intro row among
  obtain ⟨i, -, rfl⟩ := List.mem_map.1 among
  refine within_assemble fun c contributed => ?_
  obtain ⟨b, present, rfl⟩ := List.mem_map.1 contributed
  intro row entered
  refine listed b present row ?_
  unfold contribution at entered
  dsimp only at entered
  split at entered
  · exact entered
  · unfold spread at entered
    split at entered
    · rename_i only same
      rw [same, (List.mem_replicate.1 entered).2]
      exact List.mem_cons_self
    · exact entered

/-- **The column of a position that belongs to no block is zero.** -/
theorem getD_of_outside {p : Valuation α} {columns : List Nat} {J : List (List α)}
    (covered : ∀ b ∈ s.blocks, ∀ i ∈ b.relation.reads, i ∈ b.positions)
    (outside : ∀ b ∈ s.blocks, j ∉ b.positions) (column : columns[k]? = some j)
    (finite : finiteMatrix? (s.jacobian p columns) = some J) : ∀ row ∈ J, row.getD k 0 = 0 := by
  intro row among
  obtain ⟨entries, present, same⟩ := List.mem_map.1 (map_some_mem_jacobian finite among)
  have within : Within (fun i => ∃ b ∈ s.blocks, i ∈ b.positions) entries := by
    refine within_sparseRows (fun b present row listed e inside => ?_) entries present
    exact ⟨b, present, b.within_derivative (covered b present) s.step p row listed e inside⟩
  have absent : entries.lookup j = none :=
    lookup_eq_none_of_within within fun ⟨b, block, position⟩ => outside b block position
  have entry : (row.map some)[k]? = some (some (0 : α)) := by
    rw [← same, List.getElem?_map, column, Option.map_some, absent]
    rfl
  rw [List.getElem?_map] at entry
  obtain ⟨v, found, zero⟩ := Option.map_eq_some_iff.1 entry
  rw [List.getD_eq_getElem?_getD, found]
  exact Option.some.inj zero

end System

end PlanarSketch
