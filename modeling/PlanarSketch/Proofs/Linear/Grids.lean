import PlanarSketch.Proofs.Linear.Lists
import PlanarSketch.Proofs.Linear.Truncation
import PlanarSketch.Proofs.Order
import PlanarSketch.Proofs.System.Collapse

/-!
# Tables in another order

A table whose rows and columns are listed is a grid: an entry for each pair of a row and a column
(`grid`).  Listing the rows and the columns in another order gives another table of the same
entries.  It is defined everywhere if the first one is (`finiteMatrix?_grid`), and as linear maps
the two are carried into each other by isometries that exchange coordinates (`tableMap_grid`).
The same isometries exchange the entries of a vector (`exchange_vector`).
-/

namespace PlanarSketch

set_option autoImplicit false

variable {ι κ β : Type*} {E E' : List ι} {C C' : List κ}

/-- The table with an entry for each pair of a row and a column. -/
def grid (E : List ι) (C : List κ) (t : ι → κ → β) : List (List β) := E.map fun e => C.map (t e)

section Entries

variable {t : ι → κ → β}

theorem length_grid : (grid E C t).length = E.length := List.length_map _

theorem length_of_mem_grid : ∀ row ∈ grid E C t, row.length = C.length := by
  intro row among
  obtain ⟨e, -, rfl⟩ := List.mem_map.1 among
  exact List.length_map _

/-- The rows of a table are named in the same way as what they are listed by. -/
def rowEquiv (C C' : List κ) (t : ι → κ → β) (σ : Fin E.length ≃ Fin E'.length) :
    Fin (grid E C t).length ≃ Fin (grid E' C' t).length :=
  (finCongr length_grid).trans (σ.trans (finCongr length_grid.symm))

end Entries

/-! ## Defined entries -/

/-- Entries are defined in any order, or in none. -/
theorem allFinite?_map (rows : E.Perm E') (g : ι → Option ℝ) :
    (allFinite? (E.map g) = none ∧ allFinite? (E'.map g) = none) ∨
      ∃ h : ι → ℝ, allFinite? (E.map g) = some (E.map h) ∧
        allFinite? (E'.map g) = some (E'.map h) := by
  by_cases missing : none ∈ E.map g
  · exact .inl ⟨allFinite?_eq_none_iff.2 missing,
      allFinite?_eq_none_iff.2 ((rows.map g).mem_iff.1 missing)⟩
  · have defined : ∀ e ∈ E, g e = some ((g e).getD 0) := by
      intro e among
      cases value : g e with
      | none => exact absurd (List.mem_map.2 ⟨e, among, value⟩) missing
      | some v => rfl
    refine .inr ⟨fun e => (g e).getD 0, allFinite?_eq_some.2 ?_, allFinite?_eq_some.2 ?_⟩
    · rw [List.map_map]
      exact List.map_congr_left defined
    · rw [List.map_map]
      exact List.map_congr_left fun e among => defined e (rows.mem_iff.2 among)

/-- A table is defined in any order, or in none. -/
theorem finiteMatrix?_grid (rows : E.Perm E') (columns : C.Perm C') (t : ι → κ → Option ℝ) :
    (finiteMatrix? (grid E C t) = none ∧ finiteMatrix? (grid E' C' t) = none) ∨
      ∃ h : ι → κ → ℝ, finiteMatrix? (grid E C t) = some (grid E C h) ∧
        finiteMatrix? (grid E' C' t) = some (grid E' C' h) := by
  have missing_iff (E : List ι) (C : List κ) :
      finiteMatrix? (grid E C t) = none ↔ ∃ e ∈ E, ∃ c ∈ C, t e c = none := by
    rw [finiteMatrix?_eq_none_iff]
    simp [grid]
  by_cases missing : ∃ e ∈ E, ∃ c ∈ C, t e c = none
  · obtain ⟨e, row, c, column, undefined⟩ := missing
    exact .inl ⟨(missing_iff E C).2 ⟨e, row, c, column, undefined⟩,
      (missing_iff E' C').2 ⟨e, rows.mem_iff.1 row, c, columns.mem_iff.1 column, undefined⟩⟩
  · have value {e : ι} {c : κ} (row : e ∈ E) (column : c ∈ C) :
        t e c = some ((t e c).getD 0) := by
      cases entry : t e c with
      | none => exact absurd ⟨e, row, c, column, entry⟩ missing
      | some v => rfl
    have defined {E₁ : List ι} {C₁ : List κ} (rows : ∀ e ∈ E₁, e ∈ E) (columns : ∀ c ∈ C₁, c ∈ C) :
        finiteMatrix? (grid E₁ C₁ t) = some (grid E₁ C₁ fun e c => (t e c).getD 0) := by
      rw [← finiteMatrix?_map_some, grid, grid, List.map_map]
      congr 1
      refine List.map_congr_left fun e row => ?_
      rw [Function.comp_apply, List.map_map]
      exact List.map_congr_left fun c column => value (rows e row) (columns c column)
    exact .inr ⟨_, defined (fun _ => id) (fun _ => id),
      defined (fun _ => rows.mem_iff.2) (fun _ => columns.mem_iff.2)⟩

/-! ## Lengths -/

/-- The length of a list does not depend on its order. -/
theorem length_perm {xs ys : List ℝ} (same : xs.Perm ys) : Scalar.length xs = Scalar.length ys := by
  rw [Scalar.length, Scalar.length, Exact.sumOfSquares_eq_sum, Exact.sumOfSquares_eq_sum,
    (same.map _).sum_eq]

/-! ## Isometries -/

section Isometries

variable {m n : ℕ}

/-- The isometry that exchanges coordinates. -/
noncomputable def exchange (σ : Fin m ≃ Fin n) :
    EuclideanSpace ℝ (Fin m) ≃ₗᵢ[ℝ] EuclideanSpace ℝ (Fin n) :=
  LinearIsometryEquiv.piLpCongrLeft _ ℝ ℝ σ

theorem exchange_apply (σ : Fin m ≃ Fin n) (v : EuclideanSpace ℝ (Fin m)) (i : Fin n) :
    exchange σ v i = v (σ.symm i) := rfl

variable {σ : Fin E.length ≃ Fin E'.length} {τ : Fin C.length ≃ Fin C'.length}

theorem exchange_vector (entries : ∀ i, E'.get (σ i) = E.get i) (C C' : List κ) (t : ι → κ → ℝ)
    (g : ι → ℝ) :
    exchange (rowEquiv C C' t σ) (vector _ (E.map g)) =
      vector _ (E'.map g) := by
  refine PiLp.ext fun i' => ?_
  obtain ⟨i, rfl⟩ := (rowEquiv C C' t σ).surjective i'
  rw [exchange_apply, Equiv.symm_apply_apply, vector_apply, vector_apply]
  have below : (i : ℕ) < E.length := i.isLt.trans_eq length_grid
  have moved : ((rowEquiv C C' t σ i : Fin _) : ℕ) = σ ⟨i, below⟩ := rfl
  have entry := entries ⟨i, below⟩
  rw [moved]
  simp only [List.get_eq_getElem] at entry
  simp [List.getD_eq_getElem?_getD, below, entry]

/-- **Exchanging rows and columns of a table exchanges coordinates of its map.** -/
theorem tableMap_grid (rows : ∀ i, E'.get (σ i) = E.get i)
    (columns : ∀ j, C'.get (τ j) = C.get j)
    (t : ι → κ → ℝ) (v : EuclideanSpace ℝ (Fin C.length)) :
    tableMap (grid E' C' t) C'.length (exchange τ v) =
      exchange (rowEquiv C C' t σ) (tableMap (grid E C t) C.length v) := by
  refine PiLp.ext fun i' => ?_
  obtain ⟨i, rfl⟩ := (rowEquiv C C' t σ).surjective i'
  have below : (i : ℕ) < E.length := i.isLt.trans_eq length_grid
  have moved : ((rowEquiv C C' t σ i : Fin _) : ℕ) = σ ⟨i, below⟩ := rfl
  have row := rows ⟨i, below⟩
  simp only [List.get_eq_getElem] at row
  rw [exchange_apply, Equiv.symm_apply_apply, tableMap_apply, tableMap_apply, ← τ.sum_comp, moved]
  refine Finset.sum_congr rfl fun j _ => ?_
  have column := columns j
  simp only [List.get_eq_getElem] at column
  rw [exchange_apply, Equiv.symm_apply_apply]
  simp [grid, List.getD_eq_getElem?_getD, below, row, column]

end Isometries

end PlanarSketch
