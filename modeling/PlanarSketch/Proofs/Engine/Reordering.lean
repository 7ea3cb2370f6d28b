import PlanarSketch.Proofs.Engine.Exactness
import PlanarSketch.Proofs.Linear.Grids

/-!
# Exact answers in another order

What an exact engine answers about a table does not depend on the order in which rows and columns
are listed: the step has the same component for each column (`Engine.Exact.leastSquares_grid`),
and the singular values are the same (`Engine.Exact.singularValues_grid`).  Neither does what a
diagnosis makes of the table (`Diagnosis.classify_grid`): whether an equation fails that nothing
influences, whether the residual is as small as it can get nearby, and the rank.
-/

namespace PlanarSketch

set_option autoImplicit false

variable {ι κ : Type*} {E E' : List ι} {C C' : List κ}

namespace Engine.Exact

variable {engine : Engine ℝ} (exact : engine.Exact)

include exact

theorem singularValues_grid (rows : E.Perm E') (columns : C.Perm C') (t : ι → κ → ℝ) :
    engine.singularValues (grid E' C' t) C'.length =
      engine.singularValues (grid E C t) C.length := by
  obtain ⟨σ, row⟩ := exists_equiv_get rows
  obtain ⟨τ, column⟩ := exists_equiv_get columns
  have size : min (grid E' C' t).length C'.length = min (grid E C t).length C.length := by
    rw [length_grid, length_grid, rows.length_eq, columns.length_eq]
  rw [exact.singularValues _ _ length_of_mem_grid, exact.singularValues _ _ length_of_mem_grid,
    singularValues_conj (tableMap_grid row column t), size]

/-- The rank of a table does not depend on the order of its rows and columns. -/
theorem rank_grid (rows : E.Perm E') (columns : C.Perm C') (t : ι → κ → ℝ) (fraction : ℝ) :
    engine.rank (grid E' C' t) C'.length fraction = engine.rank (grid E C t) C.length fraction := by
  unfold rank
  rw [exact.singularValues_grid rows columns]

/-- **The step has the same component for each column**, in whatever order they are listed. -/
theorem leastSquares_grid (rows : E.Perm E') (columns : C.Perm C') (distinct : C.Nodup)
    (t : ι → κ → ℝ) (g : ι → ℝ) (cutoff : ℝ) :
    ∃ x : κ → ℝ,
      engine.leastSquares (grid E C t) (E.map g) C.length cutoff = C.map x ∧
        engine.leastSquares (grid E' C' t) (E'.map g) C'.length cutoff = C'.map x := by
  classical
  obtain ⟨σ, row⟩ := exists_equiv_get rows
  obtain ⟨τ, column⟩ := exists_equiv_get columns
  set first := engine.leastSquares (grid E C t) (E.map g) C.length cutoff with first_eq
  set second := engine.leastSquares (grid E' C' t) (E'.map g) C'.length cutoff with second_eq
  have first_size : first.length = C.length := exact.length_leastSquares _ _ _ _
  have second_size : second.length = C'.length := exact.length_leastSquares _ _ _ _
  -- The second step is the first one with its coordinates exchanged, since there is one step only.
  have carried : vector C'.length second = exchange τ (vector C.length first) := by
    have step := exact.leastSquares (grid E C t) (E.map g) C.length cutoff length_of_mem_grid
      (by rw [length_grid, List.length_map])
    have moved := step.conj (tableMap_grid row column t)
    rw [exchange_vector row] at moved
    have other := exact.leastSquares (grid E' C' t) (E'.map g) C'.length cutoff length_of_mem_grid
      (by rw [length_grid, List.length_map])
    exact other.unique (Rotation.effective_nonneg cutoff) moved
  have component (j : Fin C.length) : second.getD (τ j) 0 = first.getD j 0 := by
    have entry := congrFun (congrArg WithLp.ofLp carried) (τ j)
    rwa [exchange_apply, Equiv.symm_apply_apply] at entry
  have position (j : Fin C.length) : C.idxOf C[j] = j := distinct.idxOf_getElem j j.isLt
  refine ⟨fun c => first.getD (C.idxOf c) 0, ?_, ?_⟩
  · refine List.ext_getElem (by rw [first_size, List.length_map]) fun k inside there => ?_
    have below : k < C.length := first_size ▸ inside
    have place := position ⟨k, below⟩
    simp only [Fin.getElem_fin] at place
    simp [place, inside]
  · refine List.ext_getElem (by rw [second_size, List.length_map]) fun k inside there => ?_
    obtain ⟨j, same⟩ := τ.surjective ⟨k, second_size ▸ inside⟩
    have value := component j
    have place := position j
    have entry := column j
    simp only [Fin.getElem_fin, List.get_eq_getElem, same] at value place entry
    rw [List.getElem_map, entry, place, ← value, List.getD_eq_getElem?_getD,
      List.getElem?_eq_getElem inside, Option.getD_some]

end Engine.Exact

namespace Diagnosis

variable {limits : DiagnosisLimits ℝ}

/-- The components of a descent gradient belong to columns. -/
theorem descentGradient_grid (t : ι → κ → ℝ) (g : ι → ℝ) :
    descentGradient (grid E C t) (E.map g) C.length =
      C.map fun c => (E.map fun e => t e c * g e).sum := by
  unfold descentGradient
  refine List.ext_getElem (by simp) fun k inside there => ?_
  have below : k < C.length := by simpa using there
  rw [List.getElem_map, List.getElem_map, List.getElem_range, Scalar.inner, addProducts_eq_sum,
    zero_add, grid, List.map_map, List.zipWith_map, List.zipWith_self]
  simp [below]

theorem stationary_grid (rows : E.Perm E') (columns : C.Perm C') (t : ι → κ → ℝ) (g : ι → ℝ) :
    stationary limits (grid E' C' t) (E'.map g) C'.length =
      stationary limits (grid E C t) (E.map g) C.length := by
  have sums : (fun c => (E'.map fun e => t e c * g e).sum) =
      fun c => (E.map fun e => t e c * g e).sum := funext fun c => (rows.map _).sum_eq.symm
  unfold stationary
  rw [descentGradient_grid, descentGradient_grid, sums, length_perm (columns.map _).symm,
    length_perm (rows.map g).symm]

theorem hasDeadRow_grid (rows : E.Perm E') (columns : C.Perm C') (t : ι → κ → ℝ) (g : ι → ℝ) :
    hasDeadRow limits (grid E' C' t) (E'.map g) = hasDeadRow limits (grid E C t) (E.map g) := by
  have pairs (E : List ι) (C : List κ) :
      paired (E.map g) (grid E C t) = E.map fun e => (g e, C.map (t e)) := by
    rw [paired_eq_zip (by rw [length_grid, List.length_map]), grid, List.zip_map']
  have sizes (e : ι) : Scalar.length (C'.map (t e)) = Scalar.length (C.map (t e)) :=
    length_perm (columns.map (t e)).symm
  unfold hasDeadRow
  rw [pairs, pairs, List.any_map, List.any_map, rows.any_eq]
  simp only [Function.comp_def, sizes]

/-- **A diagnosis does not depend on the order of equations and free positions.** -/
theorem classify_grid {engine : Engine ℝ} (exact : engine.Exact) (rows : E.Perm E')
    (columns : C.Perm C') (t : ι → κ → Option ℝ) (g : ι → Option ℝ) (converged stalled : Bool) :
    classify engine limits ⟨converged, stalled, E'.map g, grid E' C' t, C'.length⟩ =
      classify engine limits ⟨converged, stalled, E.map g, grid E C t, C.length⟩ := by
  unfold classify
  rcases finiteMatrix?_grid rows columns t with ⟨none, none'⟩ | ⟨h, table, table'⟩
  · rw [none, none']
  · have unsolved_eq (rank : ℕ) :
        unsolved limits ⟨converged, stalled, E'.map g, grid E' C' t, C'.length⟩ (grid E' C' h)
            rank =
          unsolved limits ⟨converged, stalled, E.map g, grid E C t, C.length⟩ (grid E C h)
            rank := by
      unfold unsolved
      dsimp only
      rcases allFinite?_map rows g with ⟨none, none'⟩ | ⟨f, residual, residual'⟩
      · simp only [none, none', length_grid, rows.length_eq, columns.length_eq]
      · simp only [residual, residual', hasDeadRow_grid rows columns, stationary_grid rows columns,
          length_grid, rows.length_eq, columns.length_eq]
    simp only [table, table', exact.rank_grid rows columns, unsolved_eq, length_grid,
      rows.length_eq, columns.length_eq]

end Diagnosis

end PlanarSketch
