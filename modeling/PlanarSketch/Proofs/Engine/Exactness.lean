import PlanarSketch.Engine.Rotation
import PlanarSketch.Proofs.Linear.Lists
import PlanarSketch.Proofs.Linear.Truncation

/-!
# Exact engines

An engine over exact numbers is exact if it answers with the truncated least squares step
(`Engine.ExactSteps`) and with the singular values (`Engine.Exact`).  That settles all its answers
about rectangular tables, and there is such an engine (`Engine.exact`).

An exact engine counts no more singular values as positive than there are dimensions that a
table reaches (`Engine.Exact.rank_le`).
-/

namespace PlanarSketch

set_option autoImplicit false

open Module (finrank)

namespace Rotation

theorem effective_nonneg (cutoff : ℝ) : 0 ≤ effective cutoff := by
  unfold effective
  split
  · norm_num [precision]
  · rename_i fraction
    exact (not_le.1 (not_or.1 fraction).1).le

end Rotation

namespace Engine

/-- The steps of an engine are the truncated least squares steps of linear algebra. -/
structure ExactSteps (engine : Engine ℝ) : Prop where
  length_leastSquares : ∀ J b width cutoff,
    (engine.leastSquares J b width cutoff).length = width
  leastSquares : ∀ J b width cutoff, (∀ row ∈ J, row.length = width) → b.length = J.length →
    IsTruncatedStep (tableMap J width) (Rotation.effective cutoff) (vector J.length b)
      (vector width (engine.leastSquares J b width cutoff))

/-- All answers of an engine are those of linear algebra: its steps, and the singular values in
descending order, as many as the smaller dimension. -/
structure Exact (engine : Engine ℝ) : Prop extends ExactSteps engine where
  singularValues : ∀ J width, (∀ row ∈ J, row.length = width) →
    engine.singularValues J width =
      (List.range (min J.length width)).map (tableMap J width).singularValues

/-- The engine whose answers are taken from linear algebra. -/
noncomputable def exact : Engine ℝ where
  leastSquares J b width cutoff :=
    components (exists_isTruncatedStep (Rotation.effective_nonneg cutoff) (tableMap J width)
      (vector J.length b)).choose
  singularValues J width :=
    (List.range (min J.length width)).map (tableMap J width).singularValues

theorem exact_exact : exact.Exact where
  length_leastSquares J b width cutoff := length_components _
  leastSquares J b width cutoff _ _ := by
    change IsTruncatedStep _ _ _ (vector width (components _))
    rw [vector_components]
    exact (exists_isTruncatedStep (Rotation.effective_nonneg cutoff) (tableMap J width)
      (vector J.length b)).choose_spec
  singularValues J width _ := rfl

variable {engine : Engine ℝ} {J : List (List ℝ)} {width : ℕ} {fraction : ℝ}

/-- **An exact rank is no larger than the dimension of what a table reaches.** -/
theorem Exact.rank_le (exact : engine.Exact) (rectangular : ∀ row ∈ J, row.length = width)
    (positive : 0 < fraction) :
    engine.rank J width fraction ≤ finrank ℝ (tableMap J width).range := by
  set σ := (tableMap J width).singularValues
  have counted {values : List ℝ} {bound : ℝ} (nonneg : 0 ≤ bound)
      (stretches : values = (List.range (min J.length width)).map σ) :
      (values.filter fun v => decide (bound < v)).length ≤
        finrank ℝ (tableMap J width).range := by
    rw [stretches, List.filter_map, List.length_map]
    -- Positions of positive singular values are below the dimension of the range.
    have below : ((List.range (min J.length width)).filter
        ((fun v => decide (bound < v)) ∘ σ)).Subperm
          (List.range (finrank ℝ (tableMap J width).range)) := by
      refine List.subperm_of_subset (List.nodup_range.filter _) fun k among => ?_
      have large : bound < σ k := by simpa using (List.mem_filter.1 among).2
      exact List.mem_range.2
        ((tableMap J width).singularValues_pos_iff_lt_finrank_range.1 (nonneg.trans_lt large))
    simpa using below.length_le
  have values := exact.singularValues J width rectangular
  unfold rank
  split
  · exact Nat.zero_le _
  · rename_i largest rest found
    split
    · exact Nat.zero_le _
    · have first : largest ∈ (List.range (min J.length width)).map σ := by
        rw [← values, found]
        exact List.mem_cons_self
      obtain ⟨k, -, rfl⟩ := List.mem_map.1 first
      exact counted (mul_nonneg positive.le ((tableMap J width).singularValues_nonneg k))
        (found.symm.trans values)

end Engine

end PlanarSketch
