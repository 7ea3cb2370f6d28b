import PlanarSketch.Proofs.System.Agreement

/-!
# Systems equation by equation

The equations of a system are the rows of its blocks, one block after the other
(`System.equations`).  Residuals and derivatives are tables over them: the residual has one
entry for each equation (`System.residuals_eq_map`), and where identifiers differ the
derivative has one row for each, with the slopes of that equation alone
(`System.jacobian_eq_map`).
-/

namespace PlanarSketch

set_option autoImplicit false

variable {α : Type}

/-- The rows of the blocks of a system. -/
def System.equations (s : System α) : List (Block α × Nat) :=
  s.blocks.flatMap fun b => (List.range b.rows).map fun k => (b, k)

namespace System

variable {s : System α}

theorem mem_equations {b : Block α} {k : Nat} :
    (b, k) ∈ s.equations ↔ b ∈ s.blocks ∧ k < b.rows := by
  unfold equations
  rw [List.mem_flatMap]
  constructor
  · rintro ⟨c, present, among⟩
    obtain ⟨i, inside, same⟩ := List.mem_map.1 among
    cases same
    exact ⟨present, List.mem_range.1 inside⟩
  · rintro ⟨present, inside⟩
    exact ⟨b, present, List.mem_map.2 ⟨k, List.mem_range.2 inside, rfl⟩⟩

theorem length_flatMap_rows (blocks : List (Block α)) :
    (blocks.flatMap fun b => (List.range b.rows).map fun k => (b, k)).length = height blocks := by
  induction blocks with
  | nil => rfl
  | cons b bs ih =>
      rw [List.flatMap_cons, List.length_append, ih, List.length_map, List.length_range]
      rfl

theorem length_equations : s.equations.length = s.rows := length_flatMap_rows s.blocks

/-- The equations of a block stand behind those of the blocks before it. -/
theorem getElem?_equations_split {before after : List (Block α)} {b : Block α}
    (split : s.blocks = before ++ b :: after) {k : Nat} (inside : k < b.rows) :
    s.equations[height before + k]? = some (b, k) := by
  unfold equations
  have behind := (length_flatMap_rows before).le.trans (Nat.le_add_right _ k)
  rw [split, List.flatMap_append, List.getElem?_append_right behind, length_flatMap_rows,
    Nat.add_sub_cancel_left, List.flatMap_cons, List.getElem?_append_left (by simpa using inside)]
  simp [inside]

variable [Scalar α] {p : Valuation α}

theorem residuals_eq_map :
    s.residuals p = s.equations.map fun e => (e.1.residual p).getD e.2 none := by
  have row (b : Block α) : b.residual p =
      (List.range b.rows).map fun k => (b.residual p).getD k none := by
    have size : (b.residual p).length = b.rows := b.relation.length_residualRows p
    refine List.ext_getElem (by simp [size]) fun k inside _ => ?_
    simp [List.getD_eq_getElem?_getD, inside]
  unfold residuals equations
  rw [List.map_flatMap]
  refine List.flatMap_congr fun b _ => ?_
  rw [List.map_map]
  exact row b

/-- A residual has one entry for each equation. -/
theorem length_residuals (s : System α) (p : Valuation α) : (s.residuals p).length = s.rows := by
  rw [residuals_eq_map, List.length_map, length_equations]

end System

section Slopes

variable [Scalar α]

/-- The slope of an equation of a block by a position; zero where the block lists none. -/
def Block.slopeAt (b : Block α) (step : α) (p : Valuation α) (k j : Nat) : Option α :=
  System.valueAt (System.enter b.relation.analytic [] ((b.derivative step p).getD k [])) j

/-- **The derivative of a system has one row for each equation**, with its slopes. -/
theorem System.jacobian_eq_map {s : System α} {p : Valuation α} {columns : List Nat}
    (distinct : (s.blocks.map Block.id).Nodup) :
    s.jacobian p columns =
      s.equations.map fun e => columns.map fun j => e.1.slopeAt s.step p e.2 j := by
  unfold jacobian dense sparseRows
  rw [List.map_map]
  have sizes : s.rows = s.equations.length := length_equations.symm
  refine List.ext_getElem (by simp [sizes]) fun i below there => ?_
  have below : i < s.rows := by simpa using below
  obtain ⟨before, b, after, k, split, inside, rfl⟩ := exists_split_of_lt_height below
  have equation := getElem?_equations_split split inside
  have row :
      assemble (s.blocks.map (s.contribution (fun b => b.relation.analytic)
        fun b => b.derivative s.step p)) (height before + k) =
        enter b.relation.analytic [] ((b.derivative s.step p).getD k []) :=
    assemble_split distinct (fun b _ => b.length_derivative s.step p) split inside
  obtain ⟨_, equation⟩ := List.getElem?_eq_some_iff.1 equation
  simp only [List.getElem_map, List.getElem_range, equation, Function.comp_apply, row]
  rfl

end Slopes

namespace Block

variable {b : Block ℝ} {step : ℝ} {p : Valuation ℝ} {k j : ℕ}

/-- A slope in closed form is an entry of a gradient. -/
theorem slopeAt_closed {gradients : List (Gradient ℝ)}
    (closed : b.relation.gradients? p = some gradients) (inside : k < b.rows) :
    b.slopeAt step p k j = some ((gradients.getD k []).entry j) :=
  valueAt_closed closed inside

/-- A slope by differences is taken at the positions of the block, and is zero elsewhere. -/
theorem slopeAt_open (form : b.relation.analytic = false) (distinct : b.positions.Nodup)
    (inside : k < b.rows) :
    b.slopeAt step p k j =
      if j ∈ b.positions then (b.differenceColumn step p j).getD k none else some 0 := by
  have listed : (b.positions.map fun i =>
      (i, (b.differenceColumn step p i).getD k none)).map Prod.fst = b.positions := by
    rw [List.map_map]
    exact List.map_id _
  rw [slopeAt, b.derivative_differences step p form inside,
    System.valueAt_enter _ (by rwa [listed]), System.valueAt]
  split
  · rename_i among
    rw [lookup_map_self.2 ⟨among, rfl⟩]
    rfl
  · rename_i absent
    rw [List.lookup_eq_none_iff.2]
    · rfl
    · intro e listed
      obtain ⟨i, present, rfl⟩ := List.mem_map.1 listed
      rw [bne_iff_ne]
      rintro rfl
      exact absent present

end Block

end PlanarSketch
