import PlanarSketch.Proofs.Solve.Acceptance
import PlanarSketch.Proofs.System.Collapse
import PlanarSketch.Proofs.System.Columns
import PlanarSketch.Proofs.Tiles

/-!
# Blocks depend on their own parameters

A block declares the positions of the parameters of its entities, and that is all it has to do
with the parameter vector (`Block.Local`): where two vectors agree on these positions, its
residual, its gradients and its differences are the same, and no row lists another position.
Differences move the declared positions only, so they would miss whatever a residual read
besides.

In a system the rows of the blocks tile the rows of the derivative, one block behind the
other (`System.tiles_rows`).  Either derivative is therefore zero at each entry whose row is of a
block and whose column is not (`System.vanishes_of_within`), and a row changes only with the
positions of its block (`blocks_local`).
-/

namespace PlanarSketch

set_option autoImplicit false

variable {α : Type} [Scalar α] {others : List (Entity α)} {layout : Layout}

/-! ## One block -/

namespace Block

/-- A block has been bound to some layout, wherever the parameters were. -/
def BoundTo (layout : Layout) (b : Block α) : Prop :=
  ∃ entities start c, compile entities layout start c = .ok b

/-- A block depends on the positions that it declares and on no others. -/
structure Local (layout : Layout) (b : Block α) : Prop where
  ascending : b.positions.Pairwise (· < ·)
  positions (i : ℕ) : i ∈ b.positions ↔ ∃ id ∈ b.constraint.entityIds, ∃ place : Place,
    layout.place? id = some place ∧ place.offset ≤ i ∧ i < place.stop
  residual (p q : Valuation α) : (∀ i ∈ b.positions, p i = q i) →
    b.residual p = b.residual q ∧ b.endless p = b.endless q
  gradients (p q : Valuation α) : (∀ i ∈ b.positions, p i = q i) →
    b.relation.gradients? p = b.relation.gradients? q
  listed (p : Valuation α) (gradients : List (Gradient α)) :
    b.relation.gradients? p = some gradients → ∀ g ∈ gradients, ∀ e ∈ g, e.1 ∈ b.positions
  differences (step : α) (p q : Valuation α) : (∀ i ∈ b.positions, p i = q i) →
    b.differences step p = b.differences step q

variable {entities : List (Entity α)} {start p q : Valuation α} {c : Constraint α} {b : Block α}

theorem ascending_positions (compiled : compile entities layout start c = .ok b) :
    b.positions.Pairwise (· < ·) := by
  obtain ⟨places, -, -, -, -, positions⟩ := compile_eq_ok compiled
  rw [positions]
  exact List.pairwise_lt_range.filter _

/-- Whether an angle is beyond all numbers is seen at what the relation of a block reads. -/
theorem endless_congr (same : ∀ i ∈ b.relation.reads, p i = q i) : b.endless p = b.endless q := by
  obtain ⟨sites, -, -⟩ := Relation.agrees_of_reads same
  unfold endless
  rw [Bool.eq_iff_iff, List.any_eq_true, List.any_eq_true]
  refine exists_congr fun a => and_congr_right fun among => ?_
  rw [PointSite.endless_congr (sites a among)]

/-- Differences are taken at the positions of a block, where its residual is the same. -/
theorem differences_congr
    (residual : ∀ p q : Valuation α, (∀ i ∈ b.positions, p i = q i) → b.residual p = b.residual q)
    (same : ∀ i ∈ b.positions, p i = q i) (step : α) :
    b.differences step p = b.differences step q := by
  have moved (i : ℕ) (x : α) : b.residual (p.update i x) = b.residual (q.update i x) := by
    refine residual _ _ fun j among => ?_
    rw [Valuation.update, Valuation.update, same j among]
  have columns : b.positions.map (fun i => (i, b.differenceColumn step p i)) =
      b.positions.map fun i => (i, b.differenceColumn step q i) := by
    refine List.map_congr_left fun i among => ?_
    have width : differenceStep step p i = differenceStep step q i := by
      rw [differenceStep, differenceStep, same i among]
    simp only [differenceColumn, width, same i among, moved]
  rw [differences, differences, columns]

/-- **A bound block depends on the positions that it declares**, which are those of its entities. -/
theorem local_of_boundTo (laid : Layout.ofEntities others = .ok layout) (bound : b.BoundTo layout) :
    b.Local layout := by
  obtain ⟨entities, start, c, compiled⟩ := bound
  have read {i : ℕ} : i ∈ b.relation.reads → i ∈ b.positions :=
    mem_positions_of_reads laid compiled
  have residual (p q : Valuation α) (same : ∀ i ∈ b.positions, p i = q i) :
      b.residual p = b.residual q := residual_congr laid compiled same
  refine ⟨ascending_positions compiled, fun i => ?_, fun p q same => ⟨residual p q same, ?_⟩,
    fun p q same => ?_, fun p gradients closed g among e inside => ?_,
    fun step p q same => differences_congr residual same step⟩
  · rw [constraint_of_compiled compiled]
    exact mem_positions_iff laid compiled
  · exact endless_congr fun i reads => same i (read reads)
  · exact Relation.gradients?_congr fun i reads => same i (read reads)
  · exact read (Relation.within_gradients closed g among e inside)

/-- A derivative is the same where the positions of its block are. -/
theorem Local.derivative_congr (near : b.Local layout) (same : ∀ i ∈ b.positions, p i = q i)
    (step : α) : b.derivative step p = b.derivative step q := by
  rw [derivative, derivative, near.gradients p q same, near.differences step p q same]

end Block

/-! ## A system of blocks -/

/-- The rows of a range, by the first one and the one behind the last. -/
def RowRange.span (range : RowRange) : ℕ × ℕ := (range.start, range.start + range.count)

namespace System

variable {s : System α} {p q : Valuation α} {J : List (List (Option α))}

/-- A matrix is zero at the rows of each block in the columns that the block does not declare. -/
def Vanishes (s : System α) (J : List (List (Option α))) : Prop :=
  ∀ b ∈ s.blocks, ∀ k < b.rows, ∀ j < s.size, j ∉ b.positions →
    (J[(s.rowsOf b).start + k]?.bind fun row => row[j]?) = some (some 0)

/-- Two matrices agree in the rows of a block. -/
def AgreeAt (s : System α) (b : Block α) (J K : List (List (Option α))) : Prop :=
  ∀ k < b.rows, J[(s.rowsOf b).start + k]? = K[(s.rowsOf b).start + k]?

/-- The derivatives of a system consist of the derivatives of its blocks: their rows tile the rows
of the system, and each entry depends on the block of its row and is zero outside of the columns of
that block. -/
structure Sparse (s : System α) : Prop where
  tiles : Tiles 0 s.rows (s.blocks.map fun b => (s.rowsOf b).span)
  counts : ∀ b ∈ s.blocks, (s.rowsOf b).count = b.rows
  jacobian (p : Valuation α) : s.Vanishes (s.jacobian p (List.range s.size))
  differences (p : Valuation α) : s.Vanishes (s.differences p (List.range s.size))
  rows (p q : Valuation α) : ∀ b ∈ s.blocks, (∀ i ∈ b.positions, p i = q i) →
    s.AgreeAt b (s.jacobian p (List.range s.size)) (s.jacobian q (List.range s.size)) ∧
      s.AgreeAt b (s.differences p (List.range s.size)) (s.differences q (List.range s.size))

omit [Scalar α] in
/-- **The rows of the blocks tile the rows of the system**, in the order of the blocks. -/
theorem tiles_rows (distinct : (s.blocks.map Block.id).Nodup) :
    Tiles 0 s.rows (s.blocks.map fun b => (s.rowsOf b).span) := by
  -- The blocks that have been passed move to the end of `before`.
  have behind (before after : List (Block α)) (split : s.blocks = before ++ after) :
      after.map (fun b => (s.rowsOf b).span) =
        stretches (height before) (after.map Block.rows) := by
    induction after generalizing before with
    | nil => rfl
    | cons b after ih =>
        have rest := ih (before ++ [b]) (by simp [split])
        rw [height_append, height_cons] at rest
        rw [List.map_cons, List.map_cons, stretches, rowsOf_split distinct split, rest]
        rfl
  have total (blocks : List (Block α)) : (blocks.map Block.rows).sum = height blocks := by
    induction blocks with
    | nil => rfl
    | cons b bs ih => rw [List.map_cons, List.sum_cons, ih, height_cons]
  have whole := tiles_stretches 0 (s.blocks.map Block.rows)
  rw [total, Nat.zero_add] at whole
  rw [behind [] s.blocks rfl]
  exact whole

section Derivatives

variable {closed : Block α → Bool} {slopes slopes' : Block α → List (SlopeRow α)}

/-- Where the rows of each block list its own positions, the others have zeros. -/
theorem vanishes_of_within (distinct : (s.blocks.map Block.id).Nodup)
    (fits : ∀ b ∈ s.blocks, (slopes b).length = b.rows)
    (listed : ∀ b ∈ s.blocks, ∀ row ∈ slopes b, Gradient.Within (· ∈ b.positions) row) :
    s.Vanishes (dense (List.range s.size) (s.sparseRows closed slopes)) := by
  intro b present k inside j column outside
  obtain ⟨before, after, split⟩ := List.append_of_mem present
  have within : Gradient.Within (· ∈ b.positions) (enter (closed b) [] ((slopes b).getD k [])) :=
    within_enter Gradient.within_nil (within_getD (listed b present) k)
  rw [rowsOf_split distinct split, getElem?_dense_split distinct fits split inside,
    Option.bind_some, List.getElem?_map, List.getElem?_range column, Option.map_some,
    lookup_eq_none_of_within within outside, Option.getD_none]

/-- Rows of a block are the same if what the block lists is. -/
theorem agreeAt_of_eq (distinct : (s.blocks.map Block.id).Nodup)
    (fits : ∀ b ∈ s.blocks, (slopes b).length = b.rows)
    (fits' : ∀ b ∈ s.blocks, (slopes' b).length = b.rows) {b : Block α} (present : b ∈ s.blocks)
    (same : slopes b = slopes' b) (columns : List ℕ) :
    s.AgreeAt b (dense columns (s.sparseRows closed slopes))
      (dense columns (s.sparseRows closed slopes')) := by
  intro k inside
  obtain ⟨before, after, split⟩ := List.append_of_mem present
  rw [rowsOf_split distinct split, getElem?_dense_split distinct fits split inside,
    getElem?_dense_split distinct fits' split inside, same]

end Derivatives

/-- A system of blocks that are bound to one layout is sparse, if their identifiers differ. -/
theorem sparse_of_boundTo (laid : Layout.ofEntities others = .ok layout)
    (bound : ∀ b ∈ s.blocks, b.BoundTo layout) (distinct : (s.blocks.map Block.id).Nodup) :
    s.Sparse := by
  have sizes (p : Valuation α) : ∀ b ∈ s.blocks, (b.derivative s.step p).length = b.rows :=
    fun b _ => b.length_derivative s.step p
  have sizes' (p : Valuation α) : ∀ b ∈ s.blocks, (b.differences s.step p).length = b.rows :=
    fun b _ => b.length_differences s.step p
  refine ⟨tiles_rows distinct, fun b present => ?_, fun p => ?_, fun p => ?_,
    fun p q b present same => ?_⟩
  · obtain ⟨before, after, split⟩ := List.append_of_mem present
    rw [rowsOf_split distinct split]
  · refine vanishes_of_within distinct (sizes p) fun b present => ?_
    obtain ⟨entities, start, c, compiled⟩ := bound b present
    exact Block.within_derivative (fun i => Block.mem_positions_of_reads laid compiled) s.step p
  · exact vanishes_of_within distinct (sizes' p) fun b _ => b.within_differences s.step p
  · have near := Block.local_of_boundTo laid (bound b present)
    exact ⟨agreeAt_of_eq distinct (sizes p) (sizes q) present (near.derivative_congr same s.step) _,
      agreeAt_of_eq distinct (sizes' p) (sizes' q) present (near.differences s.step p q same) _⟩

end System

/-- **Blocks depend on their own parameters only.**  Let constraints be bound to the layout of some
entities.  Each block declares the positions of the entities that it names, in ascending order.
Where two vectors agree on these, its residual, its gradients and its differences are the same; and
its gradients list no other positions.  If identifiers differ, the rows of the blocks tile the rows
of a system in the order of the blocks; and both derivatives, in closed form and by differences, are
zero at the rows of each block in all columns that it does not declare. -/
theorem blocks_local (laid : Layout.ofEntities others = .ok layout) :
    (∀ b : Block α, b.BoundTo layout → b.Local layout) ∧
      ∀ s : System α, (∀ b ∈ s.blocks, b.BoundTo layout) → (s.blocks.map Block.id).Nodup →
        s.Sparse :=
  ⟨fun _ bound => Block.local_of_boundTo laid bound,
    fun _ bound distinct => System.sparse_of_boundTo laid bound distinct⟩

namespace Corner

/-- Three points at a right angle. -/
noncomputable def entities : List (Entity ℝ) :=
  [Exact.entity 7 (.point 0 0), Exact.entity 3 (.point 1 0), Exact.entity 5 (.point 0 1)]

/-- The demand that two points are level. -/
noncomputable def level : Block ℝ :=
  ⟨⟨.whole 1, .horizontal, [7, 3], none, [], .of true⟩,
    .level ⟨7, 0, .point, .own⟩ ⟨3, 2, .point, .own⟩, [0, 1, 2, 3]⟩

/-- The demand that two points are above each other. -/
noncomputable def plumb : Block ℝ :=
  ⟨⟨.whole 0, .vertical, [7, 5], none, [], .of true⟩,
    .plumb ⟨7, 0, .point, .own⟩ ⟨5, 4, .point, .own⟩, [0, 1, 4, 5]⟩

theorem bound : ∀ b ∈ [level, plumb], b.BoundTo (Layout.tiling entities) :=
  List.forall_mem_cons.2 ⟨⟨entities, .ofArray (flat entities), level.constraint, rfl⟩,
    List.forall_mem_singleton.2 ⟨entities, .ofArray (flat entities), plumb.constraint, rfl⟩⟩

end Corner

/-- Two blocks at a corner share one point, and are zero at the third. -/
theorem blocks_local_corner :
    Corner.level.Local (Layout.tiling Corner.entities) ∧
      (System.mk [Corner.level, Corner.plumb] 6 Tolerance.difference).Sparse := by
  have laid : Layout.ofEntities Corner.entities = .ok (Layout.tiling Corner.entities) :=
    Layout.ofEntities_eq_ok.2 ⟨show ([7, 3, 5] : List Int).Nodup by decide, rfl⟩
  refine ⟨(blocks_local laid).1 _ (Corner.bound _ List.mem_cons_self), ?_⟩
  exact (blocks_local laid).2 _ Corner.bound (show ([1, 0] : List Int).Nodup by decide)

end PlanarSketch
