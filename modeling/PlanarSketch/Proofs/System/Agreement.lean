import PlanarSketch.Proofs.Relation.Affine
import PlanarSketch.Proofs.Solve.Answers
import PlanarSketch.Proofs.Solve.ClosedForms
import PlanarSketch.Proofs.System.Collapse

/-!
# Closed forms and differences

A derivative can be taken in closed form and by differences.  A central difference of a row
that is straight is its slope, however wide the difference is
(`Block.differenceColumn_of_straight`), so both ways should agree on systems of affine
relations.

They do, with one exception (`jacobian_eq_differences_iff`).  The gradients of paired curves
are listed, `1` for the first curve and `-1` for the second, and of two entries at one
position the last one counts.  When a curve is paired with itself, that leaves `-1` for a row
that is constantly zero (`jacobian_ne_of_selfPaired`).
-/

namespace PlanarSketch

set_option autoImplicit false

open Outcome

/-! ## Entries of two derivatives -/

namespace System

variable {α : Type} [Scalar α] {s : System α} {p : Valuation α} {columns : List Nat}

/-- The entry of a row at a position; absent entries are zero. -/
def valueAt (row : SlopeRow α) (j : Nat) : Option α := (row.lookup j).getD (some 0)

/-- Two derivatives of a system are equal when their blocks enter equal values everywhere. -/
theorem dense_eq_dense_iff (distinct : (s.blocks.map Block.id).Nodup)
    {closed closed' : Block α → Bool} {slopes slopes' : Block α → List (SlopeRow α)}
    (fits : ∀ b ∈ s.blocks, (slopes b).length = b.rows)
    (fits' : ∀ b ∈ s.blocks, (slopes' b).length = b.rows) :
    dense columns (s.sparseRows closed slopes) = dense columns (s.sparseRows closed' slopes') ↔
      ∀ b ∈ s.blocks, ∀ k < b.rows, ∀ j ∈ columns,
        valueAt (enter (closed b) [] ((slopes b).getD k [])) j =
          valueAt (enter (closed' b) [] ((slopes' b).getD k [])) j := by
  unfold dense sparseRows
  rw [List.map_map, List.map_map, List.map_inj_left]
  simp only [Function.comp_apply, List.map_inj_left, List.mem_range]
  constructor
  · intro agree b present k inside j column
    obtain ⟨before, after, split⟩ := List.append_of_mem present
    have below : height before + k < s.rows := by
      change height before + k < height s.blocks
      rw [split, height_append, height_cons]
      omega
    have entry := agree _ below j column
    rw [assemble_split distinct fits split inside, assemble_split distinct fits' split inside]
      at entry
    exact entry
  · intro agree i below j column
    obtain ⟨before, b, after, k, split, inside, rfl⟩ := exists_split_of_lt_height below
    rw [assemble_split distinct fits split inside, assemble_split distinct fits' split inside]
    exact agree b (split ▸ by simp) k inside j column

/-- A row without repeated positions is entered into an empty row as it is. -/
theorem valueAt_enter (closed : Bool) {entries : SlopeRow α}
    (distinct : (entries.map Prod.fst).Nodup) (j : Nat) :
    valueAt (enter closed [] entries) j = valueAt entries j := by
  rw [enter_distinct closed (by simpa using distinct), List.nil_append]

end System

theorem lookup_map_snd {β γ : Type} (f : β → γ) (row : List (Nat × β)) (j : Nat) :
    (row.map fun e => (e.1, f e.2)).lookup j = (row.lookup j).map f := by
  induction row with
  | nil => rfl
  | cons e rest ih =>
      rw [List.map_cons, List.lookup_cons, List.lookup_cons, ih]
      cases j == e.1 with
      | true => rfl
      | false => rfl

namespace Block

variable {b : Block ℝ} {p : Valuation ℝ} {k i : ℕ} {step slope start : ℝ}

/-- A closed form enters the entries of its gradients. -/
theorem valueAt_closed {gradients : List (Gradient ℝ)}
    (closed : b.relation.gradients? p = some gradients) (inside : k < b.rows) :
    System.valueAt (System.enter b.relation.analytic [] ((b.derivative step p).getD k [])) i =
      some ((gradients.getD k []).entry i) := by
  have count : k < gradients.length := by rwa [Relation.length_gradients p closed]
  have simple : (gradients[k]).Simple := Relation.simple_gradients closed _ (List.getElem_mem count)
  have row : (b.derivative step p).getD k [] = (gradients[k]).map fun e => (e.1, some e.2) := by
    simp [derivative, closed, List.getD_eq_getElem?_getD, count]
  have listed : ((gradients[k]).map fun e => (e.1, some e.2)).map Prod.fst =
      (gradients[k]).map Prod.fst := by
    rw [List.map_map]
    rfl
  rw [row, System.valueAt_enter _ (by rw [listed]; exact simple), System.valueAt, lookup_map_snd,
    List.getD_eq_getElem?_getD, List.getElem?_eq_getElem count, Option.getD_some, Gradient.entry]
  cases (gradients[k]).lookup i with
  | none => rfl
  | some v => rfl

/-! ## Straight rows -/

/-- Along a position a row of a block is straight, with some slope. -/
def RunsStraight (b : Block ℝ) (k i : ℕ) (p : Valuation ℝ) (slope : ℝ) : Prop :=
  ∃ start, ∀ x, (b.residual (p.update i x))[k]? = some (some (slope * x + start))

theorem exists_runsStraight (affine : b.relation.Affine) (inside : k < b.rows) (p : Valuation ℝ)
    (i : ℕ) : ∃ slope, b.RunsStraight k i p slope := by
  obtain ⟨rows, values, straight⟩ := affine.hasStraightRows
  have count : k < rows.length := by
    have length := Relation.length_residual p (values p)
    rw [List.length_map] at length
    rwa [length]
  obtain ⟨slope, start, line⟩ := straight _ (List.getElem_mem count) p i
  refine ⟨slope, start, fun x => ?_⟩
  simp [residual, Relation.residualRows, values, count, ← line]

/-- The slope of a straight row is its partial derivative. -/
theorem RunsStraight.rate_eq {rate : ℝ} (straight : b.RunsStraight k i p slope)
    (partially : b.HasPartial k i p rate) : rate = slope := by
  obtain ⟨start, line⟩ := straight
  obtain ⟨f, near, rates⟩ := partially
  have moving : HasDerivAt (fun x => slope * x + start) slope (p i) := by
    simpa using ((hasDerivAt_id (p i)).const_mul slope).add_const start
  refine rates.unique (moving.congr_of_eventuallyEq ?_)
  filter_upwards [near] with x value
  rw [line] at value
  exact (Option.some.inj (Option.some.inj value)).symm

theorem differenceStep_pos (positive : 0 < step) (p : Valuation ℝ) (i : ℕ) :
    0 < differenceStep step p i := by
  refine mul_pos positive ?_
  unfold Scalar.atLeastOne
  split
  · rename_i large
    exact zero_lt_one.trans large
  · exact zero_lt_one

/-- **A central difference of a straight row is its slope**, whatever its width. -/
theorem differenceColumn_of_straight (positive : 0 < step) (straight : b.RunsStraight k i p slope) :
    (b.differenceColumn step p i).getD k none = some slope := by
  obtain ⟨start, line⟩ := straight
  have wide := differenceStep_pos positive p i
  have quotient : (slope * (p i + differenceStep step p i) + start -
      (slope * (p i - differenceStep step p i) + start)) /
        (Scalar.two * differenceStep step p i) = slope := by
    rw [Scalar.two]
    field_simp
    ring
  rw [differenceColumn, List.getD_eq_getElem?_getD, List.getElem?_zipWith, line, line]
  exact congrArg some quotient

variable {entities : List (Entity ℝ)} {layout : Layout} {origin : Valuation ℝ} {c : Constraint ℝ}

/-- A row does not depend on a position outside of its block. -/
theorem RunsStraight.slope_eq_zero (laid : Layout.ofEntities entities = .ok layout)
    (compiled : compile entities layout origin c = .ok b) (outside : i ∉ b.positions)
    (straight : b.RunsStraight k i p slope) : slope = 0 := by
  obtain ⟨start, line⟩ := straight
  have first := line 0
  have second := line 1
  rw [residual_update laid compiled outside] at first second
  have same : slope * 0 + start = slope * 1 + start :=
    Option.some.inj (Option.some.inj (first.symm.trans second))
  linarith

/-- Differences enter the slopes of straight rows. -/
theorem valueAt_differences (laid : Layout.ofEntities entities = .ok layout)
    (compiled : compile entities layout origin c = .ok b) (distinct : b.positions.Nodup)
    (positive : 0 < step) (inside : k < b.rows) (straight : b.RunsStraight k i p slope) :
    System.valueAt (System.enter false [] ((b.differences step p).getD k [])) i = some slope := by
  have listed : (b.positions.map fun i =>
      (i, (b.differenceColumn step p i).getD k none)).map Prod.fst = b.positions := by
    rw [List.map_map]
    exact List.map_id _
  rw [b.getD_differences step p inside, System.valueAt_enter _ (by rwa [listed]), System.valueAt]
  by_cases among : i ∈ b.positions
  · rw [lookup_map_self.2 ⟨among, differenceColumn_of_straight positive straight⟩]
    rfl
  · rw [straight.slope_eq_zero laid compiled among, List.lookup_eq_none_iff.2]
    · rfl
    · intro e listed
      obtain ⟨j, present, rfl⟩ := List.mem_map.1 listed
      rw [bne_iff_ne]
      rintro rfl
      exact among present

/-- The closed form of an affine block enters the slopes of its rows, unless the block pairs a
curve with itself. -/
theorem entry_eq_slope (affine : b.relation.Affine) (apart : ¬b.relation.SelfPaired)
    {gradients : List (Gradient ℝ)} (closed : b.relation.gradients? p = some gradients)
    (inside : k < b.rows) (straight : b.RunsStraight k i p slope) :
    (gradients.getD k []).entry i = slope := by
  have count : k < gradients.length := by rwa [Relation.length_gradients p closed]
  have linear := Relation.linearised closed (affine.unguarded p) apart
  exact straight.rate_eq (hasPartial_of_linearised linear count i)

/-- A curve that is paired with itself has a row that is constantly zero, and a gradient that is
not. -/
theorem exists_entry_of_selfPaired (paired : b.relation.SelfPaired)
    {gradients : List (Gradient ℝ)} (closed : b.relation.gradients? p = some gradients) :
    ∃ i ∈ b.relation.reads, (gradients.getD 0 []).entry i = -1 ∧ b.RunsStraight 0 i p 0 := by
  obtain ⟨constraint, relation, positions⟩ := b
  cases relation with
  | sameRadius c d =>
      have same : c.base = d.base := paired
      cases closed
      refine ⟨c.radiusIndex, ?_, ?_, 0, fun x => ?_⟩
      · simp [Relation.reads, Relation.curves, CurveSite.reads, CurveSite.radiusIndex]
      · change Gradient.entry (.ofEntries [(c.radiusIndex, 1), (d.radiusIndex, -1)]) _ = -1
        have radius : c.radiusIndex = d.radiusIndex := congrArg (· + 2) same
        rw [Gradient.entry_ofEntries_pair, if_pos radius]
      · simp [residual, Relation.residualRows, Relation.residual, CurveSite.radius,
          CurveSite.radiusIndex, same]
  | concentric c d =>
      have same : c.base = d.base := paired
      cases closed
      refine ⟨c.base, ?_, ?_, 0, fun x => ?_⟩
      · simp [Relation.reads, Relation.curves, CurveSite.reads]
      · change Gradient.entry (.ofEntries [(c.base, 1), (d.base, -1)]) _ = -1
        rw [Gradient.entry_ofEntries_pair, if_pos same]
      · simp [residual, Relation.residualRows, Relation.residual, same]
  | _ => cases paired

end Block

/-! ## Systems of affine relations -/

section Systems

variable {entities : List (Entity ℝ)} {constraints : List (Constraint ℝ)} {layout : Layout}
variable {origin : Valuation ℝ} {blocks : List (Block ℝ)} {step : ℝ}

/-- Both derivatives of a system of affine relations are equal when each block enters the slopes of
its rows in closed form. -/
theorem jacobian_eq_differences_iff_slopes (laid : Layout.ofEntities entities = .ok layout)
    (compiled : constraints.mapM (Block.compile entities layout origin) = .ok blocks)
    (distinct : (constraints.map Constraint.id).Nodup)
    (affine : ∀ b ∈ blocks, b.relation.Affine) (positive : 0 < step) (p : Valuation ℝ) :
    (System.mk blocks layout.size step).jacobian p (List.range layout.size) =
        (System.mk blocks layout.size step).differences p (List.range layout.size) ↔
      ∀ b ∈ blocks, ∀ gradients, b.relation.gradients? p = some gradients → ∀ k < b.rows,
        ∀ i < layout.size, ∀ slope, b.RunsStraight k i p slope →
          (gradients.getD k []).entry i = slope := by
  have numbered : ((System.mk blocks layout.size step).blocks.map Block.id).Nodup := by
    change (blocks.map Block.id).Nodup
    rwa [Problem.map_id_blocks compiled]
  unfold System.jacobian System.differences
  rw [System.dense_eq_dense_iff numbered (fun b _ => b.length_derivative step p)
    fun b _ => b.length_differences step p]
  refine forall₂_congr fun b present => ?_
  obtain ⟨c, -, made⟩ := exists_of_mem_mapM compiled present
  obtain ⟨gradients, closed⟩ := Relation.exists_gradients p (affine b present).analytic
  have once := Block.nodup_positions made
  constructor
  · intro agree gradients' closed' k inside i below slope straight
    have values := agree k inside i (List.mem_range.2 below)
    rw [Block.valueAt_closed closed' inside,
      Block.valueAt_differences laid made once positive inside straight] at values
    exact Option.some.inj values
  · intro agree k inside i column
    obtain ⟨slope, straight⟩ := Block.exists_runsStraight (affine b present) inside p i
    rw [Block.valueAt_closed closed inside,
      Block.valueAt_differences laid made once positive inside straight,
      agree gradients closed k inside i (List.mem_range.1 column) slope straight]

/-- Closed forms of a system that pairs a curve with itself are not its differences. -/
theorem jacobian_ne_of_selfPaired (laid : Layout.ofEntities entities = .ok layout)
    (compiled : constraints.mapM (Block.compile entities layout origin) = .ok blocks)
    (distinct : (constraints.map Constraint.id).Nodup)
    (affine : ∀ b ∈ blocks, b.relation.Affine) (positive : 0 < step) (p : Valuation ℝ)
    {b : Block ℝ} (present : b ∈ blocks) (paired : b.relation.SelfPaired) :
    (System.mk blocks layout.size step).jacobian p (List.range layout.size) ≠
      (System.mk blocks layout.size step).differences p (List.range layout.size) := by
  rw [Ne, jacobian_eq_differences_iff_slopes laid compiled distinct affine positive p]
  intro agree
  obtain ⟨c, -, made⟩ := exists_of_mem_mapM compiled present
  obtain ⟨gradients, closed⟩ := Relation.exists_gradients p (affine b present).analytic
  obtain ⟨i, read, entry, straight⟩ := Block.exists_entry_of_selfPaired paired closed
  have below : i < layout.size := by
    have among := Block.mem_positions_of_reads laid made read
    obtain ⟨places, -, -, -, -, positions⟩ := Block.compile_eq_ok made
    rw [positions, Block.mem_coveredBy] at among
    exact among.1
  have zero := agree b present gradients closed 0 b.relation.rows_pos i below 0 straight
  rw [entry] at zero
  norm_num at zero

/-- **Closed forms agree with differences, except on curves that are paired with themselves.**
For constraints of different identifiers that are bound to affine relations, at every point and
for every relative step: the derivative in closed form is the derivative by differences, entry by
entry, if and only if no constraint pairs a curve with itself. -/
theorem jacobian_eq_differences_iff (laid : Layout.ofEntities entities = .ok layout)
    (compiled : constraints.mapM (Block.compile entities layout origin) = .ok blocks)
    (distinct : (constraints.map Constraint.id).Nodup)
    (affine : ∀ b ∈ blocks, b.relation.Affine) (positive : 0 < step) (p : Valuation ℝ) :
    (System.mk blocks layout.size step).jacobian p (List.range layout.size) =
        (System.mk blocks layout.size step).differences p (List.range layout.size) ↔
      ∀ b ∈ blocks, ¬b.relation.SelfPaired := by
  constructor
  · intro equal b present paired
    exact jacobian_ne_of_selfPaired laid compiled distinct affine positive p present paired equal
  · intro apart
    rw [jacobian_eq_differences_iff_slopes laid compiled distinct affine positive p]
    intro b present gradients closed k inside i _ slope straight
    exact Block.entry_eq_slope (affine b present) (apart b present) closed inside straight

end Systems

/-! ## Two circles -/

namespace Circles

/-- Two circles of the radii one and two. -/
noncomputable def entities : List (Entity ℝ) :=
  [Exact.entity 0 (.circle 0 0 1), Exact.entity 1 (.circle 1 0 Scalar.two)]

/-- The demand that the first circle has the radius of one of the two. -/
noncomputable def constraint (other : Int) : Constraint ℝ :=
  ⟨.whole 0, .equal, [0, other], none, [], .of true⟩

theorem laid : Layout.ofEntities entities = .ok (Layout.tiling entities) := by
  refine Layout.ofEntities_eq_ok.2 ⟨?_, rfl⟩
  change ([0, 1] : List Int).Nodup
  decide

/-- The demand, bound to the two circles. -/
noncomputable def different : Block ℝ :=
  ⟨constraint 1, .sameRadius ⟨0, 0⟩ ⟨1, 3⟩, [0, 1, 2, 3, 4, 5]⟩

/-- The demand, bound to the first circle twice. -/
noncomputable def same : Block ℝ := ⟨constraint 0, .sameRadius ⟨0, 0⟩ ⟨0, 0⟩, [0, 1, 2]⟩

theorem compile_different (p : Valuation ℝ) :
    [constraint 1].mapM (Block.compile entities (Layout.tiling entities) p) = .ok [different] :=
  rfl

theorem compile_same (p : Valuation ℝ) :
    [constraint 0].mapM (Block.compile entities (Layout.tiling entities) p) = .ok [same] :=
  rfl

theorem distinct (other : Int) : ([constraint other].map Constraint.id).Nodup :=
  List.nodup_singleton _

end Circles

/-- The radii of two circles that are to be equal. -/
theorem jacobian_eq_differences_two_circles :
    (System.mk [Circles.different] 6 Tolerance.difference).jacobian
        (.ofArray (flat Circles.entities)) (List.range 6) =
      (System.mk [Circles.different] 6 Tolerance.difference).differences
        (.ofArray (flat Circles.entities)) (List.range 6) := by
  have positive : (0 : ℝ) < Tolerance.difference := by norm_num [Tolerance.difference]
  refine (jacobian_eq_differences_iff Circles.laid (Circles.compile_different fun _ => 0)
    (Circles.distinct 1) ?_ positive _).2 ?_
  · exact List.forall_mem_singleton.2 trivial
  · refine List.forall_mem_singleton.2 ?_
    change ¬(0 = 3)
    decide

/-- **The two derivatives differ** where a circle is to have its own radius. -/
theorem jacobian_ne_differences_one_circle :
    [Circles.constraint 0].mapM (Block.compile Circles.entities (Layout.tiling Circles.entities)
        (.ofArray (flat Circles.entities))) = .ok [Circles.same] ∧
      Circles.same.relation.Affine ∧
      (System.mk [Circles.same] 6 Tolerance.difference).jacobian (.ofArray (flat Circles.entities))
          (List.range 6) ≠
        (System.mk [Circles.same] 6 Tolerance.difference).differences
          (.ofArray (flat Circles.entities)) (List.range 6) := by
  have positive : (0 : ℝ) < Tolerance.difference := by norm_num [Tolerance.difference]
  refine ⟨Circles.compile_same _, trivial, ?_⟩
  exact jacobian_ne_of_selfPaired Circles.laid (Circles.compile_same fun _ => 0)
    (Circles.distinct 0) (List.forall_mem_singleton.2 trivial) positive _
    (List.mem_singleton_self _) rfl

end PlanarSketch
