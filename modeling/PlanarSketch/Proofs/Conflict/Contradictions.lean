import Mathlib.Data.List.Permutation
import PlanarSketch.Proofs.Conflict.Pairs
import PlanarSketch.Proofs.Relation.Targets
import PlanarSketch.Proofs.Solve.Acceptance

/-!
# Conflicts are contradictions

Constraints that are found in conflict are compared by their kinds, the identifiers that they name,
their selectors and their values, before any geometry is looked at.  What they are bound to
follows from the same data.  Constraints with one target are bound to the same slots
(`Block.slots_of_sameTarget`), and two constraints that pair lines of the same entities are bound
to the same two lines, in one order or the other (`Block.lines_perm`).

So if a conflict is more than a warning and is not about an angle, then there is no vector of
parameters at which the residuals of both constraints are zero (`conflicts_contradict`).
-/

namespace PlanarSketch

set_option autoImplicit false

/-! ## What constraints are bound to -/

/-- The line of an entity, where it is placed. -/
def Layout.line? (layout : Layout) (id : Int) : Option LineSite :=
  (layout.place? id).bind fun place => (Slot.mk place "").line?

namespace Constraint

variable {α : Type}

/-- A constraint between the directions of two lines. -/
def PairsLines (c : Constraint α) : Prop :=
  c.kind = .parallel ∨ c.kind = .perpendicular ∨ c.kind = .angle

variable [Scalar α] {c : Constraint α} {p : Valuation α} {slots : List Slot} {r : Relation α}

omit [Scalar α] in
theorem selector_of_line {s : Slot} {l : LineSite} (line : s.line? = some l) : s.selector = "" := by
  have whole := isLine_of_line line
  rw [Slot.isLine, Bool.and_eq_true, beq_iff_eq, beq_iff_eq] at whole
  exact whole.2

theorem target_of_value {v : α} (value : c.value = some v) : c.target = v := by
  rw [target, value, Option.getD_some]

theorem Binds.lines_of_pairsLines (bound : c.Binds p slots r) (pairs : c.PairsLines) :
    ∃ s t l m, slots = [s, t] ∧ s.line? = some l ∧ t.line? = some m ∧ r.lines = [l, m] := by
  cases bound with
  | parallel _ first second | perpendicular _ first second | angle _ first second =>
      exact ⟨_, _, _, _, rfl, first, second, rfl⟩
  | _ kind =>
      rw [PairsLines, kind] at pairs
      simp at pairs

theorem Binds.eq_parallel (bound : c.Binds p slots r) (parallel : c.kind = .parallel) :
    ∃ l m, r = .parallel l m := by
  cases bound with
  | parallel => exact ⟨_, _, rfl⟩
  | _ kind => cases kind.symm.trans parallel

theorem Binds.eq_perpendicular (bound : c.Binds p slots r)
    (perpendicular : c.kind = .perpendicular) : ∃ l m, r = .perpendicular l m := by
  cases bound with
  | perpendicular => exact ⟨_, _, rfl⟩
  | _ kind => cases kind.symm.trans perpendicular

end Constraint

theorem Exact.ne_of_lt_abs_sub {tolerance v w : ℝ} (bounded : 0 ≤ tolerance)
    (apart : tolerance < Scalar.abs (v - w)) : v ≠ w := by
  rintro rfl
  rw [sub_self] at apart
  exact absurd apart (not_lt.2 (abs_zero.trans_le bounded))

namespace Block

section Binding

variable {α : Type} [Scalar α] {entities : List (Entity α)} {layout : Layout}
variable {start : Valuation α} {a b c : Constraint α} {A B C : Block α}

omit [Scalar α] in
/-- The slots of constraints with one target are the same. -/
theorem slotsOf_congr {places : List Place} (target : a.sameTarget b = true)
    (size : places.length = a.entityIds.length) : slotsOf a places = slotsOf b places := by
  obtain ⟨-, -, selectors⟩ := Constraint.sameTarget_iff.1 target
  refine List.map_congr_left fun ⟨place, i⟩ among => ?_
  have inside : i < places.length := by simpa using (List.mem_zipIdx among).2.1
  exact congrArg (Slot.mk place) (selectors i (size ▸ inside))

/-- **Constraints with one target are bound to the same slots.** -/
theorem slots_of_sameTarget (first : compile entities layout start a = .ok A)
    (second : compile entities layout start b = .ok B) (target : a.sameTarget b = true) :
    ∃ slots, a.Binds start slots A.relation ∧ b.Binds start slots B.relation := by
  obtain ⟨places, located, bound, -, -⟩ := compile_binds first
  obtain ⟨others, located', bound', -, -⟩ := compile_binds second
  obtain ⟨-, ids, -⟩ := Constraint.sameTarget_iff.1 target
  rw [← ids] at located'
  have functional : Relator.RightUnique fun id place => layout.place? id = some place :=
    fun _ _ _ here there => Option.some.inj (here.symm.trans there)
  obtain rfl := List.right_unique_forall₂' functional located located'
  rw [← slotsOf_congr target located.length_eq.symm] at bound'
  exact ⟨_, bound, bound'⟩

/-- A constraint that pairs lines is bound to the lines of the two entities that it names, as a
whole. -/
theorem lines_of_pairsLines (compiled : compile entities layout start c = .ok C)
    (pairs : c.PairsLines) :
    ∃ i j l m, c.entityIds = [i, j] ∧ c.selector 0 = "" ∧ c.selector 1 = "" ∧
      layout.line? i = some l ∧ layout.line? j = some m ∧ C.relation.lines = [l, m] := by
  obtain ⟨places, located, bound, -, -⟩ := compile_binds compiled
  obtain ⟨s, t, l, m, slots, first, second, lines⟩ := bound.lines_of_pairsLines pairs
  have two : places = [s.place, t.place] := by
    rw [← map_place_slotsOf c places, slots]
    rfl
  rw [two] at located slots
  obtain ⟨i, rest, here, later, ids⟩ := List.forall₂_cons_right_iff.1 located
  obtain ⟨j, rest, there, none, rfl⟩ := List.forall₂_cons_right_iff.1 later
  cases none
  obtain ⟨head, tail⟩ := List.cons.inj slots
  have whole := Constraint.selector_of_line first
  have whole' := Constraint.selector_of_line second
  refine ⟨i, j, l, m, ids, ?_, ?_, ?_, ?_, lines⟩
  · rw [← whole, ← head]
  · rw [← whole', ← (List.cons.inj tail).1]
  · rw [Layout.line?, here, Option.bind_some, ← whole]
    exact first
  · rw [Layout.line?, there, Option.bind_some, ← whole']
    exact second

/-- **Constraints that pair lines of the same entities are bound to the same lines**, whatever their
order. -/
theorem lines_perm (first : compile entities layout start a = .ok A)
    (second : compile entities layout start b = .ok B) (pairs : a.PairsLines)
    (pairs' : b.PairsLines) (same : a.entityIds.Perm b.entityIds) :
    A.relation.lines.Perm B.relation.lines := by
  obtain ⟨i, j, l, m, ids, -, -, here, there, lines⟩ := lines_of_pairsLines first pairs
  obtain ⟨i', j', l', m', ids', -, -, here', there', lines'⟩ := lines_of_pairsLines second pairs'
  have found := same.map layout.line?
  rw [ids, ids'] at found
  simp only [List.map_cons, List.map_nil, here, there, here', there'] at found
  rw [lines, lines']
  exact (List.map_perm_map_iff (Option.some_injective LineSite)).1 found

/-- A bound dimension has a value. -/
theorem value_of_compiled (compiled : compile entities layout start c = .ok C)
    (dimension : c.dimensional = true) : c.value = some c.target := by
  obtain ⟨-, -, obeyed⟩ := Constraint.check_eq_ok.1 (check_of_compiled compiled)
  cases value : c.value with
  | some v => rw [Constraint.target_of_value value]
  | none =>
      rw [value] at obeyed
      have rule : c.kind.valueRule = .none := obeyed
      rw [Constraint.dimensional, ConstraintKind.dimensional, rule] at dimension
      cases dimension

/-- **Bound dimensions of one kind clash** when they have one target and their values are apart. -/
theorem exists_clash_iff {tolerance : α} (first : compile entities layout start a = .ok A)
    (second : compile entities layout start b = .ok B) (kinds : a.kind = b.kind)
    (dimension : a.dimensional = true) :
    (∃ cause, Conflict.Clash tolerance a b cause) ↔
      a.NamesAlike b ∧ tolerance < Scalar.abs (a.target - b.target) := by
  constructor
  · rintro ⟨cause, clash⟩
    cases clash with
    | directions crossed => exact absurd crossed (Conflict.not_crossed_of_dimensional dimension)
    | values _ target here there apart =>
        rw [Constraint.target_of_value here, Constraint.target_of_value there]
        exact ⟨(Constraint.sameTarget_iff.1 target).2, apart⟩
  · rintro ⟨alike, apart⟩
    have dimension' : b.dimensional = true := by
      rwa [Constraint.dimensional, kinds] at dimension
    exact ⟨_, .values dimension (Constraint.sameTarget_iff.2 ⟨kinds, alike⟩)
      (value_of_compiled first dimension) (value_of_compiled second dimension') apart⟩

end Binding

/-! ## What cannot hold together -/

variable {entities : List (Entity ℝ)} {layout : Layout} {start p : Valuation ℝ}
variable {a b : Constraint ℝ} {A B : Block ℝ}

/-- The residual of a block is zero in all its rows. -/
def VanishesAt (b : Block ℝ) (p : Valuation ℝ) : Prop := ∀ v ∈ b.residual p, v = some 0

/-- The residual of a block is zero where its relation holds between lines that have a direction. -/
theorem vanishesAt_iff : A.VanishesAt p ↔
    (∀ l ∈ A.relation.divisors, Tolerance.geometry < l.length p) ∧ A.relation.Holds p :=
  Relation.rows_zero_iff_long_holds

/-- **No two lines are parallel and perpendicular at once**, in whichever order they are named. -/
theorem not_vanish_of_crossed (first : compile entities layout start a = .ok A)
    (second : compile entities layout start b = .ok B) (parallel : a.kind = .parallel)
    (perpendicular : b.kind = .perpendicular) (same : a.entityIds.Perm b.entityIds) :
    ¬(A.VanishesAt p ∧ B.VanishesAt p) := by
  obtain ⟨_, -, bound, -, -⟩ := compile_binds first
  obtain ⟨_, -, bound', -, -⟩ := compile_binds second
  have lines := lines_perm first second (.inl parallel) (.inr (.inl perpendicular)) same
  obtain ⟨l, m, here⟩ := bound.eq_parallel parallel
  obtain ⟨k, n, there⟩ := bound'.eq_perpendicular perpendicular
  rw [vanishesAt_iff, vanishesAt_iff, here, there]
  rintro ⟨⟨long, along⟩, -, across⟩
  have apart := Edge.not_perpendicular_of_parallel
    (LineSite.edge_long (long l List.mem_cons_self)) along
  rw [here, there] at lines
  rcases List.perm_pair.1 lines with order | order
  · cases order
    exact apart across
  · cases order
    exact apart across.symm

/-- **No dimension has two values**, unless it is an angle. -/
theorem not_vanish_of_values (first : compile entities layout start a = .ok A)
    (second : compile entities layout start b = .ok B) (target : a.sameTarget b = true)
    (dimension : a.dimensional = true) (plain : a.kind ≠ .angle) (apart : a.target ≠ b.target) :
    ¬(A.VanishesAt p ∧ B.VanishesAt p) := by
  obtain ⟨slots, bound, bound'⟩ := slots_of_sameTarget first second target
  obtain ⟨kinds, -, -⟩ := Constraint.sameTarget_iff.1 target
  rw [vanishesAt_iff, vanishesAt_iff]
  rintro ⟨⟨-, holds⟩, -, held⟩
  exact apart (bound.target_unique bound' kinds.symm dimension plain holds held)

end Block

/-! ## Two lines that cross -/

namespace Crossing

open Outcome

/-- Two lines of length one that begin at one point and are perpendicular. -/
noncomputable def entities : List (Entity ℝ) :=
  [Exact.entity 0 (.line 0 0 1 0), Exact.entity 1 (.line 0 0 0 1)]

/-- The demand that the lines are parallel. -/
noncomputable def parallel : Constraint ℝ := ⟨.whole 0, .parallel, [0, 1], none, [], .of true⟩

/-- The demand that the lines are perpendicular, which names them in the other order. -/
noncomputable def perpendicular : Constraint ℝ :=
  ⟨.whole 1, .perpendicular, [1, 0], none, [], .of true⟩

/-- Both lines have a direction. -/
theorem checkShape_lines (c : Constraint ℝ) {ids : List Int} (among : ids ⊆ [0, 1]) :
    ∀ id ∈ ids, Block.checkShape c entities id = .ok () := by
  have short : (Tolerance.geometry : ℝ) < 1 := by norm_num [Tolerance.geometry]
  have first : (Exact.entity 0 (.line 0 0 1 0)).degeneracy? Tolerance.geometry = none := by
    simp [Entity.degeneracy?, Exact.entity, Shape.degeneracy?, Exact.hypot, not_le.2 short]
  have second : (Exact.entity 1 (.line 0 0 0 1)).degeneracy? Tolerance.geometry = none := by
    simp [Entity.degeneracy?, Exact.entity, Shape.degeneracy?, Exact.hypot, not_le.2 short]
  intro id named
  rcases List.mem_pair.1 (among named) with rfl | rfl
  · exact Block.checkShape_of_found rfl first
  · exact Block.checkShape_of_found rfl second

theorem compile_parallel (p : Valuation ℝ) :
    Block.compile entities (Layout.tiling entities) p parallel =
      .ok ⟨parallel, .parallel ⟨0, 0⟩ ⟨1, 4⟩, List.range 8⟩ := by
  have found : Block.placesOf parallel entities (Layout.tiling entities) =
      .ok [⟨0, .line, 0⟩, ⟨1, .line, 4⟩] := rfl
  exact Block.compile_of_steps rfl found rfl
    (checkShape_lines parallel (List.Subset.refl [0, 1]))

theorem compile_perpendicular (p : Valuation ℝ) :
    Block.compile entities (Layout.tiling entities) p perpendicular =
      .ok ⟨perpendicular, .perpendicular ⟨1, 4⟩ ⟨0, 0⟩, List.range 8⟩ := by
  have found : Block.placesOf perpendicular entities (Layout.tiling entities) =
      .ok [⟨1, .line, 4⟩, ⟨0, .line, 0⟩] := rfl
  exact Block.compile_of_steps rfl found rfl
    (checkShape_lines perpendicular (List.Perm.swap 0 1 []).subset)

end Crossing

/-! ## Conflicts that are more than warnings -/

open Constraint in
/-- **Conflicts are contradictions.**  For any entities, any constraints that can all be bound to
them and any tolerance that is not negative: a conflict that is more than a warning is between two
driving constraints, in the order in which they stand, that demand parallel and perpendicular lines
of the same entities, or that are dimensions of one target with values further apart than the
tolerance.  If it is not about angles, then there is no vector of parameters at which the
residuals of both constraints are zero in all their rows. -/
theorem conflicts_contradict {entities : List (Entity ℝ)} {layout : Layout} {start : Valuation ℝ}
    {constraints : List (Constraint ℝ)} {tolerance : ℝ} {conflict : Conflict ℝ}
    (compiles : ∀ c ∈ constraints, ∃ b, Block.compile entities layout start c = .ok b)
    (bounded : 0 ≤ tolerance) (found : conflict ∈ Conflict.find entities constraints tolerance)
    (severe : conflict.cause.severity = .error) :
    ∃ a b, InOrder constraints a b ∧ conflict.constraints = [a.identifier, b.identifier] ∧
      Conflict.Clash tolerance a b conflict.cause ∧
        (a.kind ≠ .angle → ∃ A B, Block.compile entities layout start a = .ok A ∧
          Block.compile entities layout start b = .ok B ∧
            ∀ p, ¬(A.VanishesAt p ∧ B.VanishesAt p)) := by
  obtain ⟨a, b, order, named, clash⟩ := Conflict.mem_find_iff.1 ⟨found, severe⟩
  refine ⟨a, b, order, named, clash, fun plain => ?_⟩
  obtain ⟨A, first⟩ := compiles a order.mem.1
  obtain ⟨B, second⟩ := compiles b order.mem.2
  refine ⟨A, B, first, second, fun p => ?_⟩
  generalize conflict.cause = cause at clash
  cases clash with
  | directions kinds lines =>
      rcases kinds with ⟨parallel, perpendicular⟩ | ⟨perpendicular, parallel⟩
      · exact Block.not_vanish_of_crossed first second parallel perpendicular lines
      · rw [and_comm]
        exact Block.not_vanish_of_crossed second first parallel perpendicular lines.symm
  | values dimension target here there apart =>
      refine Block.not_vanish_of_values first second target dimension plain ?_
      rw [target_of_value here, target_of_value there]
      exact Exact.ne_of_lt_abs_sub bounded apart

/-- Two lines that shall be parallel, and perpendicular when they are named the other way round, are
in conflict and nowhere both. -/
theorem conflicts_contradict_crossing :
    ⟨[.whole 0, .whole 1], .parallelPerpendicular⟩ ∈
        Conflict.find Crossing.entities [Crossing.parallel, Crossing.perpendicular] 0 ∧
      ∃ a ∈ [Crossing.parallel, Crossing.perpendicular],
        ∃ b ∈ [Crossing.parallel, Crossing.perpendicular],
          a.identifier = .whole 0 ∧ b.identifier = .whole 1 ∧
            ∃ A B, Block.compile Crossing.entities (Layout.tiling Crossing.entities) 0 a = .ok A ∧
              Block.compile Crossing.entities (Layout.tiling Crossing.entities) 0 b = .ok B ∧
                ∀ p, ¬(A.VanishesAt p ∧ B.VanishesAt p) := by
  have found : (⟨[.whole 0, .whole 1], .parallelPerpendicular⟩ : Conflict ℝ) ∈
      Conflict.find Crossing.entities [Crossing.parallel, Crossing.perpendicular] 0 := by
    refine (Conflict.mem_find_iff.2 ⟨Crossing.parallel, Crossing.perpendicular, ?_, rfl, ?_⟩).1
    · exact List.Sublist.refl _
    · exact .directions (.inl ⟨rfl, rfl⟩) (List.Perm.swap 1 0 [])
  have compiles : ∀ c ∈ [Crossing.parallel, Crossing.perpendicular],
      ∃ b, Block.compile Crossing.entities (Layout.tiling Crossing.entities) 0 c = .ok b :=
    List.forall_mem_cons.2 ⟨⟨_, Crossing.compile_parallel 0⟩,
      List.forall_mem_singleton.2 ⟨_, Crossing.compile_perpendicular 0⟩⟩
  obtain ⟨a, b, order, named, -, apart⟩ := conflicts_contradict compiles le_rfl found rfl
  have plain : a.kind ≠ .angle := by
    rcases List.mem_pair.1 order.mem.1 with rfl | rfl
    · exact ConstraintKind.noConfusion
    · exact ConstraintKind.noConfusion
  obtain ⟨first, rest⟩ := List.cons.inj named
  exact ⟨found, a, order.mem.1, b, order.mem.2, first.symm, (List.cons.inj rest).1.symm,
    apart plain⟩

end PlanarSketch
