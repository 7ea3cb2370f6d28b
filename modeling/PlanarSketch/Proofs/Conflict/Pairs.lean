import Mathlib.Data.List.Nodup
import Mathlib.Data.List.Perm.Basic
import PlanarSketch.Conflict

/-!
# Pairs of constraints in conflict

A conflict that is more than a warning is one between two driving constraints, of which the
first stands before the second (`Conflict.mem_find_iff`).  There are two ways for them to clash
(`Conflict.Clash`): they demand that the same lines are parallel and perpendicular, or they are
dimensions of one target whose values are further apart than a tolerance.  Both are tests on the
constraints alone, and they are all that is tested.

Dimensions have one target when they name the same entities in the same order, with the same
selectors (`Constraint.sameTarget_iff`); a selector that is left out is the empty one.
-/

namespace PlanarSketch

set_option autoImplicit false

variable {α : Type}

/-- Two driving constraints of a list, in the order in which they stand there. -/
def Constraint.InOrder (constraints : List (Constraint α)) (a b : Constraint α) : Prop :=
  [a, b].Sublist (constraints.filter Constraint.isDriving)

/-- One of two constraints demands parallel and the other perpendicular lines. -/
def Constraint.Crossed (a b : Constraint α) : Prop :=
  a.kind = .parallel ∧ b.kind = .perpendicular ∨ a.kind = .perpendicular ∧ b.kind = .parallel

/-- Two constraints name the same entities with the same selectors, in the same order. -/
def Constraint.NamesAlike (a b : Constraint α) : Prop :=
  a.entityIds = b.entityIds ∧ ∀ i < a.entityIds.length, a.selector i = b.selector i

namespace Constraint

variable {constraints : List (Constraint α)} {a b : Constraint α}

theorem Crossed.symm (crossed : a.Crossed b) : b.Crossed a := by
  rcases crossed with ⟨first, second⟩ | ⟨first, second⟩
  · exact .inr ⟨second, first⟩
  · exact .inl ⟨second, first⟩

/-- Constraints in order are among the constraints of the list. -/
theorem InOrder.mem (order : InOrder constraints a b) : a ∈ constraints ∧ b ∈ constraints := by
  have both := (order.trans List.filter_sublist).subset
  exact ⟨both List.mem_cons_self, both (List.mem_cons_of_mem a List.mem_cons_self)⟩

/-- Two different driving constraints stand in one order or the other. -/
theorem InOrder.total (present : a ∈ constraints) (present' : b ∈ constraints)
    (driving : a.isDriving = true) (driving' : b.isDriving = true) (different : a ≠ b) :
    InOrder constraints a b ∨ InOrder constraints b a := by
  have among : b ∈ constraints.filter isDriving := List.mem_filter.2 ⟨present', driving'⟩
  obtain ⟨before, after, split⟩ :=
    List.append_of_mem (List.mem_filter.2 ⟨present, driving⟩ : a ∈ constraints.filter isDriving)
  unfold InOrder
  rw [split] at among ⊢
  rcases List.mem_append.1 among with earlier | later
  · exact .inr ((List.singleton_sublist.2 earlier).append
      (List.singleton_sublist.2 List.mem_cons_self))
  · have behind : b ∈ after := List.mem_of_ne_of_mem (Ne.symm different) later
    exact .inl (((List.singleton_sublist.2 behind).cons_cons a).trans
      (List.sublist_append_right before _))

theorem NamesAlike.symm (alike : a.NamesAlike b) : b.NamesAlike a :=
  ⟨alike.1.symm, fun i inside => (alike.2 i (by rwa [alike.1])).symm⟩

/-- What it takes for two constraints to have one target. -/
theorem sameTarget_iff : a.sameTarget b = true ↔ a.kind = b.kind ∧ a.NamesAlike b := by
  simp only [sameTarget, Bool.and_eq_true, beq_iff_eq, List.all_eq_true, List.mem_range, and_assoc,
    NamesAlike]
  refine and_congr_right fun _ => and_congr_right fun ids => ?_
  rw [ids, Nat.max_self]

end Constraint

namespace Conflict

open Constraint (InOrder Crossed)

theorem angular_iff {a b : Constraint α} : angular a b = true ↔ Crossed a b := by
  simp only [angular, Bool.or_eq_true, Bool.and_eq_true, beq_iff_eq, Crossed]

theorem sameEntities_iff {a b : Constraint α} :
    sameEntities a b = true ↔ a.entityIds.Perm b.entityIds :=
  List.isPerm_iff

variable [Scalar α] {tolerance : α} {a b : Constraint α}

/-- The ways in which two constraints can clash, and what is told of them. -/
inductive Clash (tolerance : α) (a b : Constraint α) : ConflictCause α → Prop where
  | directions (kinds : Crossed a b) (lines : a.entityIds.Perm b.entityIds) :
      Clash tolerance a b .parallelPerpendicular
  | values {v w : α} (dimension : a.dimensional = true) (target : a.sameTarget b = true)
      (first : a.value = some v) (second : b.value = some w)
      (apart : tolerance < Scalar.abs (v - w)) : Clash tolerance a b (.values a.kind v w)

/-- A clash is more than a warning. -/
theorem Clash.severity {cause : ConflictCause α} (clash : Clash tolerance a b cause) :
    cause.severity = .error := by
  cases clash with
  | _ => rfl

omit [Scalar α] in
/-- Dimensions are never among the crossed kinds. -/
theorem not_crossed_of_dimensional (dimension : a.dimensional = true) : ¬Crossed a b := by
  rintro (⟨kind, -⟩ | ⟨kind, -⟩)
  · rw [Constraint.dimensional, kind] at dimension
    cases dimension
  · rw [Constraint.dimensional, kind] at dimension
    cases dimension

/-- **Two constraints are in conflict exactly when they clash.** -/
theorem between?_eq_some_iff {conflict : Conflict α} :
    between? tolerance a b = some conflict ↔
      conflict.constraints = [a.identifier, b.identifier] ∧
        Clash tolerance a b conflict.cause := by
  constructor
  · intro found
    unfold between? at found
    dsimp only at found
    split at found
    · rename_i both
      rw [Bool.and_eq_true, angular_iff, sameEntities_iff] at both
      cases found
      exact ⟨rfl, .directions both.1 both.2⟩
    · split at found
      · rename_i both
        rw [Bool.and_eq_true] at both
        split at found
        · rename_i v w first second
          split at found
          · rename_i apart
            cases found
            exact ⟨rfl, .values both.1 both.2 first second apart⟩
          · cases found
        · cases found
      · cases found
  · obtain ⟨named, cause⟩ := conflict
    rintro ⟨rfl, clash⟩
    unfold between?
    dsimp only
    cases clash with
    | directions kinds lines =>
        rw [if_pos]
        rw [Bool.and_eq_true, angular_iff, sameEntities_iff]
        exact ⟨kinds, lines⟩
    | values dimension target first second apart =>
        have uncrossed : ¬(angular a b && sameEntities a b) = true := by
          rw [Bool.and_eq_true, angular_iff]
          exact fun both => not_crossed_of_dimensional dimension both.1
        rw [if_neg uncrossed, dimension, target, first, second]
        exact if_pos apart

/-- The conflicts among the members of a list are those between two of them. -/
theorem mem_pairwise_iff {constraints : List (Constraint α)} {conflict : Conflict α} :
    conflict ∈ pairwise tolerance constraints ↔
      ∃ a b, [a, b].Sublist constraints ∧ between? tolerance a b = some conflict := by
  induction constraints with
  | nil => simp [pairwise]
  | cons first rest ih =>
      rw [pairwise, List.mem_append, List.mem_filterMap, ih]
      constructor
      · rintro (⟨b, among, found⟩ | ⟨a, b, later, found⟩)
        · exact ⟨first, b, (List.singleton_sublist.2 among).cons_cons first, found⟩
        · exact ⟨a, b, later.cons first, found⟩
      · rintro ⟨a, b, order, found⟩
        rcases List.sublist_cons_iff.1 order with later | ⟨r, split, behind⟩
        · exact .inr ⟨a, b, later, found⟩
        · cases split
          exact .inl ⟨b, List.singleton_sublist.1 behind, found⟩

/-- **A conflict that is more than a warning is a clash of two driving constraints**, and every such
clash is found. -/
theorem mem_find_iff {entities : List (Entity α)} {constraints : List (Constraint α)}
    {conflict : Conflict α} :
    conflict ∈ find entities constraints tolerance ∧ conflict.cause.severity = .error ↔
      ∃ a b, InOrder constraints a b ∧ conflict.constraints = [a.identifier, b.identifier] ∧
        Clash tolerance a b conflict.cause := by
  simp only [← between?_eq_some_iff]
  unfold find
  dsimp only
  constructor
  · rintro ⟨found, severe⟩
    rcases List.mem_append.1 found with warning | among
    · split at warning
      · cases List.mem_singleton.1 warning
        cases severe
      · cases warning
    · exact mem_pairwise_iff.1 among
  · rintro ⟨a, b, order, found⟩
    refine ⟨List.mem_append_right _ (mem_pairwise_iff.2 ⟨a, b, order, found⟩), ?_⟩
    exact (between?_eq_some_iff.1 found).2.severity

/-- A conflict that is more than a warning is reported for two constraints. -/
def Reported (entities : List (Entity α)) (constraints : List (Constraint α)) (tolerance : α)
    (a b : Constraint α) : Prop :=
  ∃ conflict ∈ find entities constraints tolerance, conflict.cause.severity = .error ∧
    conflict.constraints = [a.identifier, b.identifier]

/-- **Constraints that are told apart by their identifiers are reported exactly when they clash**,
in the order in which they stand. -/
theorem reported_iff {entities : List (Entity α)} {constraints : List (Constraint α)}
    (numbered : (constraints.map Constraint.id).Nodup) (present : a ∈ constraints)
    (present' : b ∈ constraints) :
    Reported entities constraints tolerance a b ↔
      InOrder constraints a b ∧ ∃ cause, Clash tolerance a b cause := by
  have told {c d : Constraint α} (here : c ∈ constraints) (there : d ∈ constraints)
      (same : c.identifier = d.identifier) : c = d :=
    List.inj_on_of_nodup_map numbered here there (congrArg Identifier.value same)
  constructor
  · rintro ⟨conflict, found, severe, named⟩
    obtain ⟨c, d, order, named', clash⟩ := mem_find_iff.1 ⟨found, severe⟩
    obtain ⟨first, rest⟩ := List.cons.inj (named.symm.trans named')
    cases told present order.mem.1 first
    cases told present' order.mem.2 (List.cons.inj rest).1
    exact ⟨order, _, clash⟩
  · rintro ⟨order, cause, clash⟩
    let conflict : Conflict α := ⟨[a.identifier, b.identifier], cause⟩
    have found : conflict ∈ find entities constraints tolerance ∧
        conflict.cause.severity = .error := mem_find_iff.2 ⟨a, b, order, rfl, clash⟩
    exact ⟨conflict, found.1, found.2, rfl⟩

end Conflict

end PlanarSketch
