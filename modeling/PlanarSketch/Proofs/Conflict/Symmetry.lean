import Mathlib.Data.List.Perm.Basic
import PlanarSketch.Proofs.Conflict.Pairs
import PlanarSketch.Proofs.Exact

/-!
# Conflicts do not depend on order

Two constraints are in conflict whichever of them comes first: only the two sides of the conflict
are exchanged (`Conflict.between?_swap`).  So the conflicts of a sketch are the same in whatever
order its entities and constraints are listed, up to the order of the conflicts and of their
sides (`Conflict.find_perm`).
-/

namespace PlanarSketch

set_option autoImplicit false

variable {α : Type}

/-- A cause with its two sides exchanged. -/
def ConflictCause.mirrored : ConflictCause α → ConflictCause α
  | values kind first second => values kind second first
  | cause => cause

/-- A conflict with its two sides exchanged. -/
def Conflict.mirrored (c : Conflict α) : Conflict α := ⟨c.constraints.reverse, c.cause.mirrored⟩

namespace Conflict

theorem mirrored_mirrored (c : Conflict α) : c.mirrored.mirrored = c := by
  obtain ⟨constraints, cause⟩ := c
  cases cause with
  | _ => simp [mirrored, ConflictCause.mirrored]

/-- The same conflict, up to the order of its sides. -/
def Alike (c d : Conflict α) : Prop := d = c ∨ d = c.mirrored

theorem Alike.refl (c : Conflict α) : c.Alike c := .inl rfl

theorem Alike.trans {c d e : Conflict α} (first : c.Alike d) (second : d.Alike e) : c.Alike e := by
  rcases first with rfl | rfl
  · exact second
  · rcases second with rfl | rfl
    · exact .inr rfl
    · exact .inl c.mirrored_mirrored

/-- The same conflicts, up to their order and the order of their sides. -/
def SameUpToOrder (found found' : List (Conflict α)) : Prop :=
  ∃ l, List.Forall₂ Alike found l ∧ l.Perm found'

namespace SameUpToOrder

variable {found found' found'' : List (Conflict α)}

theorem of_perm (same : found.Perm found') : SameUpToOrder found found' :=
  ⟨found, List.forall₂_same.2 fun c _ => Alike.refl c, same⟩

theorem trans (first : SameUpToOrder found found') (second : SameUpToOrder found' found'') :
    SameUpToOrder found found'' := by
  obtain ⟨l, alike, same⟩ := first
  obtain ⟨l', alike', same'⟩ := second
  obtain ⟨m, alike'', same''⟩ := List.perm_comp_forall₂ same alike'
  have both : List.Forall₂ Alike found m := by
    clear same same' same'' alike'
    induction alike generalizing m with
    | nil => exact alike''
    | cons head _ ih =>
        cases alike'' with
        | cons head' tail' => exact .cons (head.trans head') (ih _ tail')
  exact ⟨m, both, same''.trans same'⟩

theorem append {more more' : List (Conflict α)} (first : SameUpToOrder found found')
    (second : SameUpToOrder more more') : SameUpToOrder (found ++ more) (found' ++ more') := by
  obtain ⟨l, alike, same⟩ := first
  obtain ⟨l', alike', same'⟩ := second
  exact ⟨l ++ l', List.rel_append alike alike', same.append same'⟩

theorem length_eq (h : SameUpToOrder found found') : found'.length = found.length := by
  obtain ⟨l, alike, same⟩ := h
  rw [← same.length_eq, alike.length_eq]

end SameUpToOrder

end Conflict

/-! ## Counts -/

theorem foldr_add_perm {β : Type*} {xs ys : List β} (same : xs.Perm ys) (f : β → ℕ) :
    ys.foldr (fun x n => f x + n) 0 = xs.foldr (fun x n => f x + n) 0 :=
  (same.foldr_eq' (fun x _ y _ n => Nat.add_left_comm (f y) (f x) n) 0).symm

variable [Scalar α]

theorem freedomBalance_perm {entities entities' : List (Entity α)}
    {constraints constraints' : List (Constraint α)} (sameEntities : entities.Perm entities')
    (sameConstraints : constraints.Perm constraints') :
    freedomBalance entities' constraints' = freedomBalance entities constraints := by
  unfold freedomBalance freedomCount equationCount
  rw [foldr_add_perm sameEntities, foldr_add_perm (sameConstraints.filter _)]

namespace Conflict

/-! ## Pairs -/

/-- A clash is one in either order of the constraints. -/
theorem Clash.mirrored {tolerance : ℝ} {a b : Constraint ℝ} {cause : ConflictCause ℝ}
    (clash : Clash tolerance a b cause) : Clash tolerance b a cause.mirrored := by
  cases clash with
  | directions kinds lines => exact .directions kinds.symm lines.symm
  | @values v w dimension target first second apart =>
      obtain ⟨kinds, alike⟩ := Constraint.sameTarget_iff.1 target
      have dimension' : b.dimensional = true := by rwa [Constraint.dimensional, kinds] at dimension
      have apart' : tolerance < Scalar.abs (w - v) := apart.trans_eq (abs_sub_comm v w)
      rw [kinds]
      exact .values dimension' (Constraint.sameTarget_iff.2 ⟨kinds.symm, alike.symm⟩) second first
        apart'

theorem between?_mirrored {tolerance : ℝ} {a b : Constraint ℝ} {conflict : Conflict ℝ}
    (found : between? tolerance a b = some conflict) :
    between? tolerance b a = some conflict.mirrored := by
  obtain ⟨named, clash⟩ := between?_eq_some_iff.1 found
  refine between?_eq_some_iff.2 ⟨?_, clash.mirrored⟩
  rw [mirrored, named]
  rfl

/-- **Two constraints are in conflict whichever comes first.** -/
theorem between?_swap (tolerance : ℝ) (a b : Constraint ℝ) :
    between? tolerance b a = (between? tolerance a b).map mirrored := by
  cases found : between? tolerance a b with
  | some conflict => exact between?_mirrored found
  | none =>
      refine Option.eq_none_iff_forall_ne_some.2 fun conflict found' => ?_
      cases found.symm.trans (between?_mirrored found')

theorem filterMap_cons_eq_append {β γ : Type*} (f : β → Option γ) (x : β) (xs : List β) :
    (x :: xs).filterMap f = (f x).toList ++ xs.filterMap f := by
  rw [List.filterMap_cons]
  cases f x with
  | none => rfl
  | some y => rfl

variable {tolerance : ℝ}

/-- The conflicts between the members of a list are the same in any order. -/
theorem pairwise_perm {constraints constraints' : List (Constraint ℝ)}
    (same : constraints.Perm constraints') :
    SameUpToOrder (pairwise tolerance constraints) (pairwise tolerance constraints') := by
  induction same with
  | nil => exact .of_perm (.refl _)
  | cons a same ih => exact (SameUpToOrder.of_perm (same.filterMap _)).append ih
  | swap a b rest =>
      -- Exchanging two neighbours mirrors the conflict between them, and moves the others.
      have pair :
          SameUpToOrder (between? tolerance b a).toList (between? tolerance a b).toList := by
        rw [between?_swap tolerance a b]
        cases between? tolerance a b with
        | none => exact .of_perm (.refl _)
        | some c => exact ⟨[c], .cons (.inr c.mirrored_mirrored.symm) .nil, .refl _⟩
      simp only [pairwise, filterMap_cons_eq_append, List.append_assoc]
      refine pair.append (.of_perm ?_)
      rw [← List.append_assoc, ← List.append_assoc]
      exact List.perm_append_comm.append_right _
  | trans _ _ first second => exact first.trans second

/-- **The conflicts of a sketch are the same in any order.** -/
theorem find_perm {entities entities' : List (Entity ℝ)}
    {constraints constraints' : List (Constraint ℝ)} (sameEntities : entities.Perm entities')
    (sameConstraints : constraints.Perm constraints') (tolerance : ℝ) :
    SameUpToOrder (find entities constraints tolerance)
      (find entities' constraints' tolerance) := by
  -- What stands in front of the pairs is decided by the balance, which is a sum.
  have driving := sameConstraints.filter Constraint.isDriving
  unfold find
  dsimp only
  rw [freedomBalance_perm sameEntities driving]
  exact (SameUpToOrder.of_perm (.refl _)).append (pairwise_perm driving)

end Conflict

end PlanarSketch
