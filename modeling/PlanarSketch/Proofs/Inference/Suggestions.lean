import Mathlib.Algebra.Order.Group.Int
import Mathlib.Data.List.Basic
import PlanarSketch.Inference

/-!
# Suggestions make sound constraints

Geometry suggests constraints of three shapes: on a line that is not degenerate, on two of
them, and on points of two entities (`Suggestion.From`, `suggestions_from`).  Each of them is a
constraint that its sketch can take: it names entities of the geometry only, as many as its
kind takes, with no more selectors than entities, and it has no target value, which none of the
suggested kinds takes (`suggestions_sound`).  The constraints that are inferred are numbered one
after the other from the number that the inference is given (`accept_numbered`).
-/

namespace PlanarSketch

set_option autoImplicit false

/-- Ascending numbers from `low` on and below `high`. -/
structure Numbered (low high : Int) (ids : List Int) : Prop where
  order : low ≤ high
  ascending : ids.Pairwise (· < ·)
  within : ∀ id ∈ ids, low ≤ id ∧ id < high

namespace Numbered

theorem nil {low high : Int} (same : low = high) : Numbered low high [] :=
  ⟨same.le, List.Pairwise.nil, fun _ among => absurd among List.not_mem_nil⟩

theorem single (n : Int) : Numbered n (n + 1) [n] := by
  refine ⟨(Int.lt_succ n).le, List.pairwise_singleton _ n, fun id among => ?_⟩
  rw [List.mem_singleton.1 among]
  exact ⟨le_rfl, Int.lt_succ n⟩

theorem append {low middle high : Int} {ids others : List Int} (first : Numbered low middle ids)
    (second : Numbered middle high others) : Numbered low high (ids ++ others) := by
  refine ⟨first.order.trans second.order, ?_, fun id among => ?_⟩
  · rw [List.pairwise_append]
    refine ⟨first.ascending, second.ascending, fun id early other late => ?_⟩
    exact (first.within id early).2.trans_le (second.within other late).1
  · rcases List.mem_append.1 among with early | late
    · exact ⟨(first.within id early).1, (first.within id early).2.trans_le second.order⟩
    · exact ⟨first.order.trans (second.within id late).1, (second.within id late).2⟩

end Numbered

namespace Inference

variable {α : Type}

/-- Whether a suggestion is about some entities and makes a constraint that passes its check. -/
structure Suggestion.Sound (ids : List Int) (s : Suggestion) : Prop where
  known : ∀ id ∈ s.entityIds, id ∈ ids
  arity : s.entityIds.length ∈ s.kind.arities
  selectors : s.selectors.length ≤ s.entityIds.length
  geometric : s.kind.valueRule = .none

theorem Suggestion.Sound.check [Scalar α] {ids : List Int} {s : Suggestion} (sound : s.Sound ids)
    (n : Int) : (s.constraint n : Constraint α).check = .ok () := by
  have selectors := Nat.not_lt.2 sound.selectors
  simp [Constraint.check, Suggestion.constraint, sound.arity, selectors, Constraint.checkValue,
    sound.geometric]

theorem mem_overPairs {β γ : Type} {f : β → β → Option γ} {xs : List β} {c : γ}
    (found : c ∈ overPairs f xs) : ∃ a ∈ xs, ∃ b ∈ xs, f a b = some c := by
  induction xs with
  | nil => cases found
  | cons a rest ih =>
      rcases List.mem_append.1 found with first | later
      · obtain ⟨b, among, made⟩ := List.mem_filterMap.1 first
        exact ⟨a, List.mem_cons_self, b, List.mem_cons_of_mem a among, made⟩
      · obtain ⟨x, left, y, right, made⟩ := ih later
        exact ⟨x, List.mem_cons_of_mem a left, y, List.mem_cons_of_mem a right, made⟩

section Geometry

variable [Scalar α] {limits : Limits α} {entities : List (Entity α)} {s : Suggestion}

theorem id_of_ray {e : Entity α} {r : Ray α} (seen : ray? e = some r) : r.id = e.id := by
  unfold ray? at seen
  split at seen
  · dsimp only at seen
    split at seen
    · cases seen
    · cases seen
      rfl
  · cases seen

/-- Only lines that are not degenerate run in a direction. -/
theorem line_of_ray {e : Entity α} {r : Ray α} (seen : ray? e = some r) :
    e.kind = .line ∧ e.degeneracy? Tolerance.geometry = none := by
  unfold ray? at seen
  split at seen
  · rename_i x₁ y₁ x₂ y₂ shape
    dsimp only at seen
    split at seen
    · cases seen
    · rename_i long
      rw [Entity.kind, Entity.degeneracy?, shape]
      exact ⟨rfl, if_neg long⟩
  · cases seen

theorem id_of_snapPoint {e : Entity α} {p : SnapPoint α} (among : p ∈ snapPoints e) :
    p.id = e.id := by
  obtain ⟨a, -, found⟩ := List.mem_filterMap.1 among
  obtain ⟨xy, -, rfl⟩ := Option.map_eq_some_iff.1 found
  rfl

theorem alignment_kind {r : Ray α} {kind : ConstraintKind}
    (aligned : r.alignment? limits = some kind) : kind = .horizontal ∨ kind = .vertical := by
  unfold Ray.alignment? at aligned
  split at aligned
  · cases aligned
    exact .inl rfl
  · split at aligned
    · cases aligned
      exact .inr rfl
    · cases aligned

theorem relation_kind {a b : Ray α} {kind : ConstraintKind}
    (related : a.relation? limits b = some kind) : kind = .parallel ∨ kind = .perpendicular := by
  unfold Ray.relation? at related
  split at related
  · cases related
    exact .inl rfl
  · split at related
    · cases related
      exact .inr rfl
    · cases related

/-- What is noticed first of points is that the first two touch, if they do. -/
theorem head?_coincidences {a b : SnapPoint α} {rest : List (SnapPoint α)} (apart : a.id ≠ b.id)
    (near : Scalar.hypot (b.x - a.x) (b.y - a.y) < limits.distance) :
    (coincidences limits (a :: b :: rest)).head? =
      some ⟨.coincident, [a.id, b.id], [a.selector, b.selector]⟩ := by
  simp [coincidences, overPairs, apart, near]

/-- Where a suggestion comes from: a line that runs in some direction, two of them, or points of two
entities. -/
inductive Suggestion.From (entities : List (Entity α)) : Suggestion → Prop
  | aligned {e : Entity α} {r : Ray α} {kind : ConstraintKind} (present : e ∈ entities)
      (seen : ray? e = some r) (level : kind = .horizontal ∨ kind = .vertical) :
      From entities ⟨kind, [e.id], []⟩
  | paired {e f : Entity α} {r t : Ray α} {kind : ConstraintKind} (first : e ∈ entities)
      (second : f ∈ entities) (seen : ray? e = some r) (watched : ray? f = some t)
      (related : kind = .parallel ∨ kind = .perpendicular) : From entities ⟨kind, [e.id, f.id], []⟩
  | touching {e f : Entity α} {p q : SnapPoint α} (first : e ∈ entities) (second : f ∈ entities)
      (point : p ∈ snapPoints e) (other : q ∈ snapPoints f) :
      From entities ⟨.coincident, [e.id, f.id], [p.selector, q.selector]⟩

theorem alignments_from (found : s ∈ alignments limits (entities.filterMap ray?)) :
    s.From entities := by
  obtain ⟨r, among, made⟩ := List.mem_filterMap.1 found
  obtain ⟨kind, aligned, rfl⟩ := Option.map_eq_some_iff.1 made
  obtain ⟨e, present, seen⟩ := List.mem_filterMap.1 among
  rw [id_of_ray seen]
  exact .aligned present seen (alignment_kind aligned)

theorem angles_from (found : s ∈ angles limits (entities.filterMap ray?)) : s.From entities := by
  obtain ⟨a, left, b, right, made⟩ := mem_overPairs found
  split at made
  · cases made
  · obtain ⟨kind, related, rfl⟩ := Option.map_eq_some_iff.1 made
    obtain ⟨e, first, seen⟩ := List.mem_filterMap.1 left
    obtain ⟨f, second, watched⟩ := List.mem_filterMap.1 right
    rw [id_of_ray seen, id_of_ray watched]
    exact .paired first second seen watched (relation_kind related)

theorem coincidences_from (found : s ∈ coincidences limits (entities.flatMap snapPoints)) :
    s.From entities := by
  obtain ⟨a, left, b, right, made⟩ := mem_overPairs found
  split at made
  · cases made
  · split at made
    · cases made
      obtain ⟨e, first, point⟩ := List.mem_flatMap.1 left
      obtain ⟨f, second, other⟩ := List.mem_flatMap.1 right
      rw [id_of_snapPoint point, id_of_snapPoint other]
      exact .touching first second point other
    · cases made

/-- **Suggestions have three shapes**, whatever the limits are. -/
theorem suggestions_from (found : s ∈ suggestions limits entities) : s.From entities := by
  rcases List.mem_append.1 found with early | found
  · rcases List.mem_append.1 early with found | found
    · exact alignments_from found
    · exact angles_from found
  · exact coincidences_from found

theorem Suggestion.From.sound (origin : s.From entities) : s.Sound (entities.map Entity.id) := by
  have listed {e : Entity α} (present : e ∈ entities) : e.id ∈ entities.map Entity.id :=
    List.mem_map_of_mem present
  cases origin with
  | aligned present seen level =>
      have known := List.forall_mem_singleton.2 (listed present)
      rcases level with rfl | rfl
      all_goals exact ⟨known, List.mem_cons_self, Nat.zero_le _, rfl⟩
  | paired first second seen watched related =>
      have known := List.forall_mem_cons.2 ⟨listed first,
        List.forall_mem_singleton.2 (listed second)⟩
      rcases related with rfl | rfl
      all_goals exact ⟨known, List.mem_singleton_self 2, Nat.zero_le _, rfl⟩
  | touching first second point other =>
      have known := List.forall_mem_cons.2 ⟨listed first,
        List.forall_mem_singleton.2 (listed second)⟩
      exact ⟨known, List.mem_singleton_self 2, Nat.le_refl 2, rfl⟩

/-- Geometry suggests nothing but constraints that its entities can take. -/
theorem suggestions_sound (found : s ∈ suggestions limits entities) :
    s.Sound (entities.map Entity.id) :=
  (suggestions_from found).sound

end Geometry

/-! ## Numbers -/

theorem mem_accept {known : List Key} {next : Int} {proposed : List Suggestion}
    {c : Constraint α} (accepted : c ∈ accept known next proposed) :
    ∃ s ∈ proposed, ∃ n, c = s.constraint n := by
  induction proposed generalizing known next with
  | nil => cases accepted
  | cons s rest ih =>
      unfold accept at accepted
      split at accepted
      · obtain ⟨t, among, numbered⟩ := ih accepted
        exact ⟨t, List.mem_cons_of_mem s among, numbered⟩
      · rcases List.mem_cons.1 accepted with rfl | later
        · exact ⟨s, List.mem_cons_self, next, rfl⟩
        · obtain ⟨t, among, numbered⟩ := ih later
          exact ⟨t, List.mem_cons_of_mem s among, numbered⟩

/-- Accepted suggestions are numbered one after the other. -/
theorem accept_numbered (known : List Key) (next : Int) (proposed : List Suggestion) :
    Numbered next (next + (accept known next proposed : List (Constraint α)).length)
      ((accept known next proposed : List (Constraint α)).map Constraint.id) := by
  induction proposed generalizing known next with
  | nil => exact .nil (Int.add_zero next).symm
  | cons s rest ih =>
      unfold accept
      split
      · exact ih known next
      · have whole := (Numbered.single next).append (ih (s.key :: known) (next + 1))
        rw [List.length_cons, Int.natCast_succ, Int.add_comm _ 1, ← Int.add_assoc]
        exact whole

/-- The number behind the last accepted suggestion is the first that is free. -/
theorem next_of_last {known : List Key} {next : Int} {proposed : List Suggestion}
    {last : Constraint α} (final : (accept known next proposed).getLast? = some last) :
    last.id + 1 = next + (accept known next proposed : List (Constraint α)).length := by
  induction proposed generalizing known next last with
  | nil => cases final
  | cons s rest ih =>
      unfold accept at final ⊢
      split
      · rename_i same
        rw [if_pos same] at final
        exact ih final
      · rename_i other
        rw [if_neg other, List.getLast?_cons] at final
        rw [List.length_cons, Int.natCast_succ]
        cases later : (accept (s.key :: known) (next + 1) rest : List (Constraint α)).getLast? with
        | none =>
            rw [later] at final
            cases final
            rw [List.getLast?_eq_none_iff.1 later, List.length_nil]
            exact congrArg (next + ·) (Int.zero_add 1).symm
        | some c =>
            rw [later] at final
            cases final
            rw [Option.getD_some, ih later]
            omega

end Inference

end PlanarSketch
