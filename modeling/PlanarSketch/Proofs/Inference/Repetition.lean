import PlanarSketch.Proofs.Inference.Acceptance

/-!
# Nothing is inferred twice

Two constraints are alike if they are of one kind and refer to the same set of points, each given
by an entity and a selector, in whatever order (`Constraint.Alike`).  Being alike is what the
inference compares keys for.

Suggestions are taken one after the other, and what is known grows with each that is accepted.
So what is accepted is alike nothing that was known before it, and what is passed over is alike
something that is known by then: each suggestion is alike an existing constraint or an accepted
one (`Inference.exists_alike_of_suggested`).  Hence nothing is left to infer once what was inferred
has been added, and a sketch that has taken over its inferred constraints infers no more
(`inference_settles`).
-/

namespace PlanarSketch

set_option autoImplicit false

open Inference

variable {α : Type}

namespace Constraint

/-- The points that a constraint refers to: the entity in each slot, with the selector for it. -/
def references (c : Constraint α) : List (Int × String) :=
  c.entityIds.zipIdx.map fun (id, slot) => (id, c.selector slot)

/-- Whether two constraints are of one kind and refer to the same set of points. -/
structure Alike (a b : Constraint α) : Prop where
  kind : a.kind = b.kind
  references : ∀ r, r ∈ a.references ↔ r ∈ b.references

namespace Alike

variable {a b c : Constraint α}

theorem symm (alike : a.Alike b) : b.Alike a :=
  ⟨alike.kind.symm, fun r => (alike.references r).symm⟩

theorem trans (first : a.Alike b) (second : b.Alike c) : a.Alike c :=
  ⟨first.kind.trans second.kind, fun r => (first.references r).trans (second.references r)⟩

end Alike

/-- Whether there is a constraint in a list that is alike a given one. -/
def IsKnown (known : List (Constraint α)) (c : Constraint α) : Prop :=
  ∃ d ∈ known, c.Alike d

theorem isKnown_cons {c d : Constraint α} {known : List (Constraint α)} :
    c.IsKnown (d :: known) ↔ c.Alike d ∨ c.IsKnown known := by
  simp only [IsKnown, List.mem_cons, or_and_right, exists_or, exists_eq_left]

theorem isKnown_append {c : Constraint α} {known others : List (Constraint α)} :
    c.IsKnown (known ++ others) ↔ c.IsKnown known ∨ c.IsKnown others := by
  simp only [IsKnown, List.mem_append, or_and_right, exists_or]

theorem Alike.isKnown_iff {c d : Constraint α} (alike : c.Alike d)
    {known : List (Constraint α)} : c.IsKnown known ↔ d.IsKnown known := by
  constructor
  · exact fun ⟨e, among, same⟩ => ⟨e, among, alike.symm.trans same⟩
  · exact fun ⟨e, among, same⟩ => ⟨e, among, alike.trans same⟩

/-- Whether each constraint of either list is alike one of the other. -/
def SameKeys (known others : List (Constraint α)) : Prop :=
  (∀ c ∈ known, c.IsKnown others) ∧ ∀ c ∈ others, c.IsKnown known

theorem SameKeys.isKnown_iff {known others : List (Constraint α)} (same : SameKeys known others)
    (c : Constraint α) : c.IsKnown known ↔ c.IsKnown others := by
  constructor
  · rintro ⟨d, among, alike⟩
    exact alike.isKnown_iff.2 (same.1 d among)
  · rintro ⟨d, among, alike⟩
    exact alike.isKnown_iff.2 (same.2 d among)

end Constraint

namespace Inference

open Constraint

/-! ## Keys -/

theorem Key.same_iff {a b : Key} :
    a.same b = true ↔ a.kind = b.kind ∧ ∀ r, r ∈ a.targets ↔ r ∈ b.targets := by
  simp only [Key.same, Bool.and_eq_true, beq_iff_eq, List.all_eq_true, List.contains_iff_mem,
    and_assoc]
  exact and_congr_right fun _ => forall_and.symm.trans (forall_congr' fun _ => iff_def.symm)

/-- Keys are the same if and only if what they are keys of is alike. -/
theorem Key.same_of_iff {a b : Constraint α} : (Key.of a).same (.of b) = true ↔ a.Alike b := by
  rw [Key.same_iff]
  exact ⟨fun both => ⟨both.1, both.2⟩, fun alike => ⟨alike.kind, alike.references⟩⟩

/-- A suggestion is known by what its constraint is known by, whatever the number. -/
theorem Suggestion.key_constraint (s : Suggestion) (n : Int) :
    Key.of (s.constraint n : Constraint α) = s.key :=
  rfl

/-- The constraints of a suggestion are alike whatever their numbers are. -/
theorem Suggestion.alike (s : Suggestion) (n m : Int) :
    (s.constraint n : Constraint α).Alike (s.constraint m) :=
  ⟨rfl, fun _ => Iff.rfl⟩

theorem any_same_iff {s : Suggestion} {known : List (Constraint α)} (n : Int) :
    (known.map Key.of).any s.key.same = true ↔ (s.constraint n : Constraint α).IsKnown known := by
  simp only [List.any_map, List.any_eq_true, Function.comp_apply, IsKnown, ← Key.same_of_iff,
    Suggestion.key_constraint]

/-! ## Accepting one suggestion after the other -/

section Accept

variable {known others : List (Constraint α)} {next : Int} {proposed : List Suggestion}

theorem accept_cons_of_known {s : Suggestion} {rest : List Suggestion}
    (old : (s.constraint next : Constraint α).IsKnown known) :
    (accept (known.map Key.of) next (s :: rest) : List (Constraint α)) =
      accept (known.map Key.of) next rest := by
  rw [accept, if_pos ((any_same_iff next).2 old)]

theorem accept_cons_of_new {s : Suggestion} {rest : List Suggestion}
    (new : ¬ (s.constraint next : Constraint α).IsKnown known) :
    (accept (known.map Key.of) next (s :: rest) : List (Constraint α)) =
      s.constraint next ::
        accept ((s.constraint next :: known).map Key.of) (next + 1) rest := by
  rw [accept, if_neg (fun old => new ((any_same_iff next).1 old))]
  rfl

/-- Accepted constraints have consecutive numbers. -/
theorem map_id_accept (keys : List Key) (next : Int) (proposed : List Suggestion) :
    (accept keys next proposed : List (Constraint α)).map Constraint.id =
      (List.range (accept keys next proposed : List (Constraint α)).length).map
        fun k : Nat => next + k := by
  induction proposed generalizing keys next with
  | nil => rfl
  | cons s rest ih =>
      unfold accept
      split
      · exact ih keys next
      · rw [List.map_cons, List.length_cons, List.range_succ_eq_map, List.map_cons, List.map_map,
          ih (s.key :: keys) (next + 1)]
        refine congrArg₂ List.cons (Int.add_zero next).symm (List.map_congr_left fun k _ => ?_)
        simp only [Function.comp_apply, Nat.succ_eq_add_one]
        omega

/-- What is accepted is alike nothing that was known at the start. -/
theorem not_isKnown_of_accept {c : Constraint α}
    (accepted : c ∈ accept (known.map Key.of) next proposed) : ¬ c.IsKnown known := by
  induction proposed generalizing known next with
  | nil => cases accepted
  | cons s rest ih =>
      by_cases old : (s.constraint next : Constraint α).IsKnown known
      · exact ih (accept_cons_of_known old ▸ accepted)
      · rw [accept_cons_of_new old] at accepted
        rcases List.mem_cons.1 accepted with rfl | later
        · exact old
        · exact fun before => ih later (isKnown_cons.2 (.inr before))

/-- No two constraints that are accepted are alike. -/
theorem pairwise_accept :
    (accept (known.map Key.of) next proposed : List (Constraint α)).Pairwise
      fun a b => ¬ a.Alike b := by
  induction proposed generalizing known next with
  | nil => exact List.Pairwise.nil
  | cons s rest ih =>
      by_cases old : (s.constraint next : Constraint α).IsKnown known
      · rw [accept_cons_of_known old]
        exact ih
      · rw [accept_cons_of_new old]
        refine List.Pairwise.cons (fun c later alike => ?_) ih
        exact not_isKnown_of_accept later (isKnown_cons.2 (.inl alike.symm))

/-- Each suggestion is alike something that was known at the start or that is accepted. -/
theorem isKnown_of_proposed {s : Suggestion} (among : s ∈ proposed) (n : Int) :
    (s.constraint n : Constraint α).IsKnown
      (known ++ accept (known.map Key.of) next proposed) := by
  rw [(s.alike n next).isKnown_iff]
  induction proposed generalizing known next with
  | nil => cases among
  | cons t rest ih =>
      by_cases old : (t.constraint next : Constraint α).IsKnown known
      · rw [accept_cons_of_known old]
        rcases List.mem_cons.1 among with rfl | later
        · exact isKnown_append.2 (.inl old)
        · exact ih later
      · rw [accept_cons_of_new old, isKnown_append, isKnown_cons]
        rcases List.mem_cons.1 among with rfl | later
        · exact .inr (.inl (s.alike next next))
        · have tail : (s.constraint (next + 1) : Constraint α).IsKnown
              (t.constraint next :: known ++
                accept ((t.constraint next :: known).map Key.of) (next + 1) rest) := ih later
          have grown := (s.alike (next + 1) next).isKnown_iff.1 tail
          rcases isKnown_append.1 grown with before | after
          · rcases isKnown_cons.1 before with same | before
            · exact .inr (.inl same)
            · exact .inl before
          · exact .inr (.inr after)

/-- Nothing is accepted where all that is proposed is known. -/
theorem accept_eq_nil
    (old : ∀ s ∈ proposed, (s.constraint next : Constraint α).IsKnown known) :
    (accept (known.map Key.of) next proposed : List (Constraint α)) = [] := by
  induction proposed with
  | nil => rfl
  | cons s rest ih =>
      rw [accept_cons_of_known (old s List.mem_cons_self)]
      exact ih fun t later => old t (List.mem_cons_of_mem s later)

/-- What is accepted depends only on which constraints are alike a known one. -/
theorem accept_congr (same : ∀ c : Constraint α, c.IsKnown known ↔ c.IsKnown others) :
    (accept (known.map Key.of) next proposed : List (Constraint α)) =
      accept (others.map Key.of) next proposed := by
  induction proposed generalizing known others next with
  | nil => rfl
  | cons s rest ih =>
      by_cases old : (s.constraint next : Constraint α).IsKnown known
      · rw [accept_cons_of_known old, accept_cons_of_known ((same _).1 old)]
        exact ih same
      · rw [accept_cons_of_new old, accept_cons_of_new fun late => old ((same _).2 late)]
        refine congrArg _ (ih fun c => ?_)
        rw [isKnown_cons, isKnown_cons, same c]

end Accept

section Infer

variable [Scalar α] {limits : Limits α} {entities : List (Entity α)}
  {existing : List (Constraint α)} {next : Int}

/-- **Each suggestion is alike a constraint that exists or one that is inferred.** -/
theorem exists_alike_of_suggested {s : Suggestion} (found : s ∈ suggestions limits entities)
    (n : Int) :
    (s.constraint n).IsKnown (existing ++ infer limits entities existing next) :=
  isKnown_of_proposed found n

/-- Nothing is left to infer besides what exists and what was inferred. -/
theorem infer_again (later : Int) :
    infer limits entities (existing ++ infer limits entities existing next) later = [] :=
  accept_eq_nil fun _ found => exists_alike_of_suggested found later

end Infer

end Inference

/-- Taking over nothing leaves a sketch as it is. -/
theorem Sketch.inferConstraints_of_nil [Scalar α] {s : Sketch α} (none : s.inferred = [])
    (apply : Bool) :
    (s.inferConstraints apply).outcome = .ok [] ∧ (s.inferConstraints apply).sketch = s := by
  unfold Sketch.inferConstraints
  dsimp only
  rw [show infer .standard s.entities s.constraints s.nextConstraint = [] from none]
  cases apply <;> exact ⟨rfl, rfl⟩

/-- **Inference is free of repetitions, and it is finished after one run.**  What is inferred is
numbered without a gap from the number given.  No two inferred constraints are of one kind about
the same points, and no inferred one is so with an existing one; each of them passes its check and
names given entities only; they depend on the existing constraints only through their kinds and
the points that they refer to; and together with the existing ones they leave nothing to infer.

So a sketch that has taken over what it infers infers nothing more, and is left as it is. -/
theorem inference_settles [Scalar α] :
    (∀ (limits : Limits α) (entities : List (Entity α)) (existing : List (Constraint α))
      (next : Int) (found : List (Constraint α)),
      infer limits entities existing next = found →
        found.map Constraint.id = (List.range found.length).map (fun k : Nat => next + k) ∧
        found.Pairwise (fun a b => ¬ a.Alike b) ∧
        (∀ c ∈ found, ∀ d ∈ existing, ¬ c.Alike d) ∧
        (∀ c ∈ found, c.check = .ok () ∧ ∀ id ∈ c.entityIds, id ∈ entities.map Entity.id) ∧
        (∀ others, Constraint.SameKeys existing others →
          infer limits entities others next = found) ∧
        ∀ later, infer limits entities (existing ++ found) later = []) ∧
    ∀ (s t : Sketch α) (apply : Bool), (s.inferConstraints true).sketch = t →
      (t.inferConstraints apply).outcome = .ok [] ∧ (t.inferConstraints apply).sketch = t := by
  constructor
  · rintro limits entities existing next found rfl
    refine ⟨map_id_accept _ _ _, pairwise_accept, ?_, ?_, ?_, infer_again⟩
    · exact fun c inferred d old alike => not_isKnown_of_accept inferred ⟨d, old, alike⟩
    · intro c inferred
      obtain ⟨s, among, n, rfl⟩ := mem_accept inferred
      have sound := suggestions_sound among
      exact ⟨sound.check n, sound.known⟩
    · exact fun others same => accept_congr fun c => (same.isKnown_iff c).symm
  · rintro s t apply rfl
    refine Sketch.inferConstraints_of_nil ?_ apply
    rw [Sketch.inferred, Sketch.entities_inferConstraints, Sketch.constraints_inferConstraints]
    exact infer_again _

/-- A point at the start of a quarter of a turn is tied to it once: not a second time, and not
where the two are tied already in the other order. -/
theorem inference_settles_quarter :
    Wheel.touch ∈ (Wheel.sketch (Real.pi / 2)).inferred ∧
      (((Wheel.sketch (Real.pi / 2)).inferConstraints true).sketch.inferConstraints true).outcome =
        .ok [] ∧
      ∀ c ∈ infer .standard (Wheel.sketch (Real.pi / 2)).entities
        [⟨.whole 7, .coincident, [1, 0], none, ["start"], .of true⟩] 0, ¬ c.Alike Wheel.touch := by
  obtain ⟨each, whole⟩ := inference_settles (α := ℝ)
  refine ⟨Wheel.touch_inferred _, (whole _ _ true rfl).1, fun c inferred alike => ?_⟩
  obtain ⟨-, -, other, -⟩ := each .standard _ _ 0 _ rfl
  refine other c inferred _ (List.mem_singleton_self _) (alike.trans ⟨rfl, fun r => ?_⟩)
  change r ∈ [(0, ""), (1, "start")] ↔ r ∈ [(1, "start"), (0, "")]
  exact (List.Perm.swap _ _ []).mem_iff

end PlanarSketch
