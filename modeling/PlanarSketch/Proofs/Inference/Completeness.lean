import PlanarSketch.Proofs.Inference.Nearness

/-!
# What is near is inferred

Each line is looked at, and each pair of lines and of points that can coincide, in the order in
which they are listed (`Inference.pairwise_overPairs`).  So whatever is near is suggested, with the
two entities in one order or the other (`Inference.suggested_of_relation`,
`Inference.suggested_of_touching`).

What is suggested is inferred or known already.  It is known by a set of points, and a constraint
that is bound names each of them once (`Inference.listed_of_isKnown`): two points fill the two slots
of its kind, and a line as a whole fills the only slot of an alignment, since it does not stand for
one of two points (`Inference.length_of_alignment`).  So the constraints that exist and those that
are inferred leave out nothing that is near (`Inference.complete_of_bound`).
-/

namespace PlanarSketch

set_option autoImplicit false

open Complex Inference
open scoped InnerProductSpace

namespace Inference

variable {limits : Limits ℝ} {entities : List (Entity ℝ)}

/-! ## What is near is suggested -/

/-- Whatever a pair makes is found, for all pairs in the order of the list. -/
theorem pairwise_overPairs {β γ : Type} (f : β → β → Option γ) (xs : List β) :
    xs.Pairwise fun a b => ∀ c, f a b = some c → c ∈ overPairs f xs := by
  induction xs with
  | nil => exact List.Pairwise.nil
  | cons a rest ih =>
      refine List.Pairwise.cons (fun b later c made => ?_) (ih.imp fun found c made => ?_)
      · exact List.mem_append_left _ (List.mem_filterMap.2 ⟨b, later, made⟩)
      · exact List.mem_append_right _ (found c made)

/-- What two members make is found in one order or the other. -/
theorem mem_overPairs_or {β γ : Type} {f : β → β → Option γ} {xs : List β} {a b : β} {c d : γ}
    (left : a ∈ xs) (right : b ∈ xs) (apart : a ≠ b) (made : f a b = some c)
    (back : f b a = some d) : c ∈ overPairs f xs ∨ d ∈ overPairs f xs := by
  let Found (a b : β) : Prop :=
    (∀ c, f a b = some c → c ∈ overPairs f xs) ∨ ∀ c, f b a = some c → c ∈ overPairs f xs
  have : Std.Symm Found := ⟨fun _ _ => Or.symm⟩
  have ordered : xs.Pairwise Found := (pairwise_overPairs f xs).imp Or.inl
  exact (ordered.forall left right apart).imp (fun found => found c made) fun found => found d back

section Suggested

variable (distinct : (entities.map Entity.id).Nodup)

theorem mem_rays {e : Entity ℝ} {u : ℂ} (present : e ∈ entities) (runs : e.Runs u) :
    ⟨e.id, u.re, u.im⟩ ∈ entities.filterMap ray? :=
  List.mem_filterMap.2 ⟨e, present, ray?_eq_some_iff.2 ⟨rfl, runs⟩⟩

include distinct in
/-- The lines that are listed as aligned are those whose direction is near to an axis. -/
theorem contains_aligned_iff {r : Ray ℝ} (among : r ∈ entities.filterMap ray?) :
    (((entities.filterMap ray?).filter (Ray.aligned limits)).map Ray.id).contains r.id = true ↔
      limits.Aligns ⟨r.ux, r.uy⟩ := by
  rw [← Ray.aligned_iff, List.contains_iff_mem, List.mem_map]
  constructor
  · rintro ⟨t, listed, same⟩
    obtain ⟨there, aligned⟩ := List.mem_filter.1 listed
    obtain ⟨e, present, seen⟩ := List.mem_filterMap.1 among
    obtain ⟨f, present', seen'⟩ := List.mem_filterMap.1 there
    rw [id_of_ray seen, id_of_ray seen'] at same
    rw [List.inj_on_of_nodup_map distinct present' present same, seen] at seen'
    cases seen'
    exact aligned
  · exact fun aligned => ⟨r, List.mem_filter.2 ⟨among, aligned⟩, rfl⟩

theorem suggested_of_alignment {e : Entity ℝ} {u : ℂ} {kind : ConstraintKind}
    (present : e ∈ entities) (runs : e.Runs u)
    (near : kind = .horizontal ∧ |u.im| < limits.angle ∨
      kind = .vertical ∧ ¬|u.im| < limits.angle ∧ |u.re| < limits.angle) :
    ⟨kind, [e.id], []⟩ ∈ suggestions limits entities := by
  refine List.mem_append_left _ (List.mem_append_left _ (List.mem_filterMap.2
    ⟨_, mem_rays present runs, ?_⟩))
  rw [Ray.alignment?_eq_some_iff.2 near]
  rfl

include distinct in
theorem suggested_of_relation {e f : Entity ℝ} {u v : ℂ} {kind : ConstraintKind}
    (first : e ∈ entities) (second : f ∈ entities) (apart : e.id ≠ f.id) (runs : e.Runs u)
    (along : f.Runs v) (crooked : ¬(limits.Aligns u ∧ limits.Aligns v))
    (near : kind = .parallel ∧ |cross u v| < limits.angle ∨
      kind = .perpendicular ∧ ¬|cross u v| < limits.angle ∧ |⟪u, v⟫_ℝ| < limits.angle) :
    ⟨kind, [e.id, f.id], []⟩ ∈ suggestions limits entities ∨
      ⟨kind, [f.id, e.id], []⟩ ∈ suggestions limits entities := by
  have left := mem_rays first runs
  have right := mem_rays second along
  have different : (⟨e.id, u.re, u.im⟩ : Ray ℝ) ≠ ⟨f.id, v.re, v.im⟩ :=
    fun same => apart (congrArg Ray.id same)
  have made {a b : Ray ℝ} (here : a ∈ entities.filterMap ray?)
      (there : b ∈ entities.filterMap ray?)
      (crooked : ¬(limits.Aligns ⟨a.ux, a.uy⟩ ∧ limits.Aligns ⟨b.ux, b.uy⟩))
      (related : a.relation? limits b = some kind) :
      (let aligned := ((entities.filterMap ray?).filter (Ray.aligned limits)).map Ray.id
        if aligned.contains a.id && aligned.contains b.id then none
        else (a.relation? limits b).map fun kind => (⟨kind, [a.id, b.id], []⟩ : Suggestion)) =
      some ⟨kind, [a.id, b.id], []⟩ := by
    rw [related]
    refine if_neg ?_
    rwa [Bool.and_eq_true, contains_aligned_iff distinct here, contains_aligned_iff distinct there]
  have back := near
  rw [cross_comm, abs_neg, real_inner_comm] at back
  have either : ⟨kind, [e.id, f.id], []⟩ ∈ angles limits (entities.filterMap ray?) ∨
      ⟨kind, [f.id, e.id], []⟩ ∈ angles limits (entities.filterMap ray?) :=
    mem_overPairs_or left right different
      (made left right crooked (Ray.relation?_eq_some_iff.2 near))
      (made right left (fun both => crooked both.symm) (Ray.relation?_eq_some_iff.2 back))
  exact either.imp (fun found => List.mem_append_left _ (List.mem_append_right _ found))
    fun found => List.mem_append_left _ (List.mem_append_right _ found)

theorem suggested_of_touching {e f : Entity ℝ} {x y : String} {a b : ℂ} (first : e ∈ entities)
    (second : f ∈ entities) (apart : e.id ≠ f.id) (named : x ∈ e.kind.snapNames)
    (named' : y ∈ f.kind.snapNames) (here : e.pointAt x = .ok (a.re, a.im))
    (there : f.pointAt y = .ok (b.re, b.im)) (near : dist a b < limits.distance) :
    ⟨.coincident, [e.id, f.id], [x, y]⟩ ∈ suggestions limits entities ∨
      ⟨.coincident, [f.id, e.id], [y, x]⟩ ∈ suggestions limits entities := by
  have left : (⟨e.id, x, a.re, a.im⟩ : SnapPoint ℝ) ∈ entities.flatMap snapPoints :=
    List.mem_flatMap.2 ⟨e, first, mem_snapPoints_iff.2 ⟨rfl, named, here⟩⟩
  have right : (⟨f.id, y, b.re, b.im⟩ : SnapPoint ℝ) ∈ entities.flatMap snapPoints :=
    List.mem_flatMap.2 ⟨f, second, mem_snapPoints_iff.2 ⟨rfl, named', there⟩⟩
  have different : (⟨e.id, x, a.re, a.im⟩ : SnapPoint ℝ) ≠ ⟨f.id, y, b.re, b.im⟩ :=
    fun same => apart (congrArg SnapPoint.id same)
  have made {p q : SnapPoint ℝ} (apart : p.id ≠ q.id)
      (near : dist (⟨p.x, p.y⟩ : ℂ) ⟨q.x, q.y⟩ < limits.distance) :
      (if (p.id == q.id) = true then none
        else if Scalar.hypot (q.x - p.x) (q.y - p.y) < limits.distance then
          some (⟨.coincident, [p.id, q.id], [p.selector, q.selector]⟩ : Suggestion)
        else none) = some ⟨.coincident, [p.id, q.id], [p.selector, q.selector]⟩ := by
    rw [hypot_sub_eq_dist, if_neg (by simpa using apart), if_pos near]
  have back := near
  rw [dist_comm] at back
  have either :
      ⟨.coincident, [e.id, f.id], [x, y]⟩ ∈ coincidences limits (entities.flatMap snapPoints) ∨
        ⟨.coincident, [f.id, e.id], [y, x]⟩ ∈ coincidences limits (entities.flatMap snapPoints) :=
    mem_overPairs_or left right different (made apart near) (made (Ne.symm apart) back)
  exact either.imp (List.mem_append_right _) (List.mem_append_right _)

end Suggested

/-- Whether a list has a constraint of a kind that refers to some points, in whatever order. -/
def Listed (all : List (Constraint ℝ)) (kind : ConstraintKind) (points : List (Int × String)) :
    Prop :=
  ∃ c ∈ all, c.kind = kind ∧ c.references.Perm points

theorem Listed.swap {all : List (Constraint ℝ)} {kind : ConstraintKind} {x y : Int × String}
    (listed : Listed all kind [x, y]) : Listed all kind [y, x] := by
  obtain ⟨c, among, same, references⟩ := listed
  exact ⟨c, among, same, references.trans (List.Perm.swap y x [])⟩

/-! ## What is known is listed -/

/-- A list with the members of one without repetitions, and no longer, is a rearrangement of it. -/
theorem perm_of_same_members {β : Type} {l m : List β} (distinct : m.Nodup)
    (size : l.length ≤ m.length) (same : ∀ r, r ∈ l ↔ r ∈ m) : l.Perm m :=
  ((List.subperm_of_subset distinct fun r among => (same r).2 among).perm_of_length_le size).symm

theorem length_references {α : Type} (c : Constraint α) :
    c.references.length = c.entityIds.length := by
  simp [Constraint.references]

section Listing

variable {all : List (Constraint ℝ)} {c : Constraint ℝ}

/-- What is known is listed, if what it is alike has no more slots. -/
theorem listed_of_isKnown {points : List (Int × String)} (known : c.IsKnown all)
    (references : c.references = points) (apart : points.Nodup)
    (size : ∀ d ∈ all, c.Alike d → d.entityIds.length ≤ points.length) :
    Listed all c.kind points := by
  obtain ⟨d, among, alike⟩ := known
  refine ⟨d, among, alike.kind.symm, perm_of_same_members apart ?_ fun r => ?_⟩
  · rw [length_references]
    exact size d among alike
  · rw [← references]
    exact (alike.references r).symm

/-- What is bound refers to the entities in its slots. -/
theorem references_of_located {layout : Layout} {places : List Place}
    (located : List.Forall₂ (fun id place => layout.place? id = some place) c.entityIds places) :
    c.references = (Block.slotsOf c places).map fun s => (s.place.id, s.selector) := by
  unfold Constraint.references Block.slotsOf
  -- The number of the first slot is arbitrary, since it moves on along the list.
  generalize 0 = first
  generalize c.entityIds = ids at located ⊢
  induction located generalizing first with
  | nil => rfl
  | cons found _ ih =>
      simp only [List.zipIdx_cons, List.map_cons, ih, (Block.place?_eq_some found).2]

/-- An alignment that refers to a line as a whole, and to nothing else, is one of that line. -/
theorem length_of_alignment (distinct : (entities.map Entity.id).Nodup) {p : Valuation ℝ}
    {b : Block ℝ} (compiled : Block.compile entities (Layout.tiling entities) p c = .ok b)
    (kind : c.kind = .horizontal ∨ c.kind = .vertical) {e : Entity ℝ} (present : e ∈ entities)
    (line : e.kind = .line) (references : ∀ r ∈ c.references, r = (e.id, "")) :
    c.entityIds.length ≤ 1 := by
  obtain ⟨places, found, related, -⟩ := Block.compile_eq_ok compiled
  have located := Block.placesOf_eq_ok found
  have bound := Constraint.binds_of_relation related
  obtain ⟨x, y, pair⟩ : ∃ x y, Constraint.Aligns (Block.slotsOf c places) x y := by
    rcases kind with kind | kind
    · obtain ⟨x, y, pair, -⟩ := bound.eq_level kind
      exact ⟨x, y, pair⟩
    · obtain ⟨x, y, pair, -⟩ := bound.eq_plumb kind
      exact ⟨x, y, pair⟩
  rw [← length_references, references_of_located located, List.length_map]
  rw [references_of_located located] at references
  generalize slots : Block.slotsOf c places = listed at *
  cases pair with
  | ends => exact Nat.le_refl 1
  | @points s t _ _ point _ =>
      -- A line as a whole has no point, so it does not stand for one of two points.
      obtain ⟨id, whole⟩ := Prod.mk.inj (references _ (List.mem_map_of_mem List.mem_cons_self))
      obtain ⟨f, there, placed⟩ := Block.slot_entity found (s := s) (slots ▸ List.mem_cons_self)
      have same : f = e := List.inj_on_of_nodup_map distinct there present
        ((Block.place?_eq_some placed).2.symm.trans id)
      obtain ⟨place, placed', -, kind⟩ := Block.place_of_entity distinct present
      rw [same, placed'] at placed
      cases placed
      have none := Constraint.not_isLine_of_point point
      rw [Slot.isLine, Slot.kind, kind, line, whole] at none
      cases none

end Listing

/-! ## Completeness -/

/-- Whether a list has a constraint for each relation that some entities are near to. -/
structure Complete (limits : Limits ℝ) (entities : List (Entity ℝ)) (all : List (Constraint ℝ)) :
    Prop where
  horizontal {e : Entity ℝ} {u : ℂ} : e ∈ entities → e.Runs u → |u.im| < limits.angle →
    Listed all .horizontal [(e.id, "")]
  vertical {e : Entity ℝ} {u : ℂ} : e ∈ entities → e.Runs u → ¬|u.im| < limits.angle →
    |u.re| < limits.angle → Listed all .vertical [(e.id, "")]
  parallel {e f : Entity ℝ} {u v : ℂ} : e ∈ entities → f ∈ entities → e.id ≠ f.id →
    e.Runs u → f.Runs v → ¬(limits.Aligns u ∧ limits.Aligns v) → |cross u v| < limits.angle →
      Listed all .parallel [(e.id, ""), (f.id, "")]
  perpendicular {e f : Entity ℝ} {u v : ℂ} : e ∈ entities → f ∈ entities → e.id ≠ f.id →
    e.Runs u → f.Runs v → ¬(limits.Aligns u ∧ limits.Aligns v) → ¬|cross u v| < limits.angle →
      |⟪u, v⟫_ℝ| < limits.angle → Listed all .perpendicular [(e.id, ""), (f.id, "")]
  coincident {e f : Entity ℝ} {x y : String} : e ∈ entities → f ∈ entities → e.id ≠ f.id →
    x ∈ e.kind.snapNames → y ∈ f.kind.snapNames →
      ∃ a b : ℂ, e.pointAt x = .ok (a.re, a.im) ∧ f.pointAt y = .ok (b.re, b.im) ∧
        (dist a b < limits.distance → Listed all .coincident [(e.id, x), (f.id, y)])

section Completeness

variable (distinct : (entities.map Entity.id).Nodup) {existing : List (Constraint ℝ)}
  {p : Valuation ℝ}
  (bound : ∀ c ∈ existing, ∃ b,
    Block.compile entities (Layout.tiling entities) p c = .ok b) (next : Int)

include bound

theorem check_of_bound {d : Constraint ℝ}
    (among : d ∈ existing ++ infer limits entities existing next) : d.check = .ok () := by
  rcases List.mem_append.1 among with old | new
  · obtain ⟨b, compiled⟩ := bound d old
    exact Block.check_of_compiled compiled
  · obtain ⟨s, found, n, rfl⟩ := mem_accept new
    exact (suggestions_sound found).check n

/-- A suggestion about two entities is listed, in this order or the other. -/
theorem listed_of_pair {kind : ConstraintKind} {i j : Int} {selectors : List String}
    (suggested : ⟨kind, [i, j], selectors⟩ ∈ suggestions limits entities)
    (two : kind.arities = [2]) (apart : i ≠ j) :
    Listed (existing ++ infer limits entities existing next) kind
      [(i, selectors.getD 0 ""), (j, selectors.getD 1 "")] := by
  refine listed_of_isKnown (exists_alike_of_suggested suggested 0) rfl ?_ fun d among alike => ?_
  · simp [apart]
  · obtain ⟨arity, -, -⟩ := Constraint.check_eq_ok.1 (check_of_bound bound next among)
    have kind : kind = d.kind := alike.kind
    rw [← kind, two, List.mem_singleton] at arity
    exact arity.le

include distinct

/-- A suggestion about a line is listed. -/
theorem listed_of_line {kind : ConstraintKind} {e : Entity ℝ} {u : ℂ}
    (suggested : ⟨kind, [e.id], []⟩ ∈ suggestions limits entities)
    (level : kind = .horizontal ∨ kind = .vertical) (present : e ∈ entities) (runs : e.Runs u) :
    Listed (existing ++ infer limits entities existing next) kind [(e.id, "")] := by
  refine listed_of_isKnown (exists_alike_of_suggested suggested 0) rfl (List.nodup_singleton _)
    fun d among alike => ?_
  have same : kind = d.kind := alike.kind
  rw [same] at level
  obtain ⟨b, compiled⟩ :
      ∃ b, Block.compile entities (Layout.tiling entities) p d = .ok b := by
    rcases List.mem_append.1 among with old | new
    · exact bound d old
    · refine exists_compile_of_infer distinct new (fun touching => ?_) p
      rw [touching] at level
      simp at level
  exact length_of_alignment distinct compiled level present (runs.kind) fun r referred =>
    List.mem_singleton.1 ((alike.references r).2 referred)

/-- **What is near is there**, once what is inferred is added to what exists. -/
theorem complete_of_bound :
    Complete limits entities (existing ++ infer limits entities existing next) where
  horizontal present runs near :=
    listed_of_line distinct bound next (suggested_of_alignment present runs (.inl ⟨rfl, near⟩))
      (.inl rfl) present runs
  vertical present runs slanted near :=
    listed_of_line distinct bound next
      (suggested_of_alignment present runs (.inr ⟨rfl, slanted, near⟩)) (.inr rfl) present runs
  parallel first second apart runs along crooked near := by
    rcases suggested_of_relation distinct first second apart runs along crooked
      (.inl ⟨rfl, near⟩) with found | found
    · exact listed_of_pair bound next found rfl apart
    · exact (listed_of_pair bound next found rfl (Ne.symm apart)).swap
  perpendicular first second apart runs along crooked skew near := by
    rcases suggested_of_relation distinct first second apart runs along crooked
      (.inr ⟨rfl, skew, near⟩) with found | found
    · exact listed_of_pair bound next found rfl apart
    · exact (listed_of_pair bound next found rfl (Ne.symm apart)).swap
  coincident first second apart named named' := by
    obtain ⟨⟨x, y⟩, here⟩ := exists_pointAt named
    obtain ⟨⟨z, w⟩, there⟩ := exists_pointAt named'
    refine ⟨⟨x, y⟩, ⟨z, w⟩, here, there, fun near => ?_⟩
    rcases suggested_of_touching first second apart named named' here there near with found | found
    · exact listed_of_pair bound next found rfl apart
    · exact (listed_of_pair bound next found rfl (Ne.symm apart)).swap

end Completeness

end Inference

/-- **Inference finds the relations that are nearly met, and no others.**  Let entities have
different identifiers, and look at them as they are drawn.  Whatever the limits: an inferred
constraint is nearly met by its residual.  A parallel or perpendicular pair and an alignment are
always bound, and their residuals are below the limit of the angle, for an alignment times the
length of its line; a coincidence, where it is bound, has a residual shorter than the limit of the
distance.

Conversely, if all existing constraints are bound to the entities, then the existing and the
inferred ones together leave out nothing that is near: neither the alignment of a line that is not
degenerate, nor the relation between two such lines that are not both aligned, nor the coincidence
of two points of different entities. -/
theorem inference_finds_what_is_near {entities : List (Entity ℝ)}
    (distinct : (entities.map Entity.id).Nodup) :
    ∃ layout start, Layout.ofEntities entities = .ok layout ∧
      layout.flatten entities = .ok start ∧
      ∀ (limits : Limits ℝ) (existing : List (Constraint ℝ)) (next : Int)
        (found : List (Constraint ℝ)), infer limits entities existing next = found →
          (∀ c ∈ found, NearlyMet limits entities layout (.ofArray start) c) ∧
          ((∀ c ∈ existing, ∃ b, Block.compile entities layout (.ofArray start) c = .ok b) →
            Complete limits entities (existing ++ found)) := by
  refine ⟨_, _, Layout.ofEntities_eq_ok.2 ⟨distinct, rfl⟩, Layout.flatten_tiling distinct, ?_⟩
  rintro limits existing next found rfl
  exact ⟨fun c inferred => nearlyMet_of_infer distinct inferred,
    fun bound => complete_of_bound distinct bound next⟩

namespace Inference

theorem overPairs_eq_nil {β γ : Type} {f : β → β → Option γ} {xs : List β}
    (none : xs.Pairwise fun a b => f a b = none) : overPairs f xs = [] := by
  induction none with
  | nil => rfl
  | cons first _ ih => rw [overPairs, ih, List.append_nil, List.filterMap_eq_nil_iff.2 first]

/-- Points that are apart in one coordinate suggest nothing. -/
theorem coincidences_eq_nil {limits : Limits ℝ} {points : List (SnapPoint ℝ)}
    (apart : points.Pairwise fun a b => a.id = b.id ∨ limits.distance < |b.x - a.x|) :
    coincidences limits points = [] := by
  refine overPairs_eq_nil (apart.imp fun {a b} far => ?_)
  rcases far with same | far
  · exact if_pos (beq_iff_eq.2 same)
  · rw [if_neg (not_lt.2 (not_le.1 (Exact.not_hypot_le far)).le), ite_self]

end Inference

namespace Slanted

/-- Two lines that run side by side, neither of them along an axis. -/
noncomputable def entities : List (Entity ℝ) :=
  [Exact.entity 0 (.line 0 0 20 21), Exact.entity 1 (.line 50 0 70 21)]

/-- The direction in which both of them run. -/
noncomputable def way : ℂ := ⟨20 / 29, 21 / 29⟩

/-- The demand that they are parallel, with a number and a mark. -/
def constraint (id : Int) (driving : Bool) : Constraint ℝ :=
  ⟨.whole id, .parallel, [0, 1], none, [], .of driving⟩

theorem distinct_entities : (entities.map Entity.id).Nodup := by
  change ([0, 1] : List Int).Nodup
  decide

theorem length_eq : Scalar.hypot 20 21 = (29 : ℝ) := by
  rw [Exact.hypot, show (20 : ℝ) * 20 + 21 * 21 = 29 ^ 2 by norm_num, Real.sqrt_sq (by norm_num)]

theorem ray_eq (id : Int) {x₁ x₂ : ℝ} (width : x₂ - x₁ = 20) :
    ray? (Exact.entity id (.line x₁ 0 x₂ 21)) = some ⟨id, 20 / 29, 21 / 29⟩ := by
  have long : ¬(29 : ℝ) ≤ Tolerance.geometry := by norm_num [Tolerance.geometry]
  simp [ray?, Exact.entity, width, length_eq, long]

theorem rays : entities.filterMap ray? = [⟨0, 20 / 29, 21 / 29⟩, ⟨1, 20 / 29, 21 / 29⟩] := by
  simp only [entities, List.filterMap_cons, List.filterMap_nil, ray_eq 0 (sub_zero (20 : ℝ)),
    ray_eq 1 (show (70 : ℝ) - 50 = 20 by norm_num)]

/-- All that they suggest is that they are parallel. -/
theorem suggested : suggestions .standard entities = [⟨.parallel, [0, 1], []⟩] := by
  have points : entities.flatMap snapPoints =
      [⟨0, "start", 0, 0⟩, ⟨0, "end", 20, 21⟩, ⟨1, "start", 50, 0⟩,
        ⟨1, "end", 70, 21⟩] := rfl
  have slanted (id : Int) : Ray.alignment? .standard (⟨id, 20 / 29, 21 / 29⟩ : Ray ℝ) = none := by
    refine Option.eq_none_iff_forall_ne_some.2 fun kind aligned => ?_
    have near := Ray.alignment?_eq_some_iff.1 aligned
    norm_num [Limits.standard, Tolerance.inferAngle, abs_of_pos] at near
  have related : Ray.relation? .standard (⟨0, 20 / 29, 21 / 29⟩ : Ray ℝ) ⟨1, 20 / 29, 21 / 29⟩ =
      some .parallel :=
    Ray.relation?_eq_some_iff.2
      (.inl ⟨rfl, by norm_num [cross, Limits.standard, Tolerance.inferAngle]⟩)
  have distance : (Limits.standard : Limits ℝ).distance = 0.1 := rfl
  have none : coincidences .standard (entities.flatMap snapPoints) = [] := by
    refine coincidences_eq_nil ?_
    rw [points, distance]
    norm_num
  unfold suggestions
  rw [rays, none]
  simp [alignments, angles, overPairs, Ray.aligned, slanted, related]

/-- What they are inferred to be. -/
theorem inferred : infer .standard entities [] 0 = [constraint 0 true] := by
  rw [infer, suggested]
  rfl

end Slanted

/-- Two lines side by side are inferred to be parallel, and nothing else is to be inferred. -/
theorem inference_finds_what_is_near_slanted :
    ∃ layout start, Layout.ofEntities Slanted.entities = .ok layout ∧
      layout.flatten Slanted.entities = .ok start ∧
      infer .standard Slanted.entities [] 0 = [Slanted.constraint 0 true] ∧
      NearlyMet .standard Slanted.entities layout (.ofArray start) (Slanted.constraint 0 true) ∧
      Complete .standard Slanted.entities [Slanted.constraint 0 true] := by
  obtain ⟨layout, start, laid, written, finds⟩ :=
    inference_finds_what_is_near Slanted.distinct_entities
  obtain ⟨near, complete⟩ := finds .standard [] 0 _ Slanted.inferred
  exact ⟨layout, start, laid, written, Slanted.inferred, near _ List.mem_cons_self,
    complete (List.forall_mem_nil _)⟩

end PlanarSketch
