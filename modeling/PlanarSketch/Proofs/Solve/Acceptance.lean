import PlanarSketch.Proofs.Relation.Divisors
import PlanarSketch.Proofs.Relation.Vocabulary
import PlanarSketch.Proofs.Solve.Blocks

/-!
# Which constraints are accepted

A constraint on entities is acceptable (`Constraint.Acceptable`) when its numbers of entities and
of selectors and its target value obey the rules of its kind, all its entities are there, and
these fill the roles of one of the usages of the kind with geometry that is not degenerate where
the usage relies on it.

A constraint whose mentions fill the roles of a usage can be refused for nothing but an entity
that it relies on (`Block.not_forall₂_of_refused`).  Exactly the acceptable constraints are
bound, and what has been bound can be evaluated wherever its parameters are ordinary numbers
(`bound_iff_acceptable`).  Each test that binding makes is one clause of acceptability; the
slots that it looks at are the mentions of the constraint, put at the places of their entities
(`Block.located_of_placesOf`).
-/

namespace PlanarSketch

set_option autoImplicit false

open Outcome

variable {α : Type} [Scalar α]

/-! ## Acceptable constraints -/

/-- What a rule asks of a target value. -/
def ValueRule.Obeyed (rule : ValueRule) : Option α → Prop
  | .none => rule = .none
  | some v => rule ≠ .none ∧ Scalar.isFinite v = true ∧ (rule = .nonNegative → ¬v < 0) ∧
      (rule = .positive → ¬v ≤ 0)

/-- An entity that a constraint names, and the name of the point that is meant on it. -/
structure Mention (α : Type) [Scalar α] where
  entity : Entity α
  selector : String

/-- Whether a mention fills a role, with an entity that is not degenerate if a kind of constraints
relies on its geometry there. -/
def Mention.Suits (kind : ConstraintKind) (m : Mention α) (role : SlotRole) : Prop :=
  m.entity.kind.Fills m.selector role ∧
    (kind.Relies m.entity.kind m.selector role → m.entity.degeneracy? Tolerance.geometry = none)

namespace Constraint

/-- The entities that a constraint names, as far as they are there. -/
def mentions (entities : List (Entity α)) (c : Constraint α) : List (Mention α) :=
  c.entityIds.zipIdx.filterMap fun (id, slot) =>
    (entities.find? (·.id == id)).map fun e => ⟨e, c.selector slot⟩

/-- What the kind of a constraint asks of it and of its entities. -/
structure Acceptable (entities : List (Entity α)) (c : Constraint α) : Prop where
  arity : c.entityIds.length ∈ c.kind.arities
  selectors : c.selectors.length ≤ c.entityIds.length
  value : c.kind.valueRule.Obeyed c.value
  present : ∀ id ∈ c.entityIds, id ∈ entities.map Entity.id
  usage : ∃ u ∈ c.kind.usages, List.Forall₂ (Mention.Suits c.kind) (c.mentions entities) u.roles

end Constraint

/-! ## The tests of binding -/

section Binding

variable {entities : List (Entity α)} {c : Constraint α}

namespace Constraint

theorem checkValue_eq_ok : c.checkValue = .ok () ↔ c.kind.valueRule.Obeyed c.value := by
  unfold checkValue ValueRule.Obeyed
  cases c.value with
  | none =>
      cases c.kind.valueRule with
      | _ => simp
  | some v =>
      by_cases finite : Scalar.isFinite v = true
      · cases c.kind.valueRule with
        | _ => simp [finite]
      · cases c.kind.valueRule with
        | _ => simp [finite]

theorem check_eq_ok : c.check = .ok () ↔ c.entityIds.length ∈ c.kind.arities ∧
    c.selectors.length ≤ c.entityIds.length ∧ c.kind.valueRule.Obeyed c.value := by
  rw [← checkValue_eq_ok, ← List.contains_iff_mem, ← not_lt]
  unfold check
  cases c.kind.arities.contains c.entityIds.length with
  | false => simp
  | true =>
      by_cases many : c.entityIds.length < c.selectors.length
      · simp [many]
      · simp [many]

end Constraint

/-- A slot holds the entity of a mention at its place. -/
structure Mention.At (entities : List (Entity α)) (m : Mention α) (s : Slot) : Prop where
  present : m.entity ∈ entities
  id : s.place.id = m.entity.id
  kind : s.kind = m.entity.kind
  selector : s.selector = m.selector

namespace Block

/-- **The slots of a constraint are its mentions**, put at the places of their entities. -/
theorem located_of_placesOf (distinct : (entities.map Entity.id).Nodup) {places : List Place}
    (found : placesOf c entities (Layout.tiling entities) = .ok places) :
    List.Forall₂ (Mention.At entities) (c.mentions entities) (slotsOf c places) := by
  have steps := mapM_eq_ok.1 found
  unfold Constraint.mentions slotsOf
  clear found
  -- The number of the first slot is arbitrary, since it moves on along the list.
  generalize 0 = first
  generalize c.entityIds = ids at steps ⊢
  induction steps generalizing first with
  | nil => exact .nil
  | @cons id place _ _ placed _ ih =>
      split at placed
      · rename_i e _ there located
        cases placed
        have same : e.id = id := by simpa using List.find?_some there
        have present := List.mem_of_find?_eq_some there
        obtain ⟨other, located', id', kind⟩ := place_of_entity distinct present
        rw [same, located] at located'
        cases located'
        simp only [List.zipIdx_cons, List.map_cons, List.filterMap_cons, there, Option.map_some]
        exact .cons ⟨present, id', kind, rfl⟩ (ih _)
      · cases placed

end Block

/-- Relations of two lists to a third agree if they agree entry by entry. -/
theorem forall₂_transfer {ρ σ τ : Type} {A : ρ → σ → Prop} {B : ρ → τ → Prop} {C : σ → τ → Prop}
    {xs : List ρ} {ys : List σ} (pairs : List.Forall₂ A xs ys)
    (same : ∀ x y z, A x y → (B x z ↔ C y z)) (zs : List τ) :
    List.Forall₂ B xs zs ↔ List.Forall₂ C ys zs := by
  induction pairs generalizing zs with
  | nil => rw [List.forall₂_nil_left_iff, List.forall₂_nil_left_iff]
  | cons first _ ih =>
      cases zs with
      | nil => exact iff_of_false nofun nofun
      | cons z zs => rw [List.forall₂_cons, List.forall₂_cons, same _ _ z first, ih zs]

namespace Block

/-- What is said of entities in their roles can be said by mentions or by slots. -/
theorem forall₂_mentions_iff (distinct : (entities.map Entity.id).Nodup) {places : List Place}
    (found : placesOf c entities (Layout.tiling entities) = .ok places)
    (P : EntityKind → String → Int → SlotRole → Prop) (roles : List SlotRole) :
    List.Forall₂ (fun m role => P m.entity.kind m.selector m.entity.id role)
        (c.mentions entities) roles ↔
      List.Forall₂ (fun s role => P s.kind s.selector s.place.id role) (slotsOf c places)
        roles := by
  refine forall₂_transfer (located_of_placesOf distinct found) (fun m s role located => ?_) roles
  rw [located.kind, located.selector, located.id]

theorem fills_iff (distinct : (entities.map Entity.id).Nodup) {places : List Place}
    (found : placesOf c entities (Layout.tiling entities) = .ok places) (roles : List SlotRole) :
    List.Forall₂ (fun m role => m.entity.kind.Fills m.selector role) (c.mentions entities) roles ↔
      List.Forall₂ Slot.Fills (slotsOf c places) roles :=
  forall₂_mentions_iff distinct found (fun kind selector _ role => kind.Fills selector role) roles

/-- **Mentions suit their roles** when their slots fill them and no entity is refused whose geometry
is relied on. -/
theorem suits_iff (distinct : (entities.map Entity.id).Nodup) {places : List Place}
    (found : placesOf c entities (Layout.tiling entities) = .ok places) (roles : List SlotRole) :
    List.Forall₂ (Mention.Suits c.kind) (c.mentions entities) roles ↔
      List.Forall₂ Slot.Fills (slotsOf c places) roles ∧
        List.Forall₂ (fun s role => s.Relied c.kind role →
          checkShape c entities s.place.id = .ok ()) (slotsOf c places) roles := by
  have pairs := located_of_placesOf distinct found
  rw [forall₂_transfer pairs (C := fun s role => s.Fills role ∧
    (s.Relied c.kind role → checkShape c entities s.place.id = .ok ()))]
  · exact ⟨fun both => ⟨both.imp fun _ _ => And.left, both.imp fun _ _ => And.right⟩,
      fun ⟨fills, sound⟩ => fills.mp (fun _ _ fill fine => ⟨fill, fine⟩) sound⟩
  · intro m s role located
    rw [located.id, checkShape_eq_ok distinct located.present]
    unfold Mention.Suits Slot.Fills Slot.Relied
    rw [located.kind, located.selector]

section Fitting

variable {u : Usage} (distinct : (entities.map Entity.id).Nodup) (checked : c.check = .ok ())
  (known : ∀ id ∈ c.entityIds, id ∈ entities.map Entity.id) (listed : u ∈ c.kind.usages)
  (fills : List.Forall₂ (fun m role => m.entity.kind.Fills m.selector role)
    (c.mentions entities) u.roles)

include distinct known listed fills

/-- A constraint that fits has a relation, as its usage describes. -/
theorem exists_described (p : Valuation α) :
    ∃ places r, placesOf c entities (Layout.tiling entities) = .ok places ∧
      c.relation p (slotsOf c places) = .ok r ∧ u.Describes c.kind (slotsOf c places) r := by
  obtain ⟨places, found⟩ := (exists_placesOf distinct).2 known
  have filled := (fills_iff distinct found u.roles).1 fills
  obtain ⟨r, bound⟩ := Constraint.exists_binds listed filled p
  exact ⟨places, r, found, Constraint.relation_of_binds bound, bound.describes listed filled⟩

include checked

/-- **A constraint that fits is bound** when its mentions suit their roles, and only then. -/
theorem exists_compile_iff_suits (p : Valuation α) :
    (∃ b, compile entities (Layout.tiling entities) p c = .ok b) ↔
      List.Forall₂ (Mention.Suits c.kind) (c.mentions entities) u.roles := by
  obtain ⟨places, r, found, related, described⟩ := exists_described distinct known listed fills p
  rw [suits_iff distinct found]
  constructor
  · rintro ⟨b, compiled⟩
    obtain ⟨_, found', related', sound, -, -⟩ := compile_eq_ok compiled
    cases found.symm.trans found'
    cases related.symm.trans related'
    exact ⟨described.fills, (described.watched _).1 sound⟩
  · rintro ⟨-, sound⟩
    exact ⟨_, compile_of_steps checked found related ((described.watched _).2 sound)⟩

/-- **A constraint that fits is refused for an entity that it relies on**, and for nothing else. -/
theorem not_forall₂_of_refused {p : Valuation α} {fault : Fault α}
    (refused : compile entities (Layout.tiling entities) p c = .error fault) :
    ¬List.Forall₂ (fun m role => c.kind.Relies m.entity.kind m.selector role →
      checkShape c entities m.entity.id ≠ .error fault) (c.mentions entities) u.roles := by
  intro spared
  obtain ⟨places, r, found, related, described⟩ := exists_described distinct known listed fills p
  have sound := (forall₂_mentions_iff distinct found (fun kind selector id role =>
    c.kind.Relies kind selector role → checkShape c entities id ≠ .error fault) u.roles).1 spared
  obtain ⟨id, among, cause⟩ := checkShape_of_refused checked found related refused
  exact (described.watched (checkShape c entities · ≠ .error fault)).2 sound id among cause

end Fitting

/-- **Exactly the acceptable constraints are bound**, at any geometry. -/
theorem exists_compile_iff (distinct : (entities.map Entity.id).Nodup) (p : Valuation α) :
    (∃ b, compile entities (Layout.tiling entities) p c = .ok b) ↔ c.Acceptable entities := by
  constructor
  · rintro ⟨b, compiled⟩
    have checked := check_of_compiled compiled
    obtain ⟨arity, selectors, value⟩ := Constraint.check_eq_ok.1 checked
    obtain ⟨places, found, related, -, -, -⟩ := compile_eq_ok compiled
    have known := (exists_placesOf distinct).1 ⟨places, found⟩
    obtain ⟨u, listed, described⟩ := (Constraint.binds_of_relation related).usage
    have fills := (fills_iff distinct found u.roles).2 described.fills
    exact ⟨arity, selectors, value, known, u, listed,
      (exists_compile_iff_suits distinct checked known listed fills p).1 ⟨b, compiled⟩⟩
  · intro acceptable
    obtain ⟨u, listed, suits⟩ := acceptable.usage
    have checked := Constraint.check_eq_ok.2
      ⟨acceptable.arity, acceptable.selectors, acceptable.value⟩
    exact (exists_compile_iff_suits distinct checked acceptable.present listed
      (suits.imp fun _ _ => And.left) p).2 suits

end Block

/-! ## Evaluating what was accepted -/

namespace Block

/-- What a bound constraint can be relied on for, in a layout of some entities: it is used in one
of the ways that its kind has, with one of the forms that belong to it; it has as many rows as
its kind says, and so has its derivative; it reads the parameters of its entities, which are inside
of the vector, and can be evaluated where they are ordinary numbers; and it is defined at the
start. -/
structure Evaluable (entities : List (Entity α)) (layout : Layout) (start : Valuation α)
    (b : Block α) : Prop where
  usage : ∃ u ∈ b.constraint.kind.usages,
    List.Forall₂ (Mention.Suits b.constraint.kind) (b.constraint.mentions entities) u.roles ∧
      b.relation.form ∈ u.forms
  rows (p : Valuation α) : (b.residual p).length = b.constraint.rows
  slopes (step : α) (p : Valuation α) : (b.derivative step p).length = b.constraint.rows
  closed (p : Valuation α) : b.relation.gradients? p ≠ none ↔
    b.constraint.kind.derivative = .analytic ∨
      b.constraint.kind.derivative = .mixed ∧ b.relation.form = "pp"
  positions (i : Nat) : i ∈ b.positions ↔ ∃ id ∈ b.constraint.entityIds, ∃ place : Place,
    layout.place? id = some place ∧ place.offset ≤ i ∧ i < place.stop
  inside : ∀ i ∈ b.positions, i < layout.size
  reads (p q : Valuation α) : (∀ i ∈ b.positions, p i = q i) → b.residual p = b.residual q
  measurable (p : Valuation α) :
    (∀ i ∈ b.positions, Scalar.isFinite (p i) = true) → b.endless p = false
  defined : b.DefinedAt start
  calm : b.endless start = false

end Block

namespace Block

variable {layout : Layout} {p : Valuation α} {b : Block α}

/-- The ends of arcs can be evaluated at ordinary numbers. -/
theorem endless_eq_false_of_finite (laid : Layout.ofEntities entities = .ok layout)
    (compiled : compile entities layout p c = .ok b) {q : Valuation α}
    (ordinary : ∀ i ∈ b.positions, Scalar.isFinite (q i) = true) : b.endless q = false := by
  refine List.any_eq_false.2 fun a among => ?_
  unfold PointSite.endless
  split
  · rename_i i angle
    have read : i ∈ b.relation.reads :=
      Relation.mem_reads.2 (.inl ⟨a, among, (PointSite.mem_reads_of_angleIndex angle).2⟩)
    simp [ordinary i (mem_positions_of_reads laid compiled read)]
  · exact Bool.false_ne_true

/-- All parameters of entities are ordinary numbers. -/
theorem isFinite_flat {i : Nat} (inside : i < (Layout.tiling entities).size) :
    Scalar.isFinite (Valuation.ofArray (flat entities) i) = true := by
  have bounded : i < (flat entities).size := inside
  have among : (flat entities)[i] ∈ entities.flatMap Entity.params :=
    Array.mem_def.1 (Array.getElem_mem bounded)
  obtain ⟨e, present, listed⟩ := List.mem_flatMap.1 among
  have finite := List.all_eq_true.1 e.finite _ listed
  rwa [Valuation.ofArray, Array.getD_eq_getD_getElem?, Array.getElem?_eq_getElem bounded,
    Option.getD_some]

theorem evaluable_of_compiled (distinct : (entities.map Entity.id).Nodup)
    (compiled : compile entities (Layout.tiling entities) (.ofArray (flat entities)) c = .ok b) :
    b.Evaluable entities (Layout.tiling entities) (.ofArray (flat entities)) := by
  have laid := Layout.ofEntities_eq_ok.2 ⟨distinct, rfl⟩
  obtain ⟨places, found, related, sound, rfl, positions⟩ := compile_eq_ok compiled
  have bound := Constraint.binds_of_relation related
  have inside : ∀ i ∈ b.positions, i < (Layout.tiling entities).size := fun i among =>
    (mem_coveredBy.1 (positions ▸ among)).1
  exact
    { usage := by
        obtain ⟨u, listed, described⟩ := bound.usage
        exact ⟨u, listed, (suits_iff distinct found _).2
          ⟨described.fills, (described.watched _).1 sound⟩, described.form⟩
      rows := fun p => (b.relation.length_residualRows p).trans (rows_of_compiled compiled)
      slopes := fun step p => (b.length_derivative step p).trans (rows_of_compiled compiled)
      closed := fun p => by
        rw [Ne, Relation.gradients?_eq_none_iff, Bool.not_eq_false, bound.analytic_iff]
      positions := fun i => mem_positions_iff laid compiled
      inside := inside
      reads := fun p q same => residual_congr laid compiled same
      measurable := fun p ordinary => endless_eq_false_of_finite laid compiled ordinary
      defined := definedAt_of_compiled distinct compiled
      calm :=
        endless_eq_false_of_finite laid compiled fun i among => isFinite_flat (inside i among) }

end Block

/-- **Exactly the documented constraints are accepted, and what is accepted can be evaluated.**
Entities with different identifiers have a layout and a flat vector of their parameters.  There a
constraint is bound if and only if it is acceptable; and a block that it is bound to has a form of
its kind, as many rows and slopes as its kind says, wherever they are taken, and reads nothing but
the parameters of its own entities.  It can be evaluated wherever these are ordinary numbers, as
they are at the start, where it is defined besides. -/
theorem bound_iff_acceptable (distinct : (entities.map Entity.id).Nodup) :
    ∃ layout start, Layout.ofEntities entities = .ok layout ∧
      layout.flatten entities = .ok start ∧
      ∀ c : Constraint α,
        ((∃ b, Block.compile entities layout (.ofArray start) c = .ok b) ↔
          c.Acceptable entities) ∧
        ∀ b, Block.compile entities layout (.ofArray start) c = .ok b →
          b.constraint = c ∧ b.Evaluable entities layout (.ofArray start) := by
  refine ⟨_, _, Layout.ofEntities_eq_ok.2 ⟨distinct, rfl⟩, Layout.flatten_tiling distinct,
    fun c => ⟨Block.exists_compile_iff distinct _, fun b compiled => ?_⟩⟩
  exact ⟨Block.constraint_of_compiled compiled, Block.evaluable_of_compiled distinct compiled⟩

end Binding

namespace Offset

/-- A line and a point beside it. -/
noncomputable def entities : List (Entity ℝ) :=
  [Exact.entity 0 (.line 0 0 1 0), Exact.entity 1 (.point 0 1)]

/-- The demand that they are one apart, with the line named first. -/
noncomputable def constraint : Constraint ℝ :=
  ⟨.whole 0, .distance, [0, 1], some 1, [], .of true⟩

theorem acceptable : constraint.Acceptable entities where
  arity := List.mem_singleton_self 2
  selectors := Nat.zero_le 2
  value := by simp [constraint, ConstraintKind.valueRule, ValueRule.Obeyed]
  present := by simp [constraint, entities, Exact.entity]
  usage := by
    refine ⟨⟨[.line, .point], ["pl"]⟩, by simp [constraint, ConstraintKind.usages], ?_⟩
    have mentioned : constraint.mentions entities =
        [⟨Exact.entity 0 (.line 0 0 1 0), ""⟩, ⟨Exact.entity 1 (.point 0 1), ""⟩] := rfl
    have long : ¬Scalar.hypot (1 - 0 : ℝ) (0 - 0) ≤ Tolerance.geometry := by
      rw [sub_zero, sub_zero]
      exact Exact.not_hypot_le (by norm_num [Tolerance.geometry])
    have sound : (Exact.entity 0 (.line 0 0 1 0)).degeneracy? Tolerance.geometry = none :=
      if_neg long
    rw [mentioned]
    exact .cons ⟨⟨rfl, rfl⟩, fun _ => sound⟩
      (.cons ⟨List.mem_singleton_self "", fun _ => rfl⟩ .nil)

end Offset

/-- The distance of a point from a line is bound with the line in front. -/
theorem bound_iff_acceptable_offset :
    ∃ layout start b, Layout.ofEntities Offset.entities = .ok layout ∧
      layout.flatten Offset.entities = .ok start ∧
      Block.compile Offset.entities layout (.ofArray start) Offset.constraint = .ok b ∧
      b.Evaluable Offset.entities layout (.ofArray start) := by
  have distinct : (Offset.entities.map Entity.id).Nodup := by
    change ([0, 1] : List Int).Nodup
    decide
  obtain ⟨layout, start, laid, written, bound⟩ := bound_iff_acceptable distinct
  obtain ⟨b, compiled⟩ := (bound Offset.constraint).1.2 Offset.acceptable
  exact ⟨layout, start, b, laid, written, compiled, ((bound _).2 b compiled).2⟩

end PlanarSketch
