import PlanarSketch.Proofs.Layout.Tiling
import PlanarSketch.Proofs.Order
import PlanarSketch.Proofs.Relation.Binding
import PlanarSketch.Proofs.Relation.Sites
import PlanarSketch.Solve

/-!
# Prepared problems

What a problem consists of once it is prepared (`Problem.prepare_eq_ok`): the layout tiles
the parameter vector, no identifier occurs twice, and each constraint is bound to a block.
The lines of a block are not too short at the geometry that it was bound to
(`Block.compile_lines_long`), since binding refuses degenerate entities.  Conversely, no more
than different identifiers and bound constraints is needed (`Problem.prepare_of_compiled`).

Preparation can fail for many reasons, but none of them is about identity when the
identifiers differ and every constraint names entities that are there
(`Problem.prepare_spares`).
-/

namespace PlanarSketch

set_option autoImplicit false

open Outcome

variable {α : Type} [Scalar α] {entities : List (Entity α)}

/-- The parameters of entities, one after the other. -/
def flat (entities : List (Entity α)) : Array α := (entities.flatMap Entity.params).toArray

/-! ## Repeated identifiers -/

omit [Scalar α] in
theorem checkDistinct_go_eq_ok {seen : List Int} {constraints : List (Constraint α)} :
    checkDistinct.go seen constraints = .ok () ↔
      (∀ c ∈ constraints, c.id ∉ seen) ∧ (constraints.map Constraint.id).Nodup := by
  induction constraints generalizing seen with
  | nil => simp [checkDistinct.go]
  | cons c cs ih =>
      unfold checkDistinct.go
      by_cases taken : seen.contains c.id = true
      · simp [List.contains_iff_mem.1 taken]
      · have fresh : c.id ∉ seen := fun among => taken (List.contains_iff_mem.2 among)
        rw [if_neg taken, ih, List.map_cons, List.nodup_cons, List.forall_mem_cons]
        simp only [List.mem_cons, not_or, List.mem_map, not_exists, not_and]
        constructor
        · rintro ⟨others, rest⟩
          exact ⟨⟨fresh, fun d among => (others d among).2⟩,
            fun d among same => (others d among).1 same, rest⟩
        · rintro ⟨⟨_, others⟩, apart, rest⟩
          exact ⟨fun d among => ⟨fun same => apart d among same, others d among⟩, rest⟩

omit [Scalar α] in
/-- Constraints pass when no two of them have one identifier. -/
theorem checkDistinct_eq_ok {constraints : List (Constraint α)} :
    checkDistinct constraints = .ok () ↔ (constraints.map Constraint.id).Nodup := by
  rw [checkDistinct, checkDistinct_go_eq_ok]
  simp

omit [Scalar α] in
theorem checkDistinct_go_eq_error {seen : List Int} {constraints : List (Constraint α)}
    {fault : Fault α} (refused : checkDistinct.go seen constraints = .error fault) :
    ∃ c ∈ constraints, fault = .duplicateConstraint c.identifier := by
  induction constraints generalizing seen with
  | nil => cases refused
  | cons c cs ih =>
      unfold checkDistinct.go at refused
      split at refused
      · cases refused
        exact ⟨c, List.mem_cons_self, rfl⟩
      · obtain ⟨d, among, same⟩ := ih refused
        exact ⟨d, List.mem_cons_of_mem c among, same⟩

omit [Scalar α] in
/-- Constraints of which two have one identifier are refused for one of that list. -/
theorem checkDistinct_of_repeated {constraints : List (Constraint α)}
    (repeated : ¬(constraints.map Constraint.id).Nodup) :
    ∃ c ∈ constraints,
      checkDistinct constraints = .error (.duplicateConstraint c.identifier) := by
  cases checked : checkDistinct constraints with
  | ok _ => exact absurd (checkDistinct_eq_ok.1 checked) repeated
  | error fault =>
      obtain ⟨c, among, rfl⟩ := checkDistinct_go_eq_error checked
      exact ⟨c, among, rfl⟩

/-! ## Blocks -/

/-- The fault of a constraint that relies on an entity which is degenerate for some reason. -/
def Constraint.refusal (c : Constraint α) (id : Int) : Degeneracy α → Fault α
  | .endlessArc => .endlessAngle
  | reason => .degenerate c.kind c.identifier id reason

namespace Block

variable {layout : Layout} {p : Valuation α} {c : Constraint α} {b : Block α}

/-- What has to go well for a constraint to be bound, and the block that comes of it. -/
theorem compile_eq_ok (compiled : compile entities layout p c = .ok b) :
    ∃ places, placesOf c entities layout = .ok places ∧
      c.relation p (slotsOf c places) = .ok b.relation ∧
      (∀ id ∈ b.relation.watched, checkShape c entities id = .ok ()) ∧
      b.constraint = c ∧ b.positions = coveredBy layout places := by
  unfold compile at compiled
  obtain ⟨_, -, rest⟩ := bind_eq_ok.1 compiled
  obtain ⟨places, found, rest⟩ := bind_eq_ok.1 rest
  obtain ⟨relation, related, rest⟩ := bind_eq_ok.1 rest
  obtain ⟨_, sound, rest⟩ := bind_eq_ok.1 rest
  cases rest
  exact ⟨places, found, related, forM_eq_ok.1 sound, rfl, rfl⟩

theorem constraint_of_compiled (compiled : compile entities layout p c = .ok b) :
    b.constraint = c := by
  obtain ⟨-, -, -, -, same, -⟩ := compile_eq_ok compiled
  exact same

/-- A constraint is bound when all that binding tests is in order. -/
theorem compile_of_steps {places : List Place} {r : Relation α} (checked : c.check = .ok ())
    (found : placesOf c entities layout = .ok places)
    (related : c.relation p (slotsOf c places) = .ok r)
    (sound : ∀ id ∈ r.watched, checkShape c entities id = .ok ()) :
    compile entities layout p c = .ok ⟨c, r, coveredBy layout places⟩ := by
  unfold compile
  refine bind_eq_ok.2 ⟨(), checked, bind_eq_ok.2 ⟨places, found, ?_⟩⟩
  exact bind_eq_ok.2 ⟨r, related, bind_eq_ok.2 ⟨(), forM_eq_ok.2 sound, rfl⟩⟩

/-- When all tests before the last are passed, the last is what refuses a constraint. -/
theorem checkShape_of_refused {places : List Place} {r : Relation α} {fault : Fault α}
    (checked : c.check = .ok ()) (found : placesOf c entities layout = .ok places)
    (related : c.relation p (slotsOf c places) = .ok r)
    (refused : compile entities layout p c = .error fault) :
    ∃ id ∈ r.watched, checkShape c entities id = .error fault := by
  unfold compile at refused
  rw [checked, found] at refused
  rcases bind_eq_error.1 refused with impossible | ⟨_, -, refused⟩
  · cases impossible
  rcases bind_eq_error.1 refused with impossible | ⟨_, same, refused⟩
  · cases impossible
  cases same
  rw [related] at refused
  rcases bind_eq_error.1 refused with impossible | ⟨_, same, refused⟩
  · cases impossible
  cases same
  rcases bind_eq_error.1 refused with failed | ⟨_, -, impossible⟩
  · exact forM_eq_error failed
  · cases impossible

/-- The place of an identifier is that of the entity that has it. -/
theorem place_of_entity (distinct : (entities.map Entity.id).Nodup) {e : Entity α}
    (present : e ∈ entities) :
    ∃ place : Place, (Layout.tiling entities).place? e.id = some place ∧ place.id = e.id ∧
      place.kind = e.kind := by
  obtain ⟨before, after, rfl⟩ := List.append_of_mem present
  exact ⟨_, Layout.place?_split distinct, rfl, rfl⟩

/-- The places of a constraint are found when its entities are there. -/
theorem exists_placesOf (distinct : (entities.map Entity.id).Nodup) :
    (∃ places, placesOf c entities (Layout.tiling entities) = .ok places) ↔
      ∀ id ∈ c.entityIds, id ∈ entities.map Entity.id := by
  unfold placesOf
  constructor
  · rintro ⟨places, found⟩ id named
    obtain ⟨place, -, placed⟩ := exists_of_mem_source found named
    split at placed
    · rename_i e _ there _
      have same : e.id = id := by simpa using List.find?_some there
      exact List.mem_map.2 ⟨e, List.mem_of_find?_eq_some there, same⟩
    · cases placed
  · intro known
    refine exists_mapM fun id named => ?_
    obtain ⟨e, present, rfl⟩ := List.mem_map.1 (known id named)
    obtain ⟨place, located, -, -⟩ := place_of_entity distinct present
    exact ⟨place, by rw [find?_of_nodup distinct present, located]⟩

/-- A slot of a bound constraint holds an entity at its place. -/
theorem slot_entity {places : List Place} (found : placesOf c entities layout = .ok places)
    {s : Slot} (among : s ∈ slotsOf c places) :
    ∃ e ∈ entities, layout.place? e.id = some s.place := by
  unfold slotsOf at among
  obtain ⟨⟨place, i⟩, listed, rfl⟩ := List.mem_map.1 among
  have among : place ∈ places := List.mem_of_getElem? (List.mk_mem_zipIdx_iff_getElem?.1 listed)
  obtain ⟨id, -, placed⟩ := exists_of_mem_mapM found among
  split at placed
  · rename_i e _ present located
    cases placed
    have same : e.id = id := by simpa using List.find?_some present
    exact ⟨e, List.mem_of_find?_eq_some present, same ▸ located⟩
  · cases placed

omit [Scalar α] in
theorem place?_eq_some {id : Int} {place : Place} (found : layout.place? id = some place) :
    place ∈ layout.places ∧ place.id = id :=
  ⟨List.mem_of_find?_eq_some found, by simpa using List.find?_some found⟩

/-- An entity is where the slot of its identifier is, in any list with the same layout. -/
theorem place?_of_slot {fs : List (Entity α)} {f : Entity α} {places : List Place} {s : Slot}
    (tiling : Layout.tiling entities = Layout.tiling fs)
    (found : placesOf c entities (Layout.tiling entities) = .ok places)
    (slot : s ∈ slotsOf c places) (same : s.place.id = f.id) :
    (Layout.tiling fs).place? f.id = some s.place := by
  obtain ⟨e, -, placed⟩ := slot_entity found slot
  have id : s.place.id = e.id := (place?_eq_some placed).2
  rwa [← same, id, ← tiling]

/-- The line of a slot at the place of an entity is that entity. -/
theorem line_of_slot {before after : List (Entity α)} {e : Entity α} {s : Slot} {l : LineSite}
    (distinct : ((before ++ e :: after).map Entity.id).Nodup)
    (placed : (Layout.tiling (before ++ e :: after)).place? e.id = some s.place)
    (line : s.line? = some l) :
    e.kind = .line ∧ l = ⟨e.id, Layout.extent before⟩ := by
  rw [Layout.place?_split distinct] at placed
  have place := Option.some.inj placed
  obtain ⟨kind, rfl⟩ := Constraint.line_eq_some line
  unfold Slot.kind at kind
  rw [← place] at kind ⊢
  exact ⟨kind, rfl⟩

/-- The length of a line, read from the flat parameters, is the length of the entity there. -/
theorem length_flat {before after : List (Entity α)} {e : Entity α} {x₁ y₁ x₂ y₂ : α} {id : Int}
    (shape : e.shape = .line x₁ y₁ x₂ y₂) :
    (LineSite.mk id (Layout.extent before)).length (.ofArray (flat (before ++ e :: after))) =
      Scalar.hypot (x₂ - x₁) (y₂ - y₁) := by
  have params : e.params = [x₁, y₁, x₂, y₂] := by rw [Entity.params, shape, Shape.params]
  have value (k : Nat) (inside : k < e.params.length) :
      Valuation.ofArray (flat (before ++ e :: after)) (Layout.extent before + k) = e.params[k] :=
    Layout.getD_flatten_split inside
  have first := value 0 (by simp [params])
  have second := value 1 (by simp [params])
  have third := value 2 (by simp [params])
  have fourth := value 3 (by simp [params])
  simp only [params, List.getElem_cons_zero, List.getElem_cons_succ, Nat.add_zero] at *
  simp only [LineSite.length, LineSite.direction, first, second, third, fourth]

/-- Every line of a block is an entity of its sketch. -/
theorem exists_line_entity (compiled : compile entities layout p c = .ok b) {l : LineSite}
    (among : l ∈ b.relation.lines) : ∃ e ∈ entities, l.entity = e.id := by
  obtain ⟨places, found, related, -, -, -⟩ := compile_eq_ok compiled
  obtain ⟨s, slot, line⟩ := (c.relation_lines p _).answer related l among
  obtain ⟨-, rfl⟩ := Constraint.line_eq_some line
  obtain ⟨e, present, placed⟩ := slot_entity found slot
  exact ⟨e, present, (place?_eq_some placed).2⟩

/-- An entity that stands for a line of a block is a line, of the length that the block reads. -/
theorem line_entity {fs : List (Entity α)} {f : Entity α} (distinct : (fs.map Entity.id).Nodup)
    (tiling : Layout.tiling entities = Layout.tiling fs)
    (compiled : compile entities (Layout.tiling entities) p c = .ok b) {l : LineSite}
    (among : l ∈ b.relation.lines) (present : f ∈ fs) (same : l.entity = f.id) :
    ∃ x₁ y₁ x₂ y₂, f.shape = .line x₁ y₁ x₂ y₂ ∧
      l.length (.ofArray (flat fs)) = Scalar.hypot (x₂ - x₁) (y₂ - y₁) := by
  obtain ⟨places, found, related, -, -, -⟩ := compile_eq_ok compiled
  obtain ⟨s, slot, line⟩ := (c.relation_lines p _).answer related l among
  obtain ⟨-, rfl⟩ := Constraint.line_eq_some line
  have placed := place?_of_slot tiling found slot same
  obtain ⟨before, after, rfl⟩ := List.append_of_mem present
  obtain ⟨kind, site⟩ := line_of_slot distinct placed line
  rw [site]
  cases shape : f.shape with
  | line x₁ y₁ x₂ y₂ => exact ⟨x₁, y₁, x₂, y₂, rfl, length_flat shape⟩
  | _ =>
      rw [Entity.kind, shape] at kind
      cases kind

theorem checkShape_eq_ok (distinct : (entities.map Entity.id).Nodup) {e : Entity α}
    (present : e ∈ entities) :
    checkShape c entities e.id = .ok () ↔ e.degeneracy? Tolerance.geometry = none := by
  unfold checkShape
  rw [find?_of_nodup distinct present, Option.bind_some]
  split
  · rename_i sound
    simp [sound]
  · rename_i endless
    simp [endless]
  · rename_i reason _ degenerate
    simp [degenerate]

theorem checkShape_of_found {e : Entity α} {id : Int}
    (found : entities.find? (·.id == id) = some e)
    (sound : e.degeneracy? Tolerance.geometry = none) : checkShape c entities id = .ok () := by
  rw [checkShape, found, Option.bind_some, sound]

/-- A shape that is refused is that of an entity, and the fault tells why. -/
theorem checkShape_eq_error {id : Int} {fault : Fault α}
    (refused : checkShape c entities id = .error fault) :
    ∃ e ∈ entities, e.id = id ∧ ∃ reason, e.degeneracy? Tolerance.geometry = some reason ∧
      fault = c.refusal id reason := by
  unfold checkShape at refused
  cases found : entities.find? (·.id == id) with
  | none =>
      rw [found] at refused
      cases refused
  | some e =>
      refine ⟨e, List.mem_of_find?_eq_some found, by simpa using List.find?_some found, ?_⟩
      rw [found, Option.bind_some] at refused
      cases degenerate : e.degeneracy? Tolerance.geometry with
      | none =>
          rw [degenerate] at refused
          cases refused
      | some reason =>
          rw [degenerate] at refused
          refine ⟨reason, rfl, ?_⟩
          cases reason with
          | _ =>
              cases refused
              rfl

/-- **Binding refuses degenerate entities** where a relation watches them. -/
theorem degeneracy?_of_compiled (distinct : (entities.map Entity.id).Nodup)
    (compiled : compile entities layout p c = .ok b) {e : Entity α} (present : e ∈ entities)
    (watched : e.id ∈ b.relation.watched) : e.degeneracy? Tolerance.geometry = none := by
  obtain ⟨-, -, -, sound, -, -⟩ := compile_eq_ok compiled
  exact (checkShape_eq_ok distinct present).1 (sound e.id watched)

/-- At the geometry that a block was bound to, all its lines have a direction. -/
theorem compile_lines_long (distinct : (entities.map Entity.id).Nodup)
    (compiled : compile entities (Layout.tiling entities) p c = .ok b) :
    ∀ l ∈ b.relation.lines, ¬l.length (.ofArray (flat entities)) ≤ Tolerance.geometry := by
  intro l among
  obtain ⟨e, present, same⟩ := exists_line_entity compiled among
  obtain ⟨x₁, y₁, x₂, y₂, shape, length⟩ := line_entity distinct rfl compiled among present same
  have watched : e.id ∈ b.relation.watched := by
    unfold Relation.watched
    simp only [List.mem_append, List.mem_map]
    exact .inl (.inr ⟨l, among, same⟩)
  have fine := degeneracy?_of_compiled distinct compiled present watched
  rw [length]
  intro short
  rw [Entity.degeneracy?, shape, Shape.degeneracy?, if_pos short] at fine
  cases fine

end Block

/-! ## Problems -/

namespace Problem

variable {constraints : List (Constraint α)}

/-- What a prepared problem consists of, and what preparing it has tested. -/
theorem prepare_eq_ok {q : Problem α} (prepared : prepare entities constraints = .ok q) :
    (entities.map Entity.id).Nodup ∧ (constraints.map Constraint.id).Nodup ∧
      q.layout = Layout.tiling entities ∧ q.params = flat entities ∧
      constraints.mapM
        (Block.compile entities (Layout.tiling entities) (.ofArray (flat entities))) =
          .ok q.blocks := by
  unfold prepare at prepared
  obtain ⟨layout, laid, rest⟩ := bind_eq_ok.1 prepared
  obtain ⟨distinct, rfl⟩ := Layout.ofEntities_eq_ok.1 laid
  obtain ⟨params, written, rest⟩ := bind_eq_ok.1 rest
  obtain ⟨⟨⟩, numbered, rest⟩ := bind_eq_ok.1 rest
  obtain ⟨blocks, compiled, rest⟩ := bind_eq_ok.1 rest
  obtain ⟨mask, masked, rest⟩ := bind_eq_ok.1 rest
  rw [Layout.flatten_tiling distinct] at written
  cases written
  cases rest
  exact ⟨distinct, checkDistinct_eq_ok.1 numbered, rfl, rfl, compiled⟩

/-- A problem is prepared if no identifier occurs twice and every constraint can be bound. -/
theorem prepare_of_compiled {blocks : List (Block α)} (distinct : (entities.map Entity.id).Nodup)
    (numbered : (constraints.map Constraint.id).Nodup)
    (compiled : constraints.mapM
      (Block.compile entities (Layout.tiling entities) (.ofArray (flat entities))) = .ok blocks) :
    prepare entities constraints = .ok ⟨Layout.tiling entities, flat entities, blocks,
      freePositions (entities.flatMap Layout.maskOf).toArray⟩ := by
  unfold prepare
  refine bind_eq_ok.2 ⟨_, Layout.ofEntities_eq_ok.2 ⟨distinct, rfl⟩, ?_⟩
  refine bind_eq_ok.2 ⟨_, Layout.flatten_tiling distinct, ?_⟩
  refine bind_eq_ok.2 ⟨(), checkDistinct_eq_ok.2 numbered, bind_eq_ok.2 ⟨_, compiled, ?_⟩⟩
  exact bind_eq_ok.2 ⟨_, Layout.freeMask_tiling distinct, rfl⟩

/-- A problem is refused for the first constraint that cannot be bound, if no identifier occurs
twice. -/
theorem prepare_of_refused {fault : Fault α} (distinct : (entities.map Entity.id).Nodup)
    (numbered : (constraints.map Constraint.id).Nodup)
    (refused : constraints.mapM
      (Block.compile entities (Layout.tiling entities) (.ofArray (flat entities))) =
        .error fault) : prepare entities constraints = .error fault := by
  unfold prepare
  refine bind_eq_error.2 (.inr ⟨_, Layout.ofEntities_eq_ok.2 ⟨distinct, rfl⟩, ?_⟩)
  refine bind_eq_error.2 (.inr ⟨_, Layout.flatten_tiling distinct, ?_⟩)
  refine bind_eq_error.2 (.inr ⟨(), checkDistinct_eq_ok.2 numbered, ?_⟩)
  exact bind_eq_error.2 (.inl refused)

/-- A problem is refused for two constraints of one identifier, whether they can be bound or not. -/
theorem prepare_of_repeated (distinct : (entities.map Entity.id).Nodup)
    (repeated : ¬(constraints.map Constraint.id).Nodup) :
    ∃ c ∈ constraints,
      prepare entities constraints = .error (.duplicateConstraint c.identifier) := by
  obtain ⟨c, among, checked⟩ := checkDistinct_of_repeated repeated
  refine ⟨c, among, ?_⟩
  unfold prepare
  refine bind_eq_error.2 (.inr ⟨_, Layout.ofEntities_eq_ok.2 ⟨distinct, rfl⟩, ?_⟩)
  refine bind_eq_error.2 (.inr ⟨_, Layout.flatten_tiling distinct, ?_⟩)
  exact bind_eq_error.2 (.inl checked)

/-- There is one block for each constraint, in the same order. -/
theorem map_constraint_blocks {blocks : List (Block α)} {layout : Layout} {p : Valuation α}
    (compiled : constraints.mapM (Block.compile entities layout p) = .ok blocks) :
    blocks.map Block.constraint = constraints := by
  have steps := mapM_eq_ok.1 compiled
  clear compiled
  induction steps with
  | nil => rfl
  | cons first _ ih =>
      rw [List.map_cons, ih, Block.constraint_of_compiled first]

/-- The blocks of a prepared problem have the identifiers of their constraints. -/
theorem map_id_blocks {blocks : List (Block α)} {layout : Layout} {p : Valuation α}
    (compiled : constraints.mapM (Block.compile entities layout p) = .ok blocks) :
    blocks.map Block.id = constraints.map Constraint.id := by
  rw [← map_constraint_blocks compiled, List.map_map]
  rfl

theorem distinct_blocks {q : Problem α} (prepared : prepare entities constraints = .ok q) :
    (q.blocks.map Block.id).Nodup := by
  obtain ⟨-, numbered, -, -, compiled⟩ := prepare_eq_ok prepared
  rwa [map_id_blocks compiled]

theorem distinct_driving {q : Problem α} (prepared : prepare entities constraints = .ok q)
    (step : α) : ((q.driving step).blocks.map Block.id).Nodup :=
  (distinct_blocks prepared).sublist (List.filter_sublist.map Block.id)

/-- The free positions of a prepared problem are those of the entities that may be moved. -/
theorem free_of_prepared {q : Problem α} (prepared : prepare entities constraints = .ok q) :
    q.free = freePositions (entities.flatMap Layout.maskOf).toArray := by
  obtain ⟨distinct, numbered, -, -, compiled⟩ := prepare_eq_ok prepared
  rw [prepare_of_compiled distinct numbered compiled] at prepared
  exact (congrArg Problem.free (Except.ok.inj prepared)).symm

end Problem

/-! ## Failures -/

section Failures

open Spares (bind error ok of_eq_ok)

theorem Constraint.check_spares (c : Constraint α) : Spares (fun _ => True) c.check := by
  unfold Constraint.check
  split
  · exact error not_false
  · split
    · exact error not_false
    · unfold Constraint.checkValue
      split
      · exact ok trivial
      · exact error not_false
      · exact error not_false
      · split
        · exact error not_false
        · split
          · exact error not_false
          · split
            · exact error not_false
            · exact ok trivial

namespace Block

variable {c : Constraint α}

theorem checkShape_spares (id : Int) : Spares (fun _ => True) (checkShape c entities id) := by
  unfold checkShape
  split
  · exact ok trivial
  · exact error not_false
  · exact error not_false

/-- A constraint whose entities are all there finds their places. -/
theorem placesOf_spares (distinct : (entities.map Entity.id).Nodup)
    (known : ∀ id ∈ c.entityIds, id ∈ entities.map Entity.id) :
    Spares (fun _ => True) (placesOf c entities (Layout.tiling entities)) := by
  obtain ⟨places, found⟩ := (exists_placesOf distinct).2 known
  exact of_eq_ok found trivial

theorem compile_spares (distinct : (entities.map Entity.id).Nodup)
    (known : ∀ id ∈ c.entityIds, id ∈ entities.map Entity.id) (p : Valuation α) :
    Spares (fun _ => True) (compile entities (Layout.tiling entities) p c) :=
  bind c.check_spares fun _ _ =>
    bind (placesOf_spares distinct known) fun places _ =>
      bind (c.relation_lines p (slotsOf c places)) fun _ _ =>
        bind (Spares.forM fun id _ => checkShape_spares id) fun _ _ => ok trivial

end Block

/-- Preparation does not fail for the sake of an identifier, if identifiers differ and constraints
name entities that are there. -/
theorem Problem.prepare_spares {constraints : List (Constraint α)}
    (distinct : (entities.map Entity.id).Nodup)
    (numbered : (constraints.map Constraint.id).Nodup)
    (known : ∀ c ∈ constraints, ∀ id ∈ c.entityIds, id ∈ entities.map Entity.id) :
    Spares (fun _ => True) (prepare entities constraints) := by
  unfold prepare
  have laid : Layout.ofEntities entities = .ok (Layout.tiling entities) :=
    Layout.ofEntities_eq_ok.2 ⟨distinct, rfl⟩
  refine bind (of_eq_ok (P := fun layout => layout = Layout.tiling entities) laid rfl) ?_
  rintro layout rfl
  refine bind (of_eq_ok (P := fun _ => True) (Layout.flatten_tiling distinct) trivial) ?_
  intro _ _
  refine bind (of_eq_ok (P := fun _ => True) (checkDistinct_eq_ok.2 numbered) trivial) ?_
  intro _ _
  refine bind (Spares.mapM fun c among => Block.compile_spares distinct (known c among) _)
    fun _ _ => ?_
  exact bind (of_eq_ok (P := fun _ => True) (Layout.freeMask_tiling distinct) trivial)
    fun _ _ => ok trivial

end Failures

end PlanarSketch
