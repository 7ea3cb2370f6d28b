import PlanarSketch.Proofs.Relation.Branches
import PlanarSketch.Proofs.Solve.Blocks

/-!
# Writing parameters back

A solution is applied to the entities that it was computed for.  Each entity takes its own
stretch of the parameters and keeps identifier, kind and mark (`Entity.Matches`), so flattening
the changed entities yields the parameters of the solution (`Solution.apply_spec`), and their
layout is the one of the entities before.

A problem that is prepared again over the changed entities therefore differs in its start and
in the branches of its relations, and in nothing else (`Problem.prepare_applied`).
-/

namespace PlanarSketch

set_option autoImplicit false

open Outcome

variable {α : Type}

theorem Shape.ofParams?_eq_some {kind : EntityKind} {params : List α} {shape : Shape α}
    (found : ofParams? kind params = some shape) : shape.kind = kind ∧ shape.params = params := by
  unfold ofParams? at found
  split at found
  · cases found
    exact ⟨rfl, rfl⟩
  · cases found
    exact ⟨rfl, rfl⟩
  · cases found
    exact ⟨rfl, rfl⟩
  · cases found
    exact ⟨rfl, rfl⟩
  · cases found

/-- Any parameters of the right number are those of a shape. -/
theorem Shape.exists_ofParams? {kind : EntityKind} {params : List α}
    (size : params.length = kind.paramCount) : ∃ shape, ofParams? kind params = some shape := by
  match kind, params, size with
  | .point, [x, y], _ => exact ⟨.point x y, rfl⟩
  | .line, [x₁, y₁, x₂, y₂], _ => exact ⟨.line x₁ y₁ x₂ y₂, rfl⟩
  | .circle, [cx, cy, r], _ => exact ⟨.circle cx cy r, rfl⟩
  | .arc, [cx, cy, r, start, stop], _ => exact ⟨.arc cx cy r start stop, rfl⟩

variable [Scalar α]

/-- Two entities that may differ in their parameters only. -/
structure Entity.Matches (a b : Entity α) : Prop where
  id : a.id = b.id
  kind : a.kind = b.kind
  fixed : a.fixed = b.fixed

theorem Entity.withParams_eq_ok {e changed : Entity α} {params : List α}
    (made : e.withParams params = .ok changed) : changed.Matches e ∧ changed.params = params := by
  unfold withParams make at made
  split at made
  · cases made
  · rename_i shape found
    obtain ⟨kind, same⟩ := Shape.ofParams?_eq_some found
    split at made
    · cases made
      exact ⟨⟨rfl, kind, rfl⟩, same⟩
    · cases made

/-- An entity takes any ordinary numbers as parameters, if they are as many as it has. -/
theorem Entity.exists_withParams {e : Entity α} {params : List α}
    (finite : ∀ x ∈ params, Scalar.isFinite x = true) (size : params.length = e.kind.paramCount) :
    ∃ changed, e.withParams params = .ok changed := by
  obtain ⟨shape, found⟩ := Shape.exists_ofParams? size
  have ordinary : shape.isFinite = true := by
    rw [← (Shape.ofParams?_eq_some found).2] at finite
    exact List.all_eq_true.2 finite
  unfold withParams make
  rw [found]
  exact ⟨_, dif_pos ordinary⟩

/-! ## Layouts of matching entities -/

namespace Layout

variable {es fs : List (Entity α)}

theorem length_params_of_matches {a b : Entity α} (same : a.Matches b) :
    a.params.length = b.params.length := by
  rw [length_params, length_params, same.kind]

theorem tiled_of_matches (start : Nat) (same : List.Forall₂ Entity.Matches es fs) :
    tiled start es = tiled start fs := by
  induction same generalizing start with
  | nil => rfl
  | cons first _ ih => rw [tiled, tiled, first.id, first.kind, length_params_of_matches first, ih]

theorem extent_of_matches (same : List.Forall₂ Entity.Matches es fs) : extent es = extent fs := by
  induction same with
  | nil => rfl
  | cons first _ ih => rw [extent_cons, extent_cons, length_params_of_matches first, ih]

theorem tiling_of_matches (same : List.Forall₂ Entity.Matches es fs) : tiling es = tiling fs := by
  rw [tiling, tiling, tiled_of_matches 0 same, extent_of_matches same]

theorem maskOf_of_matches (same : List.Forall₂ Entity.Matches es fs) :
    es.flatMap maskOf = fs.flatMap maskOf := by
  induction same with
  | nil => rfl
  | cons first _ ih =>
      rw [List.flatMap_cons, List.flatMap_cons, ih, maskOf, maskOf, length_params_of_matches first,
        Entity.isFixed, Entity.isFixed, first.fixed]

end Layout

theorem map_id_of_matches {es fs : List (Entity α)} (same : List.Forall₂ Entity.Matches es fs) :
    es.map Entity.id = fs.map Entity.id := by
  induction same with
  | nil => rfl
  | cons first _ ih => rw [List.map_cons, List.map_cons, first.id, ih]

theorem exists_split_of_matches {before after fs : List (Entity α)} {e : Entity α}
    (same : List.Forall₂ Entity.Matches (before ++ e :: after) fs) :
    ∃ before' f after', fs = before' ++ f :: after' ∧
      List.Forall₂ Entity.Matches before before' ∧ e.Matches f := by
  induction before generalizing fs with
  | nil =>
      obtain ⟨f, after', first, -, rfl⟩ := List.forall₂_cons_left_iff.1 same
      exact ⟨[], f, after', rfl, .nil, first⟩
  | cons d before ih =>
      obtain ⟨g, rest, first, others, rfl⟩ := List.forall₂_cons_left_iff.1 same
      obtain ⟨before', f, after', rfl, behind, matched⟩ := ih others
      exact ⟨g :: before', f, after', rfl, .cons first behind, matched⟩

/-! ## Solutions that are applied -/

namespace Solution

variable {s : Solution α}

/-- Entities behind others take the parameters behind those of the others. -/
theorem apply_behind (before : List (Entity α)) {after changed : List (Entity α)}
    (layout : s.layout = Layout.tiling (before ++ after))
    (distinct : ((before ++ after).map Entity.id).Nodup) (written : s.apply after = .ok changed) :
    List.Forall₂ Entity.Matches changed after ∧
      changed.flatMap Entity.params =
        (s.params.toList.drop (Layout.extent before)).take (Layout.extent after) := by
  -- The entities that have been written move to the end of `before`; the layout stays.
  induction after generalizing before changed with
  | nil =>
      cases mapM_eq_ok.1 written
      exact ⟨.nil, by simp [Layout.extent]⟩
  | cons e after ih =>
      obtain ⟨first, rest, made, others, rfl⟩ := List.forall₂_cons_left_iff.1 (mapM_eq_ok.1 written)
      have regroup : before ++ e :: after = (before ++ [e]) ++ after := by simp
      have place : s.layout.place? e.id = some ⟨e.id, e.kind, Layout.extent before⟩ := by
        rw [layout, Layout.place?_split distinct]
      rw [applyTo, place] at made
      obtain ⟨same, params⟩ := Entity.withParams_eq_ok made
      rw [regroup] at layout distinct
      obtain ⟨matching, values⟩ := ih (before ++ [e]) layout distinct (mapM_eq_ok.2 others)
      refine ⟨.cons same matching, ?_⟩
      have behind : Layout.extent (before ++ [e]) = Layout.extent before + e.params.length := by
        simp [Layout.extent]
      rw [List.flatMap_cons, values, params, behind, Layout.extent_cons, Layout.read,
        ← List.drop_drop, ← Layout.length_params, List.take_add]

/-- **An applied solution is written back as it is**: the entities keep what is not a parameter, and
their parameters are those of the solution. -/
theorem apply_spec {entities applied : List (Entity α)}
    (layout : s.layout = Layout.tiling entities) (size : s.params.size = Layout.extent entities)
    (distinct : (entities.map Entity.id).Nodup) (written : s.apply entities = .ok applied) :
    List.Forall₂ Entity.Matches applied entities ∧ flat applied = s.params := by
  obtain ⟨matching, values⟩ := apply_behind [] layout distinct written
  refine ⟨matching, ?_⟩
  have start : Layout.extent ([] : List (Entity α)) = 0 := rfl
  rw [flat, values, start, List.drop_zero, ← size, ← Array.length_toList, List.take_length]

/-- A solution made of ordinary numbers can be applied to each of its entities. -/
theorem exists_applyTo (finite : ∀ x ∈ s.params.toList, Scalar.isFinite x = true)
    {entities : List (Entity α)} (layout : s.layout = Layout.tiling entities)
    (size : s.params.size = Layout.extent entities) (distinct : (entities.map Entity.id).Nodup)
    {e : Entity α} (present : e ∈ entities) : ∃ applied, s.applyTo e = .ok applied := by
  obtain ⟨before, after, rfl⟩ := List.append_of_mem present
  have place := Layout.place?_split distinct
  have bounds := Layout.bounds_of_mem_tiled (Block.place?_eq_some place).1
  rw [applyTo, layout, place]
  refine Entity.exists_withParams (fun x among => finite x ?_) (Layout.length_read (by omega))
  exact List.mem_of_mem_drop (List.mem_of_mem_take among)

/-- A solution made of ordinary numbers can be applied. -/
theorem exists_apply (finite : ∀ x ∈ s.params.toList, Scalar.isFinite x = true)
    {entities : List (Entity α)} (layout : s.layout = Layout.tiling entities)
    (size : s.params.size = Layout.extent entities) (distinct : (entities.map Entity.id).Nodup) :
    ∃ applied, s.apply entities = .ok applied :=
  exists_mapM fun _ present => exists_applyTo finite layout size distinct present

end Solution

namespace Solution

/-- An entity that has been written is written again as it is. -/
theorem applyTo_again {s : Solution α} {e changed : Entity α} (made : s.applyTo e = .ok changed) :
    s.applyTo changed = .ok changed := by
  unfold applyTo at made ⊢
  cases placed : s.layout.place? e.id with
  | none =>
      rw [placed] at made
      cases made
      rw [placed]
  | some place =>
      rw [placed] at made
      obtain ⟨same, -⟩ := Entity.withParams_eq_ok made
      rw [same.id, placed]
      unfold Entity.withParams at made ⊢
      rwa [same.id, same.kind, same.fixed]

/-- **Writing back a second time changes nothing.** -/
theorem apply_again {s : Solution α} {entities applied : List (Entity α)}
    (written : s.apply entities = .ok applied) : s.apply applied = .ok applied := by
  refine mapM_eq_ok.2 (List.forall₂_same.2 fun f among => ?_)
  obtain ⟨e, -, made⟩ := exists_of_mem_mapM written among
  exact applyTo_again made

/-- Only the parameters of a solution and their layout are written. -/
theorem apply_congr {s t : Solution α} (layout : s.layout = t.layout) (params : s.params = t.params)
    (entities : List (Entity α)) : s.apply entities = t.apply entities := by
  unfold apply applyTo
  rw [layout, params]

end Solution

/-! ## Problems that are prepared again -/

namespace Block

/-- The same block with the branch of another geometry. -/
def redrawn (p : Valuation α) (b : Block α) : Block α :=
  { b with relation := b.relation.redrawn p }

variable {es fs : List (Entity α)} {layout : Layout} {p q : Valuation α} {c : Constraint α}
variable {b : Block α}

/-- Places are looked up by identifier. -/
theorem placesOf_congr (same : es.map Entity.id = fs.map Entity.id) (c : Constraint α)
    (layout : Layout) : placesOf c es layout = placesOf c fs layout := by
  have there (id : Int) :
      (es.find? (·.id == id)).isSome = (fs.find? (·.id == id)).isSome := by
    have listed (gs : List (Entity α)) :
        (gs.find? (·.id == id)).isSome = true ↔ id ∈ gs.map Entity.id := by
      simp
    rw [Bool.eq_iff_iff, listed, listed, same]
  unfold placesOf
  congr 1
  funext id
  have both := there id
  cases first : es.find? (·.id == id) with
  | none =>
      rw [first] at both
      rw [Option.isNone_iff_eq_none.1 (Option.isSome_eq_false_iff.1 both.symm)]
  | some e =>
      rw [first] at both
      obtain ⟨f, second⟩ := Option.isSome_iff_exists.1 both.symm
      rw [second]
      cases layout.place? id with
      | none => rfl
      | some place => rfl

/-- A constraint that has been bound is bound again, unless an entity that is watched has become
degenerate. -/
theorem compile_again (compiled : compile es layout p c = .ok b)
    (same : fs.map Entity.id = es.map Entity.id) (q : Valuation α) :
    compile fs layout q c =
      b.relation.watched.forM (checkShape c fs) >>= fun _ => .ok (b.redrawn q) := by
  unfold compile at compiled ⊢
  obtain ⟨_, checked, rest⟩ := bind_eq_ok.1 compiled
  obtain ⟨places, found, rest⟩ := bind_eq_ok.1 rest
  obtain ⟨relation, related, rest⟩ := bind_eq_ok.1 rest
  obtain ⟨_, -, rest⟩ := bind_eq_ok.1 rest
  cases rest
  rw [checked, placesOf_congr same, found]
  change (c.relation q (slotsOf c places) >>= _) = _
  rw [Constraint.relation_redrawn related q]
  change (((relation.redrawn q).watched.forM (checkShape c fs)) >>= _) = _
  rw [Relation.watched_redrawn]
  rfl

/-- The tests that bound constraints have to pass to be bound again. -/
def checkWatched (entities : List (Entity α)) (b : Block α) : Except (Fault α) Unit :=
  b.relation.watched.forM (checkShape b.constraint entities)

theorem mapM_compile_again {constraints : List (Constraint α)} {blocks : List (Block α)}
    (compiled : constraints.mapM (compile es layout p) = .ok blocks)
    (same : fs.map Entity.id = es.map Entity.id) (q : Valuation α) :
    constraints.mapM (compile fs layout q) =
      blocks.forM (checkWatched fs) >>= fun _ => .ok (blocks.map (redrawn q)) := by
  have steps := mapM_eq_ok.1 compiled
  clear compiled
  induction steps with
  | nil => rfl
  | @cons c b _ bs first _ ih =>
      have origin := constraint_of_compiled first
      have all : (b :: bs).forM (checkWatched fs) =
          checkWatched fs b >>= fun _ => bs.forM (checkWatched fs) := rfl
      rw [List.mapM_cons, ih, compile_again first same q, all, checkWatched, origin]
      cases b.relation.watched.forM (checkShape c fs) with
      | error fault => rfl
      | ok _ =>
          cases bs.forM (checkWatched fs) with
          | error fault => rfl
          | ok _ => rfl

end Block

namespace Problem

variable {entities applied : List (Entity α)} {constraints : List (Constraint α)} {q : Problem α}

/-- The same problem over the entities that have been written back. -/
def redrawn (q : Problem α) (params : Array α) : Problem α :=
  ⟨q.layout, params, q.blocks.map (Block.redrawn (.ofArray params)), q.free⟩

/-- **A problem is prepared again**, from the same blocks with branches chosen anew, unless an
entity that is watched has become degenerate. -/
theorem prepare_applied (prepared : prepare entities constraints = .ok q)
    (same : List.Forall₂ Entity.Matches applied entities) :
    prepare applied constraints =
      q.blocks.forM (Block.checkWatched applied) >>= fun _ => .ok (q.redrawn (flat applied)) := by
  obtain ⟨distinct, numbered, -, -, compiled⟩ := prepare_eq_ok prepared
  have whole := prepare_of_compiled distinct numbered compiled
  rw [prepared] at whole
  have ids := map_id_of_matches same
  have again := Block.mapM_compile_again compiled ids (.ofArray (flat applied))
  have tiling := Layout.tiling_of_matches same
  rw [Except.ok.inj whole]
  cases checked : q.blocks.forM (Block.checkWatched applied) with
  | ok _ =>
      rw [checked, ← tiling] at again
      rw [prepare_of_compiled (by rwa [ids]) numbered again, Layout.maskOf_of_matches same, tiling]
      rfl
  | error fault =>
      rw [checked, ← tiling] at again
      unfold prepare
      refine bind_eq_error.2 (.inr ⟨_, Layout.ofEntities_eq_ok.2 ⟨by rwa [ids], rfl⟩, ?_⟩)
      refine bind_eq_error.2 (.inr ⟨_, Layout.flatten_tiling (by rwa [ids]), ?_⟩)
      refine bind_eq_error.2 (.inr ⟨(), checkDistinct_eq_ok.2 numbered, ?_⟩)
      exact bind_eq_error.2 (.inl again)

end Problem

end PlanarSketch
