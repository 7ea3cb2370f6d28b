import PlanarSketch.Proofs.Conflict.Symmetry
import PlanarSketch.Proofs.Descent.Reordering
import PlanarSketch.Proofs.Layout.Relocation
import PlanarSketch.Proofs.Solve.Nearest
import PlanarSketch.Proofs.Solve.References

/-!
# Order does not matter

The order in which entities are listed decides where their parameters stand, and the order of the
constraints decides which rows their equations take.  With an exact engine nothing else depends on
either: a sketch whose entities and constraints are listed in another order is solved by the same
steps, to the same parameters of each entity, with the same diagnosis and the same conflicts
(`order_never_matters`).

Both orders are exchanged at once.  The blocks of the two problems are each other's renamings, in
another order (`Problem.Relocated`); their descents run side by side; and what is reported is read
by identifiers.
-/

namespace PlanarSketch

set_option autoImplicit false

open Outcome

/-! ## Binding -/

theorem Block.slotsOf_map_rename {α : Type} (f : ℕ → ℕ) (c : Constraint α) (places : List Place) :
    slotsOf c (places.map (Place.rename f)) = (slotsOf c places).map (Slot.rename f) := by
  unfold slotsOf
  rw [List.zipIdx_map, List.map_map, List.map_map]
  rfl

section Relocation

variable {ρ : Equiv.Perm ℕ} {entities entities' : List (Entity ℝ)}

theorem Layout.Relocates.carries (relocates : Relocates ρ entities entities') :
    Carries ρ (flat entities) (flat entities') := by
  intro i
  rw [flat, flat, List.getElem?_toArray, List.getElem?_toArray]
  exact relocates.getElem?_flatMap 0 (fun _ => rfl) i

/-- **The places of a constraint are moved** when entities are listed in another order. -/
theorem Block.placesOf_relocated (relocates : Layout.Relocates ρ entities entities')
    (same : entities.Perm entities') (distinct : (entities'.map Entity.id).Nodup)
    {c : Constraint ℝ} {places : List Place}
    (found : placesOf c entities (Layout.tiling entities) = .ok places) :
    placesOf c entities' (Layout.tiling entities') = .ok (places.map (Place.rename ρ)) ∧
      ∀ place ∈ places, place.Follows ρ := by
  have located := relocates.place?_eq distinct same
  constructor
  · refine mapM_eq_ok.2 (List.forall₂_map_right_iff.2 ((mapM_eq_ok.1 found).imp ?_))
    intro id place placed
    rw [find?_perm same ((same.map _).nodup_iff.2 distinct), (located id).1]
    split at placed
    · rename_i e there present
      cases placed
      rw [there, present]
      rfl
    · cases placed
  · intro place among
    obtain ⟨id, -, placed⟩ := exists_of_mem_mapM found among
    split at placed
    · rename_i there
      cases placed
      exact (located id).2 _ there
    · cases placed

/-- **A constraint that is bound to entities is bound to them in another order**, at their
places. -/
theorem Block.exists_renames (relocates : Layout.Relocates ρ entities entities')
    (same : entities.Perm entities') (distinct : (entities'.map Entity.id).Nodup)
    {c : Constraint ℝ} {b : Block ℝ} (bound : c.BoundTo entities b) :
    ∃ b', c.BoundTo entities' b' ∧ b.Renames ρ b' := by
  obtain ⟨places, found, related, sound, rfl, positions⟩ := compile_eq_ok bound
  obtain ⟨found', follow⟩ := placesOf_relocated relocates same distinct found
  -- The branch that a constraint lies on is read off the same values, at other positions.
  have follows : ∀ s ∈ slotsOf b.constraint places, s.place.Follows ρ := fun s slot =>
    follow _ (map_place_slotsOf b.constraint places ▸ List.mem_map_of_mem slot)
  rw [← relocates.carries.ofArray] at related
  have related' := Constraint.relation_rename related follows
  rw [← slotsOf_map_rename] at related'
  have sound' : ∀ id ∈ (b.relation.rename ρ).watched,
      checkShape b.constraint entities' id = .ok () := by
    intro id among
    rw [Relation.watched_rename] at among
    have fine := sound id among
    unfold checkShape at fine ⊢
    rwa [find?_perm same ((same.map _).nodup_iff.2 distinct)]
  refine ⟨_, compile_of_steps (check_of_compiled bound) found' related' sound', ?_⟩
  exact
    { constraint := rfl
      relation := rfl
      follows := (Constraint.binds_of_relation related).follows follows
      positions := fun i => by
        rw [positions]
        exact relocates.mem_coveredBy_iff follow i
      nodup := positions ▸ List.nodup_range.filter _
      nodup_renamed := List.nodup_range.filter _ }

end Relocation

/-! ## Problems -/

/-- The same problem with its entities and constraints in another order. -/
structure Problem.Relocated (ρ : Equiv.Perm ℕ) (q q' : Problem ℝ) : Prop where
  params : Carries ρ q.params q'.params
  blocks : ∃ renamed, List.Forall₂ (Block.Renames ρ) q.blocks renamed ∧ renamed.Perm q'.blocks
  numbered : (q.blocks.map Block.id).Nodup
  free : q'.free.Perm (q.free.map ρ)
  distinct : q.free.Nodup
  places : ∀ id, q'.layout.place? id = (q.layout.place? id).map (Place.rename ρ) ∧
    ∀ place, q.layout.place? id = some place → place.Follows ρ

theorem exists_forall₂ {β γ δ : Type*} {P : β → γ → Prop} {Q : β → δ → Prop} {R : γ → δ → Prop}
    {xs : List β} {ys : List γ} (pairs : List.Forall₂ P xs ys)
    (third : ∀ x y, P x y → ∃ z, Q x z ∧ R y z) :
    ∃ zs, List.Forall₂ Q xs zs ∧ List.Forall₂ R ys zs := by
  induction pairs with
  | nil => exact ⟨[], .nil, .nil⟩
  | @cons x y _ _ pair _ ih =>
      obtain ⟨z, first, second⟩ := third x y pair
      obtain ⟨zs, firsts, seconds⟩ := ih
      exact ⟨z :: zs, .cons first firsts, .cons second seconds⟩

namespace Problem

variable {entities entities' : List (Entity ℝ)} {constraints constraints' : List (Constraint ℝ)}
variable {q q' : Problem ℝ}

/-- **A problem that can be prepared can be prepared in another order.** -/
theorem exists_relocated (sameEntities : entities.Perm entities')
    (sameConstraints : constraints.Perm constraints')
    (prepared : prepare entities constraints = .ok q) :
    ∃ ρ q', prepare entities' constraints' = .ok q' ∧ q.Relocated ρ q' := by
  obtain ⟨named, numbered, layout, params, compiled⟩ := prepare_eq_ok prepared
  have named' := (sameEntities.map Entity.id).nodup_iff.1 named
  have numbered' := (sameConstraints.map Constraint.id).nodup_iff.1 numbered
  obtain ⟨ρ, relocates⟩ := Layout.exists_relocates sameEntities
  -- The blocks in the old order of constraints first, then in the new one.
  obtain ⟨renamed, binds, renames⟩ := exists_forall₂ (mapM_eq_ok.1 compiled) fun c b bound =>
    Block.exists_renames relocates sameEntities named' bound
  obtain ⟨blocks, binds', same⟩ := List.perm_comp_forall₂ sameConstraints.symm binds
  refine ⟨ρ, _, prepare_of_compiled named' numbered' (mapM_eq_ok.2 binds'), ?_⟩
  exact
    { params := params ▸ relocates.carries
      blocks := ⟨renamed, renames, same.symm⟩
      numbered := distinct_blocks prepared
      free := free_of_prepared prepared ▸ relocates.free_perm
      distinct := nodup_free prepared
      places := layout ▸ relocates.place?_eq named' sameEntities }

namespace Relocated

variable {ρ : Equiv.Perm ℕ} (relocated : q.Relocated ρ q')

include relocated

theorem reporting (step : ℝ) : System.Reordered ρ (q.reporting step) (q'.reporting step) :=
  ⟨rfl, relocated.numbered, relocated.blocks⟩

theorem driving (step : ℝ) : System.Reordered ρ (q.driving step) (q'.driving step) := by
  obtain ⟨renamed, renames, same⟩ := relocated.blocks
  refine ⟨rfl, relocated.numbered.sublist (List.filter_sublist.map _),
    renamed.filter fun b => b.constraint.isDriving, ?_, same.filter _⟩
  refine List.rel_filter (fun b b' renames => ?_) renames
  exact iff_of_eq (congrArg (fun c => c.isDriving = true) renames.constraint.symm)

theorem reorders {engine : Engine ℝ} (exact : engine.Exact) (step : ℝ) :
    Descent.Reorders ρ engine (q.driving step) (q'.driving step) q.free q'.free :=
  ⟨exact, relocated.driving step, relocated.free, relocated.distinct⟩

/-- **The descents over a problem in two orders** end at the same parameters in the same way, after
as many steps. -/
theorem descent {engine : Engine ℝ} (exact : engine.Exact) (o : Options ℝ) :
    Descent.Beside ρ (q.driving o.differenceStep) (q'.driving o.differenceStep)
        (q.descent engine o).final (q'.descent engine o).final ∧
      (q'.descent engine o).iterations = (q.descent engine o).iterations ∧
      (q'.descent engine o).ending = (q.descent engine o).ending :=
  (relocated.reorders exact o.differenceStep).run relocated.params

/-- The parameters of an entity are read at its place. -/
theorem read_eq {params params' : Array ℝ} (carries : Carries ρ params params') (id : ℤ) :
    (q'.layout.place id : Except (Fault ℝ) Place).map (Layout.read params') =
      (q.layout.place id).map (Layout.read params) := by
  obtain ⟨moved, follows⟩ := relocated.places id
  unfold Layout.place
  rw [moved]
  cases found : q.layout.place? id with
  | none => rfl
  | some place =>
      have together := follows place found
      refine congrArg Except.ok (List.ext_getElem? fun k => ?_)
      unfold Layout.read
      rw [List.getElem?_take, List.getElem?_take, List.getElem?_drop, List.getElem?_drop,
        Array.getElem?_toList, Array.getElem?_toList]
      change (if k < place.kind.paramCount then params'[ρ place.offset + k]? else none) = _
      by_cases inside : k < place.kind.paramCount
      · rw [if_pos inside, if_pos inside, ← together k inside, carries]
      · rw [if_neg inside, if_neg inside]

end Relocated

end Problem

/-- What is reported under an identifier does not depend on order. -/
theorem System.Reordered.find?_discrepancies {ρ : Equiv.Perm ℕ} {s s' : System ℝ}
    (reordered : Reordered ρ s s') (p : Valuation ℝ) (id : ℤ) :
    Discrepancy.find? id (s'.discrepancies p) =
      Discrepancy.find? id (s.discrepancies (p ∘ ρ)) := by
  obtain ⟨renamed, renames, same⟩ := reordered.blocks
  have readings : s.blocks.map (Block.reading (p ∘ ρ)) = renamed.map (Block.reading p) := by
    refine map_eq_of_forall₂ (renames.imp fun b b' renames => ?_)
    rw [Block.reading, Block.reading, renames.residual, renames.constraint]
  have keys : ((s.blocks.map (Block.reading (p ∘ ρ))).map fun e => e.1.value).Nodup := by
    rw [List.map_map]
    exact reordered.numbered
  unfold Discrepancy.find?
  rw [discrepancies_eq_map reordered.numbered,
    discrepancies_eq_map reordered.numbered_reordered]
  rw [readings] at keys ⊢
  rw [find?_perm (same.map _) keys]

/-! ## Two points that shall coincide -/

namespace Levelling

/-- The demand that the two points are above one another. -/
noncomputable def upright : Constraint ℝ := ⟨.whole 1, .vertical, [0, 1], none, [], .of true⟩

/-- The problem of two points that shall be both level and above one another. -/
noncomputable def squeezed : Problem ℝ :=
  ⟨Layout.tiling entities, flat entities,
    [block, ⟨upright, .plumb ⟨0, 0, .point, .own⟩ ⟨1, 2, .point, .own⟩, [0, 1, 2, 3]⟩],
    [0, 1, 2, 3]⟩

theorem prepare_squeezed : Problem.prepare entities [constraint, upright] = .ok squeezed := by
  have distinct : (entities.map Entity.id).Nodup := by
    change ([0, 1] : List Int).Nodup
    decide
  have numbered : ([constraint, upright].map Constraint.id).Nodup := by
    change ([0, 1] : List Int).Nodup
    decide
  exact Problem.prepare_of_compiled distinct numbered
    (Outcome.mapM_eq_ok.2 (.cons rfl (.cons rfl .nil)))

theorem isAffine_squeezed : squeezed.IsAffine := by
  intro b present _
  rcases List.mem_pair.1 present with rfl | rfl
  · exact ⟨⟨rfl, rfl⟩, not_false⟩
  · exact ⟨⟨rfl, rfl⟩, not_false⟩

end Levelling

/-! ## Solving -/

/-- That two solutions are the same for a reader who asks by identifiers, up to the order of the
conflicts and of their sides. -/
structure Solution.SameByIdentifier (s s' : Solution ℝ) : Prop where
  success : s'.success = s.success
  iterations : s'.iterations = s.iterations
  norm : s'.norm = s.norm
  diagnosis : s'.diagnosis = s.diagnosis
  equations : s'.equations = s.equations
  freeParams : s'.freeParams = s.freeParams
  statistics : s'.statistics = s.statistics
  tolerance : s'.tolerance = s.tolerance
  params : ∀ id, s'.paramsOf id = s.paramsOf id
  discrepancies : ∀ id,
    Discrepancy.find? id s'.discrepancies = Discrepancy.find? id s.discrepancies
  conflicts : Conflict.SameUpToOrder s.conflicts s'.conflicts

variable {engine : Engine ℝ} {o : Options ℝ} {entities entities' : List (Entity ℝ)}
variable {constraints constraints' : List (Constraint ℝ)} {q q' : Problem ℝ}

/-- The ends of the two descents have one diagnosis. -/
theorem Problem.Relocated.diagnose_eq {ρ : Equiv.Perm ℕ} (relocated : q.Relocated ρ q')
    (exact : engine.Exact) (o : Options ℝ) :
    q'.diagnose engine o (q'.descent engine o) = q.diagnose engine o (q.descent engine o) := by
  have reorders := relocated.reorders exact o.differenceStep
  have reordered := relocated.driving o.differenceStep
  obtain ⟨⟨params, params', carries, final, final'⟩, -, ending⟩ := relocated.descent exact o
  have stalled : (q'.descent engine o).hasStalled = (q.descent engine o).hasStalled := by
    rw [Descent.hasStalled, Descent.hasStalled, ending]
  unfold diagnose
  rw [stalled, System.checkJacobian_eq_ok _ _ reordered.numbered,
    System.checkJacobian_eq_ok _ _ reordered.numbered_reordered]
  congr 1
  funext stalled
  change Diagnosis.classify _ _ _ = Diagnosis.classify _ _ _
  -- Both diagnoses read one table, whose rows and columns they list in two orders.
  obtain ⟨E, rows, residual, residual', table, table'⟩ := reordered.exists_table (.ofArray params')
  rw [carries.ofArray] at residual table
  have norm := reorders.norm_eq carries
  have state : q.finalState o (q.descent engine o) stalled =
      ⟨normBelow ((q.driving o.differenceStep).iterate params).norm o.tolerance, stalled,
        E.map (System.valueOf (.ofArray params')),
        grid E (q.free.map ρ)
          (System.slopeOf (q'.driving o.differenceStep).step (.ofArray params')),
        (q.free.map ρ).length⟩ := by
    rw [← residual, ← table, List.length_map, finalState, final]
    rfl
  have state' : q'.finalState o (q'.descent engine o) stalled =
      ⟨normBelow ((q.driving o.differenceStep).iterate params).norm o.tolerance, stalled,
        (q'.driving o.differenceStep).equations.map (System.valueOf (.ofArray params')),
        grid (q'.driving o.differenceStep).equations q'.free
          (System.slopeOf (q'.driving o.differenceStep).step (.ofArray params')),
        q'.free.length⟩ := by
    rw [← residual', ← table', finalState, final', ← norm]
    rfl
  rw [state, state']
  exact Diagnosis.classify_grid exact rows relocated.free.symm _ _ _ _

/-- **The order of entities and constraints does not matter.**  Let the engine be exact.  If a solve
has a solution, then so has the solve of the same entities and the same constraints in any other
order, and the two are the same: the same success, steps, norm, diagnosis and counts, the same
parameters of each entity, the same residual of each constraint, and the same conflicts up to their
order and the order of their sides. -/
theorem order_never_matters (exact : engine.Exact) (sameEntities : entities.Perm entities')
    (sameConstraints : constraints.Perm constraints') {s : Solution ℝ}
    (answered : (solve engine o entities constraints).outcome = .ok s) :
    ∃ s', (solve engine o entities' constraints').outcome = .ok s' ∧ s.SameByIdentifier s' := by
  obtain ⟨q, diagnosis, prepared, diagnosed, -, rfl⟩ := solve_eq_ok_iff.1 answered
  obtain ⟨ρ, q', prepared', relocated⟩ :=
    Problem.exists_relocated sameEntities sameConstraints prepared
  have reorders := relocated.reorders exact o.differenceStep
  obtain ⟨⟨params, params', carries, final, final'⟩, steps, -⟩ := relocated.descent exact o
  have norm : (q'.descent engine o).final.norm = (q.descent engine o).final.norm := by
    rw [final, final', reorders.norm_eq carries]
  have reported (id : ℤ) : Discrepancy.find? id (q'.readings o (q'.descent engine o)) =
      Discrepancy.find? id (q.readings o (q.descent engine o)) := by
    have found := (relocated.reporting o.differenceStep).find?_discrepancies (.ofArray params') id
    rw [carries.ofArray] at found
    rw [Problem.readings, Problem.readings, final, final']
    exact found
  -- Conflicts are found without the layout, and counts are read by identifiers.
  have found := Conflict.find_perm sameEntities sameConstraints Tolerance.sameValue
  have statistics : Statistics.count constraints' (q'.readings o (q'.descent engine o))
      (Conflict.find entities' constraints' Tolerance.sameValue).length
      (freedomBalance entities' constraints') o.tolerance =
        Statistics.count constraints (q.readings o (q.descent engine o))
          (Conflict.find entities constraints Tolerance.sameValue).length
          (freedomBalance entities constraints) o.tolerance := by
    unfold Statistics.count
    simp only [reported, sameConstraints.length_eq, sameConstraints.countP_eq, found.length_eq,
      freedomBalance_perm sameEntities sameConstraints]
  refine ⟨_, solve_eq_ok_iff.2 ⟨q', diagnosis, prepared',
    (relocated.diagnose_eq exact o).trans diagnosed, System.checkResiduals_eq_ok _ _, rfl⟩, ?_⟩
  exact
    { success := congrArg (normBelow · o.tolerance) norm
      iterations := steps
      norm := norm
      diagnosis := rfl
      equations := (relocated.driving o.differenceStep).rows_eq
      freeParams := relocated.free.length_eq.trans (List.length_map _)
      statistics := statistics
      tolerance := rfl
      params := fun id => by
        change (q'.layout.place id).map (Layout.read (q'.descent engine o).final.params) =
          (q.layout.place id).map (Layout.read (q.descent engine o).final.params)
        rw [final, final']
        exact relocated.read_eq carries id
      discrepancies := reported
      conflicts := found }

/-- Two points and two demands, both listed the other way round. -/
theorem order_never_matters_exchanged :
    ∃ s s', (solve Engine.exact .standard Levelling.entities
        [Levelling.constraint, Levelling.upright]).outcome = .ok s ∧
      (solve Engine.exact .standard [Exact.entity 1 (.point 1 1), Exact.entity 0 (.point 0 0)]
        [Levelling.upright, Levelling.constraint]).outcome = .ok s' ∧
      s.SameByIdentifier s' := by
  obtain ⟨s, answered⟩ : ∃ s, (solve Engine.exact .standard Levelling.entities
      [Levelling.constraint, Levelling.upright]).outcome = .ok s :=
    Problem.exists_solution Levelling.prepare_squeezed Levelling.isAffine_squeezed
      Exact.standard_check
  obtain ⟨s', answered', same⟩ :=
    order_never_matters Engine.exact_exact (.swap _ _ []) (.swap _ _ []) answered
  exact ⟨s, s', answered, answered', same⟩

end PlanarSketch
