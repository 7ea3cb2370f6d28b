import PlanarSketch.Proofs.Descent.Invariants
import PlanarSketch.Proofs.Solve.Conclusion

/-!
# What a solve leaves where it is

The parameters that a solution has for an entity are near the initial ones if all positions of the
entity are (`Problem.exists_paramsOf_near`), and they are the initial ones if none has been moved.
So it is for fixed entities, whose positions are not free (`paramsOf_of_fixed`), and for entities
that no driving constraint names, whose positions belong to no driving block
(`paramsOf_of_unreferenced`).  The first holds for every engine and all numbers; the second needs
steps in the row space, and numbers to which multiples of zero add nothing.  Over numbers that
absorb multiples of zero such entities stay near to where they were
(`exists_paramsOf_of_unreferenced`).
-/

namespace PlanarSketch

set_option autoImplicit false

open Outcome

variable {α : Type} [Scalar α] {engine : Engine α} {o : Options α}
variable {entities : List (Entity α)} {constraints : List (Constraint α)} {s : Solution α}
variable {e : Entity α}

namespace Problem

variable {q : Problem α}

/-- A solution has as many parameters as the entities. -/
theorem size_params (answered : (solve engine o entities constraints).outcome = .ok s)
    (prepared : prepare entities constraints = .ok q) :
    s.params.size = Layout.extent entities := by
  obtain ⟨-, -, -, start, -⟩ := prepare_eq_ok prepared
  have walked := Descent.run_walked engine (q.driving o.differenceStep) q.free o q.params
  rw [(reports_of_answered answered prepared).params]
  refine walked.size_final.trans ?_
  rw [start]
  rfl

/-- A solution has the initial values at all positions that are not free. -/
theorem getD_of_answered (answered : (solve engine o entities constraints).outcome = .ok s)
    (prepared : prepare entities constraints = .ok q) {i : Nat} (outside : i ∉ q.free) :
    s.params.getD i 0 = q.params.getD i 0 := by
  have walked := Descent.run_walked engine (q.driving o.differenceStep) q.free o q.params
  rw [(reports_of_answered answered prepared).params]
  exact walked.getD_final outside

/-- An entity all of whose positions are near their initial values has parameters near its initial
ones. -/
theorem exists_paramsOf_near {near : α → α → Prop} {before after : List (Entity α)}
    (answered : (solve engine o (before ++ e :: after) constraints).outcome = .ok s)
    (prepared : prepare (before ++ e :: after) constraints = .ok q)
    (close : ∀ k < e.params.length, near (s.params.getD (Layout.extent before + k) 0)
      (q.params.getD (Layout.extent before + k) 0)) :
    ∃ params, s.paramsOf e.id = .ok params ∧ List.Forall₂ near params e.params := by
  obtain ⟨distinct, -, layout, start, -⟩ := prepare_eq_ok prepared
  have report := reports_of_answered answered prepared
  have size := size_params answered prepared
  have count : e.params.length = e.kind.paramCount := Layout.length_params e
  have total : Layout.extent (before ++ e :: after) =
      Layout.extent before + (e.params.length + Layout.extent after) := by
    simp [Layout.extent]
  rw [Solution.paramsOf, report.layout, layout, Layout.place_split distinct]
  refine ⟨_, rfl, List.forall₂_iff_get.2 ⟨?_, fun k there inside => ?_⟩⟩
  · refine (Layout.length_read ?_).trans count.symm
    unfold Place.stop
    dsimp only
    omega
  · have value := close k inside
    have below : Layout.extent before + k < s.params.size := by omega
    rw [start, flat, Layout.getD_flatten_split inside, Array.getD_eq_getD_getElem?,
      Array.getElem?_eq_getElem below] at value
    simpa [Layout.read] using value

/-- **An entity none of whose positions has been moved has its initial parameters.** -/
theorem paramsOf_of_unmoved {before after : List (Entity α)}
    (answered : (solve engine o (before ++ e :: after) constraints).outcome = .ok s)
    (prepared : prepare (before ++ e :: after) constraints = .ok q)
    (unmoved : ∀ k < e.params.length, s.params.getD (Layout.extent before + k) 0 =
      q.params.getD (Layout.extent before + k) 0) : s.paramsOf e.id = .ok e.params := by
  obtain ⟨params, found, same⟩ := exists_paramsOf_near answered prepared unmoved
  rw [List.forall₂_eq_eq_eq] at same
  rw [found, same]

end Problem

/-- **Fixed entities have their initial parameters**, whatever the engine. -/
theorem paramsOf_of_fixed (answered : (solve engine o entities constraints).outcome = .ok s)
    (among : e ∈ entities) (fixed : e.isFixed = true) : s.paramsOf e.id = .ok e.params := by
  obtain ⟨q, prepared⟩ := exists_prepared answered
  obtain ⟨before, after, rfl⟩ := List.append_of_mem among
  refine Problem.paramsOf_of_unmoved answered prepared fun k inside => ?_
  refine Problem.getD_of_answered answered prepared ?_
  rw [Problem.free_of_prepared prepared]
  exact Layout.not_mem_freePositions fixed inside

/-- A block has no position of an entity that its constraint does not name. -/
theorem Block.not_mem_positions {before after : List (Entity α)} {p : Valuation α}
    {c : Constraint α} {b : Block α} {k : Nat}
    (distinct : ((before ++ e :: after).map Entity.id).Nodup)
    (compiled : compile (before ++ e :: after) (Layout.tiling (before ++ e :: after)) p c = .ok b)
    (unnamed : e.id ∉ c.entityIds) (inside : k < e.params.length) :
    Layout.extent before + k ∉ b.positions := by
  rw [mem_positions_iff (Layout.ofEntities_eq_ok.2 ⟨distinct, rfl⟩) compiled]
  rintro ⟨id, named, place, located, here⟩
  obtain ⟨present, rfl⟩ := place?_eq_some located
  -- The place of the entity is the only one at this position.
  have own := (place?_eq_some (Layout.place?_split distinct)).1
  have there : Layout.extent before ≤ Layout.extent before + k ∧
      Layout.extent before + k < Place.stop ⟨e.id, e.kind, Layout.extent before⟩ := by
    rw [Place.stop, ← Layout.length_params]
    exact ⟨Nat.le_add_right _ _, Nat.add_lt_add_left inside _⟩
  rw [Layout.eq_of_overlap present own here there] at named
  exact unnamed named

/-- **Entities that no driving constraint names stay near to where they were**, whether the solve
succeeds or not. -/
theorem exists_paramsOf_of_unreferenced {near : α → α → Prop} {ordinary : α → Prop}
    (absorbs : Scalar.Absorbs near ordinary) (combining : engine.Combines ordinary)
    (multiples : ∀ k, ordinary (o.damped 1 k))
    (answered : (solve engine o entities constraints).outcome = .ok s) (among : e ∈ entities)
    (unreferenced : ∀ c ∈ constraints, c.isDriving = true → e.id ∉ c.entityIds) :
    ∃ params, s.paramsOf e.id = .ok params ∧ List.Forall₂ near params e.params := by
  obtain ⟨q, prepared⟩ := exists_prepared answered
  obtain ⟨distinct, -, -, -, compiled⟩ := Problem.prepare_eq_ok prepared
  obtain ⟨before, after, rfl⟩ := List.append_of_mem among
  have laid : Layout.ofEntities (before ++ e :: after) =
      .ok (Layout.tiling (before ++ e :: after)) := Layout.ofEntities_eq_ok.2 ⟨distinct, rfl⟩
  refine Problem.exists_paramsOf_near answered prepared fun k inside => ?_
  have walked := Descent.run_walked engine (q.driving o.differenceStep) q.free o q.params
  rw [(Problem.reports_of_answered answered prepared).params]
  refine walked.near_final_of_outside absorbs combining multiples (fun b present i read => ?_) ?_
  · obtain ⟨c, -, bound⟩ := exists_of_mem_mapM compiled (List.mem_of_mem_filter present)
    exact Block.mem_positions_of_reads laid bound read
  · intro b present
    obtain ⟨listed, drives⟩ := List.mem_filter.1 present
    obtain ⟨c, demanded, bound⟩ := exists_of_mem_mapM compiled listed
    rw [Block.constraint_of_compiled bound] at drives
    exact Block.not_mem_positions distinct bound (unreferenced c demanded drives) inside

/-- **Entities that no driving constraint names have their initial parameters** where multiples of
zero add nothing. -/
theorem paramsOf_of_unreferenced (inert : Scalar.Inert α) (combining : engine.StepsInRowSpace)
    (answered : (solve engine o entities constraints).outcome = .ok s) (among : e ∈ entities)
    (unreferenced : ∀ c ∈ constraints, c.isDriving = true → e.id ∉ c.entityIds) :
    s.paramsOf e.id = .ok e.params := by
  obtain ⟨params, found, same⟩ := exists_paramsOf_of_unreferenced inert.absorbs combining.combines
    (fun _ => trivial) answered among unreferenced
  rw [List.forall₂_eq_eq_eq] at same
  rw [found, same]

end PlanarSketch
