import Mathlib.Data.List.Nodup
import PlanarSketch.Proofs.Order
import PlanarSketch.System

/-!
# Discrepancies by identifier

A system whose blocks have different identifiers reports the residual of each block under the
identifier of its constraint, in the order of the blocks (`System.discrepancies_eq_map`).  What
is found under an identifier is therefore the residual of the one block that has it
(`System.find?_discrepancies`).
-/

namespace PlanarSketch

set_option autoImplicit false

variable {α : Type} [Scalar α]

/-- The residual of a block at a point, under the identifier of its constraint. -/
def Block.reading (p : Valuation α) (b : Block α) : Identifier × Discrepancy α :=
  (b.constraint.identifier, .ofRows (b.residual p))

namespace System

variable {s : System α} {p : Valuation α}

/-- **Every block is reported once, in its place.** -/
theorem discrepancies_eq_map (distinct : (s.blocks.map Block.id).Nodup) :
    s.discrepancies p = s.blocks.map (Block.reading p) := by
  -- What has been reported has no identifier of a block that is still to come.
  have report (found : List (Identifier × Discrepancy α)) (blocks : List (Block α))
      (distinct : (blocks.map Block.id).Nodup)
      (fresh : ∀ b ∈ blocks, ∀ e ∈ found, e.1.value ≠ b.id) :
      blocks.foldl
        (fun found b =>
          let d := Discrepancy.ofRows (b.residual p)
          if found.any (·.1.value == b.id) then
            found.map fun e => if e.1.value == b.id then (e.1, d) else e
          else found ++ [(b.constraint.identifier, d)])
        found = found ++ blocks.map (Block.reading p) := by
    induction blocks generalizing found with
    | nil => simp
    | cons b bs ih =>
        obtain ⟨unique, rest⟩ := List.nodup_cons.1 distinct
        have absent : ¬(found.any (·.1.value == b.id)) = true := by
          intro taken
          obtain ⟨e, among, same⟩ := List.any_eq_true.1 taken
          exact fresh b List.mem_cons_self e among (beq_iff_eq.1 same)
        rw [List.foldl_cons]
        dsimp only
        rw [if_neg absent, ih _ rest, List.map_cons, List.append_assoc]
        · rfl
        · intro c later e among
          rcases List.mem_append.1 among with earlier | last
          · exact fresh c (List.mem_cons_of_mem b later) e earlier
          · rw [List.mem_singleton.1 last]
            rintro same
            exact unique (List.mem_map.2 ⟨c, later, same.symm⟩)
  exact report [] s.blocks distinct fun _ _ _ among => absurd among List.not_mem_nil

/-- What is found under the identifier of a block is its residual. -/
theorem find?_discrepancies (distinct : (s.blocks.map Block.id).Nodup) {b : Block α}
    (present : b ∈ s.blocks) :
    Discrepancy.find? b.id (s.discrepancies p) = some (.ofRows (b.residual p)) := by
  have found : (s.blocks.map (Block.reading p)).find? (fun e => e.1.value == b.id) =
      some (b.reading p) := by
    rw [List.find?_map]
    exact congrArg (Option.map (Block.reading p)) (find?_of_nodup distinct present)
  rw [Discrepancy.find?, discrepancies_eq_map distinct, found]
  rfl

end System

end PlanarSketch
