import PlanarSketch.Proofs.Descent.Monotone
import PlanarSketch.Proofs.Solve.Conclusion
import PlanarSketch.Proofs.Solve.Preparation

/-!
# Solves that no identifier can spoil

A solve over entities and constraints whose identifiers differ, and whose constraints name
entities that are there, is not refused for the sake of an identifier (`solve_spares`).
Only the preparation of the problem looks anything up.  The descent and the diagnosis can
still fail, but over numbers: an angle or a derivative that is undefined, or rows that do
not fit.  Writing a solution back fails over numbers as well (`Solution.apply_spares`).
-/

namespace PlanarSketch

set_option autoImplicit false

open Spares (bind error ok)

variable {α : Type} [Scalar α]

namespace System

variable (s : System α) (p : Valuation α)

theorem checkResiduals_spares : Spares (fun _ => True) (s.checkResiduals p) := by
  unfold checkResiduals
  split
  · exact error not_false
  · exact ok trivial

omit [Scalar α] in
theorem checkClosed_spares (b : Block α) : Spares (fun _ => True) (s.checkClosed b) := by
  unfold checkClosed
  split
  · exact ok trivial
  · exact error not_false

theorem checkNumeric_spares (b : Block α) : Spares (fun _ => True) (s.checkNumeric p b) := by
  unfold checkNumeric
  dsimp only
  split
  · exact error not_false
  · split
    · exact ok trivial
    · exact error not_false

theorem checkJacobian_spares : Spares (fun _ => True) (s.checkJacobian p) := by
  refine Spares.forM ?_
  intro b _
  split
  · exact s.checkClosed_spares b
  · exact s.checkNumeric_spares p b

end System

namespace Descent

variable {engine : Engine α} {s : System α} {free : List Nat} {o : Options α}

theorem direction_spares (it : Iterate α) :
    Spares (fun _ => True) (direction engine s free o it) := by
  unfold direction
  split
  · rename_i cause refusal
    exact error ((s.checkJacobian_spares _).spared refusal)
  · split
    · exact ok trivial
    · split
      · exact ok trivial
      · exact error not_false

/-- A walk does not fail for the sake of an identifier. -/
theorem Walked.failed_spares {budget : Nat} {it : Iterate α} {steps : List (Step α)}
    {ending : Ending α} {cause : Fault α}
    (walked : Walked engine s free o budget it steps ending) (failed : ending = .failed cause) :
    ¬cause.AboutIdentity := by
  rcases walked.failed_spec failed with undirected | ⟨step, -, refusal⟩
  · exact (direction_spares _).spared undirected
  · rcases (search_searched s free o _ step 1).failed_spec refusal with
      ⟨params, refusal⟩ | ⟨_, -, -, rfl⟩
    · exact (s.checkResiduals_spares _).spared refusal
    · exact not_false

end Descent

theorem Diagnosis.classify_spares (engine : Engine α) (limits : DiagnosisLimits α)
    (state : FinalState α) : Spares (fun _ => True) (classify engine limits state) := by
  unfold classify
  split
  · exact error not_false
  · exact ok trivial

theorem Problem.conclude_spares (q : Problem α) (engine : Engine α) (o : Options α)
    (entities : List (Entity α)) (constraints : List (Constraint α))
    (conflicts : List (Conflict α)) :
    Spares (fun _ => True)
      (q.conclude engine o entities constraints conflicts (q.descent engine o)) := by
  have walked := Descent.run_walked engine (q.driving o.differenceStep) q.free o q.params
  have ended : Spares (fun _ => True) (q.descent engine o).hasStalled := by
    unfold Descent.hasStalled
    split
    · rename_i cause failed
      exact error (walked.failed_spares failed)
    · exact ok trivial
    · exact ok trivial
    · exact ok trivial
  unfold conclude
  exact bind ended fun stalled _ => bind (System.checkJacobian_spares _ _) fun _ _ =>
    bind (Diagnosis.classify_spares _ _ _) fun _ _ =>
      bind (System.checkResiduals_spares _ _) fun _ _ => ok trivial

/-- **No identifier spoils a solve** of entities and constraints that are told apart, with
constraints that name entities that are there. -/
theorem solve_spares {engine : Engine α} {o : Options α} {entities : List (Entity α)}
    {constraints : List (Constraint α)} (distinct : (entities.map Entity.id).Nodup)
    (numbered : (constraints.map Constraint.id).Nodup)
    (known : ∀ c ∈ constraints, ∀ id ∈ c.entityIds, id ∈ entities.map Entity.id) :
    Spares (fun _ => True) (solve engine o entities constraints).outcome := by
  rw [solve_outcome]
  exact bind (Problem.prepare_spares distinct numbered known) fun q _ =>
    q.conclude_spares engine o entities constraints _

theorem Entity.make_spares (id : Int) (kind : EntityKind) (params : List α) (fixed : Mark) :
    Spares (fun e => e.id = id) (make id kind params fixed) := by
  unfold make
  split
  · exact error not_false
  · split
    · exact ok rfl
    · exact error not_false

/-- Writing a solution back does not fail for the sake of an identifier. -/
theorem Solution.apply_spares (s : Solution α) (entities : List (Entity α)) :
    Spares (fun _ => True) (s.apply entities) := by
  refine Spares.mapM ?_
  intro e _
  unfold applyTo
  split
  · exact (Entity.make_spares _ _ _ _).mono fun _ _ _ => trivial
  · exact ok trivial

end PlanarSketch
