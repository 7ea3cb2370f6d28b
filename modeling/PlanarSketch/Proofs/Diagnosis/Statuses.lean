import PlanarSketch.Diagnosis

/-!
# Statuses

A solved sketch is fully constrained or under-constrained, as the rank of the matrix says.  For a
sketch that is not solved there are five ways to come to a status, and they are tried one after the
other (`Diagnosis.Unsolved`).  What a diagnosis says is one of these, together with the numbers that
are counted from the rank (`Diagnosis.Classified`).
-/

namespace PlanarSketch

set_option autoImplicit false

variable {α : Type} [Scalar α]

namespace Diagnosis

/-- Neither a row nor the gradient decides how a sketch that is not solved has ended. -/
def Undecided (limits : DiagnosisLimits α) (s : FinalState α) (J : List (List α))
    (rank : Nat) : Prop :=
  ∀ F, allFinite? s.residual = some F → hasDeadRow limits J F = false ∧
    (stationary limits J F s.width = true → J.length ≤ rank)

/-- The ways to come to a status for a sketch that is not solved. -/
inductive Unsolved (limits : DiagnosisLimits α) (s : FinalState α) (J : List (List α))
    (rank : Nat) : Status → Prop where
  | rigid (immovable : s.width = 0) : Unsolved limits s J rank .overConstrained
  | inert {F : List α} (movable : s.width ≠ 0) (finite : allFinite? s.residual = some F)
      (dead : hasDeadRow limits J F = true) : Unsolved limits s J rank .numericallySingular
  | minimal {F : List α} (movable : s.width ≠ 0) (finite : allFinite? s.residual = some F)
      (alive : hasDeadRow limits J F = false) (least : stationary limits J F s.width = true)
      (deficient : rank < J.length) : Unsolved limits s J rank .overConstrained
  | stalled (movable : s.width ≠ 0) (undecided : Undecided limits s J rank)
      (useless : s.stalled = true) : Unsolved limits s J rank .numericallySingular
  | exhausted (movable : s.width ≠ 0) (undecided : Undecided limits s J rank)
      (moving : s.stalled = false) : Unsolved limits s J rank .inconsistent

theorem Unsolved.of_undecided {limits : DiagnosisLimits α} {s : FinalState α}
    {J : List (List α)} {rank : Nat} (movable : s.width ≠ 0)
    (undecided : Undecided limits s J rank) :
    Unsolved limits s J rank (if s.stalled then .numericallySingular else .inconsistent) := by
  cases ended : s.stalled with
  | true => exact .stalled movable undecided ended
  | false => exact .exhausted movable undecided ended

/-- **The status of an unsolved sketch is come to in one of these ways.** -/
theorem unsolved_spec (limits : DiagnosisLimits α) (s : FinalState α) (J : List (List α))
    (rank : Nat) : Unsolved limits s J rank (unsolved limits s J rank) := by
  by_cases immovable : s.width = 0
  · have rigid : unsolved limits s J rank = .overConstrained := by simp [unsolved, immovable]
    rw [rigid]
    exact .rigid immovable
  · have movable : (s.width == 0) = false := beq_eq_false_iff_ne.2 immovable
    unfold unsolved
    simp only [bne, movable, Bool.not_false, Bool.true_and, Bool.false_eq_true, if_false]
    cases finite : allFinite? s.residual with
    | none =>
        refine .of_undecided immovable fun F some => ?_
        cases finite.symm.trans some
    | some F =>
        dsimp only
        split
        · rename_i dead
          exact .inert immovable finite dead
        · rename_i alive
          have alive : hasDeadRow limits J F = false := Bool.eq_false_iff.2 alive
          split
          · rename_i both
            rw [Bool.and_eq_true, decide_eq_true_eq] at both
            exact .minimal immovable finite alive both.1 both.2
          · rename_i neither
            rw [Bool.and_eq_true, decide_eq_true_eq] at neither
            refine .of_undecided immovable fun F' some => ?_
            cases finite.symm.trans some
            exact ⟨alive, fun least => Nat.le_of_not_lt fun deficient => neither ⟨least, deficient⟩⟩

namespace Unsolved

variable {limits : DiagnosisLimits α} {s : FinalState α} {J : List (List α)} {rank : Nat}
variable {status : Status}

theorem not_solved (h : Unsolved limits s J rank status) :
    status ≠ .fullyConstrained ∧ status ≠ .underConstrained := by
  cases h with
  | _ => exact ⟨Status.noConfusion, Status.noConfusion⟩

theorem rigid_spec (h : Unsolved limits s J rank status) (immovable : s.width = 0) :
    status = .overConstrained := by
  cases h with
  | rigid => rfl
  | inert movable | minimal movable | stalled movable | exhausted movable =>
      exact absurd immovable movable

theorem overConstrained_spec (h : Unsolved limits s J rank status)
    (redundant : status = .overConstrained) : s.width = 0 ∨ rank < J.length := by
  cases h with
  | rigid immovable => exact .inl immovable
  | minimal _ _ _ _ deficient => exact .inr deficient
  | _ => cases redundant

theorem numericallySingular_spec (h : Unsolved limits s J rank status)
    (singular : status = .numericallySingular) :
    s.stalled = true ∨ ∃ F, allFinite? s.residual = some F ∧ hasDeadRow limits J F = true := by
  cases h with
  | inert _ finite dead => exact .inr ⟨_, finite, dead⟩
  | stalled _ _ useless => exact .inl useless
  | _ => cases singular

theorem inconsistent_spec (h : Unsolved limits s J rank status)
    (inconsistent : status = .inconsistent) : s.stalled = false := by
  cases h with
  | exhausted _ _ moving => exact moving
  | _ => cases inconsistent

/-- At a least residual with a redundant equation, only an equation that fails and that no free
parameter influences keeps a sketch from being over-constrained. -/
theorem status_of_minimal (h : Unsolved limits s J rank status) {F : List α}
    (finite : allFinite? s.residual = some F) (least : stationary limits J F s.width = true)
    (deficient : rank < J.length) :
    status = if s.width ≠ 0 ∧ hasDeadRow limits J F = true then .numericallySingular
      else .overConstrained := by
  cases h with
  | rigid immovable => rw [if_neg fun both => both.1 immovable]
  | inert movable finite' dead =>
      cases finite.symm.trans finite'
      rw [if_pos ⟨movable, dead⟩]
  | minimal _ finite' alive =>
      cases finite.symm.trans finite'
      rw [alive, if_neg fun both => Bool.false_ne_true both.2]
  | stalled _ undecided | exhausted _ undecided =>
      exact absurd deficient (Nat.not_lt_of_le ((undecided F finite).2 least))

end Unsolved

/-- What a diagnosis says of the end of a solve, where the derivative is the matrix `J`. -/
structure Classified (engine : Engine α) (limits : DiagnosisLimits α) (s : FinalState α)
    (J : List (List α)) (d : Diagnosis) : Prop where
  matrix : finiteMatrix? s.jacobian = some J
  rank : d.rank = engine.rank J s.width limits.rankTolerance
  remaining : d.remaining = (s.width : Int) - d.rank
  redundant : d.redundant = (J.length : Int) - d.rank
  solved : s.converged = true →
    d.status = if d.rank < s.width then .underConstrained else .fullyConstrained
  unsolved : s.converged = false → Unsolved limits s J d.rank d.status

theorem exists_classified {engine : Engine α} {limits : DiagnosisLimits α} {s : FinalState α}
    {d : Diagnosis} (diagnosed : classify engine limits s = .ok d) :
    ∃ J, Classified engine limits s J d := by
  unfold classify at diagnosed
  split at diagnosed
  · cases diagnosed
  · rename_i J matrix
    cases diagnosed
    refine ⟨J, matrix, rfl, rfl, rfl, fun converged => if_pos converged, fun away => ?_⟩
    dsimp only
    rw [away, if_neg Bool.false_ne_true]
    exact unsolved_spec limits s J _

/-- Nothing is left to move where a sketch is fully constrained. -/
theorem Classified.full {engine : Engine α} {limits : DiagnosisLimits α} {s : FinalState α}
    {J : List (List α)} {d : Diagnosis} (h : Classified engine limits s J d)
    (full : d.status = .fullyConstrained) : s.width ≤ d.rank := by
  cases converged : s.converged with
  | true =>
      have status := h.solved converged
      rw [full] at status
      split at status
      · cases status
      · rename_i all
        exact Nat.le_of_not_lt all
  | false => exact absurd full (h.unsolved converged).not_solved.1

end Diagnosis

end PlanarSketch
