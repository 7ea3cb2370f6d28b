import PlanarSketch.Proofs.Descent.Shortening
import PlanarSketch.Proofs.Double.Products
import PlanarSketch.Proofs.Solve.Conclusion
import PlanarSketch.Proofs.Solve.Preparation

/-!
# When solves come to an end

A step is shortened over and over until it is too short.  Doubles are rounded, so shortening may
leave a step as it is; then the search goes on for ever.  That takes a step among the smallest
doubles, from which the damping factor takes away less than rounding puts back.

A step that is left as it is stops all longer ones from getting any shorter (`forall_long_iff`).
So it depends on the shortest step that is tried whether all searches come to an end
(`Options.Shortens`), and damping that one tells (`shortens_iff`).  The tests of options do not ask
for it: there are options that pass all of them and a solve that does not come to an end
(`solve_endless_sticking`).
-/

namespace PlanarSketch

set_option autoImplicit false

open Outcome Double

/-! ## Which steps get shorter -/

namespace Options

/-- What damping takes away from the shortest step that is tried. -/
def shortening (o : Options Float) : ℚ := value o.minStep * (1 - value o.damping)

/-- Damping makes every step shorter that is tried: there is none, or more than half of the smallest
positive double is taken away, or half of it from a step that is an odd multiple of it. -/
def Shortens (o : Options Float) : Prop :=
  1 < o.minStep ∨ 2 ^ (-1075 : ℤ) < o.shortening ∨
    o.shortening = 2 ^ (-1075 : ℤ) ∧ Odd (rank o.minStep)

section Checked

variable {o : Options Float} (checked : o.check = .ok ())

include checked

theorem rank_minStep : 0 < rank o.minStep ∧ rank o.minStep ≤ infinityRank := by
  obtain ⟨-, -, positive, -⟩ := check_eq_ok.1 checked
  exact rank_of_pos positive

theorem rank_damping : 0 < rank o.damping ∧ rank o.damping < rank 1 := by
  obtain ⟨positive, small⟩ := damping_of_check checked
  obtain ⟨counted, most⟩ := rank_of_pos positive
  exact ⟨counted, (lt_iff_rank most (by decide)).1 small⟩

/-- A fraction that is damped is rounded to the nearest double, and it does not get larger. -/
theorem nearest_damped (k : ℕ) :
    rank (o.damped 1 k) ≤ rank 1 ∧
      Nearest (magnitude (rank (o.damped 1 k)) * magnitude (rank o.damping)) (2 ^ 1074)
        (rank (o.damped 1 (k + 1))) := by
  obtain ⟨positive, small⟩ := rank_damping checked
  have next (k : ℕ) (le : rank (o.damped 1 k) ≤ rank 1) :
      Nearest (magnitude (rank (o.damped 1 k)) * magnitude (rank o.damping)) (2 ^ 1074)
        (rank (o.damped 1 (k + 1))) := nearest_mul (le.trans_lt (by decide)) positive small
  have le : rank (o.damped 1 k) ≤ rank 1 := by
    induction k with
    | zero => exact le_rfl
    | succ k ih => exact ((damping_of_lt small).le (next k ih)).trans ih
  exact ⟨le, next k le⟩

theorem minStep_le_one_iff : ¬1 < o.minStep ↔ rank o.minStep ≤ rank 1 := by
  rw [lt_iff_rank (by decide) (rank_minStep checked).2, not_lt]

/-- Options that do not shorten every step leave the shortest one as it is. -/
theorem not_shortens_iff :
    ¬o.Shortens ↔ rank o.minStep ≤ rank 1 ∧
      Stays (2 ^ 1074 - magnitude (rank o.damping)) (2 ^ 1074) (rank o.minStep) := by
  rw [Shortens, not_or, minStep_le_one_iff checked]
  refine and_congr_right fun le => ?_
  have finite : rank o.minStep < infinityRank := le.trans_lt (by decide : rank 1 < infinityRank)
  rw [stays_iff finite (rank_damping checked).2, ← Nat.not_odd_iff_even, shortening]
  generalize value o.minStep * (1 - value o.damping) = lost
  generalize (2 : ℚ) ^ (-1075 : ℤ) = half
  rcases lt_trichotomy lost half with less | rfl | more
  · simp [less, less.not_gt, less.ne]
  · simp
  · simp [more, more.not_gt, more.ne']

/-- Whether every step is shortened can be told by shortening the shortest one. -/
theorem shortens_iff : o.Shortens ↔ 1 < o.minStep ∨ o.minStep * o.damping < o.minStep := by
  obtain ⟨positive, small⟩ := rank_damping checked
  obtain ⟨counted, most⟩ := rank_minStep checked
  rw [← not_iff_not, not_shortens_iff checked, not_or, minStep_le_one_iff checked]
  refine and_congr_right fun le => ?_
  have finite : rank o.minStep < infinityRank := le.trans_lt (by decide : rank 1 < infinityRank)
  have nearest := nearest_mul finite positive small
  have no_longer := (damping_of_lt small).le nearest
  rw [← (damping_of_lt small).eq_iff nearest counted, lt_iff_rank (no_longer.trans most) most]
  omega

/-- **Steps stay long enough for ever** when damping does not shorten all that are tried. -/
theorem forall_long_iff : (∀ k, o.minStep ≤ o.damped 1 k) ↔ ¬o.Shortens := by
  obtain ⟨counted, most⟩ := rank_minStep checked
  have long (k : ℕ) : o.minStep ≤ o.damped 1 k ↔ rank o.minStep ≤ rank (o.damped 1 k) :=
    le_iff_rank most ((nearest_damped checked k).1.trans (by decide))
  rw [not_shortens_iff checked, forall_congr' long]
  exact (damping_of_lt (rank_damping checked).2).forall_le_iff
    (fun k => (nearest_damped checked k).2) counted

/-- The countdown of doubles goes down whenever a fraction changes. -/
theorem damped_eq_of_countdown (k : ℕ)
    (same : ¬o.countdown (o.damped 1 (k + 1)) < o.countdown (o.damped 1 k)) :
    o.damped 1 (k + 1) = o.damped 1 k := by
  obtain ⟨-, small⟩ := rank_damping checked
  have le := (damping_of_lt small).le (nearest_damped checked k).2
  exact rank_injective (le.antisymm (not_lt.1 same))

end Checked

end Options

namespace Descent

section Rounds

variable {s : System Float} {free : List ℕ} {o : Options Float} {it : Iterate Float}
variable {step : List Float} (checked : o.check = .ok ())

include checked

/-- **A search has finitely many rounds** unless it is given up for want of an end. -/
theorem finite_tries_iff_search :
    {k | Tries s free o it step 1 k}.Finite ↔
      search s free o it step 1 ≠ .failed .endlessSearch := by
  rw [finite_tries_iff, Ne, search_eq_endless_iff (o.damped_eq_of_countdown checked)]

theorem finite_tries_of_shortens (shortens : o.Shortens) :
    {k | Tries s free o it step 1 k}.Finite := by
  refine finite_tries_iff.2 fun all => ?_
  exact (Options.forall_long_iff checked).1 (fun k => (all k).long) shortens

omit checked in
/-- A step that does not move anything is of no use. -/
theorem not_helps_of_unmoved {x : Float} (evaluated : it = s.iterate it.params)
    (unmoved : moved it.params free x step = it.params) : ¬Helps s free it step x := by
  have same : trial s free it step x = it := by rw [trial, unmoved, ← evaluated]
  unfold Helps
  rw [same]
  cases it.norm with
  | none => exact Bool.false_ne_true
  | some n => exact fun less => not_lt_self n (of_decide_eq_true less)

/-- A step that does not move anything is shortened for ever, if it can be. -/
theorem tries_of_unmoved (sticks : ¬o.Shortens)
    (calm : s.checkResiduals (.ofArray it.params) = .ok ()) (evaluated : it = s.iterate it.params)
    (unmoved : ∀ x, moved it.params free x step = it.params) (k : ℕ) :
    Tries s free o it step 1 k :=
  tries_of_useless (fun x => (unmoved x).symm ▸ calm)
    (fun x => not_helps_of_unmoved evaluated (unmoved x))
    fun j _ => (Options.forall_long_iff checked).2 sticks j

/-- **All searches have finitely many rounds** exactly when every step is shortened. -/
theorem forall_finite_tries_iff :
    (∀ s free it step, {k | Tries s free o it step 1 k}.Finite) ↔ o.Shortens := by
  constructor
  · intro finite
    by_contra sticks
    -- Where there are no equations, no step moves anything.
    have endless : ∀ k, Tries ⟨[], 0, 1⟩ [] o (System.iterate ⟨[], 0, 1⟩ #[]) [] 1 k :=
      tries_of_unmoved checked sticks rfl rfl fun _ => rfl
    exact finite_tries_iff.1 (finite _ _ _ _) endless
  · exact fun shortens s free it step => finite_tries_of_shortens checked shortens

end Rounds

end Descent

/-! ## Solves -/

/-- A conclusion is not given up, if the descent was not. -/
theorem Problem.conclude_ne_endless {α : Type} [Scalar α] {q : Problem α} {engine : Engine α}
    {o : Options α} {entities : List (Entity α)} {constraints : List (Constraint α)}
    {conflicts : List (Conflict α)} {d : Descent α} (ended : d.ending ≠ .failed .endlessSearch) :
    q.conclude engine o entities constraints conflicts d ≠ .error .endlessSearch := by
  intro failed
  unfold conclude at failed
  rcases bind_eq_error.1 failed with stalled | ⟨_, -, rest⟩
  · unfold Descent.hasStalled at stalled
    split at stalled
    · rename_i cause ending
      cases stalled
      exact ended ending
    · cases stalled
    · cases stalled
    · cases stalled
  rcases bind_eq_error.1 rest with refusal | ⟨_, -, rest⟩
  · exact Descent.checkJacobian_ne_endless _ refusal
  rcases bind_eq_error.1 rest with unclear | ⟨_, -, rest⟩
  · unfold Diagnosis.classify at unclear
    split at unclear <;> cases unclear
  rcases bind_eq_error.1 rest with refusal | ⟨_, -, answered⟩
  · exact Descent.checkResiduals_ne_endless _ refusal
  · cases answered

/-- **Solves come to an end when every step is shortened.**  A search has finitely many rounds
unless it is given up for want of an end.  All searches have finitely many rounds exactly when
options shorten every step.  Then a problem that can be prepared is solved in no more steps than
there may be, and no search is given up. -/
theorem solve_terminates (o : Options Float) (checked : o.check = .ok ()) :
    (∀ s free it step, {k | Descent.Tries s free o it step 1 k}.Finite ↔
      Descent.search s free o it step 1 ≠ .failed .endlessSearch) ∧
    ((∀ s free it step, {k | Descent.Tries s free o it step 1 k}.Finite) ↔ o.Shortens) ∧
    (o.Shortens → ∀ engine entities constraints q, Problem.prepare entities constraints = .ok q →
      (q.descent engine o).iterations ≤ o.maxIterations ∧
        (solve engine o entities constraints).outcome ≠ .error .endlessSearch) := by
  refine ⟨fun s free it step => Descent.finite_tries_iff_search checked,
    Descent.forall_finite_tries_iff checked, ?_⟩
  intro shortens engine entities constraints q prepared
  refine ⟨(Descent.run_walked _ _ _ _ _).length_le, ?_⟩
  rw [solve_outcome, prepared]
  refine Problem.conclude_ne_endless fun failed => ?_
  obtain ⟨it, step, endless⟩ := (Descent.run_walked _ _ _ _ _).exists_endless failed
  exact (Descent.finite_tries_iff_search checked).1
    (Descent.finite_tries_of_shortens checked shortens) endless

/-- The standard options shorten every step, so all searches have finitely many rounds. -/
theorem solve_terminates_standard :
    (Options.standard : Options Float).check = .ok () ∧
      (Options.standard : Options Float).Shortens ∧ ∀ s free it step,
        {k | Descent.Tries s free (Options.standard : Options Float) it step 1 k}.Finite := by
  have checked : (Options.standard : Options Float).check = .ok () := rfl
  have shortens : (Options.standard : Options Float).Shortens := by
    rw [Options.shortens_iff checked]
    decide +kernel
  exact ⟨checked, shortens, (solve_terminates Options.standard checked).2.1.2 shortens⟩

/-! ## A solve without an end -/

namespace Sticking

/-- Options that let steps be shortened down to the smallest positive double. -/
def options : Options Float :=
  { Options.standard with damping := 0.75, minStep := Float.ofBits 1 }

/-- A line that runs upwards and must not be moved. -/
def line : Entity Float := ⟨0, .line 0 0 0 1, .of true, by decide +kernel⟩

/-- The demand that the line be level. -/
def level : Constraint Float := ⟨.whole 0, .horizontal, [0], none, [], .of true⟩

/-- The problem that comes of the line and the demand. -/
def problem : Problem Float where
  layout := Layout.tiling [line]
  params := #[0, 0, 0, 1]
  blocks := [⟨level, .level ⟨0, 0, .line, .start⟩ ⟨0, 0, .line, .stop⟩, [0, 1, 2, 3]⟩]
  free := []

/-- The equations of the problem. -/
def system : System Float := problem.driving options.differenceStep

theorem prepare_problem : Problem.prepare [line] [level] = .ok problem :=
  Problem.prepare_of_compiled (by decide) (by decide) rfl

theorem check_options : options.check = .ok () := rfl

theorem not_shortens_options : ¬options.Shortens := by
  rw [Options.shortens_iff check_options]
  decide +kernel

theorem away_start : ¬normBelow (system.iterate problem.params).norm options.tolerance = true := by
  decide +kernel

/-- There is nothing that a step could move. -/
theorem direction_start (engine : Engine Float) :
    Descent.direction engine system problem.free options (system.iterate problem.params) =
      .ok [] := rfl

theorem tries_start (k : ℕ) :
    Descent.Tries system problem.free options (system.iterate problem.params) [] 1 k :=
  Descent.tries_of_unmoved check_options not_shortens_options rfl rfl (fun _ => rfl) k

theorem ending_descent (engine : Engine Float) :
    (problem.descent engine options).ending = .failed .endlessSearch := by
  have endless := (Descent.search_eq_endless_iff
    (options.damped_eq_of_countdown check_options)).2 tries_start
  exact Descent.ending_run_of_failed (by decide) away_start (direction_start engine) endless

end Sticking

open Sticking in
/-- **A solve need not come to an end**, though its options pass all tests: the first search goes on
for ever. -/
theorem solve_endless_sticking :
    options.check = .ok () ∧ Problem.prepare [line] [level] = .ok problem ∧
      ∀ engine, Descent.direction engine system problem.free options
          (system.iterate problem.params) = .ok [] ∧
        ¬{k | Descent.Tries system problem.free options (system.iterate problem.params) []
          1 k}.Finite ∧
        (solve engine options [line] [level]).outcome = .error .endlessSearch := by
  refine ⟨check_options, prepare_problem, fun engine => ⟨direction_start engine, ?_, ?_⟩⟩
  · exact fun finite => Descent.finite_tries_iff.1 finite tries_start
  · rw [solve_outcome, bind_eq_error]
    exact .inr ⟨problem, prepare_problem, Problem.conclude_of_failed (ending_descent engine)⟩

end PlanarSketch
