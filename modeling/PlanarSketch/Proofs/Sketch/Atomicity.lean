import PlanarSketch.Sketch.Command

/-!
# Commands are atomic

Every command on a sketch does all of its work or none of it.  A command that is
refused, for whatever cause and at whatever point, leaves the sketch exactly as it
was: name, entities in their order, constraints, both counters, the default options
and the latest solution.  A solve or a drag that answers with an unsolved solution
leaves everything but the latest solution as it was (`perform_atomic`).

Most commands compute a result first and change the sketch in one go, so they are
atomic because of the way an edit is made from a result (`Edit.atomic_of`).  A drag is
not of that form: it moves the entity, solves the moved sketch, and has to take the
move back on two ways out.
-/

namespace PlanarSketch

set_option autoImplicit false

variable {α β γ : Type} [Scalar α]

namespace Edit

/-- An edit that changes nothing when it is refused. -/
def Atomic (s : Sketch α) (e : Edit α β) : Prop :=
  ∀ fault, e.outcome = .error fault → e.sketch = s

theorem atomic_refused (s : Sketch α) (fault : Fault α) : (refused s fault : Edit α β).Atomic s :=
  fun _ _ => rfl

/-- An edit that answers has nothing to take back. -/
theorem atomic_of_answer {s : Sketch α} {e : Edit α β} {answer : β} (h : e.outcome = .ok answer) :
    e.Atomic s := by
  intro fault refusal
  rw [h] at refusal
  cases refusal

theorem atomic_of (s : Sketch α) (result : Except (Fault α) (Sketch α × β)) :
    (Edit.of s result).Atomic s := by
  cases result with
  | ok changed => exact atomic_of_answer rfl
  | error fault => exact atomic_refused s fault

theorem Atomic.map {s : Sketch α} {e : Edit α β} (atomic : e.Atomic s) (f : β → γ) :
    (e.map f).Atomic s := by
  intro fault refusal
  cases h : e.outcome with
  | ok answer => simp [Edit.map, h, Except.map] at refusal
  | error cause => exact atomic cause h

end Edit

namespace Sketch

open Edit

theorem atomic_addArcThrough (s : Sketch α) (sx sy mx my ex ey : α) (fixed : Mark) :
    (s.addArcThrough sx sy mx my ex ey fixed).Atomic s := by
  unfold addArcThrough
  split
  · exact atomic_of _ _
  · exact atomic_refused _ _

theorem atomic_removeEntity (s : Sketch α) (id : Int) : (s.removeEntity id).Atomic s := by
  unfold removeEntity
  split
  · exact atomic_refused _ _
  · exact atomic_of_answer rfl

/-! ## Solves and drags -/

/-- The four edits that a solve of a sketch can be, by what the run of the solver has come to. -/
inductive SolveEdit (s : Sketch α) (run : Traced α (Solution α)) : Edit α (Solution α) → Prop where
  | faulted {fault : Fault α} (faulty : run.outcome = .error fault) :
      SolveEdit s run ⟨s, run.events, .error fault⟩
  | unsolved {solution : Solution α} (answered : run.outcome = .ok solution)
      (failure : solution.success = false) :
      SolveEdit s run ⟨{ s with lastSolution := some solution }, run.events, .ok solution⟩
  /-- The solution cannot be written back, and nothing of it is. -/
  | unwritten {solution : Solution α} {fault : Fault α} (answered : run.outcome = .ok solution)
      (success : solution.success = true) (applied : solution.apply s.entities = .error fault) :
      SolveEdit s run ⟨s, run.events, .error fault⟩
  | written {solution : Solution α} {solved : List (Entity α)}
      (answered : run.outcome = .ok solution) (success : solution.success = true)
      (applied : solution.apply s.entities = .ok solved) :
      SolveEdit s run ⟨{ s with entities := solved, lastSolution := some solution }, run.events,
        .ok solution⟩

theorem solveEdit {s : Sketch α} {engine : Engine α} {options : Option (Options α)}
    {e : Edit α (Solution α)} (h : s.solve engine options = e) :
    SolveEdit s
      (PlanarSketch.solve engine (options.getD s.defaults) s.entities s.constraints) e := by
  subst h
  unfold solve
  dsimp only
  split
  · rename_i fault faulty
    exact .faulted faulty
  · rename_i solution answered
    split
    · rename_i success
      split
      · rename_i fault applied
        exact .unwritten answered success applied
      · rename_i solved applied
        exact .written answered success applied
    · rename_i failure
      exact .unsolved answered (Bool.eq_false_iff.2 failure)

/-- A solve is refused as its run is. -/
theorem solve_outcome_of_error {s : Sketch α} {engine : Engine α} {options : Option (Options α)}
    {fault : Fault α} (faulty : (PlanarSketch.solve engine (options.getD s.defaults) s.entities
      s.constraints).outcome = .error fault) :
    (s.solve engine options).outcome = .error fault := by
  unfold solve
  simp only [faulty]

theorem atomic_solve (s : Sketch α) (engine : Engine α) (options : Option (Options α)) :
    (s.solve engine options).Atomic s := by
  intro fault refusal
  generalize h : s.solve engine options = e at refusal ⊢
  cases solveEdit h with
  | faulted => rfl
  | unwritten => rfl
  | unsolved => cases refusal
  | written => cases refusal

/-- A solve that does not succeed changes the latest solution only. -/
theorem solve_unsolved {s : Sketch α} {engine : Engine α} {options : Option (Options α)}
    {solution : Solution α} (answered : (s.solve engine options).outcome = .ok solution)
    (failure : solution.success = false) :
    (s.solve engine options).sketch = { s with lastSolution := some solution } := by
  generalize h : s.solve engine options = e at answered ⊢
  cases solveEdit h with
  | faulted => cases answered
  | unwritten => cases answered
  | unsolved =>
      cases answered
      rfl
  | written _ success =>
      cases answered
      rw [failure] at success
      cases success

/-- The four edits that a drag can be, given the entity as it is dragged. -/
inductive DragEdit (s : Sketch α) (engine : Engine α) (moved : Except (Fault α) (Entity α)) :
    Edit α (Solution α) → Prop where
  | unmoved {fault : Fault α} (stuck : moved = .error fault) :
      DragEdit s engine moved (.refused s fault)
  | faulted {e : Entity α} {run : Edit α (Solution α)} {fault : Fault α} (movable : moved = .ok e)
      (solved : (s.withEntity e).solve engine (some s.dragOptions) = run)
      (faulty : run.outcome = .error fault) :
      DragEdit s engine moved
        ⟨{ run.sketch with entities := s.entities }, run.events, .error fault⟩
  | unsolved {e : Entity α} {run : Edit α (Solution α)} {solution : Solution α}
      (movable : moved = .ok e)
      (solved : (s.withEntity e).solve engine (some s.dragOptions) = run)
      (answered : run.outcome = .ok solution) (failure : solution.success = false) :
      DragEdit s engine moved
        ⟨{ run.sketch with entities := s.entities }, run.events, .ok solution⟩
  | kept {e : Entity α} {run : Edit α (Solution α)} {solution : Solution α}
      (movable : moved = .ok e)
      (solved : (s.withEntity e).solve engine (some s.dragOptions) = run)
      (answered : run.outcome = .ok solution) (success : solution.success = true) :
      DragEdit s engine moved run

theorem dragEdit {s : Sketch α} {engine : Engine α} {id : Int} {x y : α} {selector : String}
    {e : Edit α (Solution α)} (h : s.drag engine id x y selector = e) :
    DragEdit s engine (s.dragged id x y selector) e := by
  subst h
  unfold drag
  dsimp only
  split
  · rename_i fault stuck
    exact .unmoved stuck
  · rename_i e movable
    split
    · rename_i fault faulty
      exact .faulted movable rfl faulty
    · rename_i solution answered
      split
      · rename_i success
        exact .kept movable rfl answered success
      · rename_i failure
        exact .unsolved movable rfl answered (Bool.eq_false_iff.2 failure)

/-- A drag takes the move back when the solve is refused: the solve has left the rest alone. -/
theorem atomic_drag (s : Sketch α) (engine : Engine α) (id : Int) (x y : α) (selector : String) :
    (s.drag engine id x y selector).Atomic s := by
  intro fault refusal
  generalize h : s.drag engine id x y selector = edit at refusal ⊢
  cases dragEdit h with
  | unmoved => rfl
  | @faulted e run cause movable solved faulty =>
      -- The solve was refused, so it left the moved sketch alone; only the move is to be undone.
      subst solved
      rw [atomic_solve _ _ _ cause faulty]
      rfl
  | unsolved => cases refusal
  | kept movable solved answered =>
      rw [answered] at refusal
      cases refusal

/-- A drag that does not succeed takes the move back and changes the latest solution only. -/
theorem drag_unsolved {s : Sketch α} {engine : Engine α} {id : Int} {x y : α} {selector : String}
    {solution : Solution α} (answered : (s.drag engine id x y selector).outcome = .ok solution)
    (failure : solution.success = false) :
    (s.drag engine id x y selector).sketch = { s with lastSolution := some solution } := by
  generalize h : s.drag engine id x y selector = edit at answered ⊢
  cases dragEdit h with
  | unmoved => cases answered
  | faulted => cases answered
  | unsolved movable solved found =>
      subst solved
      cases answered
      rw [solve_unsolved found failure]
      rfl
  | kept movable solved found success =>
      rw [found] at answered
      cases answered
      rw [failure] at success
      cases success

/-! ## All commands -/

/-- Every command leaves the sketch as it was when it is refused. -/
theorem atomic_perform (s : Sketch α) (engine : Engine α) (command : Command α) :
    (s.perform engine command).Atomic s := by
  cases command with
  | addShape shape fixed => exact Atomic.map (atomic_of _ _) _
  | addArcThrough sx sy mx my ex ey fixed =>
      exact Atomic.map (atomic_addArcThrough s sx sy mx my ex ey fixed) _
  | setParams id params => exact Atomic.map (atomic_of _ _) _
  | fix id => exact Atomic.map (atomic_of _ _) _
  | unfix id => exact Atomic.map (atomic_of _ _) _
  | removeEntity id => exact Atomic.map (atomic_removeEntity s id) _
  | addConstraint kind ids value selectors driving => exact Atomic.map (atomic_of _ _) _
  | updateConstraint id value => exact Atomic.map (atomic_of _ _) _
  | removeConstraint id => exact Atomic.map (atomic_of_answer rfl) _
  | clearConstraints => exact Atomic.map (atomic_of_answer rfl) _
  | infer apply => exact Atomic.map (atomic_of_answer rfl) _
  | solve options => exact Atomic.map (atomic_solve s engine options) _
  | drag id x y selector => exact Atomic.map (atomic_drag s engine id x y selector) _

end Sketch

/-- Only the answer of an edit can become a solution. -/
theorem Edit.map_outcome_eq_ok {e : Edit α β} {f : β → γ} {reply : γ}
    (h : (e.map f).outcome = .ok reply) : ∃ answer, e.outcome = .ok answer ∧ f answer = reply := by
  cases outcome : e.outcome with
  | error cause => simp [Edit.map, outcome, Except.map] at h
  | ok answer => exact ⟨answer, rfl, by simpa [Edit.map, outcome, Except.map] using h⟩

/-- Solves and drags that do not succeed change the latest solution only. -/
theorem Sketch.perform_unsolved {s : Sketch α} {engine : Engine α} {command : Command α}
    {solution : Solution α}
    (answered : (s.perform engine command).outcome = .ok (.solution solution))
    (failure : solution.success = false) :
    (s.perform engine command).sketch = { s with lastSolution := some solution } := by
  cases command with
  | solve options =>
      obtain ⟨_, outcome, same⟩ := Edit.map_outcome_eq_ok answered
      cases same
      exact solve_unsolved outcome failure
  | drag id x y selector =>
      obtain ⟨_, outcome, same⟩ := Edit.map_outcome_eq_ok answered
      cases same
      exact drag_unsolved outcome failure
  | _ =>
      obtain ⟨_, _, same⟩ := Edit.map_outcome_eq_ok answered
      cases same

/-- **Commands are atomic.**  Whatever the sketch, the command and the engine: a command that is
refused leaves the whole sketch as it was, and a command whose answer is an unsolved solution
leaves all of it but the latest solution, which is that one. -/
theorem perform_atomic (engine : Engine α) (s : Sketch α) (command : Command α) :
    (∀ fault, (s.perform engine command).outcome = .error fault →
      (s.perform engine command).sketch = s) ∧
    (∀ solution, (s.perform engine command).outcome = .ok (.solution solution) →
      solution.success = false →
      (s.perform engine command).sketch = { s with lastSolution := some solution }) :=
  ⟨s.atomic_perform engine command, fun _ => Sketch.perform_unsolved⟩

end PlanarSketch
