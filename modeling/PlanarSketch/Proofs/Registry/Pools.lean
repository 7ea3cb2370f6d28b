import Mathlib.Data.Real.Basic
import Mathlib.Logic.Relation
import PlanarSketch.Proofs.Order
import PlanarSketch.Proofs.Registry.Moves
import PlanarSketch.Proofs.Sketch.Resumption
import PlanarSketch.Registry.Pool

/-!
# Solving in any order

Solving a sketch reads and writes this sketch only.  So long as no sketch is under two labels, a
pool of workers therefore comes to the same end in whatever order its jobs are finished: at any
time every job is waiting, with a worker or finished; a sketch is as its own solve leaves it if
its job is finished, and as it was otherwise (`Pool.Progress`).  A pool cannot get stuck
(`Pool.exists_done`), and solving one sketch after the other is one of its orders
(`Pool.reaches_solveEach`), which is why all orders agree with it (`solveAll_any_order`).
-/

namespace PlanarSketch

set_option autoImplicit false

open Outcome

namespace Registry

variable {α : Type} [Scalar α] {engine : Engine α} {options : Option (Options α)} {limit : Nat}
  {r : Registry α}

namespace Pool

/-- A pool comes to another by finitely many steps. -/
abbrev Reaches (engine : Engine α) (options : Option (Options α)) (limit : Nat) :
    Pool α → Pool α → Prop :=
  Relation.ReflTransGen (Step engine options limit)

/-- The outcome of a job whose sketch is solved on its own. -/
def alone (engine : Engine α) (options : Option (Options α)) (r : Registry α)
    (job : String × Nat) : Option (String × Except (Fault α) (Solution α)) :=
  r.sketches[job.2]?.map fun s => (job.1, (s.solve engine options).outcome)

/-- How far a pool has come when some jobs are done: every sketch is as it was or as its own solve
leaves it, and outcomes are those of sketches that are solved on their own. -/
structure Progress (engine : Engine α) (options : Option (Options α)) (r : Registry α)
    (p : Pool α) (done : List (String × Nat)) : Prop where
  jobs : (p.waiting ++ p.running.map Prod.fst ++ done).Perm r.entries
  reads : ∀ busy ∈ p.running, r.sketches[busy.1.2]? = some busy.2
  sketches : ∀ handle, p.sketches[handle]? =
    if handle ∈ done.map Prod.snd
    then r.sketches[handle]?.map fun s => (s.solve engine options).sketch
    else r.sketches[handle]?
  finished : p.finished = done.filterMap (alone engine options r)

variable {p q : Pool α} {done : List (String × Nat)}

theorem progress_start (engine : Engine α) (options : Option (Options α)) (r : Registry α) :
    Progress engine options r (start r) [] where
  jobs := by
    change (r.entries ++ [] ++ []).Perm r.entries
    rw [List.append_nil, List.append_nil]
  reads _ among := absurd among List.not_mem_nil
  sketches _ := rfl
  finished := rfl

/-- A job that is not done yet is on a sketch that no finished job was on. -/
theorem Progress.not_mem_done (progress : Progress engine options r p done) (unshared : r.Unshared)
    {job : String × Nat} (pending : job ∈ p.waiting ++ p.running.map Prod.fst) :
    job.2 ∉ done.map Prod.snd := by
  have distinct := (progress.jobs.map Prod.snd).nodup_iff.2 unshared
  rw [List.map_append, List.nodup_append] at distinct
  intro finished
  exact distinct.2.2 _ (List.mem_map_of_mem pending) _ finished rfl

/-- Taking a job moves it from those that wait to those that workers are at. -/
theorem Progress.take {job : String × Nat} {s : Sketch α} {sketches : List (Sketch α)}
    {waiting : List (String × Nat)} {running : List ((String × Nat) × Sketch α)}
    {finished : List (String × Except (Fault α) (Solution α))}
    (progress : Progress engine options r ⟨sketches, job :: waiting, running, finished⟩ done)
    (unshared : r.Unshared) (read : sketches[job.2]? = some s) :
    Progress engine options r ⟨sketches, waiting, running ++ [(job, s)], finished⟩ done := by
  refine ⟨?_, ?_, progress.sketches, progress.finished⟩
  · refine List.Perm.trans (List.Perm.append_right done ?_) progress.jobs
    rw [List.map_append, ← List.append_assoc]
    exact List.perm_append_singleton job _
  · intro busy among
    rcases List.mem_append.1 among with old | new
    · exact progress.reads busy old
    · have untouched : job.2 ∉ done.map Prod.snd :=
        progress.not_mem_done unshared (List.mem_append_left _ List.mem_cons_self)
      rw [List.mem_singleton.1 new]
      rwa [progress.sketches job.2, if_neg untouched] at read

/-- A sketch is written back where it was read, and no other sketch changes. -/
theorem Progress.sketches_finish (progress : Progress engine options r p done)
    {job : String × Nat} {s : Sketch α} (untouched : job.2 ∉ done.map Prod.snd)
    (read : r.sketches[job.2]? = some s) (handle : Nat) :
    (p.sketches.set job.2 (s.solve engine options).sketch)[handle]? =
      if handle ∈ (done ++ [job]).map Prod.snd
      then r.sketches[handle]?.map fun s => (s.solve engine options).sketch
      else r.sketches[handle]? := by
  rw [List.map_append, List.map_singleton]
  by_cases own : job.2 = handle
  · subst own
    have there : job.2 < p.sketches.length := by
      have found := progress.sketches job.2
      rw [if_neg untouched, read] at found
      exact (List.getElem?_eq_some_iff.1 found).1
    rw [List.getElem?_set_self there, if_pos (List.mem_append_right _ List.mem_cons_self), read]
    rfl
  · have iff : handle ∈ done.map Prod.snd ++ [job.2] ↔ handle ∈ done.map Prod.snd := by
      rw [List.mem_append, List.mem_singleton]
      exact or_iff_left (Ne.symm own)
    rw [List.getElem?_set_ne own, if_congr iff rfl rfl]
    exact progress.sketches handle

/-- A job that a worker was at is done, with the outcome of its sketch as it was at first. -/
theorem Progress.finish {job : String × Nat} {s : Sketch α} {sketches : List (Sketch α)}
    {waiting : List (String × Nat)} {before after : List ((String × Nat) × Sketch α)}
    {finished : List (String × Except (Fault α) (Solution α))}
    (progress :
      Progress engine options r ⟨sketches, waiting, before ++ (job, s) :: after, finished⟩ done)
    (unshared : r.Unshared) :
    Progress engine options r ⟨sketches.set job.2 (s.solve engine options).sketch, waiting,
      before ++ after, finished ++ [(job.1, (s.solve engine options).outcome)]⟩
      (done ++ [job]) := by
  have busy : (job, s) ∈ before ++ (job, s) :: after :=
    List.mem_append_right before List.mem_cons_self
  have read : r.sketches[job.2]? = some s := progress.reads (job, s) busy
  have untouched : job.2 ∉ done.map Prod.snd :=
    progress.not_mem_done unshared (List.mem_append_right _ (List.mem_map_of_mem busy))
  refine ⟨?_, ?_, progress.sketches_finish untouched read, ?_⟩
  · refine List.Perm.trans ?_ progress.jobs
    simp only [List.map_append, List.map_cons, List.append_assoc]
    refine (List.Perm.append_left _ (List.Perm.append_left _ ?_))
    rw [← List.append_assoc]
    exact List.perm_append_singleton job _
  · intro other among
    apply progress.reads other
    rcases List.mem_append.1 among with early | late
    · exact List.mem_append_left _ early
    · exact List.mem_append_right _ (List.mem_cons_of_mem _ late)
  · rw [List.filterMap_append, ← progress.finished, List.filterMap_cons, alone, read]
    rfl

/-- **A step of a worker is progress.** -/
theorem Progress.step (progress : Progress engine options r p done) (unshared : r.Unshared)
    (step : Step engine options limit p q) :
    ∃ more, Progress engine options r q (done ++ more) := by
  cases step with
  | take _ read =>
      refine ⟨[], ?_⟩
      rw [List.append_nil]
      exact progress.take unshared read
  | finish => exact ⟨[_], progress.finish unshared⟩

theorem Reaches.progress (reaches : Reaches engine options limit (start r) p)
    (unshared : r.Unshared) : ∃ done, Progress engine options r p done := by
  induction reaches with
  | refl => exact ⟨[], progress_start engine options r⟩
  | tail _ step ih =>
      obtain ⟨done, progress⟩ := ih
      obtain ⟨more, further⟩ := progress.step unshared step
      exact ⟨done ++ more, further⟩

/-! ## Every pool comes to an end -/

/-- The steps that are left: a job that waits has to be taken and finished. -/
def work (p : Pool α) : Nat := 2 * p.waiting.length + p.running.length

theorem work_step (step : Step engine options limit p q) : q.work < p.work := by
  cases step with
  | take => simp [work]; omega
  | finish => simp [work]

/-- Where jobs are left, some worker has something to do. -/
theorem Progress.exists_step (progress : Progress engine options r p done) (sound : r.Sound)
    (unshared : r.Unshared) (positive : 0 < limit) (left : ¬ p.Done) :
    ∃ q, Step engine options limit p q := by
  obtain ⟨sketches, waiting, running, finished⟩ := p
  cases running with
  | cons busy others => exact ⟨_, .finish [] others⟩
  | nil =>
      cases waiting with
      | nil => exact absurd ⟨rfl, rfl⟩ left
      | cons job rest =>
          have pending :
              job ∈ job :: rest ++ ([] : List ((String × Nat) × Sketch α)).map Prod.fst :=
            List.mem_append_left _ List.mem_cons_self
          have within : job.2 < r.sketches.length :=
            sound.within job (progress.jobs.mem_iff.1 (List.mem_append_left done pending))
          have read := progress.sketches job.2
          rw [if_neg (progress.not_mem_done unshared pending),
            List.getElem?_eq_getElem within] at read
          exact ⟨_, .take positive read⟩

/-- **A pool is never stuck**: whatever was done so far, all jobs can be finished. -/
theorem exists_done (sound : r.Sound) (unshared : r.Unshared) (positive : 0 < limit)
    (reaches : Reaches engine options limit (start r) p) :
    ∃ q, Reaches engine options limit p q ∧ q.Done := by
  -- By induction on the steps that are left, of which every step takes one away.
  induction work : p.work using Nat.strong_induction_on generalizing p with
  | _ n ih =>
      by_cases left : p.Done
      · exact ⟨p, .refl, left⟩
      · obtain ⟨done, progress⟩ := reaches.progress unshared
        obtain ⟨next, step⟩ := progress.exists_step sound unshared positive left
        obtain ⟨q, rest, finished⟩ := ih next.work (work ▸ work_step step) (reaches.tail step) rfl
        exact ⟨q, .head step rest, finished⟩

/-! ## Where it ends -/

/-- When no job is left all of them are done. -/
theorem Progress.perm (progress : Progress engine options r p done) (finished : p.Done) :
    done.Perm r.entries := by
  have jobs := progress.jobs
  rwa [finished.1, finished.2] at jobs

/-- At the end every sketch under a label is as its own solve leaves it, others are as they were. -/
theorem Progress.sketches_eq (progress : Progress engine options r p done) (finished : p.Done)
    (handle : Nat) : p.sketches[handle]? =
      if handle ∈ r.entries.map Prod.snd
      then r.sketches[handle]?.map fun s => (s.solve engine options).sketch
      else r.sketches[handle]? := by
  rw [progress.sketches handle]
  exact if_congr ((progress.perm finished).map Prod.snd).mem_iff rfl rfl

/-- All outcomes in the order of registration, each of a sketch that is solved on its own. -/
def outcomes (engine : Engine α) (options : Option (Options α)) (r : Registry α) :
    List (String × Except (Fault α) (Solution α)) :=
  r.toList.map fun entry => (entry.1, (entry.2.solve engine options).outcome)

theorem outcomes_eq (engine : Engine α) (options : Option (Options α)) (r : Registry α) :
    outcomes engine options r = r.entries.filterMap (alone engine options r) := by
  rw [outcomes, toList, List.map_filterMap]
  refine List.filterMap_congr fun job _ => ?_
  rw [Option.map_map]
  rfl

theorem map_fst_outcomes (engine : Engine α) (options : Option (Options α)) (sound : r.Sound) :
    (outcomes engine options r).map Prod.fst = r.labels := by
  rw [outcomes, List.map_map, ← sound.map_fst_toList]
  rfl

/-- Collecting brings the outcomes into the order of registration. -/
theorem Progress.collect_eq (progress : Progress engine options r p done) (finished : p.Done)
    (sound : r.Sound) : p.collect r.labels = gather (outcomes engine options r) := by
  have same : (outcomes engine options r).Perm p.finished := by
    rw [progress.finished, outcomes_eq]
    exact ((progress.perm finished).filterMap _).symm
  have labels := map_fst_outcomes engine options sound
  rw [collect, ← labels, filterMap_lookup same (labels ▸ sound.distinct)]

/-- **All orders end alike**, in the same sketches and with the same answer. -/
theorem Reaches.end_unique (sound : r.Sound) (unshared : r.Unshared)
    (one : Reaches engine options limit (start r) p) (finished : p.Done)
    (other : Reaches engine options limit (start r) q) (finished' : q.Done) :
    p.sketches = q.sketches ∧ p.collect r.labels = q.collect r.labels := by
  obtain ⟨_, progress⟩ := one.progress unshared
  obtain ⟨_, progress'⟩ := other.progress unshared
  constructor
  · apply List.ext_getElem?
    intro handle
    rw [progress.sketches_eq finished, progress'.sketches_eq finished']
  · rw [progress.collect_eq finished sound, progress'.collect_eq finished' sound]

/-! ## One after the other -/

theorem map_fst_solveEach (jobs : List (String × Nat))
    (within : ∀ job ∈ jobs, job.2 < r.sketches.length) :
    (solveEach engine options jobs r).2.2.map Prod.fst = jobs.map Prod.fst := by
  induction jobs generalizing r with
  | nil => rfl
  | cons job rest ih =>
      obtain ⟨label, handle⟩ := job
      obtain ⟨here, later⟩ := List.forall_mem_cons.1 within
      rw [solveEach, List.getElem?_eq_getElem here]
      refine congrArg (label :: ·) (ih fun job among => ?_)
      exact (later job among).trans_eq List.length_set.symm

/-- Solving one sketch after the other is what a pool does that finishes every job before it takes
the next. -/
theorem reaches_solveEach (positive : 0 < limit) (jobs : List (String × Nat))
    (within : ∀ job ∈ jobs, job.2 < r.sketches.length)
    (finished : List (String × Except (Fault α) (Solution α))) :
    Reaches engine options limit ⟨r.sketches, jobs, [], finished⟩
      ⟨(solveEach engine options jobs r).1.sketches, [], [],
        finished ++ (solveEach engine options jobs r).2.2⟩ := by
  induction jobs generalizing r finished with
  | nil =>
      rw [solveEach, List.append_nil]
  | cons job rest ih =>
      obtain ⟨label, handle⟩ := job
      obtain ⟨here, later⟩ := List.forall_mem_cons.1 within
      have read := List.getElem?_eq_getElem here
      rw [solveEach, read]
      refine .head (.take positive read) (.head (.finish [] []) ?_)
      have others := ih
        (r := (r.editAt handle r.sketches[handle] fun s => s.solve engine options).registry)
        (fun job among => (later job among).trans_eq List.length_set.symm)
        (finished ++ [(label, ((r.sketches[handle]).solve engine options).outcome)])
      rw [List.append_assoc] at others
      exact others

/-- Outcomes that were finished in the order of registration are collected as they are. -/
theorem collect_solveEach (sound : r.Sound) (sketches : List (Sketch α)) :
    collect ⟨sketches, [], [], (solveEach engine options r.entries r).2.2⟩ r.labels =
      gather (solveEach engine options r.entries r).2.2 := by
  have labelled : (solveEach engine options r.entries r).2.2.map Prod.fst = r.labels :=
    map_fst_solveEach r.entries sound.within
  rw [collect, ← labelled, filterMap_lookup (List.Perm.refl _) (labelled ▸ sound.distinct)]

end Pool

/-! ## Answers of all -/

section Gather

omit [Scalar α]

variable {β : Type} {results : List (String × Except (Fault α) β)}

theorem gather_eq_ok {answers : List (String × β)} :
    gather results = .ok answers ↔
      List.Forall₂ (fun result answer => result.1 = answer.1 ∧ result.2 = .ok answer.2)
        results answers := by
  have one (result : String × Except (Fault α) β) (answer : String × β) :
      (result.2.map fun b => (result.1, b)) = .ok answer ↔
        result.1 = answer.1 ∧ result.2 = .ok answer.2 := by
    obtain ⟨label, outcome⟩ := result
    cases outcome <;> simp [Except.map, Prod.ext_iff]
  rw [gather, mapM_eq_ok]
  exact ⟨fun all => all.imp fun _ _ => (one _ _).1, fun all => all.imp fun _ _ => (one _ _).2⟩

theorem exists_gather (answered : ∀ result ∈ results, ∃ b, result.2 = .ok b) :
    ∃ answers, gather results = .ok answers := by
  refine exists_mapM fun (label, outcome) among => ?_
  obtain ⟨b, rfl⟩ := answered (label, outcome) among
  exact ⟨(label, b), rfl⟩

/-- Answers come under the labels of the results. -/
theorem map_fst_gather {answers : List (String × β)} (gathered : gather results = .ok answers) :
    answers.map Prod.fst = results.map Prod.fst := by
  have pairs := (gather_eq_ok.1 gathered).imp fun _ _ pair => pair.1
  rw [eq_comm, ← List.forall₂_eq_eq_eq, List.forall₂_map_left_iff, List.forall₂_map_right_iff]
  exact pairs

/-- The first fault is the answer, whatever comes behind it. -/
theorem gather_eq_error {before after : List (String × Except (Fault α) β)} {label : String}
    {fault : Fault α} (answered : ∀ result ∈ before, ∃ b, result.2 = .ok b) :
    gather (before ++ (label, .error fault) :: after) = .error fault := by
  obtain ⟨answers, first⟩ := exists_gather answered
  rw [gather] at first ⊢
  rw [List.mapM_append, first]
  rfl

end Gather

/-- What solving all comes to, for any positive number of workers. -/
theorem solveAll_eq (r : Registry α) (engine : Engine α) (options : Option (Options α))
    {workers : Option Int} (enough : ∀ n ∈ workers, 0 < n) :
    (r.solveAll engine options workers).registry = (solveEach engine options r.entries r).1 ∧
      (r.solveAll engine options workers).outcome =
        gather (solveEach engine options r.entries r).2.2 := by
  unfold solveAll
  split
  · rename_i none
    rw [List.isEmpty_iff.1 none]
    exact ⟨rfl, rfl⟩
  · have some : workers.any (· ≤ 0) = false := by
      cases workers with
      | none => rfl
      | some n => exact decide_eq_false (not_le.2 (enough n rfl))
    rw [some, if_neg Bool.false_ne_true]
    dsimp only
    split
    · rename_i failed
      exact ⟨rfl, failed.symm⟩
    · rename_i answered
      exact ⟨rfl, answered.symm⟩

/-- **Solving in any order.**  Let no sketch of a registry be under two labels, and let a pool of
any positive number of workers have done any of its work in any order.  It can finish all of it.
When it has, every sketch is exactly as its own solve leaves it, whether or not some solve had a
fault.  If none had, the answers are those of the solves on their own, in the order of
registration; otherwise the fault is that of the first sketch in the order of registration that
has one.  Solving one sketch after the other, for whatever number of workers, comes to the same
sketches and the same answer. -/
theorem solveAll_any_order {α : Type} [Scalar α] {r : Registry α} (sound : r.Sound)
    (unshared : r.Unshared) {engine : Engine α} {options : Option (Options α)} {limit : Nat}
    (positive : 0 < limit) {p : Pool α} (reaches : Pool.Reaches engine options limit (.start r) p) :
    (∃ q, Pool.Reaches engine options limit p q ∧ q.Done) ∧
    (p.Done →
      (∀ label s, r.get? label = some s →
        { r with sketches := p.sketches }.get? label = some (s.solve engine options).sketch) ∧
      ((∀ entry ∈ r.toList, ∃ solution, (entry.2.solve engine options).outcome = .ok solution) →
        ∃ solutions, p.collect r.labels = .ok solutions ∧ solutions.map Prod.fst = r.labels ∧
          List.Forall₂ (fun entry answer => (entry.2.solve engine options).outcome = .ok answer.2)
            r.toList solutions) ∧
      (∀ before label s after fault, r.toList = before ++ (label, s) :: after →
        (∀ entry ∈ before, ∃ solution, (entry.2.solve engine options).outcome = .ok solution) →
        (s.solve engine options).outcome = .error fault →
        p.collect r.labels = .error fault) ∧
      ∀ workers : Option Int, (∀ n ∈ workers, 0 < n) →
        (r.solveAll engine options workers).registry = { r with sketches := p.sketches } ∧
        (r.solveAll engine options workers).outcome = p.collect r.labels) := by
  refine ⟨Pool.exists_done sound unshared positive reaches, fun finished => ?_⟩
  obtain ⟨done, progress⟩ := reaches.progress unshared
  have collected := progress.collect_eq finished sound
  refine ⟨?_, ?_, ?_, ?_⟩
  · intro label s stored
    obtain ⟨handle, found, read⟩ := Option.bind_eq_some_iff.1 stored
    have among : handle ∈ r.entries.map Prod.snd := List.mem_map_of_mem (mem_of_handle? found)
    refine Option.bind_eq_some_iff.2 ⟨handle, found, ?_⟩
    change p.sketches[handle]? = _
    rw [progress.sketches_eq finished, if_pos among, read]
    rfl
  · intro answered
    obtain ⟨solutions, all⟩ :
        ∃ solutions, gather (Pool.outcomes engine options r) = .ok solutions := by
      refine exists_gather fun result among => ?_
      obtain ⟨entry, present, rfl⟩ := List.mem_map.1 among
      exact answered entry present
    refine ⟨solutions, collected.trans all, ?_, ?_⟩
    · exact (map_fst_gather all).trans (Pool.map_fst_outcomes engine options sound)
    · exact (List.forall₂_map_left_iff.1 (gather_eq_ok.1 all)).imp fun _ _ pair => pair.2
  · intro before label s after fault split answered failed
    rw [collected, Pool.outcomes, split, List.map_append, List.map_cons, failed]
    refine gather_eq_error fun result among => ?_
    obtain ⟨entry, present, rfl⟩ := List.mem_map.1 among
    exact answered entry present
  · intro workers enough
    obtain ⟨registry, outcome⟩ := solveAll_eq r engine options enough
    have sequential : Pool.Reaches engine options limit (.start r) _ :=
      Pool.reaches_solveEach positive r.entries sound.within []
    obtain ⟨sketches, answer⟩ :=
      reaches.end_unique sound unshared finished sequential ⟨rfl, rfl⟩
    obtain ⟨entries, counter, -⟩ := solveEach_frame engine options r.entries r
    constructor
    · rw [registry, sketches]
      exact congrArg₂ (Registry.mk _) entries counter
    · rw [outcome, answer]
      exact (Pool.collect_solveEach sound _).symm

/-! ## A base and a lid -/

namespace Box

/-- The sketch of a line from the origin to `(1, 0)` that is to have some length. -/
noncomputable def base (length : ℝ) : Sketch ℝ :=
  { Segment.sketch length with name := .text "Base" }

/-- The sketch of a line without a length, which is what it is to have. -/
noncomputable def lid (x : ℝ) : Sketch ℝ :=
  { Segment.sketch 0 with name := .text "Lid", entities := Segment.entities x x }

/-- The two sketches. -/
noncomputable def pair (length x : ℝ) : Registry ℝ where
  sketches := [base length, lid x]
  entries := [("Base", 0), ("Lid", 1)]
  counter := 0

/-- The base is written back with a line of that length. -/
theorem solve_base {length : ℝ} (nonneg : 0 ≤ length) (away : Tolerance.solved ≤ |1 - length|) :
    ∃ solution, ((base length).solve Rotation.engine none).outcome = .ok solution ∧
      ((base length).solve Rotation.engine none).sketch =
        { base length with
          entities := Segment.entities ((1 - length) / 2) ((1 + length) / 2)
          lastSolution := some solution } := by
  obtain ⟨solution, answered, success, applied⟩ := Segment.solve_resizes nonneg away
  have outcome : ((base length).solve Rotation.engine none).outcome = .ok solution :=
    Sketch.solve_outcome_of_written answered applied
  obtain ⟨-, solved, written, sketch⟩ := Sketch.solve_written outcome success
  cases applied.symm.trans written
  exact ⟨solution, outcome, sketch⟩

/-- The lid is refused, and left as it is. -/
theorem solve_lid (x : ℝ) :
    ((lid x).solve Rotation.engine none).outcome =
        .error (.degenerate .length (.whole 0) 0 .flatLine) ∧
      ((lid x).solve Rotation.engine none).sketch = lid x := by
  have refused : ((lid x).solve Rotation.engine none).outcome =
      .error (.degenerate .length (.whole 0) 0 .flatLine) :=
    Sketch.solve_outcome_of_error (Segment.solve_collapsed _ _ x)
  exact ⟨refused, Sketch.atomic_solve (lid x) Rotation.engine none _ refused⟩

end Box

open Box in
/-- Two workers take both sketches.  The lid is done first, and it has a fault; the base is written
back all the same, and the fault is the answer. -/
theorem solveAll_any_order_crossed :
    ∃ (p : Pool ℝ) (solution : Solution ℝ),
      Pool.Reaches Rotation.engine none 2 (.start (pair 2 0)) p ∧ p.Done ∧
      p.finished.map Prod.fst = ["Lid", "Base"] ∧
      { pair 2 0 with sketches := p.sketches }.get? "Base" =
        some { base 2 with
          entities := Segment.entities ((1 - 2) / 2) ((1 + 2) / 2)
          lastSolution := some solution } ∧
      { pair 2 0 with sketches := p.sketches }.get? "Lid" = some (lid 0) ∧
      p.collect ["Base", "Lid"] = .error (.degenerate .length (.whole 0) 0 .flatLine) ∧
      ((pair 2 0).solveAll Rotation.engine none (some 2)).registry =
        { pair 2 0 with sketches := p.sketches } ∧
      ((pair 2 0).solveAll Rotation.engine none (some 2)).outcome = p.collect ["Base", "Lid"] := by
  have sound : (pair 2 0).Sound := ⟨by decide, by decide⟩
  have unshared : (pair 2 0).Unshared := by decide
  have busy : Pool.Reaches Rotation.engine none 2 (.start (pair 2 0))
      ⟨(pair 2 0).sketches, [], [(("Base", 0), base 2), (("Lid", 1), lid 0)], []⟩ :=
    .head (.take (by decide) rfl) (.head (.take (by decide) rfl) .refl)
  have reaches := (busy.tail (.finish [(("Base", 0), base 2)] [])).tail (.finish [] [])
  obtain ⟨alone, -, surfaced, alike⟩ :=
    (solveAll_any_order sound unshared (by decide) reaches).2 ⟨rfl, rfl⟩
  have away : (Tolerance.solved : ℝ) ≤ |1 - 2| := by norm_num [Tolerance.solved]
  obtain ⟨solution, answered, written⟩ := solve_base zero_le_two away
  obtain ⟨refused, kept⟩ := solve_lid 0
  refine ⟨_, solution, reaches, ⟨rfl, rfl⟩, rfl, ?base, ?lid, ?fault, alike (some 2) (by decide)⟩
  case base => exact (alone "Base" (base 2) rfl).trans (congrArg some written)
  case lid => exact (alone "Lid" (lid 0) rfl).trans (congrArg some kept)
  case fault =>
    refine surfaced [("Base", base 2)] "Lid" (lid 0) [] _ rfl ?_ refused
    rintro entry among
    cases List.mem_singleton.1 among
    exact ⟨solution, answered⟩

end Registry

end PlanarSketch
