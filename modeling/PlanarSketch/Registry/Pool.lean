import PlanarSketch.Registry

/-!
# Pools of workers

The sketches of a registry are solved by a pool of workers.  Every entry is a job, and jobs wait
in the order of registration.  A worker that is free takes the next job and reads its sketch; one
that has solved its sketch writes it back and leaves the outcome.  Which worker is the next to be
done is left open.

The outcomes are collected when all jobs are finished, label by label in the order of
registration, whatever order they were finished in.
-/

namespace PlanarSketch

set_option autoImplicit false

namespace Registry

/-- Workers on the sketches of a registry. -/
structure Pool (α : Type) [Scalar α] where
  /-- All sketches, by handle. -/
  sketches : List (Sketch α)
  /-- Jobs that no worker has taken: labels with the handles of their sketches. -/
  waiting : List (String × Nat)
  /-- Jobs that workers are at, with the sketches that they have read. -/
  running : List ((String × Nat) × Sketch α)
  /-- Outcomes under the labels of their jobs, in the order in which the jobs were finished. -/
  finished : List (String × Except (Fault α) (Solution α))

namespace Pool

variable {α : Type} [Scalar α]

/-- A pool before any work is done. -/
def start (r : Registry α) : Pool α := ⟨r.sketches, r.entries, [], []⟩

/-- No job is left. -/
def Done (p : Pool α) : Prop := p.waiting = [] ∧ p.running = []

/-- What one worker out of a limited number does next. -/
inductive Step (engine : Engine α) (options : Option (Options α)) (limit : Nat) :
    Pool α → Pool α → Prop where
  | take {sketches waiting running finished} {job : String × Nat} {s : Sketch α}
      (free : running.length < limit) (read : sketches[job.2]? = some s) :
      Step engine options limit ⟨sketches, job :: waiting, running, finished⟩
        ⟨sketches, waiting, running ++ [(job, s)], finished⟩
  | finish {sketches waiting finished} (before after : List ((String × Nat) × Sketch α))
      {job : String × Nat} {s : Sketch α} :
      Step engine options limit ⟨sketches, waiting, before ++ (job, s) :: after, finished⟩
        ⟨sketches.set job.2 (s.solve engine options).sketch, waiting, before ++ after,
          finished ++ [(job.1, (s.solve engine options).outcome)]⟩

/-- The answers of labels, or the first fault among them. -/
def collect (p : Pool α) (labels : List String) :
    Except (Fault α) (List (String × Solution α)) :=
  gather (labels.filterMap fun label =>
    (p.finished.lookup label).map fun outcome => (label, outcome))

end Pool

end Registry

end PlanarSketch
