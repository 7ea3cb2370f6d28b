import PlanarSketch.Engine.Double
import PlanarSketch.Proofs.Registry.Faithfulness
import PlanarSketch.Proofs.Sketch.Restoring

/-!
# Registries are restored from their records

Loading does not copy a registry.  It registers the sketches that it reads one after the other,
which numbers handles anew, renames sketches and moves the counter.  For a faithful registry all
of this comes out as it was: the registry that has been filled so far holds the sketches that have
been read, in their order (`Registry.load_filled`), no sketch gets another name, and the counter
does not pass the one that is stored (`Registry.foldlM_load`).  So what a run without shared
sketches leads to is restored (`registry_restored`).
-/

namespace PlanarSketch

set_option autoImplicit false

open Outcome

namespace Registry

/-- The registry that is filled with sketches under labels, in this order. -/
def filled (pairs : List (String × Sketch Float)) (counter : Nat) : Registry Float where
  sketches := pairs.map Prod.snd
  entries := (pairs.map Prod.fst).zipIdx
  counter

/-- What is stored of sketches under labels. -/
def storedPairs (pairs : List (String × Sketch Float)) : List (String × Sketch Float) :=
  pairs.map fun pair => (pair.1, pair.2.stored)

variable {pairs done : List (String × Sketch Float)} {counter highest : Nat}

theorem labels_filled : (filled pairs counter).labels = pairs.map Prod.fst :=
  List.zipIdx_map_fst 0 _

theorem toList_filled : (filled pairs counter).toList = pairs := by
  have behind (front : List (Sketch Float)) :
      ((pairs.map Prod.fst).zipIdx front.length).filterMap (fun entry =>
        (front ++ pairs.map Prod.snd)[entry.2]?.map fun s => (entry.1, s)) = pairs := by
    induction pairs generalizing front with
    | nil => rfl
    | cons pair rest ih =>
        have here : (front ++ (pair :: rest).map Prod.snd)[front.length]? = some pair.2 := by
          simp
        have others := ih (front ++ [pair.2])
        rw [List.length_append, List.append_assoc] at others
        rw [List.map_cons (f := Prod.fst), List.zipIdx_cons, List.filterMap_cons, here]
        exact congrArg (pair :: ·) others
  exact behind []

/-- The next sketch is loaded behind those that have been. -/
theorem load_filled {label : String} {s : Sketch Float} {next : Nat}
    (fresh : label ∉ done.map Prod.fst) (tidy : s.Tidy Mark.Any) (named : s.name = .text label)
    (used : (counterAfter counter label : Except (Fault Float) Nat) = .ok next) :
    (filled done counter).load (label, s.toDocument) =
      .ok (filled (done ++ [(label, s.stored)]) next) := by
  have renamed : { s.stored with name := .text label } = s.stored := by
    rw [← named]
    rfl
  have sketches : (done.map Prod.snd ++ [s.stored]).modify (done.map Prod.snd).length
      (fun s => { s with name := .text label }) =
      (done ++ [(label, s.stored)]).map Prod.snd := by
    rw [List.map_append, List.map_singleton]
    generalize done.map Prod.snd = front
    induction front with
    | nil => exact congrArg (fun t => [t]) renamed
    | cons t rest ih => exact congrArg (t :: ·) ih
  have entries : putEntry label (done.map Prod.snd).length (done.map Prod.fst).zipIdx =
      ((done ++ [(label, s.stored)]).map Prod.fst).zipIdx := by
    rw [putEntry_of_not_mem, List.map_append, List.zipIdx_append]
    · simp
    · rwa [List.zipIdx_map_fst]
  rw [load, Sketch.ofDocument_toDocument tidy]
  change ((do
    let counter ← counterAfter counter label
    .ok (({ filled done counter with sketches := done.map Prod.snd ++ [s.stored] } :
      Registry Float).place label (done.map Prod.snd).length counter, label) :
      Except (Fault Float) (Registry Float × String)).map Prod.fst) = _
  rw [used]
  exact congrArg₂ (fun sketches entries => Except.ok (Registry.mk sketches entries next)) sketches
    entries

/-- A sketch under a label that can be loaded as what it is. -/
structure Loads (highest : Nat) (pair : String × Sketch Float) : Prop where
  tidy : pair.2.Tidy Mark.Any
  named : pair.2.name = .text pair.1
  counted : Counted highest pair.1

/-- **Sketches are loaded in their order**, and the counter does not pass a number that is as high
as it and as all of their labels. -/
theorem foldlM_load (distinct : ((done ++ pairs).map Prod.fst).Nodup)
    (loads : ∀ pair ∈ pairs, Loads highest pair) (within : counter ≤ highest) :
    ∃ last ≤ highest, (pairs.map fun pair => (pair.1, pair.2.toDocument)).foldlM load
        (filled done counter) = .ok (filled (done ++ storedPairs pairs) last) := by
  induction pairs generalizing done counter with
  | nil =>
      refine ⟨counter, within, ?_⟩
      rw [storedPairs, List.map_nil, List.map_nil, List.append_nil]
      rfl
  | cons pair rest ih =>
      obtain ⟨label, s⟩ := pair
      obtain ⟨first, later⟩ := List.forall_mem_cons.1 loads
      obtain ⟨number?, read, low⟩ := first.counted
      have fresh : label ∉ done.map Prod.fst := by
        rw [List.map_append, List.nodup_append] at distinct
        exact fun among => distinct.2.2 _ among _ List.mem_cons_self rfl
      have loaded : (filled done counter).load (label, s.toDocument) = _ :=
        load_filled fresh first.tidy first.named (counterAfter_eq_ok_iff.2 ⟨number?, read, rfl⟩)
      have next : ((done ++ [(label, s.stored)] ++ rest).map Prod.fst).Nodup := by
        simpa using distinct
      -- The registry goes on with one sketch more, and with a counter that is still low enough.
      obtain ⟨last, bound, others⟩ := ih next later (max_le within low)
      refine ⟨last, bound, ?_⟩
      rw [List.map_cons, List.foldlM_cons, loaded]
      refine others.trans ?_
      rw [List.append_assoc]
      rfl

theorem Faithful.loads {r : Registry Float} (faithful : r.Faithful) :
    ∀ pair ∈ r.toList, Loads r.counter pair := by
  intro pair among
  obtain ⟨⟨label, handle⟩, present, found⟩ := List.mem_filterMap.1 among
  obtain ⟨s, stored, rfl⟩ := Option.map_eq_some_iff.1 found
  exact ⟨faithful.tidy s (List.mem_of_getElem? stored), faithful.named _ present s stored,
    faithful.counted label (List.mem_map_of_mem present)⟩

/-- **What a faithful registry is stored as is loaded as that registry**, but for what is not stored
of its sketches. -/
theorem Faithful.ofDocument_toDocument {r : Registry Float} (faithful : r.Faithful) :
    Registry.ofDocument r.toDocument = .ok (filled (storedPairs r.toList) r.counter) := by
  have distinct : (([] ++ r.toList).map Prod.fst).Nodup := by
    rw [List.nil_append, faithful.toSound.map_fst_toList]
    exact faithful.distinct
  obtain ⟨last, bound, loaded⟩ := foldlM_load distinct faithful.loads (Nat.zero_le r.counter)
  have restart : ((r.toList.map fun pair => (pair.1, pair.2.toDocument)).foldlM load
      Registry.empty : Except (Fault Float) (Registry Float)) =
        .ok (filled (storedPairs r.toList) last) :=
    loaded
  change (do
    let loaded ← (r.toList.map fun pair => (pair.1, pair.2.toDocument)).foldlM load Registry.empty
    Except.ok { loaded with counter := max loaded.counter (r.counter : Int).toNat } :
      Except (Fault Float) (Registry Float)) = _
  rw [restart]
  change Except.ok { filled (storedPairs r.toList) last with counter := max last r.counter } = _
  rw [max_eq_right bound]
  rfl

end Registry

/-- **A registry is restored as it was.**  Let a run on the empty registry register tidy sketches,
remove labels, clear, solve, and edit stored sketches with plain marks, with refusals and loaded
documents on the way, and let no sketch ever be under two labels.  Then every sketch is named after
its label, and the record of the registry is loaded as a registry of the same labels in the same
order, the same counter, and under each label a sketch of the same name, entities, constraints and
counters.  So the restored registry is stored as the same record. -/
theorem registry_restored (engine : Engine Float) {run : List Registry.Action}
    (tidy : ∀ action ∈ run, action.Tidy)
    (unshared : ∀ before, before <+: run →
      ((Registry.empty : Registry Float).after engine before).Unshared)
    {r : Registry Float} (reached : r = (Registry.empty : Registry Float).after engine run) :
    (∀ label s, r.get? label = some s → s.name = .text label) ∧
    ∃ other, Registry.ofDocument r.toDocument = .ok other ∧ other.labels = r.labels ∧
      other.counter = r.counter ∧
      List.Forall₂ (fun there here => there.1 = here.1 ∧ there.2.Restores here.2) other.toList
        r.toList ∧
      other.toDocument = r.toDocument := by
  have faithful : r.Faithful := reached ▸ Registry.Faithful.empty.after engine tidy unshared
  have stored : (Registry.filled (Registry.storedPairs r.toList) r.counter).toList = _ :=
    Registry.toList_filled
  refine ⟨?_, _, faithful.ofDocument_toDocument, ?_, rfl, ?_, ?_⟩
  · intro label s found
    obtain ⟨handle, looked, read⟩ := Option.bind_eq_some_iff.1 found
    exact faithful.named (label, handle) (Registry.mem_of_handle? looked) s read
  · rw [Registry.labels_filled, Registry.storedPairs, List.map_map,
      ← faithful.toSound.map_fst_toList]
    rfl
  · rw [stored, Registry.storedPairs, List.forall₂_map_left_iff, List.forall₂_same]
    exact fun pair _ => ⟨rfl, pair.2.restores_stored⟩
  · rw [Registry.toDocument, stored, Registry.storedPairs, List.map_map]
    rfl

namespace Registry.Numbered

/-- Two sketches, of which one gets a point and the other one is removed, so that the counter is
ahead of the label that is left. -/
def run : List Action :=
  [.register (.blank Sketch.standardName .standard) none,
    .register (.blank Sketch.standardName .standard) (some "Sketch5"),
    .edit "Sketch1" (.addShape (.point 1.5 (-2)) (.of true)), .remove "Sketch5"]

/-- What the run leads to. -/
def left : Registry Float := Registry.empty.after Double.engine run

end Registry.Numbered

/-- The sketch that is left is restored under its label, with the counter of the one that is
gone. -/
theorem registry_restored_numbered :
    Registry.Numbered.left.labels = ["Sketch1"] ∧ Registry.Numbered.left.counter = 5 ∧
    ∃ other, Registry.ofDocument Registry.Numbered.left.toDocument = .ok other ∧
      other.labels = ["Sketch1"] ∧ other.counter = 5 ∧
      other.toDocument = Registry.Numbered.left.toDocument := by
  have tidy : ∀ action ∈ Registry.Numbered.run, action.Tidy := by
    simp only [Registry.Numbered.run, List.forall_mem_cons]
    exact ⟨Sketch.Tidy.blank _ _, Sketch.Tidy.blank _ _, Mark.plain_of true, trivial,
      fun _ among => absurd among List.not_mem_nil⟩
  have unshared : ∀ before ∈ Registry.Numbered.run.inits,
      ((Registry.empty : Registry Float).after Double.engine before).Unshared := by
    decide +kernel
  have labels : Registry.Numbered.left.labels = ["Sketch1"] := by decide +kernel
  have counter : Registry.Numbered.left.counter = 5 := by decide +kernel
  obtain ⟨-, other, loaded, labels', counter', -, stored⟩ :=
    registry_restored Double.engine tidy
      (fun before early => unshared before ((List.mem_inits _ _).2 early))
      (r := Registry.Numbered.left) rfl
  exact ⟨labels, counter, other, loaded, labels'.trans labels, counter'.trans counter, stored⟩

end PlanarSketch
