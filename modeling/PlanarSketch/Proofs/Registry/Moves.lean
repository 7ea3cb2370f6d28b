import Mathlib.Data.List.Nodup
import Mathlib.Order.Lattice
import PlanarSketch.Proofs.Order
import PlanarSketch.Proofs.Outcome
import PlanarSketch.Registry.Action

/-!
# What an action does to a registry

Each action on a registry comes to one of a few moves: a sketch is placed under a label, the
counter goes up, a label goes out of use, sketches change where they are, or another registry
takes its place (`Registry.Move`).  The running definition takes no other move
(`Registry.move_next`), so what all runs keep is shown with one case for each move.

A document is loaded by placing sketches, so what such placements keep holds of everything that
is loaded (`Registry.ofDocument_keeps`).

A registry is sound when no label stands twice and every label leads to a sketch
(`Registry.Sound`), and every run keeps it so (`Registry.Sound.after`).
-/

namespace PlanarSketch

set_option autoImplicit false

open Outcome

namespace Registry

/-! ## Entries -/

section Entries

variable {label other : String} {handle : Nat} {entries : List (String × Nat)}

theorem map_fst_putEntry_of_mem (present : label ∈ entries.map Prod.fst) :
    (putEntry label handle entries).map Prod.fst = entries.map Prod.fst := by
  induction entries with
  | nil => cases present
  | cons entry rest ih =>
      obtain ⟨k, h⟩ := entry
      by_cases here : k = label
      · rw [putEntry, if_pos here, here]
        rfl
      · rw [putEntry, if_neg here, List.map_cons, List.map_cons]
        rw [ih ((List.mem_cons.1 present).resolve_left fun same => here same.symm)]

theorem putEntry_of_not_mem (absent : label ∉ entries.map Prod.fst) :
    putEntry label handle entries = entries ++ [(label, handle)] := by
  induction entries with
  | nil => rfl
  | cons entry rest ih =>
      obtain ⟨k, h⟩ := entry
      rw [List.map_cons, List.mem_cons, not_or] at absent
      rw [putEntry, if_neg fun same => absent.1 same.symm, ih absent.2]
      rfl

theorem mem_map_fst_putEntry :
    other ∈ (putEntry label handle entries).map Prod.fst ↔
      other = label ∨ other ∈ entries.map Prod.fst := by
  by_cases present : label ∈ entries.map Prod.fst
  · rw [map_fst_putEntry_of_mem present]
    exact ⟨.inr, fun among => among.elim (fun same => same ▸ present) id⟩
  · rw [putEntry_of_not_mem present, List.map_append, List.mem_append, or_comm]
    exact or_congr List.mem_singleton Iff.rfl

theorem nodup_putEntry (distinct : (entries.map Prod.fst).Nodup) :
    ((putEntry label handle entries).map Prod.fst).Nodup := by
  by_cases present : label ∈ entries.map Prod.fst
  · rwa [map_fst_putEntry_of_mem present]
  · rw [putEntry_of_not_mem present, List.map_append, List.nodup_append_comm]
    exact List.nodup_cons.2 ⟨present, distinct⟩

/-- Besides the entry that was put there are old ones of other labels only. -/
theorem mem_putEntry (distinct : (entries.map Prod.fst).Nodup) {entry : String × Nat}
    (among : entry ∈ putEntry label handle entries) :
    entry = (label, handle) ∨ entry ∈ entries ∧ entry.1 ≠ label := by
  induction entries with
  | nil => exact .inl (List.mem_singleton.1 among)
  | cons first rest ih =>
      obtain ⟨k, h⟩ := first
      obtain ⟨fresh, distinct⟩ := List.nodup_cons.1 distinct
      rw [putEntry] at among
      split at among
      · rename_i here
        rcases List.mem_cons.1 among with same | later
        · exact .inl same
        · refine .inr ⟨List.mem_cons_of_mem _ later, ?_⟩
          intro same
          have again : entry.1 ∈ rest.map Prod.fst := List.mem_map_of_mem later
          exact fresh (by rwa [same, ← here] at again)
      · rename_i elsewhere
        rcases List.mem_cons.1 among with rfl | later
        · exact .inr ⟨List.mem_cons_self, elsewhere⟩
        · exact (ih distinct later).imp id (And.imp_left (List.mem_cons_of_mem _))

/-- Old entries of other labels stay. -/
theorem mem_putEntry_of_ne {entry : String × Nat} (among : entry ∈ entries)
    (elsewhere : entry.1 ≠ label) : entry ∈ putEntry label handle entries := by
  induction entries with
  | nil => cases among
  | cons first rest ih =>
      rw [putEntry]
      split
      · rename_i here
        rcases List.mem_cons.1 among with rfl | later
        · exact absurd here elsewhere
        · exact List.mem_cons_of_mem _ later
      · rcases List.mem_cons.1 among with rfl | later
        · exact List.mem_cons_self
        · exact List.mem_cons_of_mem _ (ih later)

theorem mem_putEntry_self : (label, handle) ∈ putEntry label handle entries := by
  induction entries with
  | nil => exact List.mem_singleton_self _
  | cons first rest ih =>
      rw [putEntry]
      split
      · exact List.mem_cons_self
      · exact List.mem_cons_of_mem _ ih

end Entries

/-! ## Moves -/

/-- What can become of a registry by an action. -/
inductive Move (engine : Engine Float) (r : Registry Float) : Action → Registry Float → Prop where
  | refused (action : Action) : Move engine r action r
  | registered {s : Sketch Float} {label? : Option String} {label : String} {counter : Nat}
      (labelled : (r.labelFor label? : Except (Fault Float) String) = .ok label)
      (counted : (counterAfter r.counter label : Except (Fault Float) Nat) = .ok counter) :
      Move engine r (.register s label?)
        ({ r with sketches := r.sketches ++ [s] }.place label r.sketches.length counter)
  | registeredAlso {label? other? : Option String} {other : String} {handle counter : Nat}
      (labelled : (r.labelFor other? : Except (Fault Float) String) = .ok other)
      (counted : (counterAfter r.counter other : Except (Fault Float) Nat) = .ok counter)
      (found : label?.bind r.handle? = some handle) :
      Move engine r (.registerAlso label? other?) (r.place other handle counter)
  /-- No sketch was found for another label, which counts as given out all the same. -/
  | counted {label? other? : Option String} {other : String} {counter : Nat}
      (counted : (counterAfter r.counter other : Except (Fault Float) Nat) = .ok counter) :
      Move engine r (.registerAlso label? other?) { r with counter }
  | removed (label : String) : Move engine r (.remove label) (r.remove label)
  | cleared : Move engine r .clear empty
  | edited {label : String} {command : Command Float} {handle : Nat} {s : Sketch Float}
      (stored : r.sketches[handle]? = some s) :
      Move engine r (.edit label command)
        { r with sketches := r.sketches.set handle (s.perform engine command).sketch }
  | solved (options : Option (Options Float)) (workers : Option Int) :
      Move engine r (.solveAll options workers) (solveEach engine options r.entries r).1
  | loaded {stored : Document} {other : Registry Float} (read : ofDocument stored = .ok other) :
      Move engine r (.load stored) other
  | reloaded {other : Registry Float} (read : ofDocument r.toDocument = .ok other) :
      Move engine r .reload other

variable {r : Registry Float}

theorem register_eq_ok {α : Type} [Scalar α] {r other : Registry α} {s : Sketch α}
    {label? : Option String} {label : String}
    (registered : r.register s label? = .ok (other, label)) :
    ∃ counter, r.labelFor label? = .ok label ∧
      (counterAfter r.counter label : Except (Fault α) Nat) = .ok counter ∧
      other = { r with sketches := r.sketches ++ [s] }.place label r.sketches.length counter := by
  obtain ⟨used, labelled, rest⟩ := bind_eq_ok.1 registered
  obtain ⟨counter, counted, rest⟩ := bind_eq_ok.1 rest
  cases rest
  exact ⟨counter, labelled, counted, rfl⟩

theorem registerAlso_eq_ok {α : Type} [Scalar α] {r other : Registry α}
    {label? other? answer : Option String}
    (registered : r.registerAlso label? other? = .ok (other, answer)) :
    ∃ label counter, r.labelFor other? = .ok label ∧
      (counterAfter r.counter label : Except (Fault α) Nat) = .ok counter ∧
      ((∃ handle, label?.bind r.handle? = some handle ∧ answer = some label ∧
          other = r.place label handle counter) ∨
        answer = none ∧ other = { r with counter }) := by
  obtain ⟨label, labelled, rest⟩ := bind_eq_ok.1 registered
  obtain ⟨counter, counted, rest⟩ := bind_eq_ok.1 rest
  refine ⟨label, counter, labelled, counted, ?_⟩
  split at rest
  · rename_i handle found
    cases rest
    exact .inl ⟨handle, found, rfl, rfl⟩
  · cases rest
    exact .inr ⟨rfl, rfl⟩

/-- **Every action comes to one of the moves.** -/
theorem move_next (engine : Engine Float) (r : Registry Float) (action : Action) :
    Move engine r action (r.next engine action) := by
  cases action with
  | register s label? =>
      rw [next]
      cases registered : r.register s label? with
      | error cause => exact .refused _
      | ok answer =>
          obtain ⟨counter, labelled, counted, same⟩ := register_eq_ok registered
          change Move engine r _ answer.1
          rw [same]
          exact .registered labelled counted
  | registerAlso label? other? =>
      rw [next]
      cases registered : r.registerAlso label? other? with
      | error cause => exact .refused _
      | ok answer =>
          obtain ⟨label, counter, labelled, counted, ⟨handle, found, -, same⟩ | ⟨-, same⟩⟩ :=
            registerAlso_eq_ok registered
          · change Move engine r _ answer.1
            rw [same]
            exact .registeredAlso labelled counted found
          · change Move engine r _ answer.1
            rw [same]
            exact .counted counted
  | remove label => exact .removed label
  | clear => exact .cleared
  | edit label command =>
      rw [next, edit?]
      cases r.handle? label with
      | none => exact .refused _
      | some handle =>
          cases stored : r.sketches[handle]? with
          | none =>
              rw [Option.bind_some, stored]
              exact .refused _
          | some s =>
              rw [Option.bind_some, stored]
              exact .edited stored
  | solveAll options workers =>
      rw [next, solveAll]
      split
      · exact .refused _
      · split
        · exact .refused _
        · dsimp only
          split
          · exact .solved options workers
          · exact .solved options workers
  | load stored =>
      rw [next]
      cases read : ofDocument stored with
      | error cause => exact .refused _
      | ok other => exact .loaded read
  | reload =>
      rw [next]
      cases read : ofDocument r.toDocument with
      | error cause => exact .refused _
      | ok other => exact .reloaded read

/-! ## Loading -/

/-- A registry that is loaded has been filled entry by entry; its counter is also that of the
document. -/
theorem ofDocument_eq_ok {stored : Document} (read : ofDocument stored = .ok r) :
    ∃ (entries : List (String × Document)) (filled : Registry Float) (counter : Nat),
      entries.foldlM load empty = .ok filled ∧
      r = { filled with counter := max filled.counter counter } := by
  obtain ⟨-, -, rest⟩ := bind_eq_ok.1 read
  obtain ⟨entries, -, rest⟩ := bind_eq_ok.1 rest
  obtain ⟨filled, loaded, rest⟩ := bind_eq_ok.1 rest
  obtain ⟨counter, -, rest⟩ := bind_eq_ok.1 rest
  cases rest
  exact ⟨entries, filled, counter.toNat, loaded, rfl⟩

/-- An entry is loaded by registering the sketch it stores under its own label. -/
theorem load_eq_ok {entry : String × Document} {next : Registry Float}
    (loaded : r.load entry = .ok next) :
    ∃ s, Sketch.ofDocument entry.2 = .ok s ∧
      r.register s (some entry.1) = .ok (next, entry.1) := by
  obtain ⟨s, stored, registered⟩ := bind_eq_ok.1 loaded
  refine ⟨s, stored, ?_⟩
  cases outcome : r.register s (some entry.1) with
  | error cause =>
      rw [outcome] at registered
      cases registered
  | ok answer =>
      rw [outcome] at registered
      cases registered
      obtain ⟨counter, labelled, -, -⟩ := register_eq_ok outcome
      rw [Except.ok.inj labelled]

/-- What holds of the empty registry, is kept when a stored sketch is registered, and does not
suffer from a higher counter holds of everything that is loaded. -/
theorem ofDocument_keeps {P : Registry Float → Prop} (initial : P empty)
    (step : ∀ (r next : Registry Float) (d : Document) (s : Sketch Float) (label : String),
      P r → Sketch.ofDocument d = .ok s → r.register s (some label) = .ok (next, label) → P next)
    (higher : ∀ (r : Registry Float) (counter : Nat), P r → r.counter ≤ counter →
      P { r with counter })
    {stored : Document} (read : ofDocument stored = .ok r) : P r := by
  obtain ⟨entries, filled, counter, loaded, rfl⟩ := ofDocument_eq_ok read
  refine higher filled _ (foldlM_keeps ?_ initial loaded) (le_max_left _ _)
  intro r entry next kept loaded
  obtain ⟨s, stored, registered⟩ := load_eq_ok loaded
  exact step r next entry.2 s entry.1 kept stored registered

/-! ## Soundness -/

section Soundness

variable {α : Type} [Scalar α]

/-- No label stands twice, and every label leads to a sketch. -/
structure Sound (r : Registry α) : Prop where
  distinct : r.labels.Nodup
  within : ∀ entry ∈ r.entries, entry.2 < r.sketches.length

/-- No sketch is under two labels. -/
def Unshared (r : Registry α) : Prop := (r.entries.map Prod.snd).Nodup

instance (r : Registry α) : Decidable r.Unshared :=
  inferInstanceAs (Decidable (r.entries.map Prod.snd).Nodup)

variable {r : Registry α}

theorem mem_of_handle? {label : String} {handle : Nat} (found : r.handle? label = some handle) :
    (label, handle) ∈ r.entries :=
  mem_of_lookup found

theorem sound_empty : (empty : Registry α).Sound :=
  ⟨List.nodup_nil, fun _ among => absurd among List.not_mem_nil⟩

/-- A sketch that is there can be placed under any label. -/
theorem Sound.place (sound : r.Sound) (label : String) {handle : Nat} (counter : Nat)
    (there : handle < r.sketches.length) : (r.place label handle counter).Sound where
  distinct := nodup_putEntry sound.distinct
  within entry among := by
    change entry.2 < (r.sketches.modify handle _).length
    rw [List.length_modify]
    rcases mem_putEntry sound.distinct among with rfl | ⟨old, -⟩
    · exact there
    · exact sound.within entry old

/-- Room for more sketches does no harm. -/
theorem Sound.extend (sound : r.Sound) (s : Sketch α) :
    { r with sketches := r.sketches ++ [s] }.Sound where
  distinct := sound.distinct
  within entry among := by
    rw [List.length_append]
    exact Nat.lt_add_right _ (sound.within entry among)

theorem Sound.register (sound : r.Sound) {s : Sketch α} (label : String) (counter : Nat) :
    ({ r with sketches := r.sketches ++ [s] }.place label r.sketches.length counter).Sound :=
  (sound.extend s).place label counter (by simp)

/-- The entries and the count of sketches are all that matters. -/
theorem Sound.congr {other : Registry α} (sound : r.Sound) (entries : other.entries = r.entries)
    (count : other.sketches.length = r.sketches.length) : other.Sound where
  distinct := by
    rw [labels, entries]
    exact sound.distinct
  within := by
    rw [entries, count]
    exact sound.within

theorem Sound.remove (sound : r.Sound) (label : String) : (r.remove label).Sound where
  distinct := sound.distinct.sublist (List.filter_sublist.map Prod.fst)
  within entry among := sound.within entry (List.mem_of_mem_filter among)

/-- A handle that is looked up leads to a sketch. -/
theorem Sound.lt_of_handle? (sound : r.Sound) {label : String} {handle : Nat}
    (found : r.handle? label = some handle) : handle < r.sketches.length :=
  sound.within (label, handle) (mem_of_handle? found)

/-- In a sound registry every label comes with a sketch. -/
theorem Sound.map_fst_toList (sound : r.Sound) : r.toList.map Prod.fst = r.labels := by
  rw [toList, List.map_filterMap, labels, ← List.filterMap_eq_map]
  refine List.filterMap_congr fun job among => ?_
  change (r.sketches[job.2]?.map fun s => (job.1, s)).map Prod.fst = some job.1
  rw [List.getElem?_eq_getElem (sound.within job among)]
  rfl

end Soundness

/-- Solving one sketch after the other leaves entries and counter alone. -/
theorem solveEach_frame {α : Type} [Scalar α] (engine : Engine α) (options : Option (Options α))
    (jobs : List (String × Nat)) (r : Registry α) :
    (solveEach engine options jobs r).1.entries = r.entries ∧
      (solveEach engine options jobs r).1.counter = r.counter ∧
      (solveEach engine options jobs r).1.sketches.length = r.sketches.length := by
  induction jobs generalizing r with
  | nil => exact ⟨rfl, rfl, rfl⟩
  | cons job rest ih =>
      obtain ⟨label, handle⟩ := job
      rw [solveEach]
      split
      · exact ih r
      · obtain ⟨entries, counter, count⟩ :=
          ih (r.editAt handle _ fun s => s.solve engine options).registry
        exact ⟨entries, counter, count.trans List.length_set⟩

/-- A registry that is loaded is sound. -/
theorem sound_ofDocument {stored : Document} (read : ofDocument stored = .ok r) : r.Sound := by
  refine ofDocument_keeps sound_empty ?_ (fun _ _ sound _ => sound.congr rfl rfl) read
  intro r next d s label sound _ registered
  obtain ⟨counter, -, -, rfl⟩ := register_eq_ok registered
  exact sound.register label counter

/-- **Every action keeps a registry sound.** -/
theorem Sound.next (sound : r.Sound) (engine : Engine Float) (action : Action) :
    (r.next engine action).Sound := by
  have move := r.move_next engine action
  generalize r.next engine action = other at move ⊢
  cases move with
  | refused => exact sound
  | registered => exact sound.register _ _
  | registeredAlso _ _ found =>
      obtain ⟨label, -, looked⟩ := Option.bind_eq_some_iff.1 found
      exact sound.place _ _ (sound.lt_of_handle? looked)
  | counted => exact sound.congr rfl rfl
  | removed label => exact sound.remove label
  | cleared => exact sound_empty
  | edited => exact sound.congr rfl List.length_set
  | solved options =>
      obtain ⟨entries, -, count⟩ := solveEach_frame engine options r.entries r
      exact sound.congr entries count
  | loaded read => exact sound_ofDocument read
  | reloaded read => exact sound_ofDocument read

/-- Every run on a sound registry leads to a sound one. -/
theorem Sound.after (sound : r.Sound) (engine : Engine Float) (run : List Action) :
    (r.after engine run).Sound := by
  induction run generalizing r with
  | nil => exact sound
  | cons action rest ih => exact ih (sound.next engine action)

end Registry

end PlanarSketch
