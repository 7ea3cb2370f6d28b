import PlanarSketch.Proofs.Registry.Labels
import PlanarSketch.Proofs.Registry.Moves
import PlanarSketch.Proofs.Sketch.Storage

/-!
# What a stored registry relies on

A registry is faithful when its record says all that there is to say of it: it is sound, every
label can be counted and has been, every sketch is named after its label, and all sketches are
tidy (`Registry.Faithful`).  Placing a sketch keeps a registry faithful if no other label leads to
the sketch, since it is renamed under all of its labels at once (`Registry.Faithful.place`).  So a
run keeps it faithful in which no sketch is ever under two labels (`Registry.Faithful.after`).
-/

namespace PlanarSketch

set_option autoImplicit false

open Outcome

/-- Marks of any kind. -/
def Mark.Any : Mark → Prop := fun _ => True

theorem Entity.plain_of_ofDocument {d : Document} {e : Entity Float}
    (read : Entity.ofDocument d = .ok e) : e.fixed.Plain := by
  obtain ⟨id, -, rest⟩ := bind_eq_ok.1 read
  obtain ⟨name, -, rest⟩ := bind_eq_ok.1 rest
  obtain ⟨kind, -, rest⟩ := bind_eq_ok.1 rest
  obtain ⟨params, -, rest⟩ := bind_eq_ok.1 rest
  obtain ⟨values, -, made⟩ := bind_eq_ok.1 rest
  exact Entity.fixed_make made ▸ Mark.plain_of _

/-- Entities that are put one after the other differ in their identifiers. -/
theorem Sketch.foldl_putEntity_keeps {α : Type} [Scalar α] {es : List (Entity α)}
    (kept : List (Entity α)) (distinct : (kept.map Entity.id).Nodup)
    (old : ∀ e ∈ kept, e.fixed.Plain) (new : ∀ e ∈ es, e.fixed.Plain) :
    ((es.foldl (fun kept e => putEntity e kept) kept).map Entity.id).Nodup ∧
      ∀ e ∈ es.foldl (fun kept e => putEntity e kept) kept, e.fixed.Plain := by
  induction es generalizing kept with
  | nil => exact ⟨distinct, old⟩
  | cons e rest ih =>
      obtain ⟨first, later⟩ := List.forall_mem_cons.1 new
      refine ih _ (nodup_putEntity distinct) (fun other among => ?_) later
      rcases mem_putEntity among with rfl | before
      · exact first
      · exact old other before

/-- **A sketch that has been loaded is tidy**: marks of entities are read as truth values, and of
the entities of one identifier one is left. -/
theorem Sketch.tidy_ofDocument {d : Document} {s : Sketch Float} (read : ofDocument d = .ok s) :
    s.Tidy Mark.Any := by
  obtain ⟨-, -, rest⟩ := bind_eq_ok.1 read
  obtain ⟨records, -, rest⟩ := bind_eq_ok.1 rest
  obtain ⟨entities, loaded, rest⟩ := bind_eq_ok.1 rest
  obtain ⟨_, -, rest⟩ := bind_eq_ok.1 rest
  obtain ⟨constraints, -, rest⟩ := bind_eq_ok.1 rest
  obtain ⟨_, -, rest⟩ := bind_eq_ok.1 rest
  obtain ⟨_, -, rest⟩ := bind_eq_ok.1 rest
  cases rest
  have plain : ∀ e ∈ entities, e.fixed.Plain := by
    intro e among
    obtain ⟨record, -, made⟩ := exists_of_mem_mapM loaded among
    exact Entity.plain_of_ofDocument made
  obtain ⟨distinct, fixed⟩ := foldl_putEntity_keeps [] List.nodup_nil (List.forall_mem_nil _) plain
  exact ⟨distinct, fixed, fun _ _ => trivial⟩

namespace Registry

/-- An action that registers a tidy sketch or gives entities plain marks, if it does either. -/
def Action.Tidy : Action → Prop
  | .register s _ => s.Tidy Mark.Any
  | .edit _ command => command.Marks Mark.Any
  | _ => True

/-- The number of a label is not too long to be read, and not behind a counter. -/
def Counted (counter : Nat) (label : String) : Prop :=
  ∃ number?, Label.number? label = .ok number? ∧ number?.getD 0 ≤ counter

/-- A registry whose record says all that there is to say of it. -/
structure Faithful (r : Registry Float) : Prop extends r.Sound where
  counted : ∀ label ∈ r.labels, Counted r.counter label
  named : ∀ entry ∈ r.entries, ∀ s, r.sketches[entry.2]? = some s → s.name = .text entry.1
  tidy : ∀ s ∈ r.sketches, s.Tidy Mark.Any

variable {r : Registry Float}

theorem Counted.mono {counter higher : Nat} {label : String} (counted : Counted counter label)
    (le : counter ≤ higher) : Counted higher label := by
  obtain ⟨number?, read, within⟩ := counted
  exact ⟨number?, read, within.trans le⟩

/-- A label that is used is counted. -/
theorem counted_of_counterAfter {counter next : Nat} {label : String}
    (used : (counterAfter counter label : Except (Fault Float) Nat) = .ok next) :
    counter ≤ next ∧ Counted next label := by
  obtain ⟨number?, read, rfl⟩ := counterAfter_eq_ok_iff.1 used
  exact ⟨le_max_left _ _, number?, read, le_max_right _ _⟩

namespace Faithful

theorem empty : (Registry.empty : Registry Float).Faithful where
  toSound := sound_empty
  counted _ among := absurd among List.not_mem_nil
  named _ among := absurd among List.not_mem_nil
  tidy _ among := absurd among List.not_mem_nil

/-- A higher counter does no harm. -/
theorem raise (faithful : r.Faithful) {counter : Nat} (higher : r.counter ≤ counter) :
    { r with counter }.Faithful where
  toSound := faithful.toSound.congr rfl rfl
  counted label among := (faithful.counted label among).mono higher
  named := faithful.named
  tidy := faithful.tidy

/-- A tidy sketch may be added that no label leads to. -/
theorem extend (faithful : r.Faithful) {s : Sketch Float} (tidy : s.Tidy Mark.Any) :
    { r with sketches := r.sketches ++ [s] }.Faithful where
  toSound := faithful.toSound.extend s
  counted := faithful.counted
  named entry among t read := by
    refine faithful.named entry among t ?_
    rw [← read]
    exact (List.getElem?_append_left (faithful.within entry among)).symm
  tidy t among := by
    rcases List.mem_append.1 among with old | new
    · exact faithful.tidy t old
    · rw [List.mem_singleton.1 new]
      exact tidy

/-- A sketch is renamed when it is placed, so no other label may lead to it. -/
theorem place (faithful : r.Faithful) {label : String} {handle counter : Nat}
    (there : handle < r.sketches.length)
    (used : (counterAfter r.counter label : Except (Fault Float) Nat) = .ok counter)
    (alone : ∀ entry ∈ r.entries, entry.1 ≠ label → entry.2 ≠ handle) :
    (r.place label handle counter).Faithful where
  toSound := faithful.toSound.place label counter there
  counted other among := by
    obtain ⟨higher, counted⟩ := counted_of_counterAfter used
    rcases mem_map_fst_putEntry.1 among with rfl | old
    · exact counted
    · exact (faithful.counted other old).mono higher
  named entry among s read := by
    change (r.sketches.modify handle _)[entry.2]? = some s at read
    rcases mem_putEntry faithful.distinct among with rfl | ⟨old, other⟩
    · rw [List.getElem?_modify_eq] at read
      obtain ⟨t, -, rfl⟩ := Option.map_eq_some_iff.1 read
      rfl
    · -- Had another label led to the sketch, it would now have the wrong name there.
      rw [List.getElem?_modify_ne _ _ (alone entry old other).symm] at read
      exact faithful.named entry old s read
  tidy s among := by
    obtain ⟨i, read⟩ := List.mem_iff_getElem?.1 among
    change (r.sketches.modify handle _)[i]? = some s at read
    rw [List.getElem?_modify] at read
    obtain ⟨t, stored, same⟩ := Option.map_eq_some_iff.1 read
    have tidy := faithful.tidy t (List.mem_of_getElem? stored)
    rw [← same]
    split
    · exact tidy.congr rfl rfl
    · exact tidy

/-- A new sketch is placed where no other label leads. -/
theorem register (faithful : r.Faithful) {s : Sketch Float} (tidy : s.Tidy Mark.Any)
    {label : String} {counter : Nat}
    (used : (counterAfter r.counter label : Except (Fault Float) Nat) = .ok counter) :
    ({ r with sketches := r.sketches ++ [s] }.place label r.sketches.length counter).Faithful :=
  (faithful.extend tidy).place (by simp) used fun entry among _ =>
    (faithful.within entry among).ne

/-- A sketch may change if it keeps its name and stays tidy. -/
theorem set (faithful : r.Faithful) {handle : Nat} {s t : Sketch Float}
    (stored : r.sketches[handle]? = some s) (name : t.name = s.name) (tidy : t.Tidy Mark.Any) :
    { r with sketches := r.sketches.set handle t }.Faithful where
  toSound := faithful.toSound.congr rfl List.length_set
  counted := faithful.counted
  named entry among u read := by
    change (r.sketches.set handle t)[entry.2]? = some u at read
    rw [List.getElem?_set] at read
    split at read
    · rename_i here
      split at read
      · cases read
        exact name.trans (faithful.named entry among s (here ▸ stored))
      · cases read
    · exact faithful.named entry among u read
  tidy u among := by
    rcases List.mem_or_eq_of_mem_set among with old | rfl
    · exact faithful.tidy u old
    · exact tidy

theorem remove (faithful : r.Faithful) (label : String) : (r.remove label).Faithful where
  toSound := faithful.toSound.remove label
  counted other among :=
    faithful.counted other ((List.filter_sublist.map Prod.fst).subset among)
  named entry among := faithful.named entry (List.mem_of_mem_filter among)
  tidy := faithful.tidy

/-- A command is performed on a sketch in its place. -/
theorem perform (faithful : r.Faithful) (engine : Engine Float) {handle : Nat} {s : Sketch Float}
    (stored : r.sketches[handle]? = some s) {command : Command Float}
    (marks : command.Marks Mark.Any) :
    { r with sketches := r.sketches.set handle (s.perform engine command).sketch }.Faithful :=
  faithful.set stored (s.name_perform engine command)
    ((faithful.tidy s (List.mem_of_getElem? stored)).perform trivial engine marks)

theorem solveEach (faithful : r.Faithful) (engine : Engine Float) (options : Option (Options Float))
    (jobs : List (String × Nat)) : (Registry.solveEach engine options jobs r).1.Faithful := by
  induction jobs generalizing r with
  | nil => exact faithful
  | cons job rest ih =>
      obtain ⟨label, handle⟩ := job
      rw [Registry.solveEach]
      split
      · exact ih faithful
      · rename_i s stored
        have marks : (Command.solve options).Marks Mark.Any := trivial
        exact ih (faithful.perform engine stored marks)

theorem ofDocument {stored : Document} (read : Registry.ofDocument stored = .ok r) :
    r.Faithful := by
  refine ofDocument_keeps empty ?_ (fun _ _ faithful higher => faithful.raise higher) read
  intro r next d s label faithful loaded registered
  obtain ⟨counter, -, used, rfl⟩ := register_eq_ok registered
  exact faithful.register (Sketch.tidy_ofDocument loaded) used

/-- Where no sketch is under two labels, the label that one is placed under is its only one. -/
theorem alone_of_unshared {label : String} {handle counter : Nat}
    (unshared : (r.place label handle counter).Unshared) :
    ∀ entry ∈ r.entries, entry.1 ≠ label → entry.2 ≠ handle := by
  intro entry among other same
  have placed : entry ∈ putEntry label handle r.entries := mem_putEntry_of_ne among other
  have twice := List.inj_on_of_nodup_map unshared placed mem_putEntry_self same
  exact other (congrArg Prod.fst twice)

/-- **Every tidy action keeps a registry faithful**, unless it puts a sketch under two labels. -/
theorem next (faithful : r.Faithful) (engine : Engine Float) {action : Action}
    (tidy : action.Tidy) (unshared : (r.next engine action).Unshared) :
    (r.next engine action).Faithful := by
  have move := r.move_next engine action
  generalize r.next engine action = other at move unshared ⊢
  cases move with
  | refused => exact faithful
  | registered _ used => exact faithful.register tidy used
  | registeredAlso _ used found =>
      obtain ⟨label, -, looked⟩ := Option.bind_eq_some_iff.1 found
      exact faithful.place (faithful.lt_of_handle? looked) used (alone_of_unshared unshared)
  | counted used => exact faithful.raise (counted_of_counterAfter used).1
  | removed label => exact faithful.remove label
  | cleared => exact empty
  | edited stored => exact faithful.perform engine stored tidy
  | solved options => exact faithful.solveEach engine options r.entries
  | loaded read => exact ofDocument read
  | reloaded read => exact ofDocument read

/-- A run keeps a registry faithful if no sketch is under two labels on the way. -/
theorem after (faithful : r.Faithful) (engine : Engine Float) {run : List Action}
    (tidy : ∀ action ∈ run, action.Tidy)
    (unshared : ∀ before, before <+: run → (r.after engine before).Unshared) :
    (r.after engine run).Faithful := by
  induction run generalizing r with
  | nil => exact faithful
  | cons action rest ih =>
      obtain ⟨first, later⟩ := List.forall_mem_cons.1 tidy
      have once : (r.next engine action).Unshared :=
        unshared [action] (List.cons_prefix_cons.2 ⟨rfl, List.nil_prefix⟩)
      exact ih (faithful.next engine first once) later fun before early =>
        unshared (action :: before) (List.cons_prefix_cons.2 ⟨rfl, early⟩)

end Faithful

end Registry

end PlanarSketch
