import PlanarSketch.Engine.Double
import PlanarSketch.Proofs.Registry.Labels
import PlanarSketch.Proofs.Registry.Moves

/-!
# Labels that are made up are new

A registry that gives out labels has to remember more than the labels in use, since a label that
went out of use may still be written down somewhere.  All it keeps is a counter.  An action
advances the counter past the number of every label that it brings into use
(`Registry.Advances`), so until the registry is emptied or another one is loaded the counter is
never behind a label of the past (`Registry.History.Covered`).  The label that is made up next is
the one of a higher number, so it is none of them (`automatic_labels_new`).
-/

namespace PlanarSketch

set_option autoImplicit false

open Outcome

namespace Registry

/-! ## The past of a registry -/

/-- Whether an action puts another registry in the place of the one that is there. -/
def renews (r : Registry Float) : Action → Bool
  | .clear => true
  | .load stored => (ofDocument stored).isOk
  | .reload => (ofDocument r.toDocument).isOk
  | _ => false

/-- A registry with every label that was in use since it was last emptied or loaded. -/
structure History where
  registry : Registry Float
  past : List String

/-- The history after an action: what is in use then becomes part of the past. -/
def History.next (engine : Engine Float) (h : History) (action : Action) : History :=
  let r := h.registry.next engine action
  ⟨r, if h.registry.renews action then r.labels else h.past ++ r.labels⟩

/-- The history of a run on the empty registry. -/
def History.after (engine : Engine Float) (run : List Action) : History :=
  run.foldl (History.next engine) ⟨empty, []⟩

/-- A label is made up for a sketch that is registered without one, whether it is a new sketch or
one that is there under another label already. -/
inductive MakesUp (r : Registry Float) : Registry Float → String → Prop where
  | register {s : Sketch Float} {next : Registry Float} {label : String}
      (answered : r.register s none = .ok (next, label)) : MakesUp r next label
  | registerAlso {label? : Option String} {next : Registry Float} {label : String}
      (answered : r.registerAlso label? none = .ok (next, some label)) : MakesUp r next label

/-! ## The counter -/

/-- A counter is not behind the number of any label. -/
def Covers (counter : Nat) (labels : List String) : Prop :=
  ∀ label ∈ labels, ∀ n, Label.Numbered label n → n ≤ counter

/-- What an action does to labels and counter: the counter does not go down, and a label that
comes into use is covered. -/
structure Advances (r next : Registry Float) : Prop where
  counter : r.counter ≤ next.counter
  labels : ∀ label ∈ next.labels, label ∈ r.labels ∨ Covers next.counter [label]

variable {r other : Registry Float}

theorem Covers.mono {counter higher : Nat} {labels : List String} (covers : Covers counter labels)
    (le : counter ≤ higher) : Covers higher labels :=
  fun label among n numbered => (covers label among n numbered).trans le

theorem Covers.append {counter : Nat} {labels others : List String} (covers : Covers counter labels)
    (more : Covers counter others) : Covers counter (labels ++ others) := by
  intro label among
  rcases List.mem_append.1 among with first | second
  · exact covers label first
  · exact more label second

/-- An advance covers the labels that are in use after it. -/
theorem Advances.covers (advances : Advances r other) (covers : Covers r.counter r.labels) :
    Covers other.counter other.labels := by
  intro label among
  rcases advances.labels label among with old | new
  · exact covers.mono advances.counter label old
  · exact new label (List.mem_singleton_self label)

theorem Advances.of_entries (counter : r.counter ≤ other.counter)
    (entries : other.labels.Sublist r.labels) : Advances r other :=
  ⟨counter, fun _ among => .inl (entries.subset among)⟩

/-- Placing a sketch under a label advances the counter to the number of the label. -/
theorem advances_place {label : String} {handle counter : Nat}
    (counted : (counterAfter r.counter label : Except (Fault Float) Nat) = .ok counter) :
    Advances r (r.place label handle counter) := by
  obtain ⟨higher, numbered⟩ := counterAfter_eq_ok counted
  refine ⟨higher, fun other among => ?_⟩
  rcases mem_map_fst_putEntry.1 among with rfl | old
  · refine .inr fun label same => ?_
    rw [List.mem_singleton.1 same]
    exact numbered
  · exact .inl old

/-- A new sketch advances the counter like one that is there. -/
theorem advances_register (s : Sketch Float) {label : String} {counter : Nat}
    (counted : (counterAfter r.counter label : Except (Fault Float) Nat) = .ok counter) :
    Advances r
      ({ r with sketches := r.sketches ++ [s] }.place label r.sketches.length counter) := by
  have placed : Advances { r with sketches := r.sketches ++ [s] }
      ({ r with sketches := r.sketches ++ [s] }.place label r.sketches.length counter) :=
    advances_place counted
  exact ⟨placed.counter, placed.labels⟩

/-- **Every action advances the counter**, unless it puts another registry in place. -/
theorem advances_next {engine : Engine Float} {action : Action} (kept : r.renews action = false) :
    Advances r (r.next engine action) := by
  have move := r.move_next engine action
  generalize r.next engine action = other at move ⊢
  cases move with
  | refused => exact .of_entries le_rfl (List.Sublist.refl _)
  | @registered s _ _ _ _ counted => exact advances_register s counted
  | registeredAlso _ counted => exact advances_place counted
  | counted counted => exact .of_entries (counterAfter_eq_ok counted).1 (List.Sublist.refl _)
  | removed => exact .of_entries le_rfl (List.filter_sublist.map Prod.fst)
  | cleared => cases kept
  | edited => exact .of_entries le_rfl (List.Sublist.refl _)
  | solved options =>
      obtain ⟨entries, counter, -⟩ := solveEach_frame engine options r.entries r
      refine .of_entries counter.ge ?_
      rw [labels, entries]
      exact List.Sublist.refl _
  | loaded read =>
      rw [renews, read] at kept
      cases kept
  | reloaded read =>
      rw [renews, read] at kept
      cases kept

/-- The counter of a registry that was loaded covers its labels, whatever counter was stored. -/
theorem covers_ofDocument {stored : Document} (read : ofDocument stored = .ok r) :
    Covers r.counter r.labels := by
  refine ofDocument_keeps (P := fun r => Covers r.counter r.labels) ?_ ?_ ?_ read
  · exact fun _ among => absurd among List.not_mem_nil
  · intro r next d s label covers _ registered
    obtain ⟨counter, -, counted, rfl⟩ := register_eq_ok registered
    exact (advances_register s counted).covers covers
  · exact fun _ _ covers higher => covers.mono higher

/-- What takes the place of a registry is covered on its own. -/
theorem covers_renewed {engine : Engine Float} {action : Action}
    (renewed : r.renews action = true) :
    Covers (r.next engine action).counter (r.next engine action).labels := by
  have of_read {stored : Document} (read : (ofDocument stored).isOk = true) :
      Covers ((ofDocument stored).toOption.getD r).counter
        ((ofDocument stored).toOption.getD r).labels := by
    cases outcome : ofDocument stored with
    | error cause =>
        rw [outcome] at read
        cases read
    | ok other => exact covers_ofDocument outcome
  cases action with
  | clear => exact fun _ among => absurd among List.not_mem_nil
  | load stored => exact of_read renewed
  | reload => exact of_read renewed
  | _ => cases renewed

/-! ## Histories -/

namespace History

variable {h : History}

/-- The past has every label in use, and the counter covers it. -/
structure Covered (h : History) : Prop where
  inUse : ∀ label ∈ h.registry.labels, label ∈ h.past
  covers : Covers h.registry.counter h.past

theorem Covered.next (covered : h.Covered) (engine : Engine Float) (action : Action) :
    (h.next engine action).Covered := by
  unfold History.next
  cases renewed : h.registry.renews action with
  | true => exact ⟨fun _ among => among, covers_renewed renewed⟩
  | false =>
      have advances : Advances h.registry (h.registry.next engine action) := advances_next renewed
      have inUse : Covers h.registry.counter h.registry.labels :=
        fun label among => covered.covers label (covered.inUse label among)
      exact ⟨fun _ among => List.mem_append_right h.past among,
        (covered.covers.mono advances.counter).append (advances.covers inUse)⟩

theorem covered_after (engine : Engine Float) (run : List Action) : (after engine run).Covered := by
  have initial : Covered ⟨empty, []⟩ :=
    ⟨fun _ among => absurd among List.not_mem_nil, fun _ among => absurd among List.not_mem_nil⟩
  unfold after
  generalize (⟨empty, []⟩ : History) = start at initial ⊢
  induction run generalizing start with
  | nil => exact initial
  | cons action rest ih => exact ih _ (initial.next engine action)

/-- A history tells of the registry that its run leads to. -/
theorem registry_after (engine : Engine Float) (run : List Action) :
    (after engine run).registry = (empty : Registry Float).after engine run := by
  unfold after Registry.after
  generalize (empty : Registry Float) = start, ([] : List String) = past
  induction run generalizing start past with
  | nil => rfl
  | cons action rest ih => exact ih _ _

end History

/-- A label that is made up is numbered by what follows the counter, and it gets an entry of its
own if it is not in use. -/
theorem MakesUp.spec {label : String} (makesUp : MakesUp r other label) :
    Label.Numbered label (r.counter + 1) ∧
      (label ∉ r.labels → ∃ handle, other.entries = r.entries ++ [(label, handle)]) := by
  have numbered {label : String}
      (labelled : (r.labelFor none : Except (Fault Float) String) = .ok label) :
      Label.Numbered label (r.counter + 1) := by
    cases made : Label.numbered (r.counter + 1) with
    | error cause =>
        rw [labelFor, made] at labelled
        cases labelled
    | ok word =>
        rw [labelFor, made] at labelled
        cases labelled
        exact Label.numbered_eq_ok made
  cases makesUp with
  | register answered =>
      obtain ⟨counter, labelled, -, rfl⟩ := register_eq_ok answered
      exact ⟨numbered labelled, fun absent => ⟨_, putEntry_of_not_mem absent⟩⟩
  | registerAlso answered =>
      obtain ⟨_, counter, labelled, -, ⟨handle, -, same, rfl⟩ | ⟨impossible, -⟩⟩ :=
        registerAlso_eq_ok answered
      · cases same
        exact ⟨numbered labelled, fun absent => ⟨handle, putEntry_of_not_mem absent⟩⟩
      · cases impossible

/-- A label is made up whenever the next number is neither too long to be written nor to be read. -/
theorem exists_makesUp {label : String} {number : Option Nat}
    (written : Label.numbered (r.counter + 1) = .ok label)
    (read : Label.number? label = .ok number) (s : Sketch Float) :
    ∃ other, r.register s none = .ok (other, label) := by
  have labelled : r.labelFor none = .ok label := by
    rw [labelFor, written]
    rfl
  have counted : (counterAfter r.counter label : Except (Fault Float) Nat) =
      .ok (max r.counter (number.getD 0)) := by
    rw [counterAfter, read]
    rfl
  exact ⟨_, bind_eq_ok.2 ⟨label, labelled, bind_eq_ok.2 ⟨_, counted, rfl⟩⟩⟩

end Registry

/-- **Labels that are made up are new.**  After any run on the empty registry, refusals and
documents of any content included, the counter is at least the number of every numbered label in
use.  A label that is made up next differs from every label that was in use at any time since the
registry was last emptied or loaded, in use or not, so it is added behind all entries and takes
the place of none. -/
theorem automatic_labels_new (engine : Engine Float) (run : List Registry.Action) :
    (∀ label ∈ ((Registry.empty : Registry Float).after engine run).labels, ∀ n,
      Label.Numbered label n →
        n ≤ ((Registry.empty : Registry Float).after engine run).counter) ∧
    ∀ next label,
      ((Registry.empty : Registry Float).after engine run).MakesUp next label →
        label ∉ (Registry.History.after engine run).past ∧
        label ∉ ((Registry.empty : Registry Float).after engine run).labels ∧
        ∃ handle, next.entries =
          ((Registry.empty : Registry Float).after engine run).entries ++ [(label, handle)] := by
  have covered := Registry.History.covered_after engine run
  rw [← Registry.History.registry_after]
  generalize Registry.History.after engine run = h at covered
  refine ⟨fun label among => covered.covers label (covered.inUse label among), ?_⟩
  intro next label makesUp
  obtain ⟨numbered, entries⟩ := makesUp.spec
  -- Its number is past the counter, and no label of the past is.
  have new : label ∉ h.past := by
    intro old
    have covers := covered.covers label old _ numbered
    omega
  have unused : label ∉ h.registry.labels := fun among => new (covered.inUse label among)
  exact ⟨new, unused, entries unused⟩

namespace Registry.Erased

/-- A label in digits of another script with a zero in front, and a label that is taken out of use
again. -/
def run : List Action :=
  [.register (.blank Sketch.standardName .standard) (some "Sketch٠٧"),
    .register (.blank Sketch.standardName .standard) (some "Sketch9"), .remove "Sketch9"]

end Registry.Erased

/-- Where seven is in use and nine has been, the label of ten is made up. -/
theorem automatic_labels_new_erased :
    7 ≤ ((Registry.empty : Registry Float).after Double.engine Registry.Erased.run).counter ∧
    "Sketch9" ∈ (Registry.History.after Double.engine Registry.Erased.run).past ∧
    ∃ next, ((Registry.empty : Registry Float).after Double.engine Registry.Erased.run).MakesUp next
        "Sketch10" ∧
      "Sketch10" ∉ (Registry.History.after Double.engine Registry.Erased.run).past := by
  obtain ⟨ahead, new⟩ := automatic_labels_new Double.engine Registry.Erased.run
  have seven : Label.Numbered "Sketch٠٧" 7 :=
    ⟨['٠', '٧'], by decide +kernel, List.cons_ne_nil _ _, [0, 7],
      .cons (by decide +kernel) (.cons (by decide +kernel) .nil), by decide⟩
  have counter :
      ((Registry.empty : Registry Float).after Double.engine Registry.Erased.run).counter = 9 := by
    decide +kernel
  have written : Label.numbered (((Registry.empty : Registry Float).after Double.engine
      Registry.Erased.run).counter + 1) = .ok "Sketch10" := by
    rw [counter]
    decide +kernel
  have read : Label.number? "Sketch10" = .ok (some 10) := by decide +kernel
  obtain ⟨next, answered⟩ :=
    Registry.exists_makesUp written read (.blank Sketch.standardName .standard)
  have makesUp := Registry.MakesUp.register answered
  exact ⟨ahead "Sketch٠٧" (by decide +kernel) 7 seven, by decide +kernel, next, makesUp,
    (new next "Sketch10" makesUp).1⟩

end PlanarSketch
