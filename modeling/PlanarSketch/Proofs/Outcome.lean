import Mathlib.Data.List.Forall2

/-!
# Chains of steps that can fail

How a chain of steps comes to an answer or to a failure.  An answer of a chain is an
answer of each of its steps; a failure is a failure of one of them.  The statements for
lists say the same of a step taken for each element.
-/

namespace PlanarSketch.Outcome

set_option autoImplicit false

variable {ε σ τ : Type}

theorem bind_eq_ok {x : Except ε σ} {f : σ → Except ε τ} {b : τ} :
    x >>= f = .ok b ↔ ∃ a, x = .ok a ∧ f a = .ok b := by
  cases x with
  | error e => simp [bind, Except.bind]
  | ok a => simp [bind, Except.bind]

theorem map_eq_ok {x : Except ε σ} {f : σ → τ} {b : τ} :
    x.map f = .ok b ↔ ∃ a, x = .ok a ∧ f a = b := by
  cases x with
  | error e => simp [Except.map]
  | ok a => simp [Except.map]

theorem bind_eq_error {x : Except ε σ} {f : σ → Except ε τ} {e : ε} :
    x >>= f = .error e ↔ x = .error e ∨ ∃ a, x = .ok a ∧ f a = .error e := by
  cases x with
  | error e => simp [bind, Except.bind]
  | ok a => simp [bind, Except.bind]

theorem mapM_eq_ok {f : σ → Except ε τ} {xs : List σ} {ys : List τ} :
    xs.mapM f = .ok ys ↔ List.Forall₂ (fun x y => f x = .ok y) xs ys := by
  induction xs generalizing ys with
  | nil =>
      rw [List.mapM_nil, List.forall₂_nil_left_iff]
      exact ⟨fun same => (Except.ok.inj same).symm, fun same => same ▸ rfl⟩
  | cons x xs ih =>
      rw [List.mapM_cons, bind_eq_ok, List.forall₂_cons_left_iff]
      constructor
      · rintro ⟨y, first, rest⟩
        obtain ⟨ys, others, same⟩ := bind_eq_ok.1 rest
        exact ⟨y, ys, first, ih.1 others, (Except.ok.inj same).symm⟩
      · rintro ⟨y, ys, first, others, rfl⟩
        exact ⟨y, first, bind_eq_ok.2 ⟨ys, ih.2 others, rfl⟩⟩

/-- Every result comes from an element. -/
theorem exists_of_mem_mapM {f : σ → Except ε τ} {xs : List σ} {ys : List τ} {y : τ}
    (h : xs.mapM f = .ok ys) (among : y ∈ ys) : ∃ x ∈ xs, f x = .ok y := by
  have steps := mapM_eq_ok.1 h
  clear h
  induction steps with
  | nil => cases among
  | @cons x z _ _ first _ ih =>
      rcases List.mem_cons.1 among with rfl | later
      · exact ⟨x, List.mem_cons_self, first⟩
      · obtain ⟨w, present, made⟩ := ih later
        exact ⟨w, List.mem_cons_of_mem x present, made⟩

/-- Every element has a result. -/
theorem exists_of_mem_source {f : σ → Except ε τ} {xs : List σ} {ys : List τ} {x : σ}
    (h : xs.mapM f = .ok ys) (among : x ∈ xs) : ∃ y ∈ ys, f x = .ok y := by
  have steps := mapM_eq_ok.1 h
  clear h
  induction steps with
  | nil => cases among
  | @cons w y _ _ first _ ih =>
      rcases List.mem_cons.1 among with rfl | later
      · exact ⟨y, List.mem_cons_self, first⟩
      · obtain ⟨z, present, made⟩ := ih later
        exact ⟨z, List.mem_cons_of_mem y present, made⟩

/-- Results are related to their elements if each of them is. -/
theorem forall₂_of_mapM {f : σ → Except ε τ} {xs : List σ} {ys : List τ} {R : τ → σ → Prop}
    (h : xs.mapM f = .ok ys) (related : ∀ x ∈ xs, ∀ y, f x = .ok y → R y x) :
    List.Forall₂ R ys xs := by
  have steps := mapM_eq_ok.1 h
  clear h
  induction steps with
  | nil => exact .nil
  | cons first _ ih =>
      obtain ⟨here, later⟩ := List.forall_mem_cons.1 related
      exact .cons (here _ first) (ih later)

/-- All results are there if each of them is. -/
theorem exists_mapM {f : σ → Except ε τ} {xs : List σ} (h : ∀ x ∈ xs, ∃ y, f x = .ok y) :
    ∃ ys, xs.mapM f = .ok ys := by
  induction xs with
  | nil => exact ⟨[], rfl⟩
  | cons x xs ih =>
      obtain ⟨first, later⟩ := List.forall_mem_cons.1 h
      obtain ⟨y, made⟩ := first
      obtain ⟨ys, others⟩ := ih later
      exact ⟨y :: ys, mapM_eq_ok.2 (.cons made (mapM_eq_ok.1 others))⟩

theorem mapM_eq_error {f : σ → Except ε τ} {xs : List σ} {e : ε} (h : xs.mapM f = .error e) :
    ∃ x ∈ xs, f x = .error e := by
  induction xs with
  | nil => cases h
  | cons x xs ih =>
      rw [List.mapM_cons, bind_eq_error] at h
      rcases h with first | ⟨y, -, rest⟩
      · exact ⟨x, List.mem_cons_self, first⟩
      · rcases bind_eq_error.1 rest with others | ⟨ys, -, impossible⟩
        · obtain ⟨z, among, failure⟩ := ih others
          exact ⟨z, List.mem_cons_of_mem x among, failure⟩
        · cases impossible

theorem forM_eq_ok {f : σ → Except ε Unit} {xs : List σ} :
    xs.forM f = .ok () ↔ ∀ x ∈ xs, f x = .ok () := by
  induction xs with
  | nil => exact ⟨fun _ x among => absurd among List.not_mem_nil, fun _ => rfl⟩
  | cons x xs ih =>
      rw [List.forM_eq_forM, List.forM_cons, bind_eq_ok, ← List.forM_eq_forM, ih,
        List.forall_mem_cons]
      exact ⟨fun ⟨_, first, others⟩ => ⟨first, others⟩, fun ⟨first, others⟩ => ⟨(), first, others⟩⟩

theorem forM_eq_error {f : σ → Except ε Unit} {xs : List σ} {e : ε} (h : xs.forM f = .error e) :
    ∃ x ∈ xs, f x = .error e := by
  induction xs with
  | nil => cases h
  | cons x xs ih =>
      rw [List.forM_eq_forM, List.forM_cons, bind_eq_error] at h
      rcases h with first | ⟨_, -, rest⟩
      · exact ⟨x, List.mem_cons_self, first⟩
      · obtain ⟨z, among, failure⟩ := ih rest
        exact ⟨z, List.mem_cons_of_mem x among, failure⟩

/-- What every step of a chain keeps holds at its end. -/
theorem foldlM_keeps {f : σ → τ → Except ε σ} {P : σ → Prop}
    (step : ∀ a x b, P a → f a x = .ok b → P b) {xs : List τ} {a b : σ} (start : P a)
    (h : xs.foldlM f a = .ok b) : P b := by
  induction xs generalizing a with
  | nil =>
      cases h
      exact start
  | cons x xs ih =>
      rw [List.foldlM_cons] at h
      obtain ⟨next, first, rest⟩ := bind_eq_ok.1 h
      exact ih (step a x next start first) rest

/-- Steps that agree on the elements of a list have the same results. -/
theorem mapM_congr {f g : σ → Option τ} {xs : List σ} (same : ∀ x ∈ xs, f x = g x) :
    xs.mapM f = xs.mapM g := by
  induction xs with
  | nil => rfl
  | cons x xs ih =>
      obtain ⟨first, later⟩ := List.forall_mem_cons.1 same
      rw [List.mapM_cons, List.mapM_cons, first, ih later]

/-- All results are there unless one is missing. -/
theorem mapM_eq_none {f : σ → Option τ} {xs : List σ} :
    xs.mapM f = none ↔ ∃ x ∈ xs, f x = none := by
  induction xs with
  | nil => simp
  | cons x xs ih =>
      rw [List.mapM_cons, List.exists_mem_cons_iff, ← ih]
      cases f x with
      | none => simp
      | some y =>
          cases xs.mapM f with
          | none => simp
          | some ys => simp

/-- The results that are there come from the elements one by one. -/
theorem mapM_eq_some {f : σ → Option τ} {xs : List σ} {ys : List τ} (h : xs.mapM f = some ys) :
    List.Forall₂ (fun x y => f x = some y) xs ys := by
  induction xs generalizing ys with
  | nil =>
      cases h
      exact .nil
  | cons x xs ih =>
      rw [List.mapM_cons] at h
      obtain ⟨y, first, rest⟩ := Option.bind_eq_some_iff.1 h
      obtain ⟨others, later, same⟩ := Option.bind_eq_some_iff.1 rest
      cases same
      exact .cons first (ih later)

/-- Where all results are there, every element has one. -/
theorem exists_of_mem_mapM_some {f : σ → Option τ} {xs : List σ} {ys : List τ} {x : σ}
    (h : xs.mapM f = some ys) (among : x ∈ xs) : ∃ y ∈ ys, f x = some y := by
  have steps := mapM_eq_some h
  clear h
  induction steps with
  | nil => cases among
  | @cons w y _ _ first _ ih =>
      rcases List.mem_cons.1 among with rfl | later
      · exact ⟨y, List.mem_cons_self, first⟩
      · obtain ⟨z, present, made⟩ := ih later
        exact ⟨z, List.mem_cons_of_mem y present, made⟩

end PlanarSketch.Outcome
