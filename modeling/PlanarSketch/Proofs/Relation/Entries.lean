import PlanarSketch.Proofs.Exact
import PlanarSketch.Relation.Gradient

/-!
# Entries of sparse gradients

What stands at a position of a gradient that is put together from others, over exact
numbers.  A linear combination of gradients has, at each position, the same combination of
their entries (`Gradient.entry_combine`), whatever positions they share.  A gradient that is
listed entry by entry does not add up: of two entries at one position the last one counts
(`Gradient.entry_ofEntries_pair`).

A gradient is simple when it lists no position twice.
-/

namespace PlanarSketch.Gradient

set_option autoImplicit false

/-- No position is listed twice. -/
def Simple {α : Type} (g : Gradient α) : Prop := (g.map Prod.fst).Nodup

variable {g sum : Gradient ℝ} {i j : ℕ} {c v : ℝ}

@[simp] theorem entry_nil : entry ([] : Gradient ℝ) i = 0 := rfl

theorem entry_cons : entry ((j, v) :: g) i = if i = j then v else entry g i := by
  unfold entry
  by_cases here : i = j
  · subst here
    simp
  · rw [List.lookup_cons, beq_false_of_ne here, if_neg here]

theorem entry_of_absent (absent : i ∉ g.map Prod.fst) : entry g i = 0 := by
  induction g with
  | nil => rfl
  | cons e rest ih =>
      rw [List.map_cons, List.mem_cons, not_or] at absent
      rw [entry_cons, if_neg absent.1, ih absent.2]

/-- The entries of a simple gradient are found one by one, each at its own position. -/
theorem entry_cons_of_simple (simple : Simple ((j, v) :: g)) :
    entry ((j, v) :: g) i = v * entry [(j, 1)] i + entry g i := by
  have absent : j ∉ g.map Prod.fst := (List.nodup_cons.1 simple).1
  rw [entry_cons, entry_cons, entry_nil]
  by_cases here : i = j
  · rw [if_pos here, if_pos here, here, entry_of_absent absent, mul_one, add_zero]
  · rw [if_neg here, if_neg here, mul_zero, zero_add]

theorem entry_single (j : ℕ) (v : ℝ) : entry [(j, v)] i = v * entry [(j, 1)] i := by
  simp [entry_cons]

/-! ## Sums -/

theorem entry_add : entry (add i v g) j = entry g j + if j = i then v else 0 := by
  induction g with
  | nil => simp [add, entry_cons]
  | cons e rest ih =>
      obtain ⟨k, w⟩ := e
      unfold add
      by_cases same : k = i
      · subst same
        rw [if_pos rfl, entry_cons, entry_cons]
        by_cases here : j = k
        · simp [here]
        · simp [here]
      · rw [if_neg same, entry_cons, entry_cons, ih]
        by_cases here : j = k
        · have other : j ≠ i := fun h => same (here ▸ h)
          simp [here, same]
        · simp [here]

theorem map_fst_add :
    (add i v g).map Prod.fst = if i ∈ g.map Prod.fst then g.map Prod.fst
      else g.map Prod.fst ++ [i] := by
  induction g with
  | nil => rfl
  | cons e rest ih =>
      obtain ⟨k, w⟩ := e
      unfold add
      by_cases same : k = i
      · simp [same]
      · have other : i ≠ k := fun h => same h.symm
        rw [if_neg same, List.map_cons, ih, List.map_cons]
        by_cases among : i ∈ rest.map Prod.fst
        · rw [if_pos among, if_pos (List.mem_cons_of_mem k among)]
        · have absent : i ∉ k :: rest.map Prod.fst := by
            rw [List.mem_cons, not_or]
            exact ⟨other, among⟩
          rw [if_neg among, if_neg absent]
          rfl

/-- An addition keeps a gradient simple. -/
theorem Simple.add (simple : g.Simple) : (add i v g).Simple := by
  unfold Simple at *
  rw [map_fst_add]
  split
  · exact simple
  · rename_i absent
    rw [List.nodup_append_comm]
    exact List.nodup_cons.2 ⟨absent, simple⟩

theorem Simple.foldl_add (simple : sum.Simple) (g : Gradient ℝ) :
    (g.foldl (fun acc e => Gradient.add e.1 (c * e.2) acc) sum).Simple := by
  induction g generalizing sum with
  | nil => exact simple
  | cons e rest ih => exact ih simple.add

theorem Simple.addScaled (simple : sum.Simple) : (addScaled c g sum).Simple := by
  unfold Gradient.addScaled
  split
  · exact simple
  · exact simple.foldl_add g

/-- Combinations are simple, even of gradients that are not. -/
theorem simple_combine (terms : List (ℝ × Gradient ℝ)) : (combine terms).Simple := by
  have simple (sum : Gradient ℝ) (start : sum.Simple) :
      (terms.foldl (fun acc t => Gradient.addScaled t.1 t.2 acc) sum).Simple := by
    induction terms generalizing sum with
    | nil => exact start
    | cons t rest ih => exact ih _ start.addScaled
  exact simple [] List.nodup_nil

/-- Entries added one after the other add up at their positions. -/
theorem entry_foldl_add (simple : g.Simple) :
    entry (g.foldl (fun acc e => add e.1 (c * e.2) acc) sum) j = entry sum j + c * entry g j := by
  induction g generalizing sum with
  | nil => simp
  | cons e rest ih =>
      obtain ⟨i, v⟩ := e
      have absent : i ∉ rest.map Prod.fst := (List.nodup_cons.1 simple).1
      rw [List.foldl_cons, ih (List.nodup_cons.1 simple).2, entry_add, entry_cons]
      by_cases here : j = i
      · subst here
        rw [if_pos rfl, if_pos rfl, entry_of_absent absent]
        ring
      · rw [if_neg here, if_neg here, add_zero]

theorem entry_addScaled (simple : g.Simple) :
    entry (addScaled c g sum) j = entry sum j + c * entry g j := by
  unfold addScaled
  by_cases zero : c = 0
  · have test : (c == 0) = true := decide_eq_true zero
    rw [test, zero]
    simp
  · have test : (c == 0) = false := decide_eq_false zero
    rw [test]
    exact entry_foldl_add simple

theorem entry_foldl_addScaled {terms : List (ℝ × Gradient ℝ)} (simple : ∀ t ∈ terms, t.2.Simple)
    (sum : Gradient ℝ) :
    entry (terms.foldl (fun acc t => addScaled t.1 t.2 acc) sum) j =
      entry sum j + (terms.map fun t => t.1 * entry t.2 j).sum := by
  induction terms generalizing sum with
  | nil => simp
  | cons t rest ih =>
      rw [List.foldl_cons, ih (fun u among => simple u (List.mem_cons_of_mem t among)),
        entry_addScaled (simple t List.mem_cons_self), List.map_cons, List.sum_cons, add_assoc]

/-- **Combinations are combined at each position.** -/
theorem entry_combine {terms : List (ℝ × Gradient ℝ)} (simple : ∀ t ∈ terms, t.2.Simple) :
    entry (combine terms) j = (terms.map fun t => t.1 * entry t.2 j).sum := by
  rw [combine, entry_foldl_addScaled simple [], entry_nil, zero_add]

/-! ## Listed entries -/

theorem ofEntries_pair {w : ℝ} :
    ofEntries [(i, v), (j, w)] = if i = j then [(j, w)] else [(i, v), (j, w)] := rfl

theorem simple_ofEntries_pair {w : ℝ} : (ofEntries [(i, v), (j, w)]).Simple := by
  rw [ofEntries_pair]
  split
  · exact List.nodup_singleton _
  · rename_i apart
    simp [Simple, apart]

/-- Two listed entries: at a shared position only the second one is left. -/
theorem entry_ofEntries_pair {w : ℝ} {k : ℕ} :
    entry (ofEntries [(i, v), (j, w)]) k = if k = j then w else if k = i then v else 0 := by
  rw [ofEntries_pair]
  by_cases same : i = j
  · rw [if_pos same, entry_cons, entry_nil, same]
    by_cases here : k = j
    · rw [if_pos here, if_pos here]
    · rw [if_neg here, if_neg here, if_neg here]
  · rw [if_neg same, entry_cons, entry_cons, entry_nil]
    by_cases here : k = j
    · have other : k ≠ i := fun h => same (h.symm.trans here)
      rw [if_neg other, if_pos here, if_pos here]
    · simp only [if_neg here]

end PlanarSketch.Gradient
