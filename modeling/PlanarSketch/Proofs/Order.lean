import Mathlib.Data.List.Perm.Basic
import Mathlib.Logic.Equiv.Fin.Basic

/-!
# Lists in another order

Two lists are the same up to their order exactly when the entries of one are found in the other
at positions that a bijection gives (`exists_perm_getElem?`).  The bijection is one of all
numbers: behind the end of one list it stays behind the end of the other.  If keys differ, every
entry is found by its key (`find?_of_nodup`, `lookup_of_nodup`), and what is found under a key is
the same in any order (`find?_perm`, `lookup_perm`).  Entries that are put one after the other,
each under its key, stay in their order as well (`foldl_put_of_nodup`).
-/

namespace PlanarSketch

set_option autoImplicit false

variable {β : Type*} {xs ys : List β}

/-- A bijection that leaves zero alone, and is a given one on what comes behind. -/
def shifted (ρ : Equiv.Perm ℕ) : Equiv.Perm ℕ where
  toFun
    | 0 => 0
    | i + 1 => ρ i + 1
  invFun
    | 0 => 0
    | i + 1 => ρ.symm i + 1
  left_inv i := by
    cases i with
    | zero => rfl
    | succ i => exact congrArg (· + 1) (ρ.symm_apply_apply i)
  right_inv i := by
    cases i with
    | zero => rfl
    | succ i => exact congrArg (· + 1) (ρ.apply_symm_apply i)

/-- **Reordering a list moves its entries along a bijection of positions.** -/
theorem exists_perm_getElem? (same : xs.Perm ys) : ∃ ρ : Equiv.Perm ℕ, ∀ i, ys[ρ i]? = xs[i]? := by
  induction same with
  | nil => exact ⟨Equiv.refl ℕ, fun _ => rfl⟩
  | cons x _ ih =>
      obtain ⟨ρ, found⟩ := ih
      refine ⟨shifted ρ, fun i => ?_⟩
      cases i with
      | zero => rfl
      | succ i => exact found i
  | swap x y l =>
      refine ⟨Equiv.swap 0 1, fun i => ?_⟩
      rcases i with _ | _ | i
      · rw [Equiv.swap_apply_left]; rfl
      · rw [Equiv.swap_apply_right]; rfl
      · rw [Equiv.swap_apply_of_ne_of_ne (by omega) (by omega)]; rfl
  | trans _ _ first second =>
      obtain ⟨ρ, found⟩ := first
      obtain ⟨τ, found'⟩ := second
      exact ⟨ρ.trans τ, fun i => (found' (ρ i)).trans (found i)⟩

/-- A bijection between the positions of a list and those of its reordering. -/
theorem exists_equiv_get (same : xs.Perm ys) :
    ∃ σ : Fin xs.length ≃ Fin ys.length, ∀ i, ys.get (σ i) = xs.get i := by
  obtain ⟨ρ, found⟩ := exists_perm_getElem? same
  have inside (i : ℕ) : i < xs.length ↔ ρ i < ys.length := by
    rw [← not_iff_not, not_lt, not_lt, ← List.getElem?_eq_none_iff, ← List.getElem?_eq_none_iff,
      found]
  let σ := Fin.equivSubtype.trans ((ρ.subtypeEquiv inside).trans Fin.equivSubtype.symm)
  refine ⟨σ, fun i => Option.some.inj ?_⟩
  have moved : (σ i : ℕ) = ρ i := rfl
  rw [List.get_eq_getElem, List.get_eq_getElem, ← List.getElem?_eq_getElem,
    ← List.getElem?_eq_getElem, moved, found]

/-- An entry is the one that is found by its key, if keys differ. -/
theorem find?_of_nodup {key : β → ℤ} {x : β} (distinct : (xs.map key).Nodup) (present : x ∈ xs) :
    xs.find? (fun y => key y == key x) = some x := by
  induction xs with
  | nil => cases present
  | cons y ys ih =>
      obtain ⟨fresh, rest⟩ := List.nodup_cons.1 distinct
      rw [List.find?_cons]
      rcases List.mem_cons.1 present with rfl | later
      · rw [beq_self_eq_true]
      · have other : key y ≠ key x := fun same => fresh (same ▸ List.mem_map_of_mem later)
        rw [beq_false_of_ne other]
        exact ih rest later

/-- What is found under a key that occurs once does not depend on order. -/
theorem find?_perm {key : β → ℤ} (same : xs.Perm ys) (distinct : (xs.map key).Nodup) (k : ℤ) :
    ys.find? (fun x => key x == k) = xs.find? (fun x => key x == k) := by
  induction same with
  | nil => rfl
  | cons x _ ih => rw [List.find?_cons, List.find?_cons, ih (List.nodup_cons.1 distinct).2]
  | swap x y l =>
      have other : key y ≠ key x := fun same =>
        (List.nodup_cons.1 distinct).1 (same ▸ List.mem_cons_self)
      simp only [List.find?_cons]
      by_cases first : key x = k
      · have second : (key y == k) = false := beq_false_of_ne (first ▸ other)
        rw [second]
      · rw [beq_false_of_ne first]
  | trans same _ first second =>
      rw [second ((same.map key).nodup_iff.1 distinct), first distinct]

section Lookup

variable {κ : Type*} [BEq κ] [LawfulBEq κ] {entries others : List (κ × β)}

/-- What an entry holds is what is looked up by its key, if keys differ. -/
theorem lookup_of_nodup {entry : κ × β} (distinct : (entries.map Prod.fst).Nodup)
    (present : entry ∈ entries) : entries.lookup entry.1 = some entry.2 := by
  induction entries with
  | nil => cases present
  | cons first rest ih =>
      obtain ⟨k, v⟩ := first
      obtain ⟨fresh, distinct⟩ := List.nodup_cons.1 distinct
      rcases List.mem_cons.1 present with rfl | later
      · exact List.lookup_cons_self
      · have among : entry.1 ∈ rest.map Prod.fst := List.mem_map_of_mem later
        have other : (entry.1 == k) = false := beq_false_of_ne fun same => fresh (same ▸ among)
        rw [List.lookup_cons, other]
        exact ih distinct later

/-- What is looked up is held by an entry. -/
theorem mem_of_lookup {k : κ} {v : β} (found : entries.lookup k = some v) : (k, v) ∈ entries := by
  obtain ⟨before, after, same, -⟩ := List.lookup_eq_some_iff.1 found
  rw [same]
  exact List.mem_append_right before List.mem_cons_self

/-- What is looked up by a key that occurs once does not depend on order. -/
theorem lookup_perm (same : entries.Perm others) (distinct : (entries.map Prod.fst).Nodup) (k : κ) :
    others.lookup k = entries.lookup k := by
  cases found : entries.lookup k with
  | none =>
      rw [List.lookup_eq_none_iff] at found ⊢
      exact fun entry among => found entry (same.mem_iff.2 among)
  | some v =>
      have among : (k, v) ∈ others := same.mem_iff.1 (mem_of_lookup found)
      exact lookup_of_nodup ((same.map Prod.fst).nodup_iff.1 distinct) among

omit [LawfulBEq κ] in
theorem lookup_map {γ : Type*} (f : β → γ) (k : κ) :
    (entries.map fun entry => (entry.1, f entry.2)).lookup k = (entries.lookup k).map f := by
  induction entries with
  | nil => rfl
  | cons entry rest ih =>
      rw [List.map_cons, List.lookup_cons, List.lookup_cons, ih]
      split <;> rfl

/-- Entries are recovered by their keys, also from another order. -/
theorem filterMap_lookup (same : entries.Perm others) (distinct : (entries.map Prod.fst).Nodup) :
    (entries.map Prod.fst).filterMap (fun k => (others.lookup k).map fun v => (k, v)) =
      entries := by
  have found : ∀ entry ∈ entries,
      (others.lookup entry.1).map (fun v => (entry.1, v)) = some entry := by
    intro entry among
    rw [lookup_of_nodup ((same.map Prod.fst).nodup_iff.1 distinct) (same.mem_iff.1 among)]
    rfl
  rw [List.filterMap_map]
  exact (List.filterMap_congr found).trans List.filterMap_some

end Lookup

/-- Putting entries one after the other keeps them all in their order, if keys differ and what has
a new key is put behind the rest. -/
theorem foldl_put_of_nodup {κ : Type*} {key : β → κ} {put : List β → β → List β}
    (behind : ∀ kept x, key x ∉ kept.map key → put kept x = kept ++ [x]) {kept : List β}
    (distinct : ((kept ++ xs).map key).Nodup) : xs.foldl put kept = kept ++ xs := by
  induction xs generalizing kept with
  | nil => rw [List.foldl_nil, List.append_nil]
  | cons x rest ih =>
      have fresh : key x ∉ kept.map key := by
        rw [List.map_append, List.nodup_append] at distinct
        exact fun among => distinct.2.2 _ among _ List.mem_cons_self rfl
      rw [List.append_cons] at distinct ⊢
      rw [List.foldl_cons, behind kept x fresh]
      exact ih distinct

end PlanarSketch
