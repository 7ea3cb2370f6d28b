import Mathlib.Data.List.Nodup
import PlanarSketch.System

/-!
# The rows of a system

Blocks whose identifiers differ take consecutive rows, one block after the other
(`rowsOf_split`).  The derivative of a system then consists of the derivatives of its
blocks and nothing else: each row is what one block enters into an empty row
(`mem_sparseRows`), because every other block ends before that row or begins behind it.
-/

namespace PlanarSketch.System

set_option autoImplicit false

variable {α : Type}

/-- The number of rows of some blocks. -/
def height (blocks : List (Block α)) : Nat := blocks.foldr (fun b n => b.rows + n) 0

theorem height_cons (b : Block α) (bs : List (Block α)) :
    height (b :: bs) = b.rows + height bs := rfl

theorem height_append (bs cs : List (Block α)) : height (bs ++ cs) = height bs + height cs := by
  induction bs with
  | nil => exact (Nat.zero_add _).symm
  | cons b bs ih => rw [List.cons_append, height_cons, height_cons, ih, Nat.add_assoc]

theorem rangesFrom_append (start : Nat) (bs cs : List (Block α)) :
    rangesFrom start (bs ++ cs) = rangesFrom start bs ++ rangesFrom (start + height bs) cs := by
  induction bs generalizing start with
  | nil => rfl
  | cons b bs ih =>
      rw [List.cons_append, rangesFrom, rangesFrom, ih, height_cons, Nat.add_assoc]
      rfl

theorem map_fst_rangesFrom (start : Nat) (bs : List (Block α)) :
    (rangesFrom start bs).map Prod.fst = bs.map Block.id := by
  induction bs generalizing start with
  | nil => rfl
  | cons b bs ih => rw [rangesFrom, List.map_cons, List.map_cons, ih]

/-- Every row of some blocks is a row of one of them. -/
theorem exists_split_of_lt_height {blocks : List (Block α)} {i : Nat} (inside : i < height blocks) :
    ∃ before b after k, blocks = before ++ b :: after ∧ k < b.rows ∧ i = height before + k := by
  induction blocks generalizing i with
  | nil => exact absurd inside (Nat.not_lt_zero i)
  | cons c cs ih =>
      by_cases first : i < c.rows
      · exact ⟨[], c, cs, i, rfl, first, (Nat.zero_add i).symm⟩
      · rw [height_cons] at inside
        obtain ⟨before, b, after, k, rfl, below, place⟩ := ih (i := i - c.rows) (by omega)
        exact ⟨c :: before, b, after, k, rfl, below, by rw [height_cons]; omega⟩

section Ranges

variable [Scalar α] {s : System α}

omit [Scalar α] in
/-- The rows of a block begin behind the rows of the blocks before it. -/
theorem rowsOf_split (distinct : (s.blocks.map Block.id).Nodup) {before after : List (Block α)}
    {b : Block α} (split : s.blocks = before ++ b :: after) :
    s.rowsOf b = ⟨height before, b.rows⟩ := by
  have found : s.rowRange? b.id = some ⟨height before, b.rows⟩ := by
    rw [rowRange?, List.lookup_eq_some_iff]
    refine ⟨(rangesFrom (height before + b.rows) after).reverse, (rangesFrom 0 before).reverse,
      ?_, ?_⟩
    · rw [split, rangesFrom_append, Nat.zero_add, rangesFrom]
      simp
    · rintro ⟨id, range⟩ among
      have later : id ∈ after.map Block.id := by
        rw [← map_fst_rangesFrom (height before + b.rows)]
        exact List.mem_map_of_mem (List.mem_reverse.1 among)
      rw [split, List.map_append, List.map_cons] at distinct
      have fresh := (List.nodup_cons.1 (List.nodup_append.1 distinct).2.1).1
      rw [bne_iff_ne]
      rintro rfl
      exact fresh later
  rw [rowsOf, found]
  rfl

omit [Scalar α] in
theorem spread_of_length {count : Nat} {rows : List (SlopeRow α)} (fits : rows.length = count) :
    spread count rows = rows := by
  unfold spread
  split
  · rw [← fits]
    rfl
  · rfl

variable {closed : Block α → Bool} {slopes : Block α → List (SlopeRow α)}

omit [Scalar α] in
/-- A block contributes its derivative, as it is, from its first row on. -/
theorem contribution_split (distinct : (s.blocks.map Block.id).Nodup)
    {before after : List (Block α)} {b : Block α} (split : s.blocks = before ++ b :: after)
    (fits : (slopes b).length = b.rows) :
    s.contribution closed slopes b = ⟨height before, closed b, slopes b⟩ := by
  rw [contribution, rowsOf_split distinct split, spread_of_length fits, ite_self]

/-- Contributions that begin behind a row, or have ended before it, leave it as it is. -/
theorem foldl_skip {contributions : List (Contribution α)} {i : Nat} (row : SlopeRow α)
    (elsewhere : ∀ c ∈ contributions, c.start ≤ i → c.slopes.length ≤ i - c.start) :
    contributions.foldl (fun row c =>
      if c.start ≤ i then enter c.closed row (c.slopes.getD (i - c.start) []) else row) row =
        row := by
  induction contributions with
  | nil => rfl
  | cons c cs ih =>
      have rest := ih fun d among => elsewhere d (List.mem_cons_of_mem c among)
      rw [List.foldl_cons]
      split
      · rename_i begun
        have ended := elsewhere c List.mem_cons_self begun
        rw [List.getD_eq_getElem?_getD, List.getElem?_eq_none ended]
        exact rest
      · exact rest

/-- A row of a block is what that block enters into an empty row. -/
theorem assemble_split (distinct : (s.blocks.map Block.id).Nodup)
    (fits : ∀ b ∈ s.blocks, (slopes b).length = b.rows) {before after : List (Block α)}
    {b : Block α} (split : s.blocks = before ++ b :: after) {k : Nat} (inside : k < b.rows) :
    assemble (s.blocks.map (s.contribution closed slopes)) (height before + k) =
      enter (closed b) [] ((slopes b).getD k []) := by
  have own {c : Block α} {first rest : List (Block α)} (here : s.blocks = first ++ c :: rest) :
      s.contribution closed slopes c = ⟨height first, closed c, slopes c⟩ :=
    contribution_split distinct here (fits c (here ▸ by simp))
  -- Whatever comes before the block has ended at its rows, and whatever comes after has not begun.
  have early : ∀ c ∈ before.map (s.contribution closed slopes), c.start ≤ height before + k →
      c.slopes.length ≤ height before + k - c.start := by
    intro c among _
    obtain ⟨d, present, rfl⟩ := List.mem_map.1 among
    obtain ⟨first, rest, rfl⟩ := List.append_of_mem present
    have place : s.blocks = first ++ d :: (rest ++ b :: after) := by simp [split]
    rw [own place, fits d (place ▸ by simp), height_append, height_cons]
    dsimp only
    omega
  have late : ∀ c ∈ after.map (s.contribution closed slopes), c.start ≤ height before + k →
      c.slopes.length ≤ height before + k - c.start := by
    intro c among begun
    obtain ⟨d, present, rfl⟩ := List.mem_map.1 among
    obtain ⟨first, rest, rfl⟩ := List.append_of_mem present
    have place : s.blocks = (before ++ b :: first) ++ d :: rest := by simp [split]
    rw [own place, height_append, height_cons] at begun
    dsimp only at begun
    omega
  rw [assemble]
  conv_lhs => rw [split]
  rw [List.map_append, List.map_cons, List.foldl_append, List.foldl_cons, foldl_skip [] early,
    foldl_skip _ late, own split, if_pos (Nat.le_add_right _ _), Nat.add_sub_cancel_left]

/-- A row of a block, written out, is found among the rows of the system. -/
theorem getElem?_dense_split (distinct : (s.blocks.map Block.id).Nodup)
    (fits : ∀ b ∈ s.blocks, (slopes b).length = b.rows) {before after : List (Block α)}
    {b : Block α} (split : s.blocks = before ++ b :: after) {k : Nat} (inside : k < b.rows)
    (columns : List Nat) :
    (dense columns (s.sparseRows closed slopes))[height before + k]? =
      some (columns.map fun j =>
        ((enter (closed b) [] ((slopes b).getD k [])).lookup j).getD (some 0)) := by
  have below : height before + k < s.rows := by
    change height before + k < height s.blocks
    rw [split, height_append, height_cons]
    omega
  rw [dense, sparseRows, List.getElem?_map, List.getElem?_map, List.getElem?_range below,
    Option.map_some, assemble_split distinct fits split inside, Option.map_some]

/-- **The derivative of a system consists of the derivatives of its blocks.** -/
theorem mem_sparseRows (distinct : (s.blocks.map Block.id).Nodup)
    (fits : ∀ b ∈ s.blocks, (slopes b).length = b.rows) {row : SlopeRow α} :
    row ∈ s.sparseRows closed slopes ↔
      ∃ b ∈ s.blocks, ∃ k < b.rows, row = enter (closed b) [] ((slopes b).getD k []) := by
  unfold sparseRows
  simp only [List.mem_map, List.mem_range]
  constructor
  · rintro ⟨i, inside, rfl⟩
    obtain ⟨before, b, after, k, split, below, rfl⟩ := exists_split_of_lt_height inside
    exact ⟨b, split ▸ by simp, k, below, assemble_split distinct fits split below⟩
  · rintro ⟨b, present, k, below, rfl⟩
    obtain ⟨before, after, split⟩ := List.append_of_mem present
    refine ⟨height before + k, ?_, assemble_split distinct fits split below⟩
    change height before + k < height s.blocks
    rw [split, height_append, height_cons]
    omega

end Ranges

end PlanarSketch.System
