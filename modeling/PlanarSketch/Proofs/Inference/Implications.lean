import PlanarSketch.Proofs.Inference.Completeness

/-!
# What the inference leaves out

Not every pair of lines that is close to parallel or perpendicular makes a suggestion.  If both
lines are near to an axis then they are suggested to be along it, and which axes these are decides
how the lines stand to each other (`Inference.product_of_axes`), since the limit on the angle is
too small for both.  And what is known is not inferred again.

So the relation of the pair follows from constraints that exist or are inferred, as long as they
are solved for: it holds wherever all of them are met (`left_out_implied`).  A constraint that is
only measured is known as well, but it is met by accident only
(`left_out_not_implied_of_reference`).
-/

namespace PlanarSketch

set_option autoImplicit false

open Complex Affine Inference
open scoped InnerProductSpace

/-! ## Directions of length one -/

theorem Entity.Runs.sq_add_sq {e : Entity ℝ} {u : ℂ} (runs : e.Runs u) :
    u.re * u.re + u.im * u.im = 1 := by
  obtain ⟨edge, -, long, rfl⟩ := runs
  have positive : 0 < edge.length := by
    refine lt_trans ?_ long
    norm_num [Tolerance.geometry]
  have unit : ‖edge.direction / (edge.length : ℂ)‖ = 1 := by
    rw [norm_div, norm_real, Real.norm_of_nonneg positive.le, ← Edge.length_eq_norm,
      div_self positive.ne']
  rw [← normSq_apply, normSq_eq_norm_sq, unit, one_pow]

/-- Two directions of length one that are both closer than half to one axis have a product of more
than half. -/
theorem half_lt_abs_product {a b c d : ℝ} (first : a * a + b * b = 1) (second : c * c + d * d = 1)
    (small : |b| < 1 / 2) (small' : |d| < 1 / 2) : 1 / 2 < |a * c + b * d| := by
  have long (x y : ℝ) (unit : x * x + y * y = 1) (small : |y| < 1 / 2) : 3 / 4 < |x| * |x| := by
    have square : |y| * |y| < 1 / 2 * (1 / 2) :=
      mul_self_lt_mul_self (abs_nonneg y) small
    rw [abs_mul_abs_self] at square ⊢
    linarith
  have major : 3 / 4 < |a * c| := by
    have square : 3 / 4 * (3 / 4) < |a * c| * |a * c| := by
      rw [abs_mul, mul_mul_mul_comm]
      exact mul_lt_mul'' (long a b first small) (long c d second small') (by norm_num) (by norm_num)
    exact lt_of_mul_self_lt_mul_self₀ (abs_nonneg _) square
  have minor : |b * d| < 1 / 4 := by
    rw [abs_mul, show (1 / 4 : ℝ) = 1 / 2 * (1 / 2) by norm_num]
    exact mul_lt_mul'' small small' (abs_nonneg b) (abs_nonneg d)
  have difference := abs_sub_abs_le_abs_sub (a * c) (-(b * d))
  rw [abs_neg, sub_neg_eq_add] at difference
  linarith

namespace Inference

variable {limits : Limits ℝ} {entities : List (Entity ℝ)}

/-- Whether a kind is the alignment that a direction is near to. -/
def Limits.Axis (limits : Limits ℝ) (u : ℂ) (kind : ConstraintKind) : Prop :=
  kind = .horizontal ∧ |u.im| < limits.angle ∨
    kind = .vertical ∧ ¬|u.im| < limits.angle ∧ |u.re| < limits.angle

theorem Limits.Aligns.exists_axis {u : ℂ} (aligned : limits.Aligns u) :
    ∃ kind, limits.Axis u kind := by
  by_cases level : |u.im| < limits.angle
  · exact ⟨_, .inl ⟨rfl, level⟩⟩
  · exact ⟨_, .inr ⟨rfl, level, aligned.resolve_left level⟩⟩

/-- **The axes of two lines tell how they stand to each other.**  Lines near to one axis have an
inner product of more than half, lines near to different axes a cross product of more than half. -/
theorem product_of_axes (small : limits.angle ≤ 1 / 2) {u v : ℂ} {axis other : ConstraintKind}
    (unit : u.re * u.re + u.im * u.im = 1) (unit' : v.re * v.re + v.im * v.im = 1)
    (near : limits.Axis u axis) (near' : limits.Axis v other) :
    axis = other ∧ 1 / 2 < |⟪u, v⟫_ℝ| ∨ axis ≠ other ∧ 1 / 2 < |cross u v| := by
  have half {x : ℝ} (below : |x| < limits.angle) : |x| < 1 / 2 := below.trans_le small
  have half' {x : ℝ} (below : |x| < limits.angle) : |-x| < 1 / 2 := by
    rw [abs_neg]
    exact half below
  have unit_swap : u.im * u.im + u.re * u.re = 1 := (add_comm _ _).trans unit
  have unit_swap' : v.im * v.im + v.re * v.re = 1 := (add_comm _ _).trans unit'
  rw [inner_eq]
  rcases near with ⟨rfl, level⟩ | ⟨rfl, -, upright⟩
  · rcases near' with ⟨rfl, level'⟩ | ⟨rfl, -, upright'⟩
    · exact .inl ⟨rfl, half_lt_abs_product unit unit' (half level) (half level')⟩
    · have product := half_lt_abs_product unit (c := v.im) (d := -v.re)
        (by rw [neg_mul_neg, unit_swap']) (half level) (half' upright')
      rw [mul_neg, ← sub_eq_add_neg] at product
      exact .inr ⟨nofun, product⟩
  · rcases near' with ⟨rfl, level'⟩ | ⟨rfl, -, upright'⟩
    · have product := half_lt_abs_product unit_swap (c := v.re) (d := -v.im)
        (by rw [neg_mul_neg, unit']) (half upright) (half' level')
      rw [mul_neg, ← sub_eq_add_neg, abs_sub_comm] at product
      exact .inr ⟨nofun, product⟩
    · rw [add_comm]
      exact .inl ⟨rfl, half_lt_abs_product unit_swap unit_swap' (half upright) (half upright')⟩

/-- Whether a direction is along the axis of an alignment. -/
def Along (axis : ConstraintKind) (d : ℂ) : Prop :=
  axis = .horizontal ∧ d.im = 0 ∨ axis = .vertical ∧ d.re = 0

/-- Directions along one axis have no cross product, and along different axes no inner product. -/
theorem Along.products {axis other : ConstraintKind} {a b : ℂ} (first : Along axis a)
    (second : Along other b) : (axis = other → cross a b = 0) ∧ (axis ≠ other → ⟪a, b⟫_ℝ = 0) := by
  rw [cross, inner_eq]
  rcases first with ⟨rfl, flat⟩ | ⟨rfl, flat⟩ <;> rcases second with ⟨rfl, flat'⟩ | ⟨rfl, flat'⟩ <;>
    simp [flat, flat']

/-- Two directions of length one that are close to perpendicular are not close to parallel. -/
theorem not_abs_cross_lt (small : limits.angle ≤ 1 / 2) {u v : ℂ}
    (unit : u.re * u.re + u.im * u.im = 1) (unit' : v.re * v.re + v.im * v.im = 1)
    (near : |⟪u, v⟫_ℝ| < limits.angle) : ¬|cross u v| < limits.angle := by
  intro related
  have whole : cross u v * cross u v + ⟪u, v⟫_ℝ * ⟪u, v⟫_ℝ =
      (u.re * u.re + u.im * u.im) * (v.re * v.re + v.im * v.im) := by
    rw [inner_eq, cross]
    ring
  rw [unit, unit', mul_one] at whole
  have product := mul_self_lt_mul_self (abs_nonneg _) (near.trans_le small)
  have product' := mul_self_lt_mul_self (abs_nonneg _) (related.trans_le small)
  rw [abs_mul_abs_self] at product product'
  linarith

/-! ## What constraints on lines say where they are met -/

/-- Whether all constraints of a list that are solved for are met at some parameters, as far as they
can be bound. -/
def AllMet (entities : List (Entity ℝ)) (layout : Layout) (start : Valuation ℝ)
    (all : List (Constraint ℝ)) (p : Valuation ℝ) : Prop :=
  ∀ c ∈ all, c.isDriving = true → ∀ b, Block.compile entities layout start c = .ok b →
    b.VanishesAt p

/-- Whether a relation that is listed at all is listed by a constraint that is solved for. -/
def Enforced (existing : List (Constraint ℝ)) (kind : ConstraintKind)
    (points : List (Int × String)) : Prop :=
  Listed existing kind points → Listed (existing.filter Constraint.isDriving) kind points

theorem map_fst_references (c : Constraint ℝ) : c.references.map Prod.fst = c.entityIds := by
  rw [Constraint.references, List.map_map]
  exact List.zipIdx_map_fst 0 c.entityIds

theorem selector_of_references {c : Constraint ℝ} {i : Int} {name : String}
    (references : c.references = [(i, name)]) : c.selector 0 = name := by
  have ids := map_fst_references c
  rw [references] at ids
  rw [Constraint.references, ← ids] at references
  exact (Prod.mk.inj (List.cons.inj references).1).2

section Met

variable {layout : Layout} {start p : Valuation ℝ} {c : Constraint ℝ} {b : Block ℝ}
  (compiled : Block.compile entities layout start c = .ok b) (met : b.VanishesAt p)

include compiled met

/-- A line that is aligned where its alignment is met runs along the axis. -/
theorem along_of_met {i : Int} {l : LineSite} (line : layout.line? i = some l)
    (references : c.references.Perm [(i, "")]) :
    (c.kind = .horizontal → (l.edge p).direction.im = 0) ∧
      (c.kind = .vertical → (l.edge p).direction.re = 0) := by
  have exact_references := List.perm_singleton.1 references
  have ids : c.entityIds = [i] := by
    rw [← map_fst_references, exact_references]
    rfl
  obtain ⟨level, plumb⟩ :=
    Block.residual_of_alignment compiled ids (selector_of_references exact_references) line p
  constructor
  · intro kind
    have zero := met _ (level kind ▸ List.mem_singleton_self _)
    exact Option.some.inj zero
  · intro kind
    have zero := met _ (plumb kind ▸ List.mem_singleton_self _)
    exact Option.some.inj zero

/-- Two lines stand to each other as a constraint demands, where it is met. -/
theorem related_of_met {i j : Int} {l m : LineSite} (here : layout.line? i = some l)
    (there : layout.line? j = some m) (references : c.references.Perm [(i, ""), (j, "")]) :
    (c.kind = .parallel → (l.edge p).line ∥ (m.edge p).line) ∧
      (c.kind = .perpendicular → (l.edge p).line.direction ⟂ (m.edge p).line.direction) := by
  have ids : c.entityIds.Perm [i, j] := by
    rw [← map_fst_references]
    exact references.map Prod.fst
  have holds := (Block.vanishesAt_iff.1 met).2
  rcases List.perm_pair.1 ids with order | order
  · obtain ⟨parallel, perpendicular⟩ := Block.relation_of_directions compiled order here there
    constructor
    · intro kind
      rwa [parallel kind] at holds
    · intro kind
      rwa [perpendicular kind] at holds
  · obtain ⟨parallel, perpendicular⟩ := Block.relation_of_directions compiled order there here
    constructor
    · intro kind
      rw [parallel kind] at holds
      exact AffineSubspace.Parallel.symm holds
    · intro kind
      rw [perpendicular kind] at holds
      exact Submodule.IsOrtho.symm holds

end Met

/-- Whether the constraints that stand for a relation between two lines are solved for, as far as
they exist: those of the relation itself or, if both lines are near to an axis, their
alignments. -/
structure Backed (limits : Limits ℝ) (existing : List (Constraint ℝ)) (kind : ConstraintKind)
    (i j : Int) (u v : ℂ) : Prop where
  pair : ¬(limits.Aligns u ∧ limits.Aligns v) → Enforced existing kind [(i, ""), (j, "")]
  axes : limits.Aligns u ∧ limits.Aligns v → ∀ axis,
    (limits.Axis u axis → Enforced existing axis [(i, "")]) ∧
      (limits.Axis v axis → Enforced existing axis [(j, "")])

/-- Whatever is known is enforced if all that is known is solved for. -/
theorem backed_of_driving {existing : List (Constraint ℝ)}
    (driving : ∀ c ∈ existing, c.isDriving = true) (kind : ConstraintKind) (i j : Int) (u v : ℂ) :
    Backed limits existing kind i j u v := by
  have enforced (kind : ConstraintKind) (points : List (Int × String)) :
      Enforced existing kind points := by
    rw [Enforced, List.filter_eq_self.2 driving]
    exact id
  exact ⟨fun _ => enforced _ _, fun _ axis => ⟨fun _ => enforced _ _, fun _ => enforced _ _⟩⟩

section Implied

variable (distinct : (entities.map Entity.id).Nodup) {existing : List (Constraint ℝ)} {next : Int}
  {start p : Valuation ℝ}
  (bound : ∀ c ∈ existing, ∃ b,
    Block.compile entities (Layout.tiling entities) start c = .ok b)
  (met : AllMet entities (Layout.tiling entities) start
    (existing ++ infer limits entities existing next) p)

include distinct bound met

/-- What is listed and solved for where it exists is bound and met. -/
theorem exists_met {kind : ConstraintKind} {points : List (Int × String)}
    (listed : Listed (existing ++ infer limits entities existing next) kind points)
    (enforced : Enforced existing kind points) (lines : kind ≠ .coincident) :
    ∃ c b, c.kind = kind ∧ c.references.Perm points ∧
      Block.compile entities (Layout.tiling entities) start c = .ok b ∧ b.VanishesAt p := by
  obtain ⟨c, among, same, references⟩ := listed
  rcases List.mem_append.1 among with old | new
  · obtain ⟨d, solved, same', references'⟩ := enforced ⟨c, old, same, references⟩
    obtain ⟨present, driving⟩ := List.mem_filter.1 solved
    obtain ⟨b, compiled⟩ := bound d present
    exact ⟨d, b, same', references', compiled,
      met d (List.mem_append_left _ present) driving b compiled⟩
  · obtain ⟨b, compiled⟩ := exists_compile_of_infer distinct new (same ▸ lines) start
    have driving : c.isDriving = true := by
      obtain ⟨s, -, n, rfl⟩ := mem_accept new
      rfl
    exact ⟨c, b, same, references, compiled, met c among driving b compiled⟩

/-- Where the alignment of a line is listed and solved for, the line runs along its axis. -/
theorem along_of_axis {e : Entity ℝ} {u : ℂ} {axis : ConstraintKind} (present : e ∈ entities)
    (runs : e.Runs u) (near : limits.Axis u axis) (enforced : Enforced existing axis [(e.id, "")])
    {l : LineSite} (line : (Layout.tiling entities).line? e.id = some l) :
    Along axis (l.edge p).direction := by
  have complete : Complete limits entities (existing ++ infer limits entities existing next) :=
    complete_of_bound distinct bound next
  rcases near with ⟨rfl, level⟩ | ⟨rfl, slanted, upright⟩
  · obtain ⟨c, b, kind, references, compiled, zero⟩ :=
      exists_met distinct bound met (complete.horizontal present runs level) enforced nofun
    exact .inl ⟨rfl, (along_of_met compiled zero line references).1 kind⟩
  · obtain ⟨c, b, kind, references, compiled, zero⟩ :=
      exists_met distinct bound met (complete.vertical present runs slanted upright) enforced nofun
    exact .inr ⟨rfl, (along_of_met compiled zero line references).2 kind⟩

variable (small : limits.angle ≤ 1 / 2) {e f : Entity ℝ} {u v : ℂ} (first : e ∈ entities)
  (second : f ∈ entities) (runs : e.Runs u) (along : f.Runs v)
  {l m : LineSite} (here : (Layout.tiling entities).line? e.id = some l)
  (there : (Layout.tiling entities).line? f.id = some m)

include small first second runs along here there

/-- Two lines along an axis each have the product zero that is small for them as they are drawn,
where their alignments are met. -/
theorem product_of_aligned (aligned : limits.Aligns u ∧ limits.Aligns v)
    (enforced : ∀ axis, (limits.Axis u axis → Enforced existing axis [(e.id, "")]) ∧
      (limits.Axis v axis → Enforced existing axis [(f.id, "")])) :
    (|cross u v| < limits.angle → cross (l.edge p).direction (m.edge p).direction = 0) ∧
      (|⟪u, v⟫_ℝ| < limits.angle → ⟪(l.edge p).direction, (m.edge p).direction⟫_ℝ = 0) := by
  obtain ⟨axis, level⟩ := aligned.1.exists_axis
  obtain ⟨other, level'⟩ := aligned.2.exists_axis
  have along_axis := along_of_axis distinct bound met first runs level
    ((enforced axis).1 level) here
  have along_other := along_of_axis distinct bound met second along level'
    ((enforced other).2 level') there
  obtain ⟨parallel, upright⟩ := along_axis.products along_other
  rcases product_of_axes small runs.sq_add_sq along.sq_add_sq level level' with
    ⟨same, far⟩ | ⟨different, far⟩
  · exact ⟨fun _ => parallel same, fun near => absurd (near.trans_le small) far.not_gt⟩
  · exact ⟨fun near => absurd (near.trans_le small) far.not_gt, fun _ => upright different⟩

variable (apart : e.id ≠ f.id)

include apart

/-- **Lines that are close to parallel are parallel** where the constraints that stand for it are
met. -/
theorem parallel_of_met (near : |cross u v| < limits.angle)
    (backed : Backed limits existing .parallel e.id f.id u v)
    (long : 0 < (l.edge p).length) (long' : 0 < (m.edge p).length) :
    (l.edge p).line ∥ (m.edge p).line := by
  by_cases aligned : limits.Aligns u ∧ limits.Aligns v
  · have product := product_of_aligned distinct bound met small first second runs along here there
      aligned (backed.axes aligned)
    exact (Edge.parallel_iff long long').2 (product.1 near)
  · obtain ⟨c, b, kind, references, compiled, zero⟩ := exists_met distinct bound met
      ((complete_of_bound distinct bound next).parallel first second apart runs along aligned near)
      (backed.pair aligned) nofun
    exact (related_of_met compiled zero here there references).1 kind

/-- **Lines that are close to perpendicular are perpendicular** where the constraints that stand for
it are met. -/
theorem perpendicular_of_met (near : |⟪u, v⟫_ℝ| < limits.angle)
    (backed : Backed limits existing .perpendicular e.id f.id u v) :
    (l.edge p).line.direction ⟂ (m.edge p).line.direction := by
  by_cases aligned : limits.Aligns u ∧ limits.Aligns v
  · have product := product_of_aligned distinct bound met small first second runs along here there
      aligned (backed.axes aligned)
    exact (Edge.perpendicular_iff _ _).2 (product.2 near)
  · have skew := not_abs_cross_lt small runs.sq_add_sq along.sq_add_sq near
    obtain ⟨c, b, kind, references, compiled, zero⟩ := exists_met distinct bound met
      ((complete_of_bound distinct bound next).perpendicular first second apart runs along aligned
        skew near) (backed.pair aligned) nofun
    exact (related_of_met compiled zero here there references).2 kind

end Implied

end Inference

/-- **What the inference leaves out is implied**, as long as what is known is solved for.  Two lines
that are drawn close to parallel or perpendicular, up to a limit of half, are exactly so wherever
they keep a direction and all constraints are met that are solved for, existing and inferred ones.
It does not matter whether the pair was proposed, left out since both lines are along an axis, or
known already; only that what is known for it is solved for (`Backed`). -/
theorem left_out_implied {entities : List (Entity ℝ)} (distinct : (entities.map Entity.id).Nodup)
    {limits : Limits ℝ} (small : limits.angle ≤ 1 / 2) :
    ∃ layout start, Layout.ofEntities entities = .ok layout ∧
      layout.flatten entities = .ok start ∧
      ∀ (existing : List (Constraint ℝ)) (next : Int) (found : List (Constraint ℝ)),
        infer limits entities existing next = found →
        (∀ c ∈ existing, ∃ b, Block.compile entities layout (.ofArray start) c = .ok b) →
        ∀ e ∈ entities, ∀ f ∈ entities, e.id ≠ f.id → ∀ u v, e.Runs u → f.Runs v →
          ∃ l m, layout.line? e.id = some l ∧ layout.line? f.id = some m ∧
            ∀ p, Tolerance.geometry < l.length p → Tolerance.geometry < m.length p →
              AllMet entities layout (.ofArray start) (existing ++ found) p →
                (|cross u v| < limits.angle →
                  Backed limits existing .parallel e.id f.id u v →
                    (l.edge p).line ∥ (m.edge p).line) ∧
                (|⟪u, v⟫_ℝ| < limits.angle →
                  Backed limits existing .perpendicular e.id f.id u v →
                    (l.edge p).line.direction ⟂ (m.edge p).line.direction) := by
  refine ⟨_, _, Layout.ofEntities_eq_ok.2 ⟨distinct, rfl⟩, Layout.flatten_tiling distinct, ?_⟩
  rintro existing next found rfl bound e first f second apart u v runs along
  obtain ⟨l, here, -, -⟩ := runs.exists_site distinct first
  obtain ⟨m, there, -, -⟩ := along.exists_site distinct second
  refine ⟨l, m, here, there, fun p long long' met => ⟨fun near backed => ?_, fun near backed => ?_⟩⟩
  · exact parallel_of_met distinct bound met small first second runs along here there apart near
      backed (LineSite.edge_long long) (LineSite.edge_long long')
  · exact perpendicular_of_met distinct bound met small first second runs along here there apart
      near backed

namespace Slanted

/-- Parameters at which the lines run along different axes. -/
noncomputable def turned : Valuation ℝ := .ofArray #[0, 0, 1, 0, 0, 0, 0, 1]

theorem runs_first : (Exact.entity 0 (.line 0 0 20 21)).Runs way :=
  (ray?_eq_some_iff.1 (ray_eq 0 (sub_zero (20 : ℝ)))).2

theorem runs_second : (Exact.entity 1 (.line 50 0 70 21)).Runs way :=
  (ray?_eq_some_iff.1 (ray_eq 1 (show (70 : ℝ) - 50 = 20 by norm_num))).2

theorem cross_way : cross way way = 0 := by
  rw [cross, mul_comm, sub_self]

theorem near : |cross way way| < (Limits.standard : Limits ℝ).angle := by
  norm_num [cross_way, Limits.standard, Tolerance.inferAngle]

theorem angle_small : (Limits.standard : Limits ℝ).angle ≤ 1 / 2 := by
  norm_num [Limits.standard, Tolerance.inferAngle]

/-- Nothing is inferred of lines that are known to be parallel, solved for or not. -/
theorem inferred_of_known (id : Int) (driving : Bool) (next : Int) :
    infer .standard entities [constraint id driving] next = [] := by
  rw [infer, suggested]
  rfl

theorem compile_constraint (id : Int) (driving : Bool) (p : Valuation ℝ) :
    Block.compile entities (Layout.tiling entities) p (constraint id driving) =
      .ok ⟨constraint id driving, .parallel ⟨0, 0⟩ ⟨1, 4⟩, List.range 8⟩ := by
  have found : Block.placesOf (constraint id driving) entities (Layout.tiling entities) =
      .ok [⟨0, .line, 0⟩, ⟨1, .line, 4⟩] := rfl
  refine Block.compile_of_steps rfl found rfl fun id among => ?_
  rcases List.mem_pair.1 among with rfl | rfl
  · exact Block.checkShape_of_found rfl (line_of_ray (ray_eq 0 (sub_zero (20 : ℝ)))).2
  · exact Block.checkShape_of_found rfl
      (line_of_ray (ray_eq 1 (show (70 : ℝ) - 50 = 20 by norm_num))).2

/-- They are parallel as they are drawn. -/
theorem allMet (id : Int) (driving : Bool) : AllMet entities (Layout.tiling entities)
    (.ofArray (flat entities)) [constraint id driving] (.ofArray (flat entities)) := by
  intro c among _ b compiled
  cases List.mem_singleton.1 among
  have residual := (residual_of_directions distinct_entities compiled List.mem_cons_self
    (List.mem_cons_of_mem _ List.mem_cons_self) rfl runs_first runs_second).1 rfl
  intro v listed
  rw [residual, cross_way] at listed
  exact List.mem_singleton.1 listed

theorem edge_turned : (LineSite.mk 0 0).edge turned = ⟨0, 1⟩ ∧
    (LineSite.mk 1 4).edge turned = ⟨0, I⟩ := by
  constructor
  · simp [LineSite.edge, turned, Valuation.ofArray, Complex.ext_iff]
  · simp [LineSite.edge, turned, Valuation.ofArray, Complex.ext_iff]

theorem length_turned : Edge.length ⟨0, 1⟩ = 1 ∧ Edge.length ⟨0, I⟩ = 1 := by
  simp [Edge.length, Complex.dist_eq]

end Slanted

/-- Lines that are known to be parallel, by a constraint that is solved for, are parallel where it
is met, as they are where they are drawn. -/
theorem left_out_implied_slanted :
    infer .standard Slanted.entities [Slanted.constraint 0 true] 1 = [] ∧
      ∃ layout start l m, Layout.ofEntities Slanted.entities = .ok layout ∧
        layout.flatten Slanted.entities = .ok start ∧ layout.line? 0 = some l ∧
        layout.line? 1 = some m ∧
        (l.edge (.ofArray start)).line ∥ (m.edge (.ofArray start)).line := by
  refine ⟨Slanted.inferred_of_known 0 true 1, ?_⟩
  obtain ⟨layout, start, laid, written, implied⟩ :=
    left_out_implied Slanted.distinct_entities Slanted.angle_small
  obtain ⟨-, rfl⟩ := Layout.ofEntities_eq_ok.1 laid
  cases (Layout.flatten_tiling Slanted.distinct_entities).symm.trans written
  obtain ⟨l, m, here, there, related⟩ := implied [Slanted.constraint 0 true] 1 _ rfl
    (List.forall_mem_singleton.2 ⟨_, Slanted.compile_constraint 0 true _⟩)
    _ List.mem_cons_self _ (List.mem_cons_of_mem _ List.mem_cons_self) Int.zero_ne_one
    _ _ Slanted.runs_first Slanted.runs_second
  obtain ⟨l', here', long, -⟩ :=
    Slanted.runs_first.exists_site Slanted.distinct_entities List.mem_cons_self
  obtain ⟨m', there', long', -⟩ := Slanted.runs_second.exists_site Slanted.distinct_entities
    (List.mem_cons_of_mem _ List.mem_cons_self)
  cases here.symm.trans here'
  cases there.symm.trans there'
  rw [Slanted.inferred_of_known] at related
  refine ⟨_, _, l, m, laid, written, here, there, ?_⟩
  exact (related _ long long' (Slanted.allMet 0 true)).1 Slanted.near
    (backed_of_driving (List.forall_mem_singleton.2 rfl) _ _ _ _ _)

/-- **A constraint that is only measured hides a relation without enforcing it.**  Two lines are
drawn parallel, and a constraint that is not solved for says so.  Nothing is inferred, and all that
is solved for is met also where the lines are perpendicular. -/
theorem left_out_not_implied_of_reference :
    (Slanted.entities.map Entity.id).Nodup ∧ (Limits.standard : Limits ℝ).angle ≤ 1 / 2 ∧
      ∃ layout start, Layout.ofEntities Slanted.entities = .ok layout ∧
        layout.flatten Slanted.entities = .ok start ∧
        (∃ b, Block.compile Slanted.entities layout (.ofArray start)
          (Slanted.constraint 0 false) = .ok b) ∧
        infer .standard Slanted.entities [Slanted.constraint 0 false] 1 = [] ∧
        ∃ e ∈ Slanted.entities, ∃ f ∈ Slanted.entities, ∃ u v, e.id ≠ f.id ∧ e.Runs u ∧ f.Runs v ∧
          |cross u v| < (Limits.standard : Limits ℝ).angle ∧
          ∃ l m p, layout.line? e.id = some l ∧ layout.line? f.id = some m ∧
            Tolerance.geometry < l.length p ∧ Tolerance.geometry < m.length p ∧
            AllMet Slanted.entities layout (.ofArray start) [Slanted.constraint 0 false] p ∧
            ¬(l.edge p).line ∥ (m.edge p).line := by
  have distinct := Slanted.distinct_entities
  have short : (Tolerance.geometry : ℝ) < 1 := by norm_num [Tolerance.geometry]
  obtain ⟨first, second⟩ := Slanted.edge_turned
  obtain ⟨long, long'⟩ := Slanted.length_turned
  refine ⟨distinct, Slanted.angle_small, _, _, Layout.ofEntities_eq_ok.2 ⟨distinct, rfl⟩,
    Layout.flatten_tiling distinct, ⟨_, Slanted.compile_constraint 0 false _⟩,
    Slanted.inferred_of_known 0 false 1, _, List.mem_cons_self, _,
    List.mem_cons_of_mem _ List.mem_cons_self, _, _, Int.zero_ne_one, Slanted.runs_first,
    Slanted.runs_second, Slanted.near, ⟨0, 0⟩, ⟨1, 4⟩, Slanted.turned, rfl, rfl, ?_, ?_, ?_, ?_⟩
  · rwa [LineSite.length_eq_edge, first, long]
  · rwa [LineSite.length_eq_edge, second, long']
  · intro c among driving
    cases List.mem_singleton.1 among
    cases driving
  · have positive : 0 < Edge.length ⟨0, 1⟩ := long ▸ one_pos
    have positive' : 0 < Edge.length ⟨0, I⟩ := long' ▸ one_pos
    rw [first, second, Edge.parallel_iff positive positive']
    simp [cross, Edge.direction]

end PlanarSketch
