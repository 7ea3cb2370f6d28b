import Mathlib.Analysis.Real.Pi.Bounds
import PlanarSketch.Proofs.Inference.Suggestions
import PlanarSketch.Proofs.Sketch.Resumption
import PlanarSketch.Proofs.Solve.Acceptance

/-!
# Which suggestions can be bound

Lines are looked at before anything is suggested of them: a degenerate one has no direction.
The ends of arcs are taken as they are.  Binding relies on both, so what it can refuse is a
coincidence with the end of a degenerate arc: one that has shrunk to a point, whose ends have
met, or whose sweep is beyond all numbers.

Each mention of a suggestion fits the role that it is meant for, and is relied on where it is an
arc (`Inference.Suggestion.From.proposed`).  A constraint that is inferred is therefore bound if
and only if no arc that it names is degenerate, and otherwise it is refused for such an arc
(`inferred_bound_iff`).
-/

namespace PlanarSketch

set_option autoImplicit false

open Outcome Inference

variable {α : Type} [Scalar α] {entities : List (Entity α)}

/-- Whether an entity is no degenerate arc. -/
def Entity.SoundArc (e : Entity α) : Prop :=
  e.kind = .arc → e.degeneracy? Tolerance.geometry = none

namespace Constraint

variable {c : Constraint α}

/-- Whether no arc that a constraint names is degenerate. -/
def OnSoundArcs (entities : List (Entity α)) (c : Constraint α) : Prop :=
  ∀ e ∈ entities, e.id ∈ c.entityIds → e.SoundArc

/-- Whether a fault is that an arc which a constraint names is degenerate. -/
def RefusedForArc (entities : List (Entity α)) (c : Constraint α) (fault : Fault α) : Prop :=
  ∃ e ∈ entities, e.id ∈ c.entityIds ∧ e.kind = .arc ∧
    ∃ reason, e.degeneracy? Tolerance.geometry = some reason ∧ fault = c.refusal e.id reason

theorem mentions_single (distinct : (entities.map Entity.id).Nodup) {e : Entity α}
    (present : e ∈ entities) (ids : c.entityIds = [e.id]) :
    c.mentions entities = [⟨e, c.selector 0⟩] := by
  simp [mentions, ids, find?_of_nodup distinct present]

theorem mentions_pair (distinct : (entities.map Entity.id).Nodup) {e f : Entity α}
    (first : e ∈ entities) (second : f ∈ entities) (ids : c.entityIds = [e.id, f.id]) :
    c.mentions entities = [⟨e, c.selector 0⟩, ⟨f, c.selector 1⟩] := by
  simp [mentions, ids, find?_of_nodup distinct first, find?_of_nodup distinct second]

/-- The entities that are mentioned are those that the constraint names. -/
theorem exists_mention_iff (distinct : (entities.map Entity.id).Nodup) {e : Entity α} :
    (∃ m ∈ c.mentions entities, m.entity = e) ↔ e ∈ entities ∧ e.id ∈ c.entityIds := by
  unfold mentions
  simp only [List.mem_filterMap, Option.map_eq_some_iff, Prod.exists]
  constructor
  · rintro ⟨_, ⟨id, slot, listed, f, found, rfl⟩, rfl⟩
    have same : f.id = id := by simpa using List.find?_some found
    exact ⟨List.mem_of_find?_eq_some found, same ▸ List.fst_mem_of_mem_zipIdx listed⟩
  · rintro ⟨present, named⟩
    obtain ⟨slot, inside, here⟩ := List.mem_iff_getElem.1 named
    refine ⟨_, ⟨e.id, slot, ?_, e, find?_of_nodup distinct present, rfl⟩, rfl⟩
    exact List.mk_mem_zipIdx_iff_getElem?.2 (List.getElem?_eq_some_iff.2 ⟨inside, here⟩)

theorem onSoundArcs_iff (distinct : (entities.map Entity.id).Nodup) :
    c.OnSoundArcs entities ↔ ∀ m ∈ c.mentions entities, m.entity.SoundArc := by
  constructor
  · intro sound m among
    obtain ⟨present, named⟩ := (exists_mention_iff distinct).1 ⟨m, among, rfl⟩
    exact sound m.entity present named
  · intro sound e present named
    obtain ⟨m, among, rfl⟩ := (exists_mention_iff distinct).2 ⟨present, named⟩
    exact sound m among

end Constraint

/-! ## What is proposed for a role -/

/-- How a suggestion fills a role: by something that fits, which the kind relies on if it is an arc,
and which is not degenerate if it is anything else that the kind relies on. -/
structure Mention.Proposed (kind : ConstraintKind) (m : Mention α) (role : SlotRole) : Prop where
  fills : m.entity.kind.Fills m.selector role
  arc : m.entity.kind = .arc → kind.Relies m.entity.kind m.selector role
  other : m.entity.kind ≠ .arc → kind.Relies m.entity.kind m.selector role →
    m.entity.degeneracy? Tolerance.geometry = none

theorem Mention.Proposed.suits_iff {kind : ConstraintKind} {m : Mention α} {role : SlotRole}
    (proposed : m.Proposed kind role) : m.Suits kind role ↔ m.entity.SoundArc := by
  constructor
  · exact fun suits arc => suits.2 (proposed.arc arc)
  · intro sound
    refine ⟨proposed.fills, fun relied => ?_⟩
    by_cases arc : m.entity.kind = .arc
    · exact sound arc
    · exact proposed.other arc relied

namespace Inference

/-- A line that runs in some direction is proposed as a line. -/
theorem proposed_of_ray {kind : ConstraintKind} {e : Entity α} {r : Ray α}
    (seen : ray? e = some r) : (⟨e, ""⟩ : Mention α).Proposed kind .line := by
  obtain ⟨line, sound⟩ := line_of_ray seen
  exact ⟨⟨line, rfl⟩, fun arc => absurd (line.symm.trans arc) (by decide), fun _ _ => sound⟩

/-- A point of an entity is proposed as a point; on an arc it is one of the ends. -/
theorem proposed_of_snapPoint {kind : ConstraintKind} {e : Entity α} {p : SnapPoint α}
    (among : p ∈ snapPoints e) : (⟨e, p.selector⟩ : Mention α).Proposed kind .point := by
  obtain ⟨a, anchor, found⟩ := List.mem_filterMap.1 among
  obtain ⟨xy, -, rfl⟩ := Option.map_eq_some_iff.1 found
  change (⟨e, a.name⟩ : Mention α).Proposed kind .point
  constructor
  · change a.name ∈ e.kind.pointNames
    cases kind : e.kind with
    | circle => simp [kind] at anchor
    | _ =>
        simp only [kind, List.mem_cons, List.not_mem_nil, or_false] at anchor
        rcases anchor with rfl | rfl <;> decide
  · intro arc
    simp only [arc, List.mem_cons, List.not_mem_nil, or_false] at anchor
    refine ⟨arc, ?_⟩
    rcases anchor with rfl | rfl
    · exact .inl rfl
    · exact .inr rfl
  · exact fun other relied => absurd relied.1 other

variable {limits : Limits α} {s : Suggestion}

/-- **Every mention of a suggestion fits its role**, in one of the usages of its kind. -/
theorem Suggestion.From.proposed (origin : s.From entities)
    (distinct : (entities.map Entity.id).Nodup) (n : Int) :
    ∃ u ∈ s.kind.usages, List.Forall₂ (Mention.Proposed s.kind)
      ((s.constraint n : Constraint α).mentions entities) u.roles := by
  cases origin with
  | aligned present seen level =>
      rw [Constraint.mentions_single distinct present rfl]
      rcases level with rfl | rfl
      all_goals exact ⟨⟨[.line], ["pp"]⟩, List.mem_cons_self, .cons (proposed_of_ray seen) .nil⟩
  | paired first second seen watched related =>
      rw [Constraint.mentions_pair distinct first second rfl]
      rcases related with rfl | rfl
      all_goals exact ⟨⟨[.line, .line], ["ll"]⟩, List.mem_singleton_self _,
        .cons (proposed_of_ray seen) (.cons (proposed_of_ray watched) .nil)⟩
  | touching first second point other =>
      rw [Constraint.mentions_pair distinct first second rfl]
      exact ⟨⟨[.point, .point], ["pp"]⟩, List.mem_singleton_self _,
        .cons (proposed_of_snapPoint point) (.cons (proposed_of_snapPoint other) .nil)⟩

/-- **A suggestion is bound if and only if no arc that it names is degenerate**, and otherwise it is
refused for such an arc. -/
theorem Suggestion.From.compile_iff (origin : s.From entities)
    (distinct : (entities.map Entity.id).Nodup) (n : Int) (p : Valuation α) :
    ((∃ b, Block.compile entities (Layout.tiling entities) p (s.constraint n) = .ok b) ↔
      (s.constraint n : Constraint α).OnSoundArcs entities) ∧
    ∀ fault, Block.compile entities (Layout.tiling entities) p (s.constraint n) = .error fault →
      (s.constraint n).RefusedForArc entities fault := by
  obtain ⟨u, listed, proposed⟩ := origin.proposed distinct n
  have checked := origin.sound.check (α := α) n
  have known := origin.sound.known
  have fills := proposed.imp fun _ _ => Mention.Proposed.fills
  constructor
  · rw [Block.exists_compile_iff_suits distinct checked known listed fills,
      Constraint.onSoundArcs_iff distinct]
    constructor
    · intro suits
      have both := proposed.mp (fun _ _ fit suit => And.intro (fit.suits_iff.1 suit) fit) suits
      exact ((List.forall₂_and_left (p := fun m : Mention α => m.entity.SoundArc) _ _).1 both).1
    · intro sound
      exact ((List.forall₂_and_left _ _).2 ⟨sound, proposed⟩).imp
        fun _ _ both => both.2.suits_iff.2 both.1
  · intro fault refused
    by_contra spared
    refine Block.not_forall₂_of_refused distinct checked known listed fills refused ?_
    refine ((List.forall₂_and_left _ _).2 ⟨fun m among => among, proposed⟩).imp ?_
    rintro m role ⟨among, fit⟩ relied failed
    obtain ⟨present, named⟩ := (Constraint.exists_mention_iff distinct).1 ⟨m, among, rfl⟩
    obtain ⟨e, there, same, reason, degenerate, cause⟩ := Block.checkShape_eq_error failed
    have same : e = m.entity := List.inj_on_of_nodup_map distinct there present same
    subst same
    by_cases arc : m.entity.kind = .arc
    · exact spared ⟨m.entity, present, named, arc, reason, degenerate, cause⟩
    · rw [fit.other arc relied] at degenerate
      cases degenerate

/-- Whatever the limits and the constraints that are known, what is inferred is bound or refused in
the way of a suggestion. -/
theorem compile_iff_of_infer (distinct : (entities.map Entity.id).Nodup)
    {existing : List (Constraint α)} {next : Int} {c : Constraint α}
    (inferred : c ∈ infer limits entities existing next) (p : Valuation α) :
    ((∃ b, Block.compile entities (Layout.tiling entities) p c = .ok b) ↔
      c.OnSoundArcs entities) ∧
    ∀ fault, Block.compile entities (Layout.tiling entities) p c = .error fault →
      c.RefusedForArc entities fault := by
  obtain ⟨s, among, n, rfl⟩ := mem_accept inferred
  exact (suggestions_from among).compile_iff distinct n p

end Inference

/-! ## Sketches -/

namespace Sketch

variable {s : Sketch α}

/-- The constraints that a sketch infers from its entities besides its own. -/
def inferred (s : Sketch α) : List (Constraint α) :=
  infer .standard s.entities s.constraints s.nextConstraint

theorem entities_inferConstraints : (s.inferConstraints true).sketch.entities = s.entities := by
  unfold inferConstraints
  dsimp only
  split <;> rfl

theorem constraints_inferConstraints :
    (s.inferConstraints true).sketch.constraints = s.constraints ++ s.inferred := by
  unfold inferConstraints
  dsimp only
  split
  · rfl
  · rename_i other
    have none : s.inferred = [] := by
      rw [← List.getLast?_eq_none_iff, Option.eq_none_iff_forall_ne_some]
      exact fun last final => other last rfl final
    rw [none, List.append_nil]

/-- The constraints of a sketch can be bound if a solve answers. -/
theorem exists_prepared {engine : Engine α} {options : Option (Options α)} {solution : Solution α}
    (answered : (s.solve engine options).outcome = .ok solution) :
    ∃ q, Problem.prepare s.entities s.constraints = .ok q := by
  generalize h : s.solve engine options = edit at answered
  cases solveEdit h with
  | faulted => cases answered
  | unwritten => cases answered
  | unsolved solved => exact PlanarSketch.exists_prepared solved
  | written solved => exact PlanarSketch.exists_prepared solved

/-- Where the constraints of a sketch are bound already, those that it infers decide whether all of
them are bound together. -/
theorem mapM_compile_iff_of_infer (distinct : (s.entities.map Entity.id).Nodup) {p : Valuation α}
    {blocks : List (Block α)}
    (bound : s.constraints.mapM (Block.compile s.entities (Layout.tiling s.entities) p) =
      .ok blocks) :
    ((∃ blocks, (s.constraints ++ s.inferred).mapM
        (Block.compile s.entities (Layout.tiling s.entities) p) = .ok blocks) ↔
      ∀ c ∈ s.inferred, c.OnSoundArcs s.entities) ∧
    ∀ fault, (s.constraints ++ s.inferred).mapM
        (Block.compile s.entities (Layout.tiling s.entities) p) = .error fault →
      ∃ c ∈ s.inferred, c.RefusedForArc s.entities fault := by
  constructor
  · constructor
    · rintro ⟨all, compiled⟩ c among
      obtain ⟨b, -, made⟩ := exists_of_mem_source compiled (List.mem_append_right _ among)
      exact (compile_iff_of_infer distinct among p).1.1 ⟨b, made⟩
    · intro sound
      refine exists_mapM fun c among => ?_
      rcases List.mem_append.1 among with old | new
      · obtain ⟨b, -, made⟩ := exists_of_mem_source bound old
        exact ⟨b, made⟩
      · exact (compile_iff_of_infer distinct new p).1.2 (sound c new)
  · intro fault failed
    obtain ⟨c, among, refused⟩ := mapM_eq_error failed
    rcases List.mem_append.1 among with old | new
    · obtain ⟨b, -, made⟩ := exists_of_mem_source bound old
      rw [made] at refused
      cases refused
    · exact ⟨c, new, (compile_iff_of_infer distinct new p).2 fault refused⟩

end Sketch

/-- **What is inferred can be bound, except to the ends of degenerate arcs.**  Let entities have
different identifiers.  Whatever the limits and the constraints that are known already, a
constraint inferred from the entities is bound to them if and only if no arc that it names is
degenerate; if it is refused, the fault is that such an arc is degenerate.

So when a sketch can be solved and takes over what it infers, the constraints that it then has are
bound if and only if no inferred one names a degenerate arc, and nothing else makes the next solve
fail in binding them. -/
theorem inferred_bound_iff :
    (∀ (limits : Limits α) (entities : List (Entity α)) (existing : List (Constraint α))
      (next : Int), (entities.map Entity.id).Nodup →
        ∃ layout start, Layout.ofEntities entities = .ok layout ∧
          layout.flatten entities = .ok start ∧
          ∀ c ∈ infer limits entities existing next,
            ((∃ b, Block.compile entities layout (.ofArray start) c = .ok b) ↔
              c.OnSoundArcs entities) ∧
            ∀ fault, Block.compile entities layout (.ofArray start) c = .error fault →
              c.RefusedForArc entities fault) ∧
    ∀ (s : Sketch α) (engine : Engine α) (options : Option (Options α)) (solution : Solution α),
      (s.solve engine options).outcome = .ok solution →
        ∃ t layout start, (s.inferConstraints true).sketch = t ∧
          Layout.ofEntities t.entities = .ok layout ∧ layout.flatten t.entities = .ok start ∧
          ((∃ blocks, t.constraints.mapM
              (Block.compile t.entities layout (.ofArray start)) = .ok blocks) ↔
            ∀ c ∈ s.inferred, c.OnSoundArcs s.entities) ∧
          ∀ fault, t.constraints.mapM (Block.compile t.entities layout (.ofArray start)) =
              .error fault →
            ∃ c ∈ s.inferred, c.RefusedForArc s.entities fault := by
  constructor
  · intro limits entities existing next distinct
    exact ⟨_, _, Layout.ofEntities_eq_ok.2 ⟨distinct, rfl⟩, Layout.flatten_tiling distinct,
      fun c inferred => compile_iff_of_infer distinct inferred _⟩
  · intro s engine options solution answered
    obtain ⟨q, prepared⟩ := Sketch.exists_prepared answered
    obtain ⟨distinct, -, -, -, bound⟩ := Problem.prepare_eq_ok prepared
    refine ⟨_, Layout.tiling s.entities, flat s.entities, rfl, ?_⟩
    rw [Sketch.entities_inferConstraints, Sketch.constraints_inferConstraints]
    exact ⟨Layout.ofEntities_eq_ok.2 ⟨distinct, rfl⟩, Layout.flatten_tiling distinct,
      Sketch.mapM_compile_iff_of_infer distinct bound⟩

/-! ## A point on a wheel -/

namespace Wheel

/-- An arc around the origin that starts to the right of it. -/
noncomputable def rim (sweep : ℝ) : Entity ℝ := Exact.entity 1 (.arc 0 0 1 0 sweep)

/-- The sketch of such an arc and of a point where it starts. -/
noncomputable def sketch (sweep : ℝ) : Sketch ℝ :=
  ⟨Sketch.standardName, [Exact.entity 0 (.point 1 0), rim sweep], [], .standard, none, 2, 0⟩

/-- The demand that the point is where the arc starts. -/
def touch : Constraint ℝ := ⟨.whole 0, .coincident, [0, 1], none, ["", "start"], .of true⟩

variable {sweep : ℝ}

theorem distinct_sketch : ((sketch sweep).entities.map Entity.id).Nodup := by
  change ([0, 1] : List Int).Nodup
  decide

/-- There is nothing to be solved. -/
theorem exists_solution (engine : Engine ℝ) (sweep : ℝ) :
    ∃ solution, ((sketch sweep).solve engine none).outcome = .ok solution := by
  have prepared : Problem.prepare (sketch sweep).entities [] = .ok ⟨_, _, [], _⟩ :=
    Problem.prepare_of_compiled distinct_sketch List.nodup_nil rfl
  obtain ⟨solution, answered⟩ := solve_answers Exact.standard_check prepared
    (Problem.not_collapsesAtEnd_of_closed (List.forall_mem_nil _) engine Options.standard)
  obtain ⟨solved, written⟩ := Solution.exists_apply (fun x _ => Exact.isFinite x)
    (Problem.reports_of_answered answered prepared).layout
    (Problem.size_params answered prepared) distinct_sketch
  exact ⟨solution, Sketch.solve_outcome_of_written answered written⟩

/-- The point is where the arc starts, which is noticed first. -/
theorem exists_inferred (sweep : ℝ) : ∃ rest, (sketch sweep).inferred = touch :: rest := by
  have points : (sketch sweep).entities.flatMap snapPoints =
      [⟨0, "", 1, 0⟩, ⟨1, "start", 0 + 1 * Scalar.cos 0, 0 + 1 * Scalar.sin 0⟩,
        ⟨1, "end", 0 + 1 * Scalar.cos sweep, 0 + 1 * Scalar.sin sweep⟩] := rfl
  have near : Scalar.hypot (0 + 1 * Scalar.cos 0 - 1) (0 + 1 * Scalar.sin 0 - 0) <
      (Limits.standard : Limits ℝ).distance := by
    change Real.sqrt ((0 + 1 * Real.cos 0 - 1) * (0 + 1 * Real.cos 0 - 1) +
      (0 + 1 * Real.sin 0 - 0) * (0 + 1 * Real.sin 0 - 0)) < (0.1 : ℝ)
    norm_num
  have first : (suggestions Limits.standard (sketch sweep).entities).head? =
      some ⟨.coincident, [0, 1], ["", "start"]⟩ := by
    change (coincidences _ ((sketch sweep).entities.flatMap snapPoints)).head? = _
    rw [points]
    exact head?_coincidences (by decide) near
  obtain ⟨rest, suggested⟩ := List.head?_eq_some_iff.1 first
  unfold Sketch.inferred infer
  rw [suggested]
  exact ⟨_, rfl⟩

theorem touch_inferred (sweep : ℝ) : touch ∈ (sketch sweep).inferred := by
  obtain ⟨rest, inferred⟩ := exists_inferred sweep
  exact inferred ▸ List.mem_cons_self

theorem soundArc_point : (Exact.entity 0 (.point 1 0)).SoundArc := nofun

/-- The arc is degenerate when its sweep is close to a multiple of full turns. -/
theorem degeneracy_rim (sweep : ℝ) : (rim sweep).degeneracy? Tolerance.geometry =
    if |Scalar.remainder sweep Scalar.turn| ≤ Tolerance.geometry then some .closedArc
    else none := by
  have round : ¬(1 : ℝ) ≤ Tolerance.geometry := by norm_num [Tolerance.geometry]
  change (if (1 : ℝ) ≤ Tolerance.geometry then _ else
    if (!Scalar.isFinite (sweep - 0)) = true then _ else
      if |Scalar.remainder (sweep - 0) Scalar.turn| ≤ Tolerance.geometry then _ else _) = _
  rw [if_neg round, if_neg (by simp), sub_zero]

/-- A quarter of a turn has two ends. -/
theorem soundArc_quarter : (rim (Real.pi / 2)).SoundArc := by
  have long := Real.pi_gt_three
  have positive : 0 < Real.pi / 2 := by linarith
  have sweep : Scalar.remainder (Real.pi / 2) (Scalar.turn : ℝ) = Real.pi / 2 := by
    refine Exact.remainder_of_lt ?_
    change |Real.pi / 2| < (Real.pi + Real.pi) / 2
    rw [abs_of_pos positive]
    linarith
  have apart : Tolerance.geometry < Real.pi / 2 := by
    refine lt_trans ?_ (by linarith : (1 : ℝ) < Real.pi / 2)
    norm_num [Tolerance.geometry]
  intro _
  rw [degeneracy_rim, sweep, abs_of_pos positive, if_neg (not_le.2 apart)]

/-- After a full turn the ends have met. -/
theorem degeneracy_turn : (rim Scalar.turn).degeneracy? Tolerance.geometry = some .closedArc := by
  have away : (Scalar.turn : ℝ) ≠ 0 := (add_pos Real.pi_pos Real.pi_pos).ne'
  rw [degeneracy_rim, Exact.remainder_self away, abs_zero, if_pos]
  norm_num [Tolerance.geometry]

/-- The point cannot be tied to an arc that makes a full turn. -/
theorem compile_turn (p : Valuation ℝ) :
    Block.compile (sketch Scalar.turn).entities (Layout.tiling (sketch Scalar.turn).entities) p
      touch = .error (.degenerate .coincident (.whole 0) 1 .closedArc) := by
  obtain ⟨bound, refused⟩ := compile_iff_of_infer distinct_sketch (touch_inferred _) p
  have degenerate := degeneracy_turn
  cases compiled : Block.compile (sketch Scalar.turn).entities
      (Layout.tiling (sketch Scalar.turn).entities) p touch with
  | ok b =>
      have sound := bound.1 ⟨b, compiled⟩ (rim Scalar.turn) (by simp [sketch])
        (by simp [touch, rim, Exact.entity]) rfl
      rw [degenerate] at sound
      cases sound
  | error fault =>
      obtain ⟨e, present, -, arc, reason, why, rfl⟩ := refused fault compiled
      rcases List.mem_pair.1 present with rfl | rfl
      · cases arc
      · cases degenerate.symm.trans why
        rfl

end Wheel

/-- A point can be tied to the start of a quarter of a turn. -/
theorem inferred_bound_iff_quarter :
    Wheel.touch ∈ (Wheel.sketch (Real.pi / 2)).inferred ∧
      (∃ layout start b, Layout.ofEntities (Wheel.sketch (Real.pi / 2)).entities = .ok layout ∧
        layout.flatten (Wheel.sketch (Real.pi / 2)).entities = .ok start ∧
        Block.compile (Wheel.sketch (Real.pi / 2)).entities layout (.ofArray start) Wheel.touch =
          .ok b) ∧
      ∃ t layout start blocks,
        ((Wheel.sketch (Real.pi / 2)).inferConstraints true).sketch = t ∧
        Layout.ofEntities t.entities = .ok layout ∧ layout.flatten t.entities = .ok start ∧
        t.constraints.mapM (Block.compile t.entities layout (.ofArray start)) = .ok blocks := by
  have among := Wheel.touch_inferred (Real.pi / 2)
  have sound (c : Constraint ℝ) : c.OnSoundArcs (Wheel.sketch (Real.pi / 2)).entities := by
    intro e present _
    rcases List.mem_pair.1 present with rfl | rfl
    · exact Wheel.soundArc_point
    · exact Wheel.soundArc_quarter
  obtain ⟨solution, answered⟩ := Wheel.exists_solution Rotation.engine (Real.pi / 2)
  obtain ⟨each, all⟩ := inferred_bound_iff (α := ℝ)
  refine ⟨among, ?_, ?_⟩
  · obtain ⟨layout, start, laid, written, bound⟩ := each .standard _ [] 0 Wheel.distinct_sketch
    obtain ⟨b, compiled⟩ := (bound _ among).1.2 (sound _)
    exact ⟨layout, start, b, laid, written, compiled⟩
  · obtain ⟨t, layout, start, same, laid, written, bound, -⟩ :=
      all _ Rotation.engine none solution answered
    obtain ⟨blocks, compiled⟩ := bound.2 fun c _ => sound c
    exact ⟨t, layout, start, blocks, same, laid, written, compiled⟩

/-- **A point is inferred to be at the start of a full turn, and the sketch cannot be solved any
more**, though it could be before. -/
theorem inferred_refused_full_turn :
    Wheel.touch ∈ (Wheel.sketch Scalar.turn).inferred ∧
      (∃ solution, ((Wheel.sketch Scalar.turn).solve Rotation.engine none).outcome =
        .ok solution) ∧
      (((Wheel.sketch Scalar.turn).inferConstraints true).sketch.solve Rotation.engine
        none).outcome = .error (.degenerate .coincident (.whole 0) 1 .closedArc) := by
  obtain ⟨rest, inferred⟩ := Wheel.exists_inferred Scalar.turn
  refine ⟨Wheel.touch_inferred _, Wheel.exists_solution Rotation.engine _, ?_⟩
  refine Sketch.solve_outcome_of_error ?_
  rw [Sketch.entities_inferConstraints, Sketch.constraints_inferConstraints, solve_outcome]
  have numbered : (((Wheel.sketch Scalar.turn).constraints ++
      (Wheel.sketch Scalar.turn).inferred).map Constraint.id).Nodup :=
    (accept_numbered _ _ _).ascending.imp fun less => Int.ne_of_lt less
  have refused : Problem.prepare (Wheel.sketch Scalar.turn).entities
      ((Wheel.sketch Scalar.turn).constraints ++ (Wheel.sketch Scalar.turn).inferred) =
        .error (.degenerate .coincident (.whole 0) 1 .closedArc) := by
    refine Problem.prepare_of_refused Wheel.distinct_sketch numbered ?_
    rw [inferred]
    change (Wheel.touch :: rest).mapM _ = _
    rw [List.mapM_cons, Wheel.compile_turn]
    rfl
  rw [refused]
  rfl

end PlanarSketch
