import PlanarSketch.Proofs.Relation.Entries
import PlanarSketch.Relation.Slope

/-!
# Renaming positions

Where the parameters of an entity stand in the long vector is a matter of layout.  A renaming of
positions that keeps the parameters of each entity together carries a relation to one between the
same sites at other places (`Relation.rename`).  The renamed relation reads at a valuation what
the relation reads at the valuation before the renaming: its residual is the same
(`Relation.residual_rename`), and its gradients are the same with their positions renamed
(`Relation.gradients?_rename`).
-/

namespace PlanarSketch

set_option autoImplicit false

/-- A renaming keeps some positions from a first one on together. -/
def Follows (f : ℕ → ℕ) (base count : ℕ) : Prop := ∀ k < count, f (base + k) = f base + k

variable {α : Type} {f : ℕ → ℕ}

/-! ## Gradients -/

namespace Gradient

/-- A gradient with its positions renamed. -/
def rename (f : ℕ → ℕ) (g : Gradient α) : Gradient α := g.map fun e => (f e.1, e.2)

@[simp] theorem rename_nil : rename f ([] : Gradient α) = [] := rfl

@[simp] theorem rename_cons (i : ℕ) (v : α) (g : Gradient α) :
    rename f ((i, v) :: g) = (f i, v) :: rename f g := rfl

theorem rename_put (injective : Function.Injective f) (i : ℕ) (v : α) (g : Gradient α) :
    rename f (put i v g) = put (f i) v (rename f g) := by
  induction g with
  | nil => rfl
  | cons e rest ih =>
      obtain ⟨j, w⟩ := e
      change rename f (if j = i then (i, v) :: rest else (j, w) :: put i v rest) =
        if f j = f i then (f i, v) :: rename f rest else (f j, w) :: put (f i) v (rename f rest)
      by_cases same : j = i
      · rw [if_pos same, if_pos (congrArg f same)]
        rfl
      · rw [if_neg same, if_neg (injective.ne same), ← ih]
        rfl

theorem rename_ofEntries (injective : Function.Injective f) (entries : List (ℕ × α)) :
    rename f (ofEntries entries) = ofEntries (rename f entries) := by
  have fold (g : Gradient α) : rename f (entries.foldl (fun g e => put e.1 e.2 g) g) =
      (rename f entries).foldl (fun g e => put e.1 e.2 g) (rename f g) := by
    induction entries generalizing g with
    | nil => rfl
    | cons e rest ih =>
        rw [List.foldl_cons, ih, rename_put injective]
        rfl
  exact fold []

variable [Scalar α]

theorem rename_add (injective : Function.Injective f) (i : ℕ) (v : α) (g : Gradient α) :
    rename f (add i v g) = add (f i) v (rename f g) := by
  induction g with
  | nil => rfl
  | cons e rest ih =>
      obtain ⟨j, w⟩ := e
      change rename f (if j = i then (i, w + v) :: rest else (j, w) :: add i v rest) =
        if f j = f i then (f i, w + v) :: rename f rest else (f j, w) :: add (f i) v (rename f rest)
      by_cases same : j = i
      · rw [if_pos same, if_pos (congrArg f same)]
        rfl
      · rw [if_neg same, if_neg (injective.ne same), ← ih]
        rfl

theorem rename_addScaled (injective : Function.Injective f) (c : α) (g sum : Gradient α) :
    rename f (addScaled c g sum) = addScaled c (rename f g) (rename f sum) := by
  have fold (sum : Gradient α) : rename f (g.foldl (fun acc e => add e.1 (c * e.2) acc) sum) =
      (rename f g).foldl (fun acc e => add e.1 (c * e.2) acc) (rename f sum) := by
    induction g generalizing sum with
    | nil => rfl
    | cons e rest ih =>
        rw [List.foldl_cons, ih, rename_add injective]
        rfl
  unfold addScaled
  split
  · rfl
  · exact fold sum

/-- **Combining gradients and renaming positions commute.** -/
theorem rename_combine (injective : Function.Injective f) (terms : List (α × Gradient α)) :
    rename f (combine terms) = combine (terms.map fun t => (t.1, rename f t.2)) := by
  have fold (sum : Gradient α) :
      rename f (terms.foldl (fun acc t => addScaled t.1 t.2 acc) sum) =
        (terms.map fun t => (t.1, rename f t.2)).foldl (fun acc t => addScaled t.1 t.2 acc)
          (rename f sum) := by
    induction terms generalizing sum with
    | nil => rfl
    | cons t rest ih =>
        rw [List.foldl_cons, ih, rename_addScaled injective]
        rfl
  exact fold []

/-- What stood at a position stands at its new name. -/
theorem entry_rename (injective : Function.Injective f) (g : Gradient α) (i : ℕ) :
    (rename f g).entry (f i) = g.entry i := by
  unfold entry
  congr 1
  induction g with
  | nil => rfl
  | cons e rest ih =>
      obtain ⟨j, w⟩ := e
      change List.lookup (f i) ((f j, w) :: rename f rest) = _
      rw [List.lookup_cons, List.lookup_cons, ih]
      by_cases here : i = j
      · simp [here]
      · rw [beq_false_of_ne here, beq_false_of_ne fun same => here (injective same)]

end Gradient

/-! ## Sites -/

/-- A point at another place. -/
def PointSite.rename (f : ℕ → ℕ) (a : PointSite) : PointSite := { a with base := f a.base }

/-- A line at another place. -/
def LineSite.rename (f : ℕ → ℕ) (l : LineSite) : LineSite := { l with base := f l.base }

/-- A curve at another place. -/
def CurveSite.rename (f : ℕ → ℕ) (c : CurveSite) : CurveSite := { c with base := f c.base }

/-- A renaming keeps the parameters of the entity of a point together. -/
def PointSite.Follows (f : ℕ → ℕ) (a : PointSite) : Prop :=
  PlanarSketch.Follows f a.base a.kind.paramCount

/-- A renaming keeps the ends of a line together. -/
def LineSite.Follows (f : ℕ → ℕ) (l : LineSite) : Prop :=
  f (l.base + 1) = f l.base + 1 ∧ f (l.base + 2) = f l.base + 2 ∧ f (l.base + 3) = f l.base + 3

/-- A renaming keeps the center and the radius of a curve together. -/
def CurveSite.Follows (f : ℕ → ℕ) (c : CurveSite) : Prop :=
  f (c.base + 1) = f c.base + 1 ∧ f (c.base + 2) = f c.base + 2

theorem LineSite.follows_of_four {l : LineSite} (together : PlanarSketch.Follows f l.base 4) :
    l.Follows f :=
  ⟨together 1 (by decide), together 2 (by decide), together 3 (by decide)⟩

theorem CurveSite.follows_of_three {c : CurveSite} (together : PlanarSketch.Follows f c.base 3) :
    c.Follows f :=
  ⟨together 1 (by decide), together 2 (by decide)⟩

variable [Scalar α] {p : Valuation α}

namespace PointSite

variable {a : PointSite}

theorem angleIndex?_rename (follows : a.Follows f) :
    (a.rename f).angleIndex? = a.angleIndex?.map f := by
  obtain ⟨entity, base, kind, anchor⟩ := a
  have together (k : ℕ) (inside : k < kind.paramCount) : f (base + k) = f base + k :=
    follows k inside
  cases kind with
  | arc =>
      cases anchor with
      | start => exact congrArg some (together 3 (by decide)).symm
      | stop => exact congrArg some (together 4 (by decide)).symm
      | own | center => rfl
  | point | line | circle => rfl

theorem coordinateIndex_rename (follows : a.Follows f) :
    (a.rename f).coordinateIndex = f a.coordinateIndex := by
  obtain ⟨entity, base, kind, anchor⟩ := a
  have together (k : ℕ) (inside : k < kind.paramCount) : f (base + k) = f base + k :=
    follows k inside
  cases kind with
  | line =>
      cases anchor with
      | stop => exact (together 2 (by decide)).symm
      | start | own | center => rfl
  | point | arc | circle => rfl

theorem coordinateIndex_succ (follows : a.Follows f) :
    f (a.coordinateIndex + 1) = f a.coordinateIndex + 1 := by
  obtain ⟨entity, base, kind, anchor⟩ := a
  have together (k : ℕ) (inside : k < kind.paramCount) : f (base + k) = f base + k :=
    follows k inside
  cases kind with
  | line =>
      cases anchor with
      | stop =>
          exact (together 3 (by decide)).trans (congrArg (· + 1) (together 2 (by decide)).symm)
      | start | own | center => exact together 1 (by decide)
  | point | arc | circle => exact together 1 (by decide)

theorem kind_of_angleIndex? {i : ℕ} (angle : a.angleIndex? = some i) : a.kind = .arc := by
  unfold angleIndex? at angle
  split at angle
  · assumption
  · assumption
  · cases angle

theorem xy_rename (follows : a.Follows f) : (a.rename f).xy p = a.xy (p ∘ f) := by
  unfold xy
  rw [angleIndex?_rename follows, coordinateIndex_rename follows]
  cases angle : a.angleIndex? with
  | none => simp only [Option.map_none, Function.comp_apply, coordinateIndex_succ follows]
  | some i =>
      have count : a.kind.paramCount = 5 := by rw [kind_of_angleIndex? angle]; rfl
      have first := follows 1 (by rw [count]; decide)
      have second := follows 2 (by rw [count]; decide)
      simp only [Option.map_some, Function.comp_apply, first, second, rename]

theorem gradients_rename (follows : a.Follows f) :
    (a.rename f).gradients p =
      ((a.gradients (p ∘ f)).1.rename f, (a.gradients (p ∘ f)).2.rename f) := by
  unfold gradients xyGradients
  rw [angleIndex?_rename follows, coordinateIndex_rename follows]
  cases angle : a.angleIndex? with
  | none => simp [coordinateIndex_succ follows]
  | some i =>
      have count : a.kind.paramCount = 5 := by rw [kind_of_angleIndex? angle]; rfl
      have first := follows 1 (by rw [count]; decide)
      have second := follows 2 (by rw [count]; decide)
      simp [first, second, rename]

end PointSite

namespace LineSite

variable {l m : LineSite}

theorem direction_rename (follows : l.Follows f) :
    (l.rename f).direction p = l.direction (p ∘ f) := by
  obtain ⟨y, x', y'⟩ := follows
  simp only [direction, rename, Function.comp_apply, y, x', y']

theorem length_rename (follows : l.Follows f) : (l.rename f).length p = l.length (p ∘ f) := by
  rw [length, length, direction_rename follows]

theorem signedDistance?_rename (follows : l.Follows f) (xy : α × α) :
    (l.rename f).signedDistance? p xy = l.signedDistance? (p ∘ f) xy := by
  unfold signedDistance?
  rw [direction_rename follows]
  simp only [rename, Function.comp_apply, follows.1]

theorem pairOf_rename (first : l.Follows f) (second : m.Follows f) :
    LinePair.of (l.rename f) (m.rename f) p = LinePair.of l m (p ∘ f) := by
  rw [LinePair.of, LinePair.of, direction_rename first, direction_rename second]

theorem gradients_rename (follows : l.Follows f) :
    ((l.rename f).gradients : Gradient α × Gradient α) =
      ((l.gradients : Gradient α × Gradient α).1.rename f,
        (l.gradients : Gradient α × Gradient α).2.rename f) := by
  obtain ⟨y, x', y'⟩ := follows
  simp [gradients, rename, y, x', y']

theorem pairGradient_rename (injective : Function.Injective f) (first : l.Follows f)
    (second : m.Follows f) (dax day dbx dby : α) :
    (l.rename f).pairGradient (m.rename f) dax day dbx dby =
      (l.pairGradient m dax day dbx dby).rename f := by
  unfold pairGradient
  rw [gradients_rename (α := α) first, gradients_rename (α := α) second]
  dsimp only
  rw [Gradient.rename_combine injective]
  rfl

end LineSite

/-! ## Relations -/

namespace Relation

/-- The same relation between sites at other places. -/
def rename (f : ℕ → ℕ) : Relation α → Relation α
  | coincident a b => coincident (a.rename f) (b.rename f)
  | level a b => level (a.rename f) (b.rename f)
  | plumb a b => plumb (a.rename f) (b.rename f)
  | rightOf a b target => rightOf (a.rename f) (b.rename f) target
  | above a b target => above (a.rename f) (b.rename f) target
  | apart a b target => apart (a.rename f) (b.rename f) target
  | offLine a l side target => offLine (a.rename f) (l.rename f) side target
  | parallel l m => parallel (l.rename f) (m.rename f)
  | perpendicular l m => perpendicular (l.rename f) (m.rename f)
  | angle l m target => angle (l.rename f) (m.rename f) target
  | collinear l m => collinear (l.rename f) (m.rename f)
  | sameLength l m => sameLength (l.rename f) (m.rename f)
  | sameRadius c d => sameRadius (c.rename f) (d.rename f)
  | length l target => length (l.rename f) target
  | radius c target => radius (c.rename f) target
  | diameter c target => diameter (c.rename f) target
  | concentric c d => concentric (c.rename f) (d.rename f)
  | midpoint a l => midpoint (a.rename f) (l.rename f)
  | onLine a l => onLine (a.rename f) (l.rename f)
  | mirror a b l => mirror (a.rename f) (b.rename f) (l.rename f)
  | tangentLine l c side => tangentLine (l.rename f) (c.rename f) side
  | tangentOuter c d => tangentOuter (c.rename f) (d.rename f)
  | tangentInner c d larger => tangentInner (c.rename f) (d.rename f) larger

/-- A renaming keeps the parameters of every site of a relation together. -/
structure Follows (f : ℕ → ℕ) (r : Relation α) : Prop where
  points : ∀ a ∈ r.points, a.Follows f
  lines : ∀ l ∈ r.lines, l.Follows f
  curves : ∀ c ∈ r.curves, c.Follows f

variable {r : Relation α}

omit [Scalar α] in
theorem rows_rename (f : ℕ → ℕ) (r : Relation α) : (r.rename f).rows = r.rows := by
  cases r with
  | _ => rfl

omit [Scalar α] in
theorem analytic_rename (f : ℕ → ℕ) (r : Relation α) : (r.rename f).analytic = r.analytic := by
  cases r with
  | _ => rfl

/-- **A renamed relation has the residual that the relation has before the renaming.** -/
theorem residual_rename (follows : r.Follows f) :
    (r.rename f).residual p = r.residual (p ∘ f) := by
  obtain ⟨points, lines, curves⟩ := follows
  -- A residual reads nothing but coordinates of its sites; only which sites differs by case.
  cases r with
  | coincident a b | level a b | plumb a b | rightOf a b | above a b | apart a b =>
      simp only [Relation.points, List.forall_mem_cons] at points
      simp only [rename, residual, PointSite.xy_rename points.1, PointSite.xy_rename points.2.1]
  | offLine a l | onLine a l =>
      have point := points a List.mem_cons_self
      have line := lines l List.mem_cons_self
      simp only [rename, residual, PointSite.xy_rename point, LineSite.signedDistance?_rename line]
  | midpoint a l =>
      have point := points a List.mem_cons_self
      obtain ⟨y, x', y'⟩ := lines l List.mem_cons_self
      simp only [rename, residual, PointSite.xy_rename point, LineSite.rename, Function.comp_apply,
        y, x', y']
  | mirror a b l =>
      have first := points a List.mem_cons_self
      have second := points b (List.mem_cons_of_mem a List.mem_cons_self)
      have line := lines l List.mem_cons_self
      simp only [rename, residual, PointSite.xy_rename first, PointSite.xy_rename second,
        LineSite.signedDistance?_rename line, LineSite.direction_rename line]
  | parallel l m | perpendicular l m | angle l m | sameLength l m =>
      have first := lines l List.mem_cons_self
      have second := lines m (List.mem_cons_of_mem l List.mem_cons_self)
      simp only [rename, residual, LineSite.pairOf_rename first second]
  | length l =>
      simp only [rename, residual, LineSite.length_rename (lines l List.mem_cons_self)]
  | collinear l m =>
      have first := lines l List.mem_cons_self
      obtain ⟨y, x', y'⟩ := lines m (List.mem_cons_of_mem l List.mem_cons_self)
      simp only [rename, residual, LineSite.direction_rename first]
      simp only [LineSite.rename, Function.comp_apply, Nat.add_assoc, first.1, y, x', y']
  | tangentLine l c =>
      have line := lines l List.mem_cons_self
      obtain ⟨y, r⟩ := curves c List.mem_cons_self
      simp only [rename, residual, LineSite.signedDistance?_rename line, CurveSite.center,
        CurveSite.radius, CurveSite.radiusIndex, CurveSite.rename, Function.comp_apply, y, r]
  | sameRadius c d | radius c | diameter c | concentric c d | tangentOuter c d
  | tangentInner c d =>
      simp only [Relation.curves, List.forall_mem_cons, CurveSite.Follows] at curves
      simp only [rename, residual, CurveSite.radius, CurveSite.radiusIndex,
        CurveSite.centerDistance, CurveSite.rename, Function.comp_apply, curves]

theorem residualRows_rename (follows : r.Follows f) :
    (r.rename f).residualRows p = r.residualRows (p ∘ f) := by
  rw [residualRows, residualRows, residual_rename follows, rows_rename]

/-- **A renamed relation has the gradients of the relation, with their positions renamed.** -/
theorem gradients?_rename (injective : Function.Injective f) (follows : r.Follows f) :
    (r.rename f).gradients? p =
      (r.gradients? (p ∘ f)).map fun gs => gs.map (Gradient.rename f) := by
  obtain ⟨points, lines, curves⟩ := follows
  cases r with
  | coincident a b | level a b | plumb a b | rightOf a b | above a b =>
      simp only [Relation.points, List.forall_mem_cons] at points
      simp [rename, gradients?, difference, PointSite.gradients_rename points.1,
        PointSite.gradients_rename points.2.1, Gradient.rename_combine injective]
  | apart a b =>
      simp only [Relation.points, List.forall_mem_cons] at points
      simp only [rename, gradients?, PointSite.xyGradients_eq, PointSite.gradients_rename points.1,
        PointSite.gradients_rename points.2.1, PointSite.xy_rename points.1,
        PointSite.xy_rename points.2.1]
      split
      · rfl
      · simp [Gradient.rename_combine injective]
  | midpoint a l =>
      have point := points a List.mem_cons_self
      obtain ⟨y, x', y'⟩ := lines l List.mem_cons_self
      simp [rename, gradients?, PointSite.gradients_rename point,
        Gradient.rename_combine injective, LineSite.rename, y, x', y']
  | parallel l m | perpendicular l m | angle l m | sameLength l m =>
      have first := lines l List.mem_cons_self
      have second := lines m (List.mem_cons_of_mem l List.mem_cons_self)
      simp only [rename, gradients?, LineSite.pairOf_rename first second,
        LineSite.pairGradient_rename injective first second]
      split
      · rfl
      · rfl
  | length l =>
      have line := lines l List.mem_cons_self
      simp only [rename, gradients?, LineSite.direction_rename line,
        LineSite.gradients_rename line]
      split
      · rfl
      · simp [Gradient.rename_combine injective]
  | sameRadius c d | concentric c d | radius c | diameter c =>
      simp only [Relation.curves, List.forall_mem_cons, CurveSite.Follows] at curves
      simp [rename, gradients?, Gradient.rename_ofEntries injective, CurveSite.radiusIndex,
        CurveSite.rename, curves]
  | offLine | collinear | onLine | mirror | tangentLine | tangentOuter | tangentInner => rfl

end Relation

end PlanarSketch
