import PlanarSketch.Proofs.Double.Zeros
import PlanarSketch.Proofs.Solve.Termination
import PlanarSketch.Proofs.Solve.Unmoved

/-!
# Bystanders over doubles

Multiples of zero do not add nothing to a double: a zero may change its sign, and a multiple that
is not finite leaves no number at all.  So the parameters of entities that no driving constraint
names can change when a solve runs over doubles, but they compare as equal to what they were
(`bystanders_equal`).  A step is taken in finite fractions only, since damping does not make them
any larger (`Options.isFinite_damped`), and the step of an engine that combines rows is made of
finite multiples.
-/

namespace PlanarSketch

set_option autoImplicit false

/-- The fractions that checked options lead to are finite. -/
theorem Options.isFinite_damped {o : Options Float} (checked : o.check = .ok ()) (k : ℕ) :
    Double.isFinite (o.damped 1 k) = true :=
  Double.isFinite_of_rank_lt ((nearest_damped checked k).1.trans_lt (by decide))

/-- **Over doubles, entities that no driving constraint names stay where they are.**  Let the
options have passed their tests, and let the steps of the engine be combinations of rows with finite
multiples.  Then a solve that answers, successful or not, has parameters for every such entity, and
they compare as equal to the initial ones. -/
theorem bystanders_equal {engine : Engine Float}
    (combining : engine.Combines fun x => Double.isFinite x = true) {o : Options Float}
    (checked : o.check = .ok ()) {entities : List (Entity Float)}
    {constraints : List (Constraint Float)} {s : Solution Float}
    (answered : (solve engine o entities constraints).outcome = .ok s) :
    ∀ e ∈ entities, (∀ c ∈ constraints, c.isDriving = true → e.id ∉ c.entityIds) →
      ∃ params, s.paramsOf e.id = .ok params ∧
        List.Forall₂ (fun after before => (after == before) = true) params e.params := by
  intro e among unreferenced
  obtain ⟨params, found, same⟩ := exists_paramsOf_of_unreferenced Double.absorbs combining
    (Options.isFinite_damped checked) answered among unreferenced
  have finite : ∀ x ∈ e.params, Scalar.isFinite x = true := List.all_eq_true.1 e.finite
  refine ⟨params, found, ?_⟩
  have numbers := (List.forall₂_and_left e.params params).2 ⟨finite, same.flip⟩
  refine (numbers.imp fun before after entry => ?_).flip
  obtain ⟨sound, near⟩ := entry
  exact Double.Same.beq near (Double.ne_nan_of_isFinite sound)

/-- Going down the gradient combines the rows with the entries of the right-hand side. -/
example : Engine.Combines (⟨fun J b width _ => descentGradient J b width, fun _ _ => []⟩ :
    Engine Float) fun x => Double.isFinite x = true :=
  fun _ b _ _ _ size _ finite => ⟨b, size, finite, rfl⟩

end PlanarSketch
