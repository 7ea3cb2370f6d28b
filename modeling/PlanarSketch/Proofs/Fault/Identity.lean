import PlanarSketch.Fault
import PlanarSketch.Proofs.Outcome

/-!
# Faults about identity

A fault is about identity when an identifier is given twice or leads nowhere
(`Fault.AboutIdentity`).  An outcome spares identity when it is an answer with some property
or a fault about something else (`Spares`); the rules below carry that through chains of
steps, so that each function is looked at once and on its own.
-/

namespace PlanarSketch

set_option autoImplicit false

open Outcome

variable {α β γ : Type}

/-- Whether a fault is that an identifier is given twice or leads nowhere. -/
def Fault.AboutIdentity : Fault α → Prop
  | duplicateEntity _ | notLaidOut _ | duplicateConstraint _ | missingEntity .. | noEntity ..
  | noConstraint .. | danglingConstraint .. => True
  | _ => False

/-- An answer with a property, or a fault that is not about identity. -/
def Spares (P : β → Prop) : Except (Fault α) β → Prop
  | .ok b => P b
  | .error fault => ¬fault.AboutIdentity

namespace Spares

variable {P Q : β → Prop} {x : Except (Fault α) β}

theorem ok {b : β} (holds : P b) : Spares P (.ok b : Except (Fault α) β) := holds

theorem error {fault : Fault α} (other : ¬fault.AboutIdentity) :
    Spares P (.error fault : Except (Fault α) β) := other

theorem of_eq_ok {b : β} (answered : x = .ok b) (holds : P b) : Spares P x := answered ▸ holds

theorem spared (h : Spares P x) {fault : Fault α} (refusal : x = .error fault) :
    ¬fault.AboutIdentity := by
  rw [refusal] at h
  exact h

theorem answer (h : Spares P x) {b : β} (answered : x = .ok b) : P b := by
  rw [answered] at h
  exact h

theorem mono (h : Spares P x) (weaker : ∀ b, x = .ok b → P b → Q b) : Spares Q x := by
  cases x with
  | ok b => exact weaker b rfl h
  | error fault => exact h

theorem bind {R : γ → Prop} {f : β → Except (Fault α) γ} (first : Spares P x)
    (rest : ∀ b, P b → Spares R (f b)) : Spares R (x >>= f) := by
  cases x with
  | ok b => exact rest b first
  | error fault => exact first

theorem mapM {f : β → Except (Fault α) γ} {xs : List β}
    (each : ∀ b ∈ xs, Spares (fun _ => True) (f b)) : Spares (fun _ => True) (xs.mapM f) := by
  cases outcome : xs.mapM f with
  | ok _ => trivial
  | error fault =>
      obtain ⟨b, among, failure⟩ := mapM_eq_error outcome
      exact (each b among).spared failure

theorem forM {f : β → Except (Fault α) Unit} {xs : List β}
    (each : ∀ b ∈ xs, Spares (fun _ => True) (f b)) : Spares (fun _ => True) (xs.forM f) := by
  cases outcome : xs.forM f with
  | ok _ => trivial
  | error fault =>
      obtain ⟨b, among, failure⟩ := forM_eq_error outcome
      exact (each b among).spared failure

end Spares

end PlanarSketch
