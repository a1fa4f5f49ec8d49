/-
# Evaluating with components that do not change

Components may change when they are looked up.  Where they do not, evaluating a key leaves them as
they were, so that it makes no difference which keys were evaluated before.
-/
import Mathlib.Tactic.Common
import ClientCounters.Key.Evaluation

namespace ClientCounters

variable {κ : Type} [ComponentSource κ] {components : κ}

/-- No look-up changes the components. -/
def Stateless (components : κ) : Prop :=
  ∀ name, (ComponentSource.lookup components name).2 = components

namespace Stateless

lemma evaluate_snd (h : Stateless components) (context : ResolutionContext) (t : Term) :
    (t.evaluate context components).2 = components := by
  cases t with
  | descriptor path => rfl
  | request call => rfl
  | literal text => rfl
  | component name =>
    have hname := h name
    rw [Term.evaluate]
    rcases hlook : ComponentSource.lookup components name with ⟨_ | v, after⟩ <;>
      rw [hlook] at hname <;> exact hname

lemma evaluateAll_snd (h : Stateless components) (context : ResolutionContext) (ts : List Term) :
    (Term.evaluateAll context components ts).2 = components := by
  induction ts with
  | nil => rfl
  | cons t ts ih =>
    have hfirst := h.evaluate_snd context t
    rw [Term.evaluateAll]
    rcases hv : t.evaluate context components with ⟨e | v, after⟩ <;> rw [hv] at hfirst
    · exact hfirst
    · -- the rest is evaluated with the components as they were
      have hafter : after = components := hfirst
      subst hafter
      rcases hr : Term.evaluateAll context after ts with ⟨e | rest, last⟩ <;> rw [hr] at ih
      · simpa [hr] using ih
      · simpa [hr] using ih

lemma evaluateExpression_snd (h : Stateless components) (context : ResolutionContext)
    (e : KeyExpression) : (e.evaluate context components).2 = components :=
  h.evaluateAll_snd context e.terms

lemma resolve_snd (h : Stateless components) (source : String) (context : ResolutionContext) :
    (KeyExpression.resolve source context components).2 = components := by
  rw [KeyExpression.resolve]
  split
  · exact h.evaluateExpression_snd context _
  · rfl

end Stateless

end ClientCounters
