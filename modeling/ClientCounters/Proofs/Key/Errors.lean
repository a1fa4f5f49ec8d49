/-
# Where the errors of keys come from

Compiling a key fails in three ways and evaluating a compiled key in others: no error of the one is
ever an error of the other.  Both are followed through the functions that make them up by saying of
a result with which errors it fails (`FailsOnly`).
-/
import Mathlib.Tactic.Common
import ClientCounters.Key.Evaluation

namespace ClientCounters

/-- Whether an error is about the text of a key, whatever the key is evaluated against. -/
def ResolutionError.isCompileError : ResolutionError → Bool
  | unsupportedGrammar _ | unknownMethod _ | invalidCall _ _ => true
  | unknownAttribute _ _ | missingRequestValue _ | unknownComponent _ | emptyValue _ => false

/-! ## Results and the errors they fail with -/

/-- A result is no error but one with a property. -/
def FailsOnly {ε α : Type} (P : ε → Prop) (x : Except ε α) : Prop :=
  ∀ e, x = .error e → P e

namespace FailsOnly

variable {ε α β : Type} {P : ε → Prop}

lemma ok (a : α) : FailsOnly P (.ok a : Except ε α) := by
  rintro e ⟨⟩

lemma error {e : ε} (h : P e) : FailsOnly P (.error e : Except ε α) := by
  rintro e' ⟨⟩
  exact h

lemma bind {x : Except ε α} {f : α → Except ε β} (hx : FailsOnly P x)
    (hf : ∀ a, FailsOnly P (f a)) : FailsOnly P (x >>= f) := by
  cases x with
  | error e => exact .error (hx e rfl)
  | ok a => exact hf a

lemma map {x : Except ε α} (f : α → β) (hx : FailsOnly P x) : FailsOnly P (x.map f) := by
  cases x with
  | error e => exact .error (hx e rfl)
  | ok a => exact .ok (f a)

lemma mapM {f : α → Except ε β} (hf : ∀ a, FailsOnly P (f a)) (as : List α) :
    FailsOnly P (as.mapM f) := by
  induction as with
  | nil => exact .ok []
  | cons a as ih =>
    rw [List.mapM_cons]
    exact .bind (hf a) fun b => .bind ih fun bs => .ok (b :: bs)

end FailsOnly

/-! ## Compiling -/

namespace KeyExpression

lemma readArgument_failsOnly (call inner : List Char) :
    FailsOnly (·.isCompileError = true) (readArgument call inner) := by
  unfold readArgument
  split
  · exact .ok none
  · split
    · exact .ok _
    · exact .error rfl

lemma readCall_failsOnly (source : String) (call : List Char) :
    FailsOnly (·.isCompileError = true) (readCall source call) := by
  unfold readCall
  -- the faults in their order: no bracket, no end, no name, no such method, a wrong argument
  split
  · split
    · dsimp only
      split
      · exact .error rfl
      · split
        · refine .bind (readArgument_failsOnly _ _) fun argument => ?_
          split
          · exact .ok _
          · exact .error rfl
        · exact .error rfl
    · exact .error rfl
  · exact .error rfl

lemma readTerm_failsOnly (source : String) (piece : List Char) :
    FailsOnly (·.isCompileError = true) (readTerm source piece) := by
  unfold readTerm
  split
  · exact .ok _
  · split
    · split
      · exact .ok _
      · exact .error rfl
    · split
      · exact readCall_failsOnly _ _
      · split
        · exact .ok _
        · exact .error rfl

/-- A key that does not compile fails with an error of compiling. -/
theorem read_failsOnly (source : String) :
    FailsOnly (·.isCompileError = true) (read source) := by
  unfold read
  split
  · exact .error rfl
  · exact .map _ (.mapM (readTerm_failsOnly source) _)

end KeyExpression

/-! ## Evaluating -/

variable {κ : Type} [ComponentSource κ]

namespace Term

lemma evaluate_failsOnly (context : ResolutionContext) (components : κ) (t : Term) :
    FailsOnly (·.isCompileError = false) (t.evaluate context components).1 := by
  cases t with
  | descriptor path =>
    rw [evaluate, pathValue]
    split
    · exact .ok _
    · exact .error rfl
  | request call =>
    rw [evaluate]
    dsimp only
    split
    · exact .ok _
    · exact .error rfl
  | component name =>
    rw [evaluate]
    split
    · exact .ok _
    · exact .error rfl
  | literal text => exact .ok text

lemma evaluateAll_failsOnly (context : ResolutionContext) (components : κ) (ts : List Term) :
    FailsOnly (·.isCompileError = false) (evaluateAll context components ts).1 := by
  induction ts generalizing components with
  | nil => exact .ok ""
  | cons t ts ih =>
    have hfirst := evaluate_failsOnly context components t
    rw [evaluateAll]
    split
    · next e after hv =>
      rw [hv] at hfirst
      exact .error (hfirst e rfl)
    · next v after _ =>
      -- the components may have changed, and the rest fails as it does with any
      have hrest := ih after
      split
      · next e last hr =>
        rw [hr] at hrest
        exact .error (hrest e rfl)
      · exact .ok _

end Term

/-- A compiled key never fails with an error of compiling, whatever it is evaluated against. -/
theorem KeyExpression.evaluate_failsOnly (context : ResolutionContext) (components : κ)
    (expression : KeyExpression) :
    FailsOnly (·.isCompileError = false) (expression.evaluate context components).1 :=
  Term.evaluateAll_failsOnly context components expression.terms

end ClientCounters
