/-
# What a recording counts

The names that a recording hands to the counters are those of its outcome, in the order of the keys.
So a recording that did not come to outcomes of the keys counts nothing.  Guarding a recording
changes neither its outcome nor what it counts.
-/
import Mathlib.Tactic.Common
import ClientCounters.Meter.Record

namespace ClientCounters

variable {σ κ : Type} [ComponentSource κ]

namespace DispatchOutcome

/-- The names counted by a recording that may have crashed. -/
def counted (outcome : Option DispatchOutcome) : List MetricName :=
  (outcome.map emitted).getD []

/-- Only outcomes of the keys count. -/
lemma counted_eq_nil {outcome : Option DispatchOutcome}
    (h : ∀ outs, outcome ≠ some (.evaluated outs)) : counted outcome = [] := by
  rcases outcome with _ | ⟨_ | _ | outs⟩
  · rfl
  · rfl
  · rfl
  · exact absurd rfl (h outs)

end DispatchOutcome

namespace Meter

lemma increments_evaluateKeys (space : String) (context : ResolutionContext) (components : κ)
    (keys : List CompiledKey) :
    (evaluateKeys space context components keys).increments =
      (DispatchOutcome.evaluated (evaluateKeys space context components keys).outcomes).emitted := by
  induction keys generalizing components with
  | nil => rfl
  | cons k ks ih =>
    rw [evaluateKeys]
    split
    · next f after _ => exact congrArg _ (ih after)
    · next e after _ => exact ih after

/-- Every key has one outcome, in order. -/
lemma map_key_evaluateKeys (space : String) (context : ResolutionContext) (components : κ)
    (keys : List CompiledKey) :
    (evaluateKeys space context components keys).outcomes.map (·.key) = keys.map (·.source) := by
  induction keys generalizing components with
  | nil => rfl
  | cons k ks ih =>
    rw [evaluateKeys]
    split
    · next f after _ => exact congrArg _ (ih after)
    · next e after _ => exact congrArg _ (ih after)

/-- An event is logged for each key that did not count, in order, and for nothing else. -/
lemma events_evaluateKeys (space : String) (context : ResolutionContext) (components : κ)
    (keys : List CompiledKey) :
    (evaluateKeys space context components keys).events =
      (DispatchOutcome.evaluated (evaluateKeys space context components keys).outcomes).failures.map
        fun failure => .keySkipped failure.1 failure.2 := by
  induction keys generalizing components with
  | nil => rfl
  | cons k ks ih =>
    rw [evaluateKeys]
    split
    · next f after _ => exact ih after
    · next e after _ => exact congrArg _ (ih after)

lemma increments_recordIdentified (m : Meter σ κ) (view : Http.View) (userAgent : String) :
    (m.recordIdentified view userAgent).increments =
      DispatchOutcome.counted (m.recordIdentified view userAgent).outcome := by
  rw [recordIdentified]
  dsimp only
  split
  · rfl
  · rfl
  · exact increments_evaluateKeys _ _ _ _

/-- A recording counts the names of its outcome. -/
theorem increments_record (m : Meter σ κ) (request : Http.Inbound) :
    (m.record request).increments = DispatchOutcome.counted (m.record request).outcome := by
  cases request with
  | other => rfl
  | http view =>
    rw [record]
    split
    · rfl
    · exact increments_recordIdentified m view _

/-! ## What a look-up makes of a recording -/

section Look

variable {m : Meter σ κ} {userAgent : String}

lemma outcome_of_crashed (view : Http.View)
    (h : (m.cache.getOrParse m.parser.besides userAgent m.parserState).answer = .crashed) :
    (m.recordIdentified view userAgent).outcome = none := by
  rw [recordIdentified]
  dsimp only
  rw [h]

lemma outcome_of_error (view : Http.View) {run : Nat} {e : ParseError}
    (h : (m.cache.getOrParse m.parser.besides userAgent m.parserState).answer =
      .returned ⟨run, .error e⟩) :
    (m.recordIdentified view userAgent).outcome = some (.parseFailed e) := by
  rw [recordIdentified]
  dsimp only
  rw [h]

lemma outcome_of_ok (view : Http.View) {run : Nat} {d : Descriptor}
    (h : (m.cache.getOrParse m.parser.besides userAgent m.parserState).answer =
      .returned ⟨run, .ok d⟩) :
    (m.recordIdentified view userAgent).outcome =
      some (.evaluated (evaluateKeys m.space ⟨d, view⟩ m.components m.keys).outcomes) := by
  rw [recordIdentified]
  dsimp only
  rw [h]

end Look

/-- Guarding a recording adds at most a warning. -/
lemma recordGuarded_eq (m : Meter σ κ) (request : Http.Inbound) :
    ∃ events, m.recordGuarded request = { m.record request with events } := by
  rw [recordGuarded]
  dsimp only
  split
  · exact ⟨_, rfl⟩
  · exact ⟨_, rfl⟩

end Meter

/-! ## Counters that are reported to -/

/-- A meter with the counters it reports to. -/
structure Station (σ κ : Type) where
  meter : Meter σ κ
  counters : CounterRegistry

namespace Station

omit [ComponentSource κ] in
/-- The station after a recording. -/
def after (st : Station σ κ) (r : Recording σ κ) : Station σ κ :=
  ⟨r.meter, st.counters.incrementAll r.increments⟩

/-- The station after a request was recorded. -/
def record (st : Station σ κ) (request : Http.Inbound) : Station σ κ :=
  st.after (st.meter.record request)

lemma counters_record (st : Station σ κ) (request : Http.Inbound) :
    (st.record request).counters =
      st.counters.incrementAll (DispatchOutcome.counted (st.meter.record request).outcome) := by
  rw [record, after, Meter.increments_record]

/-- It makes no difference to a station whether a recording is guarded. -/
lemma after_recordGuarded (st : Station σ κ) (request : Http.Inbound) :
    st.after (st.meter.recordGuarded request) = st.record request := by
  obtain ⟨events, h⟩ := Meter.recordGuarded_eq st.meter request
  rw [h]
  rfl

end Station

end ClientCounters
