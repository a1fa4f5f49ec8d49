/-
# What each key of a meter comes to

The keys of a meter are evaluated in order, each with the components as the keys in front of it
leave them.  Apart from that a key comes to what it comes to on its own.  In particular a key that
does not compile comes to the error of compiling it, and no other key ever comes to such an error.
-/
import ClientCounters.Proofs.Key.Errors
import ClientCounters.Proofs.Meter.Plain
import ClientCounters.Proofs.Meter.Recording
import ClientCounters.Proofs.Settings.Validation

namespace ClientCounters

variable {κ : Type} [ComponentSource κ] {space : String} {context : ResolutionContext}
  {components : κ} {key : String} {e : ResolutionError}

/-! ## One key -/

namespace Plain

/-- The components after some keys were evaluated in order. -/
def afterKeys (context : ResolutionContext) (components : κ) (keys : List String) : κ :=
  keys.foldl (fun components key => (KeyExpression.resolve key context components).2) components

lemma keyOutcome_of_read_error (h : KeyExpression.read key = .error e) :
    keyOutcome space context components key = ⟨key, .error e⟩ := by
  simp only [keyOutcome, KeyExpression.resolve, h]

/-- A key with a value counts. -/
lemma keyOutcome_of_value {v : String}
    (h : (KeyExpression.resolve key context components).1 = .ok v)
    (hblank : Text.isBlankText v = false) :
    keyOutcome space context components key = ⟨key, .ok (MetricName.ofParts space v)⟩ := by
  rw [keyOutcome, h]
  dsimp only
  rw [hblank]
  rfl

/-- A key that compiles fails for reasons that compiling does not know. -/
lemma keyOutcome_failsOnly (h : Compiles key) :
    FailsOnly (·.isCompileError = false) (keyOutcome space context components key).result := by
  obtain ⟨expression, hread⟩ := h
  have hvalue := expression.evaluate_failsOnly context components
  simp only [keyOutcome, KeyExpression.resolve, hread]
  split
  · next e he => exact .error (hvalue e he)
  · split
    · exact .error rfl
    · exact .ok _

/-- A key comes to an error of compiling if and only if it does not compile. -/
theorem exists_compileError_iff :
    (∃ e, (keyOutcome space context components key).result = .error e ∧ e.isCompileError = true) ↔
      ¬ Compiles key := by
  constructor
  · rintro ⟨e, he, hcompile⟩ hcompiles
    have hother : e.isCompileError = false := keyOutcome_failsOnly hcompiles e he
    rw [hcompile] at hother
    cases hother
  · intro h
    obtain ⟨e, hread⟩ := not_compiles_iff.1 h
    refine ⟨e, ?_, KeyExpression.read_failsOnly key e hread⟩
    rw [keyOutcome_of_read_error hread]

end Plain

namespace Meter

/-! ## Some keys in order -/

/-- Every key has one outcome: what it comes to on its own, with the components as the keys in front
of it leave them. -/
theorem getElem?_outcomes (space : String) (context : ResolutionContext) (components : κ)
    (keys : List String) (j : Nat) :
    (evaluateKeys space context components (keys.map CompiledKey.compile)).outcomes[j]? =
      keys[j]?.map (Plain.keyOutcome space context
        (Plain.afterKeys context components (keys.take j))) := by
  induction keys generalizing j components with
  | nil => rfl
  | cons first keys ih =>
    obtain ⟨hfirst, -⟩ := evaluateKeys_compile_cons space context components first
      (keys.map CompiledKey.compile)
    rw [List.map_cons, hfirst]
    cases j with
    | zero => rfl
    | succ j =>
      -- the keys behind the first one start with the components that it leaves
      exact ih (KeyExpression.resolve first context components).2 j

lemma map_key_outcomes (space : String) (context : ResolutionContext) (components : κ)
    (keys : List String) :
    (evaluateKeys space context components (keys.map CompiledKey.compile)).outcomes.map (·.key) =
      keys := by
  rw [map_key_evaluateKeys, List.map_map]
  exact List.map_id keys

/-- When all keys compile, none of them comes to an error of compiling. -/
lemma failsOnly_of_mem_outcomes {keys : List String} (h : ∀ key ∈ keys, Compiles key)
    {o : KeyOutcome} (ho : o ∈ (evaluateKeys space context components
      (keys.map CompiledKey.compile)).outcomes) :
    FailsOnly (·.isCompileError = false) o.result := by
  obtain ⟨j, hj⟩ := List.mem_iff_getElem?.1 ho
  rw [getElem?_outcomes, Option.map_eq_some_iff] at hj
  obtain ⟨key, hkey, rfl⟩ := hj
  exact Plain.keyOutcome_failsOnly (h key (List.mem_of_getElem? hkey))

/-! ## The keys of a request -/

variable {σ : Type} {m : Meter σ κ} {request : Http.Inbound} {outs : List KeyOutcome}

/-- The keys are evaluated for a request against its view and the descriptor that looking its
identification text up gives. -/
def EvaluatedAgainst (m : Meter σ κ) (request : Http.Inbound) (context : ResolutionContext) :
    Prop :=
  request = .http context.request ∧ ∃ userAgent run,
    m.identification? context.request = some userAgent ∧
    (m.cache.getOrParse m.parser.besides userAgent m.parserState).answer =
      .returned ⟨run, .ok context.descriptor⟩

/-- The outcomes of an evaluated request are those of the keys. -/
lemma exists_context_of_evaluated (h : (m.record request).outcome = some (.evaluated outs)) :
    ∃ context, m.EvaluatedAgainst request context ∧
      outs = (evaluateKeys m.space context m.components m.keys).outcomes := by
  cases request with
  | other => cases h
  | http view =>
    rw [record] at h
    split at h
    · cases h
    · next userAgent hid =>
      rw [recordIdentified] at h
      dsimp only at h
      split at h
      -- neither a crash of the parser nor an error of it comes to outcomes
      · cases h
      · cases h
      · next run d hanswer =>
        refine ⟨⟨d, view⟩, ⟨rfl, userAgent, run, hid, hanswer⟩, ?_⟩
        exact (DispatchOutcome.evaluated.inj (Option.some.inj h)).symm

end Meter

end ClientCounters
