/-
# Validation is exact

Whatever validation accepts is built and never goes wrong for a reason that could have been known:
the settings are used as they are, and no key ever comes to an error of compiling.  When validation
finds an invalid key, the meter that is built all the same reports exactly that error in the place
of that key for every request, and evaluates the other keys as if nothing were wrong.  The one thing
that validation does not see is a cache that is too large to be laid out.
-/
import ClientCounters.Proofs.Meter.Building
import ClientCounters.Proofs.Meter.Keys

namespace ClientCounters

namespace Meter

variable {σ κ : Type} {s : Settings} {m : Meter σ κ} {parser : Parser σ} {state : σ}
  {components : κ}

/-! ## Building from valid settings -/

lemma tryBuild_eq_ok_iff {built : Option (Meter σ κ) × List LogEvent} :
    tryBuild s parser state components = .ok built ↔
      s.validate = .ok () ∧ built = build s parser state components := by
  rw [tryBuild]
  cases s.validate with
  | ok _ =>
    constructor
    · intro h
      exact ⟨rfl, (Except.ok.inj h).symm⟩
    · rintro ⟨-, rfl⟩
      rfl
  | error e => simp

lemma tryBuild_eq_error_iff {e : SettingsError} :
    tryBuild s parser state components = .error e ↔ s.validate = .error e := by
  rw [tryBuild]
  cases s.validate <;> simp

lemma spaceOf_eq (h : Text.isBlankText s.space = false) : spaceOf s = s.space := by
  rw [spaceOf, h]
  rfl

variable [ComponentSource κ]

/-- A meter that uses its settings as they are and none of whose keys ever comes to an error of
compiling. -/
structure Unfailing (s : Settings) (m : Meter σ κ) : Prop where
  space : m.space = s.space
  headerName : m.headerName = s.headerName
  capacity : m.cache.capacity = s.capacity
  keySources : m.keySources = s.effectiveKeys
  outcomes : ∀ request outs, (m.record request).outcome = some (.evaluated outs) →
    outs.map (·.key) = s.effectiveKeys ∧ ∀ o ∈ outs, ∀ e, o.result = .error e →
      e.isCompileError = false

lemma Configured.unfailing (h : Configured s m) (hvalid : s.validate = .ok ()) : Unfailing s m := by
  obtain ⟨hframe, hkeys⟩ := Settings.validate_eq_ok_iff.1 hvalid
  have hpos : 1 ≤ s.capacity := Nat.pos_of_ne_zero hframe.capacity
  refine ⟨?_, h.headerName, ?_, h.keySources, ?_⟩
  · rw [h.space, spaceOf_eq hframe.space]
  · rw [h.capacity, max_eq_right hpos]
  · intro request outs houts
    obtain ⟨context, -, rfl⟩ := exists_context_of_evaluated houts
    rw [h.keys]
    exact ⟨map_key_outcomes _ _ _ _, fun o ho => failsOnly_of_mem_outcomes hkeys ho⟩

/-! ## Building from settings with an invalid key -/

/-- A meter that comes to this error in this place for every request, while every key comes to what
it comes to on its own: with the request's view, the descriptor of its client, and the components as
the keys in front leave them.  The errors of compiling are those of the keys that do not compile. -/
structure Lenient (s : Settings) (index : Nat) (source : ResolutionError) (m : Meter σ κ) :
    Prop where
  invalid : ∀ request outs, (m.record request).outcome = some (.evaluated outs) →
    ∃ key, s.effectiveKeys[index]? = some key ∧ outs[index]? = some ⟨key, .error source⟩
  outcomes : ∀ request outs, (m.record request).outcome = some (.evaluated outs) →
    ∃ context, m.EvaluatedAgainst request context ∧
      outs.map (·.key) = s.effectiveKeys ∧ ∀ j key, s.effectiveKeys[j]? = some key →
        outs[j]? = some (Plain.keyOutcome s.space context
          (Plain.afterKeys context m.components (s.effectiveKeys.take j)) key)
  compileErrors : ∀ request (outs : List KeyOutcome),
    (m.record request).outcome = some (.evaluated outs) →
    ∀ (j : Nat) key, s.effectiveKeys[j]? = some key → ∃ o, outs[j]? = some o ∧
      ((∃ e, o.result = .error e ∧ e.isCompileError = true) ↔ ¬ Compiles key)

lemma Configured.lenient (h : Configured s m) {index : Nat} {source : ResolutionError}
    (hvalid : s.validate = .error (.invalidKey index source)) : Lenient s index source m := by
  obtain ⟨hframe, hfirst⟩ := Settings.validate_eq_invalidKey_iff.1 hvalid
  obtain ⟨key, hkey, -, hread⟩ := Settings.getElem?_of_firstInvalidKey? hfirst
  have hspace : m.space = s.space := h.space.trans (spaceOf_eq hframe.space)
  constructor
  · intro request outs houts
    obtain ⟨context, -, rfl⟩ := exists_context_of_evaluated houts
    refine ⟨key, hkey, ?_⟩
    rw [h.keys, getElem?_outcomes, hkey, Option.map_some, Plain.keyOutcome_of_read_error hread]
  · intro request outs houts
    obtain ⟨context, hcontext, rfl⟩ := exists_context_of_evaluated houts
    rw [h.keys, hspace]
    refine ⟨context, hcontext, map_key_outcomes _ _ _ _, ?_⟩
    intro j k hk
    rw [getElem?_outcomes, hk, Option.map_some]
  · intro request outs houts j k hk
    obtain ⟨context, -, rfl⟩ := exists_context_of_evaluated houts
    rw [h.keys, getElem?_outcomes, hk, Option.map_some]
    exact ⟨_, rfl, Plain.exists_compileError_iff⟩

/-! ## The result -/

/-- **Validation is exact.**  Building from settings is refused with the error of validation, and
otherwise gives a meter unless its cache is too large to be laid out.  Such a meter uses its
settings as they are, and however it is used, no key comes to an error of compiling.  When the fault
is an invalid key, all keys in front of it compile, and the meter that is built all the same reports
the error in its place and evaluates the other keys normally: a key comes to an error of compiling
only if it does not compile. -/
theorem validation_exact (s : Settings) (parser : Parser σ) (state : σ) (components : κ) :
    (∀ e, tryBuild s parser state components = .error e ↔ s.validate = .error e) ∧
    ((∃ m logs, tryBuild s parser state components = .ok (some m, logs)) ↔
      s.validate = .ok () ∧ s.capacity ≤ 7 * 2 ^ 55) ∧
    (∀ m logs, tryBuild s parser state components = .ok (some m, logs) →
      ∀ uses, Unfailing s (m.useAll uses)) ∧
    (∀ index source, s.validate = .error (.invalidKey index source) →
      (∀ key ∈ s.effectiveKeys.take index, Compiles key) ∧
      ((∃ m, (build s parser state components).1 = some m) ↔ s.capacity ≤ 7 * 2 ^ 55) ∧
      ∀ m, (build s parser state components).1 = some m →
        ∀ uses, Lenient s index source (m.useAll uses)) := by
  refine ⟨fun e => tryBuild_eq_error_iff, ?_, ?_, ?_⟩
  · rw [← exists_build_iff s parser state components]
    constructor
    · rintro ⟨m, logs, h⟩
      obtain ⟨hvalid, hbuilt⟩ := tryBuild_eq_ok_iff.1 h
      exact ⟨hvalid, m, (congrArg Prod.fst hbuilt).symm⟩
    · rintro ⟨hvalid, m, hm⟩
      exact ⟨m, _, tryBuild_eq_ok_iff.2 ⟨hvalid, Prod.ext hm.symm rfl⟩⟩
  · intro m logs h uses
    obtain ⟨hvalid, hbuilt⟩ := tryBuild_eq_ok_iff.1 h
    have hm := (congrArg Prod.fst hbuilt).symm
    exact ((Configured.of_build hm).useAll uses).unfailing hvalid
  · intro index source hvalid
    obtain ⟨-, hfirst⟩ := Settings.validate_eq_invalidKey_iff.1 hvalid
    obtain ⟨key, -, hfront, -⟩ := Settings.getElem?_of_firstInvalidKey? hfirst
    refine ⟨hfront, exists_build_iff s parser state components, ?_⟩
    intro m hm uses
    exact ((Configured.of_build hm).useAll uses).lenient hvalid

/-- A key without an operand between two that compile, the second of them naming a component that is
missing; and the same settings without it. -/
theorem validation_exact_of_plus :
    let request : Http.Inbound := .http (.ofTexts [("User-Agent", "app/1")] "GET" "/" none none)
    let parse (name : String) : Except ParseError Descriptor := .ok { name }
    let s : Settings := { keys := ["#this.name", "+", "@r"], capacity := 1 }
    let t : Settings := { keys := ["#this.name", "@r"], capacity := 1 }
    ∃ m m' : Meter Unit ComponentRegistry,
      (build s (Parser.pure parse) () {}).1 = some m ∧
      Lenient s 1 (.unsupportedGrammar "+") m ∧
      (m.record request).outcome = some (.evaluated [⟨"#this.name", .ok ⟨"user-agent.app/1"⟩⟩,
        ⟨"+", .error (.unsupportedGrammar "+")⟩, ⟨"@r", .error (.unknownComponent "r")⟩]) ∧
      tryBuild t (Parser.pure parse) () {} = .ok (some m', []) ∧
      Unfailing t m' ∧
      (m'.record request).outcome = some (.evaluated [⟨"#this.name", .ok ⟨"user-agent.app/1"⟩⟩,
        ⟨"@r", .error (.unknownComponent "r")⟩]) := by
  obtain ⟨-, -, -, hlenient⟩ := validation_exact
    { keys := ["#this.name", "+", "@r"], capacity := 1 }
    (Parser.pure fun name => .ok { name }) () ({} : ComponentRegistry)
  obtain ⟨-, -, hunfailing, -⟩ := validation_exact
    { keys := ["#this.name", "@r"], capacity := 1 }
    (Parser.pure fun name => .ok { name }) () ({} : ComponentRegistry)
  refine ⟨_, _, rfl, ?_, rfl, rfl, ?_, rfl⟩
  · exact (hlenient 1 (.unsupportedGrammar "+") rfl).2.2 _ rfl []
  · exact hunfailing _ [] rfl []

/-- Settings with the greatest capacity there is are valid, and no meter is built from them. -/
theorem not_built_of_greatest_capacity :
    let s : Settings := { capacity := 2 ^ 64 - 1 }
    s.validate = .ok () ∧ ¬ ∃ (m : Meter Unit ComponentRegistry) (logs : List LogEvent),
      tryBuild s Parser.builtIn () {} = .ok (some m, logs) := by
  refine ⟨rfl, ?_⟩
  rintro ⟨m, logs, h⟩
  obtain ⟨-, hbuilt⟩ := tryBuild_eq_ok_iff.1 h
  have hle := (exists_build_iff _ _ _ _).1 ⟨m, (congrArg Prod.fst hbuilt).symm⟩
  norm_num at hle

end Meter

end ClientCounters
