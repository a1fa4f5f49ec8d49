/-
# Recording is as if nothing were remembered

A meter remembers descriptors in its cache, compiles its keys once, and normalizes a fragment both
when a key gives it and when it becomes part of a name.  None of this shows.  With a parser that is
a function of the text and components that do not change, a request comes to the same on a meter
that was used in any way before and on `Plain.record`, which remembers nothing.  What carries the
proof is `Serves`: the settings, the parser and the components of the meter are those it was built
with, and its cache is faithful to the parser.
-/
import ClientCounters.Meter.Plain
import ClientCounters.Proofs.Cache.Faithful
import ClientCounters.Proofs.Key.Evaluation
import ClientCounters.Proofs.MetricName

namespace ClientCounters

variable {σ κ : Type} [ComponentSource κ]

namespace Meter

/-- What a meter may be used for between two requests. -/
inductive Use where
  /-- A request is recorded. -/
  | record (request : Http.Inbound)
  /-- The cache is cleared. -/
  | clear

/-- The meter after a use. -/
def use (m : Meter σ κ) : Use → Meter σ κ
  | .record request => (m.record request).meter
  | .clear => { m with cache := m.cache.clear }

/-- The meter after some uses in a row. -/
def useAll (m : Meter σ κ) (uses : List Use) : Meter σ κ :=
  uses.foldl use m

/-- The namespace in force under some settings. -/
def spaceOf (s : Settings) : String :=
  if Text.isBlankText s.space then defaultSpace else s.space

/-- A meter for these settings, this parser and these components, with a faithful cache. -/
structure Serves (s : Settings) (parse : String → Except ParseError Descriptor) (components : κ)
    (m : Meter σ κ) : Prop where
  headerName : m.headerName = s.headerName
  space : m.space = spaceOf s
  keys : m.keys = s.effectiveKeys.map CompiledKey.compile
  parser : m.parser = Parser.pure parse
  components : m.components = components
  cache : Cache.Faithful parse m.cache

end Meter

/-- A key that was compiled before gives what the fresh key gives, and its fragment is normalized
already when it becomes part of a name. -/
lemma CompiledKey.keyOutcome_compile (space : String) (context : ResolutionContext)
    (components : κ) (key : String) :
    ⟨key, ((compile key).fragment context components).1.map (MetricName.ofParts space)⟩ =
      Plain.keyOutcome space context components key := by
  rw [Plain.keyOutcome, KeyExpression.resolve, fragment, compile]
  cases hread : KeyExpression.read key with
  | error e => rfl
  | ok expression =>
    dsimp only
    rcases he : expression.evaluate context components with ⟨e | v, after⟩
    · rfl
    · dsimp only
      split
      · rfl
      · simp only [Except.map, MetricName.ofParts_normalize]
        rfl

lemma CompiledKey.fragment_compile_snd (context : ResolutionContext) (components : κ)
    (key : String) : ((compile key).fragment context components).2 =
      (KeyExpression.resolve key context components).2 := by
  rw [KeyExpression.resolve, fragment, compile]
  cases KeyExpression.read key with
  | error e => rfl
  | ok expression =>
    dsimp only
    rcases expression.evaluate context components with ⟨e | v, after⟩ <;> rfl

namespace Meter

/-- The first of some keys comes to what the fresh key comes to, and the others are evaluated with
the components as it leaves them. -/
lemma evaluateKeys_compile_cons (space : String) (context : ResolutionContext) (components : κ)
    (key : String) (keys : List CompiledKey) :
    let rest := evaluateKeys space context (KeyExpression.resolve key context components).2 keys
    let run := evaluateKeys space context components (CompiledKey.compile key :: keys)
    run.outcomes = Plain.keyOutcome space context components key :: rest.outcomes ∧
      run.components = rest.components := by
  have hsnd := CompiledKey.fragment_compile_snd context components key
  have hkey := CompiledKey.keyOutcome_compile space context components key
  dsimp only
  rw [evaluateKeys]
  rcases hf : (CompiledKey.compile key).fragment context components with ⟨e | f, after⟩ <;>
    rw [hf] at hsnd hkey <;> rw [← hsnd, ← hkey]
  · exact ⟨rfl, rfl⟩
  · exact ⟨rfl, rfl⟩

/-- The keys of a meter come to what the fresh keys come to, one after the other. -/
lemma evaluateKeys_compile {components : κ} (h : Stateless components) (space : String)
    (context : ResolutionContext) (keys : List String) :
    (evaluateKeys space context components (keys.map CompiledKey.compile)).outcomes =
        keys.map (Plain.keyOutcome space context components) ∧
      (evaluateKeys space context components (keys.map CompiledKey.compile)).components =
        components := by
  induction keys with
  | nil => exact ⟨rfl, rfl⟩
  | cons key keys ih =>
    have hcons := evaluateKeys_compile_cons space context components key
      (keys.map CompiledKey.compile)
    rw [h.resolve_snd key context] at hcons
    exact ⟨hcons.1.trans (congrArg _ ih.1), hcons.2.trans ih.2⟩

namespace Serves

variable {s : Settings} {parse : String → Except ParseError Descriptor} {components : κ}
  {m : Meter σ κ}

omit [ComponentSource κ] in
lemma of_build {state : σ} (h : m ∈ (build s (Parser.pure parse) state components).1) :
    Serves s parse components m := by
  obtain ⟨c, hc, rfl⟩ := Option.map_eq_some_iff.1 h
  exact ⟨rfl, rfl, rfl, rfl, rfl, Cache.Faithful.of_make? hc⟩

lemma recordIdentified (h : Serves s parse components m) (hstateless : Stateless components)
    (view : Http.View) (userAgent : String) :
    (m.recordIdentified view userAgent).outcome =
        some (match parse userAgent with
          | .error e => .parseFailed e
          | .ok d => .evaluated
              (s.effectiveKeys.map (Plain.keyOutcome (spaceOf s) ⟨d, view⟩ components))) ∧
      Serves s parse components (m.recordIdentified view userAgent).meter := by
  obtain ⟨hheader, hspace, hkeys, hparser, hcomponents, hcache⟩ := h
  obtain ⟨run, hanswer, hafter⟩ := hcache.getOrParse userAgent m.parserState
  rw [Meter.recordIdentified]
  dsimp only
  rw [hparser, Parser.besides_pure, hanswer]
  cases hp : parse userAgent with
  | error e => exact ⟨rfl, hheader, hspace, hkeys, rfl, hcomponents, hafter⟩
  | ok d =>
    dsimp only
    have hrun := evaluateKeys_compile hstateless (spaceOf s) ⟨d, view⟩ s.effectiveKeys
    rw [hspace, hkeys, hcomponents]
    refine ⟨congrArg (some ∘ DispatchOutcome.evaluated) hrun.1, ?_⟩
    exact ⟨hheader, rfl, rfl, rfl, hrun.2, hafter⟩

lemma record (h : Serves s parse components m) (hstateless : Stateless components)
    (request : Http.Inbound) :
    (m.record request).outcome = some (Plain.record s parse components request) ∧
      Serves s parse components (m.record request).meter := by
  cases request with
  | other => exact ⟨rfl, h⟩
  | http view =>
    have hid : m.identification? view =
        (view.header s.headerName).filter (!Text.isBlankText ·) := by
      rw [identification?, h.headerName]
    rw [Meter.record, Plain.record, hid]
    cases (view.header s.headerName).filter (!Text.isBlankText ·) with
    | none => exact ⟨rfl, h⟩
    | some userAgent =>
      obtain ⟨houtcome, hserves⟩ := h.recordIdentified hstateless view userAgent
      refine ⟨?_, hserves⟩
      dsimp only
      rw [houtcome]
      cases parse userAgent <;> rfl

lemma useAll (h : Serves s parse components m) (hstateless : Stateless components)
    (uses : List Use) : Serves s parse components (m.useAll uses) := by
  induction uses generalizing m with
  | nil => exact h
  | cons u uses ih =>
    refine ih ?_
    cases u with
    | record request => exact (h.record hstateless request).2
    | clear => exact ⟨h.headerName, h.space, h.keys, h.parser, h.components, h.cache.clear⟩

end Serves

/-- **Recording is as if nothing were remembered.**  A meter that was built for some settings with a
parser that is a function of the text and with components that do not change, and that was used in
any way since, makes of a request exactly what plain recording makes of it. -/
theorem record_useAll_eq_plain (s : Settings) (parse : String → Except ParseError Descriptor)
    (state : σ) {components : κ} (hstateless : Stateless components) {m : Meter σ κ}
    (hbuild : m ∈ (build s (Parser.pure parse) state components).1) (uses : List Use)
    (request : Http.Inbound) :
    ((m.useAll uses).record request).outcome =
      some (Plain.record s parse components request) :=
  (((Serves.of_build hbuild).useAll hstateless uses).record hstateless request).1

set_option maxRecDepth 4000 in
/-- The client was looked up, evicted by another one and cleared away before; the second key does
not compile, and the third names a component that is missing. -/
theorem record_useAll_eq_plain_of_sigma :
    let request (name : String) : Http.Inbound :=
      .http (.ofTexts [("User-Agent", name)] "GET" "/" none none)
    let parse (name : String) : Except ParseError Descriptor :=
      if name = "?" then .error .empty else .ok { name }
    let s : Settings := { keys := ["#this.name", "+", "@r"], space := "P", capacity := 1 }
    let uses : List Use := [.record (request "Σ"), .record (request "?"), .clear,
      .record (request "Σ")]
    ∃ m : Meter Unit ComponentRegistry, Stateless ({} : ComponentRegistry) ∧
      m ∈ (build s (Parser.pure parse) () {}).1 ∧
      ((m.useAll uses).record (request "Σ")).outcome =
        some (.evaluated [⟨"#this.name", .ok ⟨"p.σ"⟩⟩, ⟨"+", .error (.unsupportedGrammar "+")⟩,
          ⟨"@r", .error (.unknownComponent "r")⟩]) := by
  refine ⟨_, fun _ => rfl, Option.get_mem rfl, ?_⟩
  exact (record_useAll_eq_plain _ _ () (fun _ => rfl) (Option.get_mem rfl) _ _).trans rfl

end Meter

end ClientCounters
