/-
# Recording requests

For a request the identifying header is read, its descriptor is taken from the cache, every key
is evaluated, and each key with a value counts once under its name.  A key without a value is
skipped and the others still count.  Whatever happens, the request goes on exactly once.
-/
import ClientCounters.Counter.Registry
import ClientCounters.Key.Evaluation
import ClientCounters.Meter.Basic
import ClientCounters.MetricName

namespace ClientCounters

/-- Why a request is not counted although nothing went wrong. -/
inductive SkipReason where
  /-- It is no HTTP request. -/
  | notHttp
  /-- It has no identification. -/
  | missingHeader
deriving DecidableEq, Repr

/-- What a key came to for a request: the name it counted under, or why it did not count. -/
structure KeyOutcome where
  key : String
  result : Except ResolutionError MetricName

/-- What recording a request came to. -/
inductive DispatchOutcome where
  /-- There was nothing to go by. -/
  | skipped (reason : SkipReason)
  /-- The client could not be identified. -/
  | parseFailed (error : ParseError)
  /-- The keys were evaluated; there is one outcome for each, in order. -/
  | evaluated (outcomes : List KeyOutcome)

namespace DispatchOutcome

/-- The outcomes of the keys. -/
def outcomes : DispatchOutcome → List KeyOutcome
  | evaluated outcomes => outcomes
  | _ => []

/-- The names that were counted. -/
def emitted (o : DispatchOutcome) : List MetricName :=
  o.outcomes.filterMap fun k =>
    match k.result with
    | .ok name => some name
    | .error _ => none

/-- The keys that did not count, and why. -/
def failures (o : DispatchOutcome) : List (String × ResolutionError) :=
  o.outcomes.filterMap fun k =>
    match k.result with
    | .ok _ => none
    | .error e => some (k.key, e)

end DispatchOutcome

variable {σ κ : Type} [ComponentSource κ]

namespace CompiledKey

/-- The part of a counter name that a key gives, and the components afterwards. -/
def fragment (k : CompiledKey) (context : ResolutionContext) (components : κ) :
    Except ResolutionError String × κ :=
  match k.expression with
  | .error e => (.error e, components)
  | .ok e =>
    match e.evaluate context components with
    | (.error e, after) => (.error e, after)
    | (.ok v, after) =>
      (if Text.isBlankText v then .error (.emptyValue k.source) else .ok (normalize v), after)

end CompiledKey

/-- What the keys came to, with the names counted, the events logged and the components
afterwards. -/
structure KeyRun (κ : Type) where
  outcomes : List KeyOutcome
  increments : List MetricName
  events : List LogEvent
  components : κ

namespace Meter

/-- Evaluates some keys in order. -/
def evaluateKeys (space : String) (context : ResolutionContext) (components : κ) :
    List CompiledKey → KeyRun κ
  | [] => ⟨[], [], [], components⟩
  | k :: ks =>
    match k.fragment context components with
    | (.ok f, after) =>
      let name := MetricName.ofParts space f
      let rest := evaluateKeys space context after ks
      ⟨⟨k.source, .ok name⟩ :: rest.outcomes, name :: rest.increments, rest.events,
        rest.components⟩
    | (.error e, after) =>
      let rest := evaluateKeys space context after ks
      ⟨⟨k.source, .error e⟩ :: rest.outcomes, rest.increments,
        .keySkipped k.source e :: rest.events, rest.components⟩

end Meter

/-- What recording a request came to: nothing if the parser crashed.  With it come the names
counted in order, the events logged, and the meter afterwards. -/
structure Recording (σ κ : Type) where
  outcome : Option DispatchOutcome
  increments : List MetricName
  events : List LogEvent
  meter : Meter σ κ

namespace Meter

/-- The identification text of a request, if it has one that is not blank. -/
def identification? (m : Meter σ κ) (view : Http.View) : Option String :=
  (view.header m.headerName).filter (!Text.isBlankText ·)

/-- Records a request whose identification text is known. -/
def recordIdentified (m : Meter σ κ) (view : Http.View) (userAgent : String) : Recording σ κ :=
  let look := m.cache.getOrParse m.parser.besides userAgent m.parserState
  let m := { m with cache := look.cache, parserState := look.state }
  match look.answer with
  | .crashed => ⟨none, [], look.events, m⟩
  | .returned ⟨_, .error e⟩ =>
    ⟨some (.parseFailed e), [], look.events ++ [.parseFailed e userAgent], m⟩
  | .returned ⟨_, .ok d⟩ =>
    let run := evaluateKeys m.space ⟨d, view⟩ m.components m.keys
    ⟨some (.evaluated run.outcomes), run.increments, look.events ++ run.events,
      { m with components := run.components }⟩

/-- Records a request. -/
def record (m : Meter σ κ) : Http.Inbound → Recording σ κ
  | .other => ⟨some (.skipped .notHttp), [], [.notHttp], m⟩
  | .http view =>
    match m.identification? view with
    | none => ⟨some (.skipped .missingHeader), [], [.missingHeader m.headerName], m⟩
    | some userAgent => m.recordIdentified view userAgent

/-- Records a request; a crash of the parser is logged and goes no further. -/
def recordGuarded (m : Meter σ κ) (request : Http.Inbound) : Recording σ κ :=
  let r := m.record request
  match r.outcome with
  | some _ => r
  | none => { r with events := r.events ++ [.recordingCrashed] }

/-- Records a request and hands it on, once. -/
def handle {α τ : Type} (m : Meter σ κ) (request : Http.Inbound) (next : Http.Inbound → τ → α × τ)
    (t : τ) : Recording σ κ × α × τ :=
  (m.recordGuarded request, next request t)

end Meter

namespace CounterRegistry

/-- Counts some names, each once for every time it occurs. -/
def incrementAll (r : CounterRegistry) (names : List MetricName) : CounterRegistry :=
  names.foldl (fun r name => r.increment name.text) r

end CounterRegistry

end ClientCounters
