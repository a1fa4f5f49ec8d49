/-
# Meters

A meter counts requests by the clients they come from.  It is made from settings: `build` puts
usable values in the place of unusable ones and logs a warning for each, `tryBuild` insists on
valid settings.  Neither makes a meter whose cache is too large to be laid out.
-/
import ClientCounters.Cache.Lookup
import ClientCounters.Component
import ClientCounters.Settings.Basic

namespace ClientCounters

/-- A key of a meter, compiled once; the error of one that does not compile is kept. -/
structure CompiledKey where
  source : String
  expression : Except ResolutionError KeyExpression

namespace CompiledKey

/-- Compiles a key. -/
def compile (source : String) : CompiledKey :=
  ⟨source, KeyExpression.read source⟩

/-- The warning about a key that does not compile. -/
def warning? (k : CompiledKey) : Option LogEvent :=
  match k.expression with
  | .ok _ => none
  | .error e => some (.invalidKey k.source e)

end CompiledKey

/-- A meter, with the states of its parser and of its components. -/
structure Meter (σ κ : Type) where
  /-- The header with the identification text. -/
  headerName : String
  /-- The namespace of the counters. -/
  space : String
  /-- The keys in the order they are evaluated. -/
  keys : List CompiledKey
  /-- The parser. -/
  parser : Parser σ
  /-- The state of the parser. -/
  parserState : σ
  /-- The descriptors found so far. -/
  cache : Cache
  /-- The components that keys may refer to. -/
  components : κ

namespace Meter

variable {σ κ : Type}

/-- The warnings about settings that have to be replaced and about keys that will never count. -/
def warnings (s : Settings) : List LogEvent :=
  (if Text.isBlankText s.space then [.blankSpaceReplaced] else []) ++
    (if s.capacity = 0 then [.zeroCapacityReplaced] else []) ++
    (s.effectiveKeys.map CompiledKey.compile).filterMap CompiledKey.warning?

/-- A meter for some settings, unless its cache is too large to be laid out, with the warnings
about the settings. -/
def build (s : Settings) (parser : Parser σ) (state : σ) (components : κ) :
    Option (Meter σ κ) × List LogEvent :=
  let capacity := max 1 s.capacity
  let cache := Cache.make? capacity
    (Nat.lt_of_lt_of_le Nat.zero_lt_one (Nat.le_max_left 1 s.capacity)) s.parseTimeout
  (cache.map fun cache => {
      headerName := s.headerName
      space := if Text.isBlankText s.space then defaultSpace else s.space
      keys := s.effectiveKeys.map CompiledKey.compile
      parser
      parserState := state
      cache
      components },
    warnings s)

/-- A meter for valid settings. -/
def tryBuild (s : Settings) (parser : Parser σ) (state : σ) (components : κ) :
    Except SettingsError (Option (Meter σ κ) × List LogEvent) :=
  match s.validate with
  | .ok _ => .ok (build s parser state components)
  | .error e => .error e

/-- The sources of the keys in the order they are evaluated. -/
def keySources (m : Meter σ κ) : List String :=
  m.keys.map (·.source)

/-- The meter as diagnostics show it. -/
def diagnostic (m : Meter σ κ) : String :=
  "UserAgentMetrics \x7b header_name: " ++ Text.quoted m.headerName ++ ", prefix: " ++
    Text.quoted m.space ++ ", keys: " ++ Text.quotedList m.keySources ++ ", cache: " ++
    m.cache.diagnostic ++ ", .. \x7d"

/-- What is logged when counting starts. -/
def startEvent (m : Meter σ κ) : LogEvent :=
  .initialized m.keySources m.headerName m.space m.cache.capacity

/-- What is logged when counting ends. -/
def endEvent (m : Meter σ κ) : LogEvent :=
  .shutDown m.cache.hits m.cache.misses m.cache.parses m.cache.failures

end Meter

end ClientCounters
