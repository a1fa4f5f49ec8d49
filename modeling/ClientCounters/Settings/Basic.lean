/-
# Settings

What is counted and how: the keys, the namespace of the counters, the identifying header, and the
size and time limit of the cache.  Settings are valid when nothing in them can go wrong later.
-/
import ClientCounters.Http.Field
import ClientCounters.Key.Reading
import ClientCounters.Log

namespace ClientCounters

/-- The settings of a meter. -/
structure Settings where
  /-- The key expressions, one counter for each; none stands for the default keys. -/
  keys : List String := []
  /-- The namespace of the counters. -/
  space : String := defaultSpace
  /-- The header with the identification text. -/
  headerName : String := "User-Agent"
  /-- How many identification texts are remembered. -/
  capacity : Nat := 1024
  /-- The time limit of a parse; none if it may take any time. -/
  parseTimeout : Option Duration := none
deriving DecidableEq, Repr

namespace Settings

/-- The settings with one more key. -/
def addKey (s : Settings) (key : String) : Settings :=
  { s with keys := s.keys ++ [key] }

/-- The keys in force. -/
def effectiveKeys (s : Settings) : List String :=
  if s.keys.isEmpty then defaultKeys else s.keys

/-- The first key that does not compile, counted from `index`, and why. -/
def firstInvalidKey? (index : Nat) : List String → Option (Nat × ResolutionError)
  | [] => none
  | key :: keys =>
    match KeyExpression.read key with
    | .error e => some (index, e)
    | .ok _ => firstInvalidKey? (index + 1) keys

/-- Checks every setting; the first fault found is reported. -/
def validate (s : Settings) : Except SettingsError Unit :=
  if Text.isBlankText s.space then .error .blankNamespace
  else if !Http.isHeaderName s.headerName then .error (.invalidHeader s.headerName)
  else if s.capacity = 0 then .error .zeroCapacity
  else
    match firstInvalidKey? 0 s.effectiveKeys with
    | some (index, e) => .error (.invalidKey index e)
    | none => .ok ()

end Settings

end ClientCounters
