/-
# Logging settings

The format of log lines, the filter that decides which events are printed, and whether lines say
where in the program an event comes from.
-/
import ClientCounters.Settings.Environment
import ClientCounters.Text.Lowercase

namespace ClientCounters

/-- How log lines are laid out. -/
inductive LogFormat where
  /-- Over several lines, for people. -/
  | pretty
  /-- One JSON object a line. -/
  | json
  /-- One short line an event. -/
  | compact
deriving DecidableEq, Repr

namespace LogFormat

/-- The format a text names, whatever its case and the white space around it; a text that names
none comes back in small letters. -/
def read (s : String) : Except String LogFormat :=
  let word := Text.lowercase (Text.trim s)
  match word with
  | "pretty" => .ok pretty
  | "json" => .ok json
  | "compact" => .ok compact
  | _ => .error word

/-- The message about a text that names no format. -/
def unknownMessage (word : String) : String :=
  "unknown log format: " ++ word

end LogFormat

/-- How events are logged. -/
structure LoggingSettings where
  /-- How log lines are laid out. -/
  format : LogFormat := .pretty
  /-- Which events are printed. -/
  filter : String := "info"
  /-- Whether lines name the place in the program. -/
  location : Bool := true
deriving DecidableEq, Repr

namespace LoggingSettings

/-- The variable that holds a filter. -/
def filterVariable : String := "RUST_LOG"

/-- The settings that an environment makes; what it does not say readably keeps its default. -/
def ofEnvironment (env : Environment) : LoggingSettings :=
  let default : LoggingSettings := {}
  { format := ((env "LOG_FORMAT").bind fun s => (LogFormat.read s).toOption).getD default.format
    filter := (env filterVariable).getD default.filter
    location :=
      match env "LOG_LOCATION" with
      | some s => s != "false" && s != "0"
      | none => default.location }

end LoggingSettings

end ClientCounters
