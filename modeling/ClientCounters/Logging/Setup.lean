/-
# Setting logging up

Logging is set up once in a process.  The filter of the environment wins over that of the
settings if it can be read.  When all is set up an event says so, which is printed if the filter
lets it through.
-/
import ClientCounters.Logging.Filter
import ClientCounters.Logging.Settings

namespace ClientCounters

/-- Why logging is not set up. -/
inductive LoggingError where
  /-- The filter cannot be read. -/
  | filter (cause : FilterError)
  /-- Logging is set up already. -/
  | subscriber
deriving DecidableEq, Repr

/-- What the line about the completed setup is like. -/
structure SetupLine where
  /-- Whether it is a JSON object. -/
  isJson : Bool
  /-- Whether it names the place in the program. -/
  hasLocation : Bool
deriving DecidableEq, Repr

namespace LoggingSettings

/-- The filter in force.  A malformed one in the environment is passed over, but nothing is read
once a part would split a character. -/
def filterIn (s : LoggingSettings) (env : Environment) : Except FilterError LogFilter :=
  match env filterVariable with
  | none => LogFilter.read s.filter
  | some text =>
    match LogFilter.read text with
    | .error .malformed => LogFilter.read s.filter
    | outcome => outcome

/-- The target of the event about the completed setup. -/
def setupTarget : String := "user_agent_metrics::observability"

/-- The fields of that event. -/
def setupFields : List String := ["message", "log_format", "log_filter"]

/-- The verbosity it takes to print that event. -/
def setupVerbosity : Verbosity := 3

/-- Sets logging up in a process where it may be set up already: the line that is printed about
it, if any. -/
def start (s : LoggingSettings) (env : Environment) (installed : Bool) :
    Except LoggingError (Option SetupLine) :=
  match s.filterIn env with
  | .error e => .error (.filter e)
  | .ok f =>
    if installed then .error .subscriber
    else if f.enables setupTarget setupFields setupVerbosity then
      .ok (some ⟨s.format = .json, s.location && s.format != .compact⟩)
    else .ok none

end LoggingSettings

end ClientCounters
