/-
# Settings from the environment

Variables set the keys, the namespace, the header, the capacity and the time limit.  A variable
that is missing, blank or unreadable leaves the default.
-/
import ClientCounters.Capacity
import ClientCounters.Settings.Basic

namespace ClientCounters

/-- The variables of the environment that hold text. -/
abbrev Environment := String → Option String

namespace Environment

/-- The environment of some variables given by bytes; one that is not valid UTF-8 counts as
missing, and later ones replace earlier ones. -/
def ofBytes (settings : List (String × ByteArray)) : Environment :=
  fun name => (settings.reverse.lookup name).bind String.fromUTF8?

end Environment

namespace Settings

/-- The keys in a text that separates them by commas; blank ones are no keys. -/
def keysOfText (s : String) : List String :=
  ((s.toList.splitOn ',').map Text.trimChars).filterMap fun key =>
    if key.isEmpty then none else some (String.ofList key)

/-- A text that is not blank. -/
def filled (s : Option String) : Option String :=
  s.filter (!Text.isBlankText ·)

/-- The settings that an environment makes. -/
def ofEnvironment (env : Environment) : Settings :=
  let default : Settings := {}
  { keys := ((env "USER_AGENT_METRIC_KEYS").map keysOfText).getD []
    space := (filled (env "USER_AGENT_METRIC_PREFIX")).getD default.space
    headerName := (filled (env "USER_AGENT_HEADER")).getD default.headerName
    capacity := ((env "USER_AGENT_CACHE_CAPACITY").bind Capacity.read?).getD default.capacity
    parseTimeout := (env "USER_AGENT_PARSE_TIMEOUT").bind Duration.read? }

end Settings

end ClientCounters
