/-
# What is logged

Nothing that goes wrong while counting reaches the request; it is logged instead.  An event has a
level, a message and named fields with their printed values.
-/
import ClientCounters.Error
import ClientCounters.Text.Quoted

namespace ClientCounters

/-- How important an event is. -/
inductive LogLevel where
  | trace
  | debug
  | info
  | warn
deriving DecidableEq, Repr

namespace LogLevel

/-- The word for a level. -/
def name : LogLevel → String
  | trace => "TRACE"
  | debug => "DEBUG"
  | info => "INFO"
  | warn => "WARN"

end LogLevel

/-- The namespace of the counters unless another is set. -/
def defaultSpace : String := "user-agent"

/-- Something worth logging. -/
inductive LogEvent where
  /-- The least recently used entry made room for another. -/
  | evicted (userAgent : String)
  /-- An entry was dropped because its parse failed. -/
  | discarded (error : ParseError)
  /-- A message that is no HTTP request was not counted. -/
  | notHttp
  /-- A request without identification was not counted. -/
  | missingHeader (header : String)
  /-- A request was not counted because its client could not be identified. -/
  | parseFailed (error : ParseError) (userAgent : String)
  /-- A key gave no counter for a request. -/
  | keySkipped (key : String) (error : ResolutionError)
  /-- The parser crashed; the request goes on. -/
  | recordingCrashed
  /-- The blank namespace was replaced. -/
  | blankSpaceReplaced
  /-- The capacity 0 was replaced. -/
  | zeroCapacityReplaced
  /-- A key does not compile. -/
  | invalidKey (key : String) (error : ResolutionError)
  /-- Counting starts. -/
  | initialized (keys : List String) (header space : String) (capacity : Nat)
  /-- Counting ends. -/
  | shutDown (hits misses parses failures : Nat)
deriving DecidableEq, Repr

namespace LogEvent

/-- The level of an event. -/
def level : LogEvent → LogLevel
  | evicted _ | discarded _ | notHttp | missingHeader _ => .trace
  | parseFailed _ _ | keySkipped _ _ => .debug
  | initialized .. | shutDown .. => .info
  | recordingCrashed | blankSpaceReplaced | zeroCapacityReplaced | invalidKey _ _ => .warn

/-- The message of an event. -/
def message : LogEvent → String
  | evicted _ => "Evicted descriptor"
  | discarded _ => "Descriptor slot discarded after failed parse"
  | notHttp => "Skipping user agent metrics for non-HTTP request"
  | missingHeader _ => "No client identification header"
  | parseFailed _ _ => "Could not parse user agent, no metrics emitted"
  | keySkipped _ _ => "Skipping metric key"
  | recordingCrashed => "User agent metrics recording panicked; request continues"
  | blankSpaceReplaced => "Empty metric prefix, using " ++ defaultSpace
  | zeroCapacityReplaced => "Cache capacity 0 is not usable, using 1"
  | invalidKey _ _ => "Invalid metric key will never emit"
  | initialized .. => "User agent metrics initialized"
  | shutDown .. => "User agent metrics shut down"

/-- The fields of an event besides the message, with their printed values. -/
def fields : LogEvent → List (String × String)
  | evicted userAgent => [("user_agent", userAgent)]
  | discarded error => [("error", error.message)]
  | missingHeader header => [("header", header)]
  | parseFailed error userAgent => [("error", error.message), ("user_agent", userAgent)]
  | keySkipped key error | invalidKey key error => [("key", key), ("error", error.message)]
  | initialized keys header space capacity =>
    [("keys", Text.quotedList keys), ("header", header), ("prefix", space),
      ("cache_capacity", toString capacity)]
  | shutDown hits misses parses failures =>
    [("hits", toString hits), ("misses", toString misses), ("parses", toString parses),
      ("failures", toString failures)]
  | notHttp | recordingCrashed | blankSpaceReplaced | zeroCapacityReplaced => []

end LogEvent

end ClientCounters
