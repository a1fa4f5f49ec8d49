/-
# Errors

Why a client could not be identified, why a key could not be resolved, and why settings are
refused.  Each cause has one constructor with the data it is about; the wording is in the
`message` functions.
-/
import ClientCounters.Duration

namespace ClientCounters

/-- Why an identification text gave no descriptor. -/
inductive ParseError where
  /-- The text is blank. -/
  | empty
  /-- Nothing in the text names a client. -/
  | unrecognized (input : String)
  /-- No answer came in time. -/
  | timeout (limit : Duration)
  /-- The parser gave up for a reason of its own. -/
  | parser (reason : String)
deriving DecidableEq, Repr

/-- Why a key expression gave no value. -/
inductive ResolutionError where
  /-- The expression is of no supported form. -/
  | unsupportedGrammar (expression : String)
  /-- A name in an attribute path leads nowhere. -/
  | unknownAttribute (path segment : String)
  /-- There is no such request method. -/
  | unknownMethod (method : String)
  /-- A request method is called with the wrong arguments. -/
  | invalidCall (call reason : String)
  /-- The request has no such value. -/
  | missingRequestValue (call : String)
  /-- There is no component of this name. -/
  | unknownComponent (name : String)
  /-- The value is blank. -/
  | emptyValue (expression : String)
deriving DecidableEq, Repr

/-- Why settings are refused. -/
inductive SettingsError where
  /-- The namespace of the counters is blank. -/
  | blankNamespace
  /-- The header name is none. -/
  | invalidHeader (name : String)
  /-- The cache has no room. -/
  | zeroCapacity
  /-- A key does not compile. -/
  | invalidKey (index : Nat) (cause : ResolutionError)
deriving DecidableEq, Repr

namespace ParseError

/-- The text of a parse error. -/
def message : ParseError → String
  | empty => "user agent string is empty"
  | unrecognized input => "unrecognized user agent: " ++ input
  | timeout limit => "user agent parse timed out after " ++ limit.toString
  | parser reason => "user agent parser failed: " ++ reason

end ParseError

namespace ResolutionError

/-- The text of a resolution error. -/
def message : ResolutionError → String
  | unsupportedGrammar expression => "unsupported key expression: " ++ expression
  | unknownAttribute path segment =>
    "unknown attribute '" ++ segment ++ "' in path '" ++ path ++ "'"
  | unknownMethod method => "unknown request method '" ++ method ++ "'"
  | invalidCall call reason => "invalid call " ++ call ++ ": " ++ reason
  | missingRequestValue call => "request has no value for " ++ call
  | unknownComponent name => "no component named '" ++ name ++ "'"
  | emptyValue expression => "expression '" ++ expression ++ "' resolved to an empty value"

end ResolutionError

namespace SettingsError

/-- The text of a settings error. -/
def message : SettingsError → String
  | blankNamespace => "metric prefix must not be empty"
  | invalidHeader name => "invalid header name: " ++ name
  | zeroCapacity => "cache capacity must be at least 1"
  | invalidKey index cause =>
    "invalid key expression at index " ++ toString index ++ ": " ++ cause.message

end SettingsError

end ClientCounters
