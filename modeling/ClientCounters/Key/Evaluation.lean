/-
# Evaluating key expressions

The value of an expression is the concatenation of its terms' values, from left to right.  The
first term without a value decides the error, and no component behind it is looked up.
-/
import ClientCounters.Client.Attribute
import ClientCounters.Component
import ClientCounters.Http.Request
import ClientCounters.Key.Reading

namespace ClientCounters

/-- What an expression is evaluated against, components apart. -/
structure ResolutionContext where
  descriptor : Descriptor
  request : Http.View

namespace RequestCall

/-- What a request answers to a call. -/
def value? (view : Http.View) : RequestCall → Option String
  | header name => view.header name
  | parameter name => view.parameter name
  | method => some view.method
  | requestUri => some view.path
  | queryString => view.query
  | scheme => view.scheme

end RequestCall

variable {σ : Type} [ComponentSource σ]

namespace Term

/-- The text of an attribute path. -/
def pathValue (d : Descriptor) (path : List String) : Except ResolutionError String :=
  match d.resolve path with
  | .ok v => .ok v.toString
  | .error segment => .error (.unknownAttribute (String.intercalate "." path) segment)

/-- The value of a term, and the components after it. -/
def evaluate (context : ResolutionContext) (components : σ) :
    Term → Except ResolutionError String × σ
  | descriptor path => (pathValue context.descriptor path, components)
  | request call =>
    (match call.value? context.request with
      | some v => .ok v
      | none => .error (.missingRequestValue call.text), components)
  | component name =>
    match ComponentSource.lookup components name with
    | (some v, after) => (.ok v, after)
    | (none, after) => (.error (.unknownComponent name), after)
  | literal text => (.ok text, components)

/-- The values of some terms in a row, up to the first that has none. -/
def evaluateAll (context : ResolutionContext) (components : σ) :
    List Term → Except ResolutionError String × σ
  | [] => (.ok "", components)
  | t :: ts =>
    match t.evaluate context components with
    | (.error e, after) => (.error e, after)
    | (.ok v, after) =>
      match evaluateAll context after ts with
      | (.error e, last) => (.error e, last)
      | (.ok rest, last) => (.ok (v ++ rest), last)

end Term

namespace KeyExpression

/-- The value of an expression, and the components after it. -/
def evaluate (e : KeyExpression) (context : ResolutionContext) (components : σ) :
    Except ResolutionError String × σ :=
  Term.evaluateAll context components e.terms

/-- Compiles an expression and evaluates it. -/
def resolve (source : String) (context : ResolutionContext) (components : σ) :
    Except ResolutionError String × σ :=
  match read source with
  | .ok e => e.evaluate context components
  | .error e => (.error e, components)

end KeyExpression

end ClientCounters
