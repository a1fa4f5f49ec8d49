/-
# Requests

What flows through a pipeline may or may not be an HTTP request.  Counting looks at a request
through a view of a few questions, so that any kind of request can be counted; `Request` is the
usual kind, with its header fields as bytes.
-/
import ClientCounters.Http.Field
import ClientCounters.Http.Query
import ClientCounters.Http.Target

namespace ClientCounters.Http

/-- The questions that counting asks of an HTTP request. -/
structure View where
  /-- The first value of a header, if it is text; the case of the name does not matter. -/
  header : String → Option String
  /-- The request method. -/
  method : String
  /-- The path without the query. -/
  path : String
  /-- The query as it was sent. -/
  query : Option String
  /-- The scheme of an absolute target. -/
  scheme : Option String

namespace View

/-- The value of a query parameter, the first one of that name. -/
def parameter (v : View) (name : String) : Option String :=
  v.query.bind fun query => (queryValue? query.toList name.toList).map String.ofList

/-- The view of a message whose header values are texts. -/
def ofTexts (headers : List (String × String)) (method path : String)
    (query scheme : Option String) : View where
  header := fun name => (headers.find? fun h => Text.sameIgnoringCase h.1 name).map (·.2)
  method := method
  path := path
  query := query
  scheme := scheme

end View

/-- Something that flows through a pipeline. -/
inductive Inbound where
  /-- A message that is no HTTP request. -/
  | other
  /-- An HTTP request. -/
  | http (view : View)

/-- An HTTP request without its body. -/
structure Request where
  method : String
  target : Target
  fields : List Field
deriving DecidableEq, Repr

namespace Request

/-- The request of a method, a target text and some header fields, if these are well formed. -/
def make? (method target : String) (fields : List Field) : Option Request :=
  if isToken method && fields.all Field.isValid then
    (Target.read? target).map fun t => ⟨method, t, fields⟩
  else none

/-- The first value of a header, if it is text. -/
def header? (r : Request) (name : String) : Option String :=
  (r.fields.find? fun f => Text.sameIgnoringCase f.name name).bind Field.text?

/-- The view of a request. -/
def view (r : Request) : View where
  header := r.header?
  method := r.method
  path := r.target.path
  query := r.target.query
  scheme := r.target.scheme

end Request

end ClientCounters.Http
