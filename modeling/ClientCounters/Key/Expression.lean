/-
# Key expressions

A key expression says which text a counter is named for.  It is a row of terms whose values are
concatenated: attributes of the client, calls on the current request, named components and
literal texts.
-/
import ClientCounters.Error

namespace ClientCounters

/-- The questions about the current request. -/
inductive RequestMethod where
  | header
  | parameter
  | method
  | requestUri
  | queryString
  | scheme
deriving DecidableEq, Repr

namespace RequestMethod

/-- The name of a method as expressions write it. -/
def name : RequestMethod → String
  | header => "getHeader"
  | parameter => "getParameter"
  | method => "getMethod"
  | requestUri => "getRequestURI"
  | queryString => "getQueryString"
  | scheme => "getScheme"

/-- The method of a name. -/
def ofName? (s : String) : Option RequestMethod :=
  match s with
  | "getHeader" => some header
  | "getParameter" => some parameter
  | "getMethod" => some method
  | "getRequestURI" => some requestUri
  | "getQueryString" => some queryString
  | "getScheme" => some scheme
  | _ => none

/-- Whether a method is asked about something by name. -/
def takesArgument : RequestMethod → Bool
  | header | parameter => true
  | _ => false

theorem ofName?_name (m : RequestMethod) : ofName? m.name = some m := by
  cases m <;> rfl

theorem ofName?_eq_some_iff {s : String} {m : RequestMethod} :
    ofName? s = some m ↔ s = m.name := by
  constructor
  · intro h
    unfold ofName? at h
    split at h <;> simp_all [name] <;> subst h <;> rfl
  · rintro rfl
    exact ofName?_name m

end RequestMethod

/-- A call on the current request; the two methods that are asked by name carry it. -/
inductive RequestCall where
  | header (name : String)
  | parameter (name : String)
  | method
  | requestUri
  | queryString
  | scheme
deriving DecidableEq, Repr

namespace RequestCall

/-- The call of a method with or without an argument, if that is how the method is called. -/
def make? : RequestMethod → Option String → Option RequestCall
  | .header, some arg => some (header arg)
  | .parameter, some arg => some (parameter arg)
  | .method, none => some method
  | .requestUri, none => some requestUri
  | .queryString, none => some queryString
  | .scheme, none => some scheme
  | _, _ => none

/-- The method that is called. -/
def callee : RequestCall → RequestMethod
  | header _ => .header
  | parameter _ => .parameter
  | method => .method
  | requestUri => .requestUri
  | queryString => .queryString
  | scheme => .scheme

/-- The argument of the call. -/
def argument? : RequestCall → Option String
  | header name | parameter name => some name
  | _ => none

/-- The call as error texts show it. -/
def text (call : RequestCall) : String :=
  match call.argument? with
  | some arg => call.callee.name ++ "('" ++ arg ++ "')"
  | none => call.callee.name ++ "()"

theorem make?_eq_some_iff {m : RequestMethod} {arg : Option String} {call : RequestCall} :
    make? m arg = some call ↔ call.callee = m ∧ call.argument? = arg := by
  cases m <;> cases arg <;> cases call <;> simp [make?, callee, argument?, eq_comm]

end RequestCall

/-- One operand of a key expression. -/
inductive Term where
  /-- An attribute path on the client's descriptor. -/
  | descriptor (path : List String)
  /-- A call on the current request. -/
  | request (call : RequestCall)
  /-- A named component. -/
  | component (name : String)
  /-- A text that stands for itself. -/
  | literal (text : String)
deriving DecidableEq, Repr

/-- A compiled key expression. -/
structure KeyExpression where
  /-- The text it was compiled from. -/
  source : String
  /-- Its operands in order. -/
  terms : List Term
deriving DecidableEq, Repr

/-- The keys in force when none are set: the client's name, and its name with the major version. -/
def defaultKeys : List String :=
  ["#this.name", "#this.name + '.' + #this.majorVersion"]

end ClientCounters
