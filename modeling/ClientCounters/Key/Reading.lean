/-
# Reading key expressions

An expression is cut at the plus signs outside quotes; every piece, white space around it apart,
is one term.  Faults are reported in a fixed order: first an open quote or an empty piece, then
the leftmost piece that is no term.
-/
import ClientCounters.Key.Expression
import ClientCounters.Text.Blank
import ClientCounters.Text.Cut

namespace ClientCounters.KeyExpression

/-- Whether a character opens and closes literals. -/
def isQuote (c : Char) : Bool :=
  c == '\'' || c == '"'

/-- Puts a character in front of the first piece. -/
def extend (c : Char) (ps : List (List Char)) : List (List Char) :=
  ps.modifyHead (c :: ·)

/-- The pieces between the plus signs outside quotes, `quote` being the quote that is open, if
any; nothing if a quote stays open. -/
def pieces? (quote : Option Char) : List Char → Option (List (List Char))
  | [] => if quote.isNone then some [[]] else none
  | c :: cs =>
    match quote with
    | some q => (pieces? (if c = q then none else some q) cs).map (extend c)
    | none =>
      if c = '+' then (pieces? none cs).map ([] :: ·)
      else (pieces? (if isQuote c then some c else none) cs).map (extend c)

/-- What stands between quotes of one kind that does not occur inside. -/
def quotedContent? : List Char → Option (List Char)
  | [] => none
  | q :: rest =>
    if isQuote q then ([q].isSuffixOf? rest).filter fun content => !content.contains q else none

/-- Whether a character may stand in an identifier. -/
def isIdentifierChar (c : Char) : Bool :=
  c.isAlphanum || c == '_'

/-- Whether some characters form an identifier. -/
def isIdentifier (cs : List Char) : Bool :=
  !cs.isEmpty && cs.all isIdentifierChar

/-- What is wrong with an argument that is no literal. -/
def notOneLiteral : String := "argument must be a single quoted string"

/-- The argument between the brackets of a call, white space around it dropped: none if nothing
stands there. -/
def readArgument (call inner : List Char) : Except ResolutionError (Option String) :=
  if inner.isEmpty then .ok none
  else
    match quotedContent? inner with
    | some content => .ok (some (String.ofList content))
    | none => .error (.invalidCall (String.ofList call) notOneLiteral)

/-- What is wrong with a call of a method that has the wrong number of arguments. -/
def wrongArity (m : RequestMethod) : String :=
  if m.takesArgument then "expects one argument" else "takes no arguments"

/-- A call on the current request, such as `getHeader('Accept')`. -/
def readCall (source : String) (call : List Char) : Except ResolutionError Term := do
  let some (name, rest) := Text.cut? '(' call | throw (.unsupportedGrammar source)
  let some inner := [')'].isSuffixOf? rest | throw (.unsupportedGrammar source)
  if !isIdentifier name then throw (.unsupportedGrammar source)
  let some m := RequestMethod.ofName? (String.ofList name)
    | throw (.unknownMethod (String.ofList name))
  let argument ← readArgument call (Text.trimChars inner)
  match RequestCall.make? m argument with
  | some c => return .request c
  | none => throw (.invalidCall (String.ofList call) (wrongArity m))

/-- A path of identifiers with dots between them. -/
def readPath? (cs : List Char) : Option (List String) :=
  let segments := cs.splitOn '.'
  if segments.all isIdentifier then some (segments.map String.ofList) else none

/-- The term that a piece of an expression spells. -/
def readTerm (source : String) (piece : List Char) : Except ResolutionError Term :=
  match quotedContent? piece with
  | some content => .ok (.literal (String.ofList content))
  | none =>
    match "#this.".toList.isPrefixOf? piece with
    | some path =>
      match readPath? path with
      | some segments => .ok (.descriptor segments)
      | none => .error (.unsupportedGrammar source)
    | none =>
      match "@currentRequest.".toList.isPrefixOf? piece with
      | some call => readCall source call
      | none =>
        match piece with
        | '@' :: c :: name => .ok (.component (String.ofList (c :: name)))
        | _ => .error (.unsupportedGrammar source)

/-- The pieces of an expression without the white space around them, if each holds something. -/
def operands? (source : String) : Option (List (List Char)) :=
  ((pieces? none source.toList).map (·.map Text.trimChars)).filter fun ps => !ps.contains []

/-- Compiles an expression. -/
def read (source : String) : Except ResolutionError KeyExpression :=
  match operands? source with
  | none => .error (.unsupportedGrammar source)
  | some ps => (ps.mapM (readTerm source)).map fun terms => ⟨source, terms⟩

end ClientCounters.KeyExpression
