/-
# Directives of log filters

A directive says how much is printed.  It gives a level, a target, or a target with a level, as in
`shop=debug`; it may be limited to a span and to a field, which stand in brackets behind the
target, as in `shop[checkout{customer}]=debug`.

A directive is read without the white space around it, but the places of its parts are counted
from the first character that is not blank, and the parts are then cut out of the whole text at
these places.  So white space behind a level makes it unreadable, and white space in front shifts
every part.
-/
import ClientCounters.Decimal.Natural
import ClientCounters.Logging.Regex
import ClientCounters.Text.IgnoreCase
import ClientCounters.Text.Offset

namespace ClientCounters

/-- How much a directive lets through: nothing at 0, errors at 1, up to everything at 5. -/
abbrev Verbosity := Nat

namespace Verbosity

/-- Everything. -/
def all : Verbosity := 5

/-- The verbosities by name. -/
def names : List (String × Verbosity) :=
  [("off", 0), ("error", 1), ("warn", 2), ("info", 3), ("debug", 4), ("trace", 5)]

/-- The verbosity that a word or a number names. -/
def read? (s : String) : Option Verbosity :=
  ((Decimal.readWord? s.toList).filter (· ≤ all)).or
    ((names.find? fun n => Text.sameIgnoringCase n.1 s).map (·.2))

end Verbosity

/-- Why a filter cannot be read. -/
inductive FilterError where
  /-- A directive is malformed. -/
  | malformed
  /-- A part of a directive would begin or end inside of a character. -/
  | splitCharacter
deriving DecidableEq, Repr

/-- A directive of a filter. -/
structure Directive where
  verbosity : Verbosity := .all
  /-- What the target of an event has to start with. -/
  target : Option String := none
  /-- The span an event has to be in. -/
  span : Option String := none
  /-- The fields an event has to have, and whether a value is asked for. -/
  fields : List (String × Bool) := []
deriving DecidableEq, Repr

namespace Directive

/-! ## Fields -/

/-- Whether some characters are digits with an optional fraction and exponent. -/
def isUnsigned (cs : List Char) : Bool :=
  let whole := cs.takeWhile Char.isDigit
  let (fraction, rest) :=
    match cs.dropWhile Char.isDigit with
    | '.' :: rest => (rest.takeWhile Char.isDigit, rest.dropWhile Char.isDigit)
    | rest => ([], rest)
  let exponent :=
    match rest with
    | 'e' :: '+' :: ds | 'E' :: '+' :: ds | 'e' :: '-' :: ds | 'E' :: '-' :: ds
    | 'e' :: ds | 'E' :: ds => (Decimal.readDigits? ds).isSome
    | rest => rest.isEmpty
  !(whole.isEmpty && fraction.isEmpty) && exponent

/-- The numbers that have names. -/
def namedNumbers : List String := ["inf", "infinity", "nan"]

/-- Whether some characters are a number behind a plus sign.  Without the sign a number is a
regular expression as well. -/
def isPlusNumber : List Char → Bool
  | '+' :: cs => isUnsigned cs || namedNumbers.any (Text.sameIgnoringCase · (String.ofList cs))
  | _ => false

/-- Whether a field can be asked to have this value: a number or a regular expression. -/
def isValue (cs : List Char) : Bool :=
  isPlusNumber cs || Regex.isValid cs

/-- The field that some characters ask for.  What stands between the first two equals signs is its
value, and what stands behind is ignored. -/
def field? (cs : List Char) : Option (String × Bool) :=
  match cs.splitOn '=' with
  | name :: value :: _ => if isValue value then some (String.ofList name, true) else none
  | _ => if cs.isEmpty then none else some (String.ofList cs, false)

/-! ## Reading -/

/-- Where the reader of a directive is; a part is known by the place where it began. -/
inductive Place where
  | start
  | levelOrTarget (first : Nat)
  | span (first : Nat)
  | field (first : Nat)
  | fieldEnd
  | spanEnd
  | level (first : Nat)
deriving DecidableEq, Repr

/-- Whether a target or level may begin with this character. -/
def mayStart (c : Char) : Bool :=
  c == '-' || c == ':' || c == '_' || Text.isLetterOrNumeral c

/-- The part of a text between two places. -/
def part (text : List Char) (first last : Nat) : Except FilterError (List Char) :=
  match Text.between? first last text with
  | some cs => .ok cs
  | none => .error .splitCharacter

/-- The part of a text behind a place. -/
def partBehind (text : List Char) (first : Nat) : Except FilterError (List Char) :=
  match Text.behind? first text with
  | some cs => .ok cs
  | none => .error .splitCharacter

/-- Reads one more character, which stands at a place; the parts are cut from `text`. -/
def next (text : List Char) (d : Directive) (place : Place) (here : Nat) (c : Char) :
    Except FilterError (Directive × Place) :=
  match place with
  | .start =>
    if c = '[' then .ok (d, .span (here + 1))
    else if mayStart c then .ok (d, .levelOrTarget here)
    else .error .malformed
  | .levelOrTarget first => do
    if c = '=' then
      let target ← part text first here
      return ({ d with target := some (String.ofList target) }, .level (here + 1))
    else if c = '[' then
      let target ← part text first here
      return ({ d with target := some (String.ofList target) }, .span (here + 1))
    else return (d, place)
  | .span first => do
    if c = ']' then
      let span ← part text first here
      return ({ d with span := some (String.ofList span) }, .spanEnd)
    else if c = '\x7b' then
      let span ← part text first here
      return ({ d with span := if span.isEmpty then none else some (String.ofList span) },
        .field (here + 1))
    else return (d, place)
  | .field first => do
    if c = '\x7d' then
      match field? (← part text first here) with
      | some f => return ({ d with fields := d.fields ++ [f] }, .fieldEnd)
      | none => throw .malformed
    else return (d, place)
  | .fieldEnd => if c = ']' then .ok (d, .spanEnd) else .error .malformed
  | .spanEnd => if c = '=' then .ok (d, .level (here + 1)) else .error .malformed
  | .level _ => .ok (d, place)

/-- The directive when its text ends at a place. -/
def finish (text : List Char) (d : Directive) : Place → Except FilterError Directive
  | .levelOrTarget first => do
    let s := String.ofList (← partBehind text first)
    match Verbosity.read? s with
    | some v => return { d with verbosity := v }
    | none => return { d with target := some s }
  | .level first => do
    let cs ← partBehind text first
    if cs.isEmpty then return d
    else
      match Verbosity.read? (String.ofList cs) with
      | some v => return { d with verbosity := v }
      | none => throw .malformed
  | .spanEnd => .ok d
  | _ => .error .malformed

/-- Reads a directive from some place on. -/
def readFrom (text : List Char) (d : Directive) (place : Place) (here : Nat) :
    List Char → Except FilterError Directive
  | [] => d.finish text place
  | c :: cs => do
    let (d, place) ← d.next text place here c
    readFrom text d place (here + c.utf8Size) cs

/-- The directive that some characters spell. -/
def read (text : List Char) : Except FilterError Directive :=
  readFrom text {} .start 0 (Text.trimChars text)

/-! ## Applying -/

/-- Whether a directive can apply to events outside of all spans. -/
def isStatic (d : Directive) : Bool :=
  d.span.isNone && d.fields.all (!·.2)

/-- Whether a directive applies to events with a target and fields. -/
def appliesTo (d : Directive) (target : String) (fields : List String) : Bool :=
  (match d.target with
    | some t => t.toList.isPrefixOf target.toList
    | none => true) &&
  d.fields.all fun f => fields.contains f.1

/-- The length of the target, none being shorter than any. -/
def targetLength (d : Directive) : Nat :=
  match d.target with
  | some t => t.utf8ByteSize + 1
  | none => 0

/-- Whether a directive is at least as specific as another that applies to the same event: first
the length of the target counts, then the number of fields, then their names in the order of the
alphabet. -/
def atLeast (d e : Directive) : Bool :=
  if d.targetLength != e.targetLength then e.targetLength < d.targetLength
  else if d.fields.length != e.fields.length then e.fields.length < d.fields.length
  else !(d.fields.map (·.1)).lex (e.fields.map (·.1)) fun a b => decide (a < b)

end Directive

end ClientCounters
