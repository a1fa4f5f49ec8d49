/-
# Regular expressions in log filters

A field of a log filter may ask for a value by a regular expression.  Whether a text is one is
all that is told here; what it matches is not.  A filter ends the value at the first closing
brace, comma or equals sign, so that no construct with a closing brace is ever complete: an
opening brace that stands for itself is written behind a backslash or in a set.

The reader keeps the height of what it has read, since expressions may be nested to a limit only.
-/
import ClientCounters.Text.Blank
import ClientCounters.Text.Hexadecimal
import ClientCounters.Text.Letter

namespace ClientCounters.Regex

/-- The flags that bear on what may be written. -/
structure Modes where
  /-- Whether white space and comments are passed over. -/
  verbose : Bool := false
  /-- Whether classes are those of all characters; if not, those of ASCII, and nothing may match
  a part of a longer character. -/
  unicode : Bool := true
deriving DecidableEq, Repr

/-- The rest behind white space and comments; `comment` says that a comment has begun. -/
def skipBlanks (comment : Bool) : List Char → List Char
  | [] => []
  | c :: cs =>
    if comment then skipBlanks (c != '\n') cs
    else if Text.isBlank c then skipBlanks false cs
    else if c = '#' then skipBlanks true cs
    else c :: cs

namespace Modes

/-- The rest behind what is passed over. -/
def skip (m : Modes) (cs : List Char) : List Char :=
  if m.verbose then skipBlanks false cs else cs

/-- The character behind the one in front, when looked at from a set.  Of a comment only the
mark is passed over. -/
def peek? (m : Modes) (cs : List Char) : Option Char :=
  if m.verbose then
    match cs.dropWhile Text.isBlank with
    | '#' :: rest => (rest.dropWhile Text.isBlank).head?
    | rest => rest.head?
  else cs.head?

/-- What some flags make of a mode that one of them sets; those behind a minus sign unset it. -/
def flagged (flags : List Char) (flag : Char) (old : Bool) : Bool :=
  if (flags.takeWhile (· != '-')).contains flag then true
  else if flags.contains flag then false
  else old

/-- The modes under some flags. -/
def withFlags (m : Modes) (flags : List Char) : Modes :=
  ⟨flagged flags 'x' m.verbose, flagged flags 'u' m.unicode⟩

end Modes

/-! ## Escapes -/

/-- What an escape stands for. -/
inductive Escape where
  | char (c : Char)
  /-- A class of characters. -/
  | set
  /-- A place, such as the start of the text. -/
  | place
deriving DecidableEq, Repr

namespace Escape

/-- Some hexadecimal digits, with what is passed over between them, and the rest. -/
def hexDigits? (m : Modes) : Nat → List Char → Option (List Char × List Char)
  | 0, cs => some ([], cs)
  | n + 1, cs =>
    match m.skip cs with
    | [] => none
    | c :: rest => (hexDigits? m n rest).map fun (digits, rest) => (c :: digits, rest)

/-- The character given by so many hexadecimal digits.  A byte beyond ASCII is a part of a
character. -/
def ofHex? (m : Modes) (count : Nat) (cs : List Char) : Option (Escape × List Char) := do
  let (digits, rest) ← hexDigits? m count cs
  let n ← Text.hexNumber? digits
  guard n.isValidChar
  guard (m.unicode || count != 2 || n < 0x80)
  return (.char (Char.ofNat n), rest)

/-- The letters that name the general categories of characters. -/
def categories : List Char := "CLMNPSZclmnpsz".toList

/-- The category that the letter at the front names. -/
def ofCategory? (m : Modes) (cs : List Char) : Option (Escape × List Char) :=
  match m.skip cs with
  | [] => none
  | c :: rest => if m.unicode && categories.contains c then some (.set, rest) else none

/-- The characters with a letter as their escape. -/
def controls : List (Char × Char) :=
  [('a', '\x07'), ('f', '\x0c'), ('t', '\t'), ('n', '\n'), ('r', '\r'), ('v', '\x0b')]

/-- The escape behind a backslash, and the rest.  The complements of classes hold characters
beyond ASCII, and the ends of words are told apart in ASCII only. -/
def read? (m : Modes) : List Char → Option (Escape × List Char)
  | [] => none
  | c :: rest =>
    if c = 'x' then ofHex? m 2 rest
    else if c = 'u' then ofHex? m 4 rest
    else if c = 'U' then ofHex? m 8 rest
    else if c = 'p' || c = 'P' then ofCategory? m rest
    else if "dsw".toList.contains c then some (.set, rest)
    else if "DSW".toList.contains c then if m.unicode then some (.set, rest) else none
    else if "bB<>".toList.contains c then if m.unicode then none else some (.place, rest)
    else if c = 'A' || c = 'z' then some (.place, rest)
    else
      match controls.lookup c with
      | some d => some (.char d, rest)
      | none => if c.toNat < 0x80 && !c.isAlphanum then some (.char c, rest) else none

end Escape

/-! ## Sets of characters -/

/-- A set in brackets that is not closed yet. -/
structure OpenSet where
  /-- Whether no more than dashes was read, which stand for themselves here. -/
  fresh : Bool := true
  /-- The heights of the members since the last operator. -/
  members : List Nat := []
  /-- The height of what stands before that operator. -/
  left : Option Nat := none
deriving DecidableEq, Repr

namespace OpenSet

/-- The set with one more member. -/
def add (s : OpenSet) (height : Nat) : OpenSet :=
  { s with members := height :: s.members }

/-- The height of some things in a row. -/
def heightOf : List Nat → Nat
  | [] => 0
  | [h] => h
  | h :: hs => 1 + hs.foldl max h

/-- The height of the content. -/
def height (s : OpenSet) : Nat :=
  match s.left with
  | none => heightOf s.members
  | some l => 1 + max l (heightOf s.members)

/-- The set behind an operator. -/
def operate (s : OpenSet) : OpenSet where
  fresh := false
  left := some s.height

/-- A set behind its opening bracket, and the rest. -/
def read? (m : Modes) (cs : List Char) : Option (OpenSet × List Char) :=
  match m.skip cs with
  | '^' :: rest => if m.unicode then some ({}, rest) else none
  | rest => some ({}, rest)

/-- The classes that have a name. -/
def classNames : List String :=
  ["alnum", "alpha", "ascii", "blank", "cntrl", "digit", "graph", "lower", "print", "punct",
    "space", "upper", "word", "xdigit"]

/-- The class with a name such as `[:alpha:]` behind its opening bracket: whether it is the
complement, and the rest. -/
def namedClass? : List Char → Option (Bool × List Char)
  | ':' :: cs =>
    let (complement, cs) :=
      match cs with
      | '^' :: rest => (true, rest)
      | rest => (false, rest)
    match cs.dropWhile (· != ':') with
    | ':' :: ']' :: rest =>
      if classNames.contains (String.ofList (cs.takeWhile (· != ':'))) then
        some (complement, rest)
      else none
    | _ => none
  | _ => none

/-- A member at the front, and the rest. -/
def member? (m : Modes) : List Char → Option (Escape × List Char)
  | [] => none
  | '\\' :: cs => Escape.read? m cs
  | c :: cs => some (.char c, cs)

/-- Whether an escape can be a member: places cannot, and a set of bytes has no characters beyond
ASCII. -/
def isMember (m : Modes) : Escape → Bool
  | .char c => m.unicode || c.toNat < 0x80
  | .set => true
  | .place => false

/-- The rest behind the member or range at the front.  A dash makes a range unless it is the last
member or one of the two of an operator; the ends of a range are characters in ascending order. -/
def range? (m : Modes) (cs : List Char) : Option (List Char) := do
  let (first, cs) ← member? m cs
  guard (isMember m first)
  match m.skip cs with
  | '-' :: rest =>
    if m.peek? rest == some ']' || m.peek? rest == some '-' then return '-' :: rest
    else
      let (last, rest) ← member? m (m.skip rest)
      guard (isMember m last)
      match first, last with
      | .char c, .char d => if c ≤ d then return rest else none
      | _, _ => none
  | rest => return rest

/-- The height of a set and what follows it; `outer` are the sets around it, innermost first. -/
def readWithin? (m : Modes) : (fuel : Nat) → (outer : List OpenSet) → OpenSet → List Char →
    Option (Nat × List Char)
  | 0, _, _, _ => none
  | fuel + 1, outer, s, cs =>
    let settled := { s with fresh := false }
    match m.skip cs with
    | [] => none
    | c :: rest =>
      if s.fresh && c = '-' then readWithin? m fuel outer (s.add 0) rest
      else if s.fresh && s.members.isEmpty && c = ']' then
        readWithin? m fuel outer (settled.add 0) rest
      else if c = '[' then
        match namedClass? rest with
        | some (complement, rest) =>
          if complement && !m.unicode then none
          else readWithin? m fuel outer (settled.add 0) rest
        | none =>
          match read? m rest with
          | some (inner, rest) => readWithin? m fuel (settled :: outer) inner rest
          | none => none
      else if c = ']' then
        match outer with
        | [] => some (1 + s.height, rest)
        | o :: outer => readWithin? m fuel outer (o.add (1 + s.height)) rest
      else if (c = '&' || c = '-' || c = '~') && rest.head? == some c then
        readWithin? m fuel outer settled.operate rest.tail
      else
        match range? m (c :: rest) with
        | some rest => readWithin? m fuel outer (settled.add 0) rest
        | none => none

end OpenSet

/-! ## Groups -/

/-- How a group begins. -/
inductive GroupStart where
  /-- Flags for what is left of the group around, such as `(?x)`. -/
  | flags (flags : List Char)
  /-- A group under some flags. -/
  | plain (flags : List Char)
  /-- A group with a name. -/
  | named (name : List Char)
deriving DecidableEq, Repr

namespace GroupStart

/-- Flags up to a colon or a closing bracket, which comes with them, and the rest.  `seen` are the
flags so far, last first; none may repeat, and a minus sign has to have flags behind it. -/
def flags? (seen : List Char) : List Char → Option (List Char × Char × List Char)
  | [] => none
  | c :: cs =>
    if c = ':' || c = ')' then
      if seen.head? == some '-' then none else some (seen.reverse, c, cs)
    else if "-imsUuRx".toList.contains c && !seen.contains c then flags? (c :: seen) cs
    else none

/-- Whether a name may go on with a character. -/
def isNameChar (c : Char) : Bool :=
  c == '_' || c == '.' || c == '[' || c == ']' || Text.isLetterOrNumeral c

/-- Whether some characters are a name. -/
def isName : List Char → Bool
  | [] => false
  | c :: cs => (c == '_' || Text.isLetter c) && cs.all isNameChar

/-- The name up to a closing angle, and the rest. -/
def name? (cs : List Char) : Option (GroupStart × List Char) :=
  match cs.dropWhile (· != '>') with
  | _ :: rest =>
    let name := cs.takeWhile (· != '>')
    if isName name then some (.named name, rest) else none
  | [] => none

/-- The start of a group behind its opening bracket, and the rest.  Looking ahead and looking
behind are not supported: an exclamation mark is neither flag nor name. -/
def read? (m : Modes) (cs : List Char) : Option (GroupStart × List Char) :=
  match m.skip cs with
  | '?' :: 'P' :: '<' :: rest => name? rest
  | '?' :: '<' :: rest => name? rest
  | '?' :: rest =>
    match flags? [] rest with
    | some (fs, ':', rest) => some (.plain fs, rest)
    | some (fs, _, rest) => if fs.isEmpty then none else some (.flags fs, rest)
    | none => none
  | rest => some (.plain [], rest)

end GroupStart

/-! ## Expressions -/

/-- A group that is not closed yet. -/
structure OpenGroup where
  /-- The modes in force around it. -/
  outerModes : Modes := {}
  /-- The heights of the finished alternatives. -/
  alternatives : List Nat := []
  /-- The heights of the pieces of the last alternative, last first; flags have none. -/
  pieces : List (Option Nat) := []
deriving DecidableEq, Repr

namespace OpenGroup

/-- The group with one more piece. -/
def add (g : OpenGroup) (piece : Option Nat) : OpenGroup :=
  { g with pieces := piece :: g.pieces }

/-- The height of the last alternative. -/
def lastHeight (g : OpenGroup) : Nat :=
  OpenSet.heightOf (g.pieces.map (·.getD 0))

/-- The group behind a bar. -/
def alternate (g : OpenGroup) : OpenGroup :=
  { g with alternatives := g.lastHeight :: g.alternatives, pieces := [] }

/-- The height of the content. -/
def height (g : OpenGroup) : Nat :=
  if g.alternatives.isEmpty then g.lastHeight
  else 1 + g.alternatives.foldl max g.lastHeight

/-- The group with its last piece repeated, if there is one and it is no flags. -/
def repeat? (g : OpenGroup) : Option OpenGroup :=
  match g.pieces with
  | some h :: pieces => some { g with pieces := some (1 + h) :: pieces }
  | _ => none

end OpenGroup

/-- The state of the reader. -/
structure Reader where
  modes : Modes := {}
  /-- The group that is being read, or the whole expression. -/
  current : OpenGroup := {}
  /-- The groups around it, innermost first. -/
  outer : List OpenGroup := []
  /-- The names of groups so far. -/
  names : List (List Char) := []
deriving DecidableEq, Repr

namespace Reader

/-- The reader behind one more piece of the group. -/
def add (r : Reader) (piece : Option Nat) : Reader :=
  { r with current := r.current.add piece }

/-- The reader behind the start of a group. -/
def enter (r : Reader) (flags : List Char) : Reader :=
  { r with
    modes := r.modes.withFlags flags
    current := { outerModes := r.modes }
    outer := r.current :: r.outer }

/-- The reader behind the end of a group, if one is open. -/
def leave? (r : Reader) : Option Reader :=
  match r.outer with
  | [] => none
  | o :: outer =>
    some { r with
      modes := r.current.outerModes
      current := o.add (some (1 + r.current.height))
      outer }

/-- Reads what begins with `c`, and gives the rest. -/
def next? (r : Reader) (c : Char) (cs : List Char) : Option (Reader × List Char) :=
  match c with
  | '(' =>
    match GroupStart.read? r.modes cs with
    | some (.flags flags, rest) =>
      some ({ r.add none with modes := r.modes.withFlags flags }, rest)
    | some (.plain flags, rest) => some (r.enter flags, rest)
    | some (.named name, rest) =>
      if r.names.contains name then none
      else some ({ r.enter [] with names := name :: r.names }, rest)
    | none => none
  | ')' => r.leave?.map (·, cs)
  | '|' => some ({ r with current := r.current.alternate }, cs)
  | '[' => do
    let (s, rest) ← OpenSet.read? r.modes cs
    let (height, rest) ← OpenSet.readWithin? r.modes (rest.length + 1) [] s rest
    return (r.add (some height), rest)
  | '?' | '*' | '+' =>
    r.current.repeat?.map fun current =>
      ({ r with current },
        match cs with
        | '?' :: rest => rest
        | _ => cs)
  | '\x7b' => none
  | '\\' => (Escape.read? r.modes cs).map fun (_, rest) => (r.add (some 0), rest)
  | '.' => if r.modes.unicode then some (r.add (some 0), cs) else none
  | _ => some (r.add (some 0), cs)

/-- The deepest nesting allowed. -/
def maxHeight : Nat := 250

/-- Whether an expression may end here. -/
def mayEnd (r : Reader) : Bool :=
  r.outer.isEmpty && r.current.height ≤ maxHeight

/-- Whether the reader gets to the end of a text in `fuel` steps. -/
def acceptsWithin : (fuel : Nat) → Reader → List Char → Bool
  | 0, _, _ => false
  | fuel + 1, r, cs =>
    match r.modes.skip cs with
    | [] => r.mayEnd
    | c :: rest =>
      match r.next? c rest with
      | some (r, rest) => acceptsWithin fuel r rest
      | none => false

end Reader

/-- Whether some characters form a regular expression.  Every step of the reader takes at least
one of them. -/
def isValid (cs : List Char) : Bool :=
  Reader.acceptsWithin (cs.length + 1) {} cs

end ClientCounters.Regex
