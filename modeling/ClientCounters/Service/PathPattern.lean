/-
# Path patterns

A pattern says which paths an endpoint answers.  Its characters stand for themselves; a name in
braces stands for one segment of the path, a name behind an asterisk for all that is left of it,
and a doubled brace for a brace.
-/
namespace ClientCounters

/-- A character of a written pattern. -/
structure PatternMark where
  char : Char
  /-- Whether it is a doubled brace. -/
  doubled : Bool := false
deriving DecidableEq, Repr

namespace PatternMark

/-- The brace that begins a name. -/
def opening : PatternMark := ⟨'\x7b', false⟩

/-- The brace that ends a name. -/
def closing : PatternMark := ⟨'\x7d', false⟩

/-- The marks of a text; doubled braces are paired from the left. -/
def ofChars : List Char → List PatternMark
  | [] => []
  | '\x7b' :: '\x7b' :: cs => ⟨'\x7b', true⟩ :: ofChars cs
  | '\x7d' :: '\x7d' :: cs => ⟨'\x7d', true⟩ :: ofChars cs
  | c :: cs => ⟨c, false⟩ :: ofChars cs

end PatternMark

/-- What a part of a pattern stands for. -/
inductive PathPart where
  /-- A character. -/
  | char (c : Char)
  /-- A segment of a path, which is not empty. -/
  | segment
  /-- The rest of a path, which is not empty. -/
  | rest
deriving DecidableEq, Repr

namespace PathPart

/-- Where the reader of a pattern is. -/
inductive Place where
  /-- Outside of names. -/
  | outside
  /-- Behind an opening brace. -/
  | opened
  /-- In a name: whether it began with an asterisk, and whether more than that was read. -/
  | name (starred more : Bool)
  /-- Behind a closing brace, after a name with or without an asterisk. -/
  | closed (starred : Bool)
deriving DecidableEq, Repr

/-- The parts from some place on.  A name takes up the end of its segment, and one with an
asterisk the end of the pattern. -/
def readFrom? (place : Place) : List PatternMark → Option (List PathPart)
  | [] =>
    match place with
    | .outside | .closed _ => some []
    | .opened | .name _ _ => none
  | m :: ms =>
    match place with
    | .outside =>
      if m = .closing then none
      else if m = .opening then readFrom? .opened ms
      else (readFrom? .outside ms).map (.char m.char :: ·)
    | .opened =>
      if m.char = PatternMark.closing.char then none
      else readFrom? (.name (m.char == '*') false) ms
    | .name starred more =>
      if m = .closing then
        if starred && !more then none
        else (readFrom? (.closed starred) ms).map ((if starred then .rest else .segment) :: ·)
      else if m.char = '*' || m.char = '/' then none
      else readFrom? (.name starred true) ms
    | .closed starred =>
      if starred || m.char != '/' then none
      else (readFrom? .outside ms).map (.char m.char :: ·)

/-- Whether a path is spelled by some parts. -/
def spell : List PathPart → List Char → Bool
  | [], path => path.isEmpty
  | .char c :: parts, path =>
    match path with
    | d :: path => c == d && spell parts path
    | [] => false
  | .segment :: parts, path =>
    !(path.takeWhile (· != '/')).isEmpty && spell parts (path.dropWhile (· != '/'))
  | .rest :: _, path => !path.isEmpty

end PathPart

/-- A pattern of paths. -/
structure PathPattern where
  parts : List PathPart
deriving DecidableEq, Repr

namespace PathPattern

/-- The most names for segments that a pattern may hold. -/
def maxSegments : Nat := 25

/-- Whether a segment of a written pattern begins in a way that is kept free. -/
def isReserved (segment : List Char) : Bool :=
  segment.head? == some ':' || segment.head? == some '*'

/-- The pattern that a text spells. -/
def read? (s : String) : Option PathPattern :=
  if s.toList.head? != some '/' || (s.toList.splitOn '/').any isReserved then none
  else
    ((PathPart.readFrom? .outside (PatternMark.ofChars s.toList)).filter fun parts =>
      parts.count .segment ≤ maxSegments).map PathPattern.mk

/-- Whether a pattern covers a path. -/
def covers (p : PathPattern) (path : String) : Bool :=
  PathPart.spell p.parts path.toList

/-- Whether a pattern stands for one path alone, and for this one. -/
def names (p : PathPattern) (path : String) : Bool :=
  p.parts == path.toList.map .char

end PathPattern

end ClientCounters
