/-
# Header fields

Names and methods are made of token characters.  A value is a row of bytes without controls; it
counts as text when all of its bytes are visible ASCII, spaces or tabs.
-/
namespace ClientCounters.Http

/-- Whether method names and header names are made of this character. -/
def isTokenChar (c : Char) : Bool :=
  c.isAlphanum || "!#$%&'*+-.^_\x60|~".toList.contains c

/-- Whether a text is a token: one or more token characters. -/
def isToken (s : String) : Bool :=
  !s.isEmpty && s.toList.all isTokenChar

/-- The greatest length of a header name. -/
def maxNameLength : Nat := 65535

/-- Whether a text is a header name. -/
def isHeaderName (s : String) : Bool :=
  isToken s && s.utf8ByteSize ≤ maxNameLength

/-- Whether header values may hold this byte. -/
def isValueByte (b : UInt8) : Bool :=
  b == 0x09 || (0x20 ≤ b && b != 0x7F)

/-- Whether a byte of a header value is a character of text. -/
def isTextByte (b : UInt8) : Bool :=
  b == 0x09 || (0x20 ≤ b && b ≤ 0x7E)

/-- A header field. -/
structure Field where
  name : String
  value : List UInt8
deriving DecidableEq, Repr

namespace Field

/-- Whether a name and a value make a header field. -/
def isValid (f : Field) : Bool :=
  isHeaderName f.name && f.value.all isValueByte

/-- The value of a field as text, if it is text. -/
def text? (f : Field) : Option String :=
  if f.value.all isTextByte then some (String.ofList (f.value.map fun b => Char.ofNat b.toNat))
  else none

end Field

end ClientCounters.Http
