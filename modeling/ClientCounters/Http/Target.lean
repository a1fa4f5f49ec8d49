/-
# Request targets

A request names its target by a path with an optional query (`/shop?item=1`), by an asterisk, by
an absolute address (`http://host/shop`), or by an authority alone (`host:80`).  A fragment is
dropped; nothing is decoded.
-/
import ClientCounters.Text.Cut
import ClientCounters.Text.IgnoreCase

namespace ClientCounters.Http

/-- What a request is sent to. -/
structure Target where
  /-- The scheme of an absolute address. -/
  scheme : Option String
  /-- The path; empty when the target is an authority alone. -/
  path : String
  /-- What stands behind the first question mark. -/
  query : Option String
deriving DecidableEq, Repr, Inhabited

namespace Target

/-- The greatest length of a target in bytes. -/
def maxLength : Nat := 65534

/-- The greatest length of a scheme. -/
def maxSchemeLength : Nat := 64

/-- Whether paths may hold this character. -/
def isPathChar (c : Char) : Bool :=
  0x80 ≤ c.toNat || c.isAlphanum || "!\"$%&'()*+,-./:;=@[\\]^_\x7b|\x7d~".toList.contains c

/-- Whether queries may hold this character. -/
def isQueryChar (c : Char) : Bool :=
  0x80 ≤ c.toNat || c.isAlphanum || "!$%&'()*+,-./:;=?@[\\]^_\x60\x7b|\x7d~".toList.contains c

/-- Whether schemes are made of this character. -/
def isSchemeChar (c : Char) : Bool :=
  c.isAlphanum || "+-.~".toList.contains c

/-- Whether an authority may hold this character. -/
def isAuthorityChar (c : Char) : Bool :=
  c.isAlphanum || "!$%&'()*+,-.:;=@[]_~".toList.contains c

/-- Whether an authority ends before this character. -/
def endsAuthority (c : Char) : Bool :=
  c == '/' || c == '?' || c == '#'

/-- The path and the query of a text whose fragment is already dropped. -/
def pathAndQuery? (scheme : Option String) (cs : List Char) : Option Target :=
  let (path, query) :=
    match Text.cut? '?' cs with
    | some (path, query) => (path, some query)
    | none => (cs, none)
  if path.all isPathChar && (query.getD []).all isQueryChar then
    some {
      scheme
      path := if path.isEmpty then "/" else String.ofList path
      query := query.map String.ofList }
  else none

/-- The text before a fragment. -/
def withoutFragment (cs : List Char) : List Char :=
  cs.takeWhile (· != '#')

/-- The scheme in front of `://`, as it is known, and the text behind. -/
def scheme? (cs : List Char) : Option (String × List Char) :=
  let name := cs.takeWhile isSchemeChar
  ("://".toList.isPrefixOf? (cs.dropWhile isSchemeChar)).map fun rest =>
    let known := Text.asciiLower (String.ofList name)
    if known == "http".toList || known == "https".toList then (String.ofList known, rest)
    else (String.ofList name, rest)

/-- What is known of an authority after some of its characters. -/
structure AuthorityScan where
  /-- The colons that may introduce a port. -/
  colons : Nat := 0
  /-- Whether a bracket was opened. -/
  opened : Bool := false
  /-- Whether it was closed. -/
  closed : Bool := false
  /-- Whether a percent sign stands outside the parts that allow it. -/
  percent : Bool := false
  /-- Whether the last character was an at sign. -/
  endsInAt : Bool := false
deriving DecidableEq, Repr

namespace AuthorityScan

/-- The most colons an authority may have in a row of parts. -/
def maxColons : Nat := 8

/-- Reads one more character; `none` if it cannot stand there. -/
def next? (a : AuthorityScan) (c : Char) : Option AuthorityScan :=
  if !isAuthorityChar c then none
  else if c = ':' then
    if maxColons ≤ a.colons then none
    else some { a with colons := a.colons + 1, endsInAt := false }
  else if c = '[' then
    if a.percent || a.opened then none else some { a with opened := true, endsInAt := false }
  else if c = ']' then
    if !a.opened || a.closed then none
    else some { a with closed := true, colons := 0, percent := false, endsInAt := false }
  else if c = '@' then some { a with colons := 0, percent := false, endsInAt := true }
  else if c = '%' then some { a with percent := true, endsInAt := false }
  else some { a with endsInAt := false }

/-- Whether an authority may end here. -/
def mayEnd (a : AuthorityScan) : Bool :=
  a.opened == a.closed && a.colons ≤ 1 && !a.endsInAt && !a.percent

end AuthorityScan

/-- Whether some characters form an authority: a host with an optional port and user. -/
def isAuthority (cs : List Char) : Bool :=
  match cs.foldlM AuthorityScan.next? {} with
  | some a => a.mayEnd
  | none => false

/-- The target that a text names. -/
def read? (s : String) : Option Target :=
  if maxLength < s.utf8ByteSize then none
  else
    match s.toList with
    | [] => none
    | ['*'] => some ⟨none, "*", none⟩
    | '/' :: rest => pathAndQuery? none (withoutFragment ('/' :: rest))
    | cs =>
      match scheme? cs with
      | some (scheme, rest) =>
        let authority := rest.takeWhile (!endsAuthority ·)
        let behind := rest.dropWhile (!endsAuthority ·)
        if scheme.isEmpty || maxSchemeLength < scheme.length then none
        else if authority.isEmpty || !isAuthority authority then none
        else pathAndQuery? (some scheme) (withoutFragment behind)
      | none => if isAuthority cs then some ⟨none, "", none⟩ else none

end Target

end ClientCounters.Http
