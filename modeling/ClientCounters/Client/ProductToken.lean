/-
# Product tokens

Clients identify themselves by tokens such as `Chrome/120.0`: a name that starts with a letter, a
slash and a version.  The tokens of a text are found from left to right and do not overlap.
-/
namespace ClientCounters

/-- A name and a version with a slash between them. -/
structure ProductToken where
  name : String
  version : String
deriving DecidableEq, Repr, Inhabited

namespace ProductToken

/-- Whether product names go on with this character; a name starts with a letter. -/
def isNameChar (c : Char) : Bool :=
  c.isAlphanum || c == '_' || c == '.' || c == '-'

/-- Whether versions are made of this character. -/
def isVersionChar (c : Char) : Bool :=
  c.isAlphanum || c == '_' || c == '.'

/-- The version behind a slash, if one stands at the front, and the rest of the text. -/
def slashVersion? : List Char → Option (List Char × List Char)
  | '/' :: rest =>
    match rest.takeWhile isVersionChar with
    | [] => none
    | version => some (version, rest.dropWhile isVersionChar)
  | _ => none

theorem length_slashVersion? {cs version rest : List Char}
    (h : slashVersion? cs = some (version, rest)) : rest.length < cs.length := by
  unfold slashVersion? at h
  split at h
  · split at h
    · simp at h
    · next cs _ _ =>
      simp only [Option.some.injEq, Prod.mk.injEq] at h
      have := (List.dropWhile_suffix (l := cs) isVersionChar).length_le
      rw [← h.2]
      simp only [List.length_cons]
      omega
  · simp at h

/-- The product tokens of a text.  A name is a whole run of name characters from its first letter
on: when no version follows the run, no token starts inside it. -/
def scan (cs : List Char) : List ProductToken :=
  match h : cs.dropWhile (!·.isAlpha) with
  | [] => []
  | c :: rest =>
    let name := c :: rest.takeWhile isNameChar
    let behind := rest.dropWhile isNameChar
    have hb : behind.length < cs.length := by
      have hname := (List.dropWhile_suffix (l := rest) isNameChar).length_le
      have hletter := (List.dropWhile_suffix (l := cs) (!·.isAlpha)).length_le
      rw [h, List.length_cons] at hletter
      exact Nat.lt_of_le_of_lt hname hletter
    match hv : slashVersion? behind with
    | some (version, after) =>
      ⟨String.ofList name, String.ofList version⟩ :: scan after
    | none => scan behind
termination_by cs.length
decreasing_by
  · exact Nat.lt_trans (length_slashVersion? hv) hb
  · exact hb

/-- The version of the first token with a given name. -/
def versionOf? (tokens : List ProductToken) (name : String) : Option String :=
  (tokens.find? (·.name == name)).map (·.version)

end ProductToken

end ClientCounters
