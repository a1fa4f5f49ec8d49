/-
# Patterns in a text

Markers such as `MSIE 9.0` or `Windows NT 6.1` are found at their leftmost place.  A pattern is a
function that reads at the front of a text; `search` tries it at every place in turn.
-/
namespace ClientCounters.Pattern

/-- What a pattern reads at the leftmost place where it reads something. -/
def search {α : Type} (read : List Char → Option α) : List Char → Option α
  | [] => read []
  | c :: cs =>
    match read (c :: cs) with
    | some a => some a
    | none => search read cs

/-- What a pattern reads at the rightmost place where it reads something. -/
def searchLast {α : Type} (read : List Char → Option α) : List Char → Option α
  | [] => read []
  | c :: cs =>
    match searchLast read cs with
    | some a => some a
    | none => read (c :: cs)

/-- Whether a word stands somewhere in the text. -/
def occurs (word : String) (cs : List Char) : Bool :=
  (search word.toList.isPrefixOf? cs).isSome

/-- One or more characters of a class at the front, all there are, and the rest. -/
def run? (p : Char → Bool) (cs : List Char) : Option (List Char × List Char) :=
  match cs.takeWhile p with
  | [] => none
  | taken => some (taken, cs.dropWhile p)

/-- The `.` and digits that continue a dotted number. -/
def dottedTail : List Char → List Char
  | '.' :: d :: rest =>
    if d.isDigit then
      '.' :: d :: (rest.takeWhile Char.isDigit ++ dottedTail (rest.dropWhile Char.isDigit))
    else []
  | _ => []
termination_by cs => cs.length
decreasing_by
  have := (List.dropWhile_suffix (l := rest) Char.isDigit).length_le
  simp only [List.length_cons]
  omega

/-- Digits at the front, with further groups of digits behind dots. -/
def dottedNumber? (cs : List Char) : Option (List Char) :=
  (run? Char.isDigit cs).map fun (digits, rest) => digits ++ dottedTail rest

/-- The text behind a word at the front. -/
def behind? (word : String) (cs : List Char) : Option (List Char) :=
  word.toList.isPrefixOf? cs

/-- The text without a space at its front. -/
def skipSpace : List Char → List Char
  | ' ' :: rest => rest
  | cs => cs

/-- The version in `MSIE 9.0`. -/
def explorer? (cs : List Char) : Option (List Char) :=
  (behind? "MSIE " cs).bind dottedNumber?

/-- The revision in `rv:11.0`. -/
def revision? (cs : List Char) : Option (List Char) :=
  (behind? "rv:" cs).bind dottedNumber?

/-- The last revision on the line of a layout engine, as in `Trident/7.0; rv:11.0`. -/
def engineRevision? (cs : List Char) : Option (List Char) := do
  let rest ← behind? "Trident/" cs
  let (_, rest) ← run? (fun c => c.isDigit || c == '.') rest
  let rest ← behind? ";" rest
  searchLast revision? (rest.takeWhile (· != '\n'))

/-- The version in `Windows NT 6.1`: two groups of digits. -/
def windows? (cs : List Char) : Option (List Char) := do
  let rest ← behind? "Windows NT " cs
  let (major, rest) ← run? Char.isDigit rest
  let rest ← behind? "." rest
  let (minor, _) ← run? Char.isDigit rest
  return major ++ '.' :: minor

/-- The version in `iPhone OS 9_3` or `CPU OS 12_2`. -/
def phone? (cs : List Char) : Option (List Char) := do
  let rest ← (behind? "iPhone" cs).or (behind? "CPU" cs)
  let rest ← behind? " OS " rest
  let (version, _) ← run? (fun c => c.isDigit || c == '_') rest
  return version

/-- The version in `Mac OS X 10_15_7`, which may be missing. -/
def mac? (cs : List Char) : Option (List Char) :=
  (behind? "Mac OS X" cs).map fun rest =>
    (skipSpace rest).takeWhile fun c => c.isDigit || c == '_' || c == '.'

/-- The version in `Android 13`, which may be missing. -/
def android? (cs : List Char) : Option (List Char) :=
  (behind? "Android" cs).map fun rest =>
    (skipSpace rest).takeWhile fun c => c.isDigit || c == '.'

end ClientCounters.Pattern
