/-
# Counter names

A value becomes part of a counter name by writing it in small letters and replacing every run of
white space by one hyphen.  A full name is two such parts with a dot between them.
-/
import ClientCounters.Text.Blank
import ClientCounters.Text.Lowercase
import ClientCounters.Printable

namespace ClientCounters

/-- The text with a hyphen for every run of white space; `inRun` says whether a run is already
under way. -/
def hyphenate (inRun : Bool) : List Char → List Char
  | [] => []
  | c :: cs =>
    if Text.isBlank c then (if inRun then [] else ['-']) ++ hyphenate true cs
    else c :: hyphenate false cs

/-- The part of a counter name that some characters give. -/
def normalizeChars (cs : List Char) : List Char :=
  hyphenate false (Text.lowercaseChars cs)

/-- The part of a counter name that a text gives. -/
def normalize (s : String) : String :=
  String.ofList (normalizeChars s.toList)

/-- The full name of a counter. -/
structure MetricName where
  /-- The name with its dot. -/
  text : String
deriving DecidableEq, Repr, Inhabited

namespace MetricName

/-- The name of a fragment within a namespace; both are normalized. -/
def ofParts (space fragment : String) : MetricName :=
  ⟨normalize space ++ "." ++ normalize fragment⟩

/-- The names in ascending order of their characters, each once. -/
def sortDistinct (names : List MetricName) : List MetricName :=
  (names.mergeSort fun a b => decide (a.text ≤ b.text)).eraseReps

end MetricName

end ClientCounters
