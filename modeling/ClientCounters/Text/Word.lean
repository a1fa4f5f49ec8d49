/-
# Word boundaries

A word is a run of letters, marks, digits, connectors and joiners.
-/
import ClientCounters.Text.WordTable

namespace ClientCounters.Text

/-- Whether words are made of this character. -/
def isWordChar (c : Char) : Bool :=
  inRanges wordRanges c

/-- Whether a word goes on into `cs`. -/
def startsInWord : List Char → Bool
  | [] => false
  | c :: _ => isWordChar c

end ClientCounters.Text
