/-
# Comparing names whatever their case

Header names and library names are equal when they differ only in the case of ASCII letters.
-/
namespace ClientCounters.Text

/-- The text with ASCII capitals turned into small letters. -/
def asciiLower (s : String) : List Char :=
  s.toList.map Char.toLower

/-- Whether two texts are equal but for the case of ASCII letters. -/
def sameIgnoringCase (a b : String) : Bool :=
  asciiLower a == asciiLower b

theorem sameIgnoringCase_iff {a b : String} :
    sameIgnoringCase a b = true ↔ asciiLower a = asciiLower b := by
  simp [sameIgnoringCase]

end ClientCounters.Text
