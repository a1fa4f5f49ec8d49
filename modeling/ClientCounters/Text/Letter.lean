/-
# Letters and numerals

The characters that names in log filters are made of.
-/
import ClientCounters.Text.LetterTable

namespace ClientCounters.Text

/-- Whether a character is alphabetic. -/
def isLetter (c : Char) : Bool :=
  inRanges letterRanges c

/-- Whether a character is a digit or another number. -/
def isNumeral (c : Char) : Bool :=
  inRanges numeralRanges c

/-- Whether a character is a letter or a numeral. -/
def isLetterOrNumeral (c : Char) : Bool :=
  isLetter c || isNumeral c

end ClientCounters.Text
