/-
# Quoted text

A text in double quotes, as diagnostics show it.  Quotes and backslashes are escaped, the usual
controls have short escapes, and every other character that does not stand for itself is written
by its number in small hexadecimal digits.
-/
import ClientCounters.Text.InvisibleTable

namespace ClientCounters.Text

/-- The number of a character between braces, as in `\u{301}`. -/
def numbered (c : Char) : List Char :=
  "\\u\x7b".toList ++ Nat.toDigits 16 c.toNat ++ ['\x7d']

/-- A character as it stands between quotes. -/
def quotedChar (c : Char) : List Char :=
  if c = '"' then ['\\', '"']
  else if c = '\\' then ['\\', '\\']
  else if c = '\t' then ['\\', 't']
  else if c = '\n' then ['\\', 'n']
  else if c = '\r' then ['\\', 'r']
  else if c = '\x00' then ['\\', '0']
  else if inRanges invisibleRanges c then numbered c
  else [c]

/-- The text in double quotes. -/
def quoted (s : String) : String :=
  String.ofList ('"' :: s.toList.flatMap quotedChar ++ ['"'])

/-- The texts in double quotes, as a bracketed list. -/
def quotedList (ss : List String) : String :=
  "[" ++ String.intercalate ", " (ss.map quoted) ++ "]"

end ClientCounters.Text
