/-
# Small letters

The text in small letters, by the full default mapping of Unicode: every capital is replaced by
its small letter, the dotted capital `İ` by two characters, and a capital sigma by the final
form `ς` where it ends a word and by `σ` elsewhere.
-/
import ClientCounters.Text.CaseTable

namespace ClientCounters.Text

namespace CaseRun

/-- Whether the run holds the character. -/
def contains (r : CaseRun) (c : Char) : Bool :=
  r.first ≤ c.toNat && c.toNat ≤ r.last && (c.toNat - r.first) % r.stride == 0

/-- The small letter of a capital of the run. -/
def smallOf (r : CaseRun) (c : Char) : Char :=
  Char.ofNat (r.small + (c.toNat - r.first))

end CaseRun

/-- The small form of a character, whatever stands around it. -/
def smallLetters (c : Char) : List Char :=
  if c = 'İ' then ['i', '\u0307']
  else
    match caseRuns.find? (·.contains c) with
    | some r => [r.smallOf c]
    | none => [c]

/-- Whether a character is a letter with a case. -/
def isCased (c : Char) : Bool :=
  inRanges casedRanges c

/-- Whether a character is passed over when the letters around a word end are looked for. -/
def isCaseIgnorable (c : Char) : Bool :=
  inRanges caseIgnorableRanges c

/-- Whether the first character that is not passed over is a letter with a case. -/
def meetsCased (cs : List Char) : Bool :=
  match cs.dropWhile isCaseIgnorable with
  | [] => false
  | c :: _ => isCased c

/-- The small form of a sigma with the characters `before` it, nearest first, and `after` it:
final when a letter stands before it and none after it. -/
def smallSigma (before after : List Char) : Char :=
  if meetsCased before && !meetsCased after then 'ς' else 'σ'

/-- The small letters of a text of which the characters `before` are already behind, nearest
first. -/
def lowercaseFrom (before : List Char) : List Char → List Char
  | [] => []
  | c :: cs =>
    (if c = 'Σ' then [smallSigma before cs] else smallLetters c) ++ lowercaseFrom (c :: before) cs

/-- The characters of a text in small letters. -/
def lowercaseChars (cs : List Char) : List Char :=
  lowercaseFrom [] cs

/-- The text in small letters. -/
def lowercase (s : String) : String :=
  String.ofList (lowercaseChars s.toList)

end ClientCounters.Text
