/-
# JSON tokens

A JSON text is a row of tokens with white space between them.  The row ends where the text ends
or at the first place where no token stands, which the token `broken` marks; so whatever reads
the tokens in order meets faults in the order of the text.
-/
import ClientCounters.Decimal.Natural
import ClientCounters.Text.Hexadecimal

namespace ClientCounters.Json

/-- A number as it is written. -/
structure NumberText where
  /-- Whether a minus sign stands in front. -/
  negative : Bool
  /-- The digits before the point. -/
  whole : List Char
  /-- The digits behind the point; none if there is no point. -/
  fraction : List Char
  /-- The exponent, if one is written. -/
  exponent : Option Int
deriving DecidableEq, Repr

namespace NumberText

/-- The number, if it is a natural one below `2 ^ 64` written by digits alone. -/
def word? (n : NumberText) : Option Nat :=
  if n.negative || !n.fraction.isEmpty || n.exponent.isSome then none
  else some (Decimal.valueOfDigits n.whole) |>.filter (· < Decimal.wordBound)

/-- The number `significand * 10 ^ exponent`. -/
structure Scaled where
  significand : Nat
  exponent : Int
deriving DecidableEq, Repr

namespace Scaled

/-- The number with one more digit at its end, if the significand stays below `2 ^ 64`. -/
def extend? (x : Scaled) (digit : Char) : Option Nat :=
  some (10 * x.significand + Decimal.valueOfDigits [digit]) |>.filter (· < Decimal.wordBound)

/-- The number with one more digit before the point.  From the first digit on that has no room
the digits only count as places. -/
def addWhole (x : Scaled) (digit : Char) : Scaled :=
  match if x.exponent = 0 then x.extend? digit else none with
  | some significand => { x with significand }
  | none => { x with exponent := x.exponent + 1 }

/-- The number with more digits behind the point, up to the first that has no room. -/
def addFraction (x : Scaled) : List Char → Scaled
  | [] => x
  | digit :: rest =>
    match x.extend? digit with
    | some significand => addFraction ⟨significand, x.exponent - 1⟩ rest
    | none => x

end Scaled

/-- The number by the digits that are kept of it. -/
def scaled (n : NumberText) : Scaled :=
  let x := (n.whole.foldl Scaled.addWhole ⟨0, 0⟩).addFraction n.fraction
  { x with exponent := x.exponent + n.exponent.getD 0 }

/-- The greatest power of ten that is a double. -/
def maxPower : Int := 308

/-- Half a step above the greatest double: from here on numbers have no double. -/
def overflowBound : Nat := Nat.pow 2 1024 - Nat.pow 2 970

/-- The double nearest to a natural number, of two equally near ones the even one. -/
def nearestDouble (n : Nat) : Nat :=
  let step := Nat.pow 2 (n.log2 - 52)
  let below := n / step
  let rest := n % step
  if step < 2 * rest || (step == 2 * rest && below % 2 == 1) then (below + 1) * step
  else below * step

/-- Whether the number is too great for a double.  It is taken as the product of two doubles, one
for the digits and one for the power of ten, and a power of ten that has no double is too great
for any digits but zeros. -/
def overflows (n : NumberText) : Bool :=
  let x := n.scaled
  if x.significand = 0 || x.exponent < 0 then false
  else if maxPower < x.exponent then true
  else overflowBound ≤
    nearestDouble x.significand * nearestDouble (Nat.pow 10 x.exponent.toNat)

end NumberText

/-- A token of a JSON text. -/
inductive Token where
  | openObject
  | closeObject
  | openList
  | closeList
  | colon
  | comma
  | null
  | truth (b : Bool)
  | number (n : NumberText)
  /-- A string; nothing if its escapes do not spell characters. -/
  | string (text : Option String)
  /-- The place where the text is no JSON. -/
  | broken
deriving DecidableEq, Repr

/-- Whether a character is JSON white space. -/
def isSpace (c : Char) : Bool :=
  c == ' ' || c == '\n' || c == '\t' || c == '\r'

/-- One character of a string, or one numbered unit of it. -/
inductive StringItem where
  | char (c : Char)
  | unit (n : Nat)
deriving DecidableEq, Repr

/-- The character of a one-letter escape. -/
def escaped? (c : Char) : Option Char :=
  match c with
  | '"' => some '"'
  | '\\' => some '\\'
  | '/' => some '/'
  | 'b' => some '\x08'
  | 'f' => some '\x0c'
  | 'n' => some '\n'
  | 'r' => some '\r'
  | 't' => some '\t'
  | _ => none

/-- The items of a string up to the closing quote, and what follows it. -/
def stringItems? : List Char → Option (List StringItem × List Char)
  | [] => none
  | '"' :: rest => some ([], rest)
  | '\\' :: 'u' :: a :: b :: c :: d :: rest =>
    match Text.hexNumber? [a, b, c, d], stringItems? rest with
    | some n, some (items, after) => some (.unit n :: items, after)
    | _, _ => none
  | '\\' :: e :: rest =>
    match escaped? e, stringItems? rest with
    | some c, some (items, after) => some (.char c :: items, after)
    | _, _ => none
  | c :: rest =>
    if c = '\\' || c.toNat < 0x20 then none
    else (stringItems? rest).map fun (items, after) => (.char c :: items, after)

/-- Whether a unit is the first half of a character. -/
def isHighUnit (n : Nat) : Bool :=
  0xD800 ≤ n && n < 0xDC00

/-- Whether a unit is the second half of a character. -/
def isLowUnit (n : Nat) : Bool :=
  0xDC00 ≤ n && n < 0xE000

/-- The characters that some items spell; nothing if a half has no other half. -/
def spelled? : List StringItem → Option (List Char)
  | [] => some []
  | .char c :: rest => (spelled? rest).map (c :: ·)
  | .unit n :: .unit m :: rest =>
    if isHighUnit n && isLowUnit m then
      (spelled? rest).map (Char.ofNat (0x10000 + (n - 0xD800) * 0x400 + (m - 0xDC00)) :: ·)
    else if isHighUnit n || isLowUnit n then none
    else (spelled? (.unit m :: rest)).map (Char.ofNat n :: ·)
  | .unit n :: rest =>
    if isHighUnit n || isLowUnit n then none
    else (spelled? rest).map (Char.ofNat n :: ·)

/-- The digits at the front, at least one, and the rest. -/
def digits? (cs : List Char) : Option (List Char × List Char) :=
  match cs.takeWhile Char.isDigit with
  | [] => none
  | ds => some (ds, cs.dropWhile Char.isDigit)

/-- The exponent at the front, which may be missing, and the rest. -/
def exponent? (cs : List Char) : Option (Option Int × List Char) :=
  match cs with
  | e :: rest =>
    if e = 'e' || e = 'E' then
      let (negative, rest) :=
        match rest with
        | '-' :: rest => (true, rest)
        | '+' :: rest => (false, rest)
        | rest => (false, rest)
      (digits? rest).map fun (ds, after) =>
        let n : Int := Decimal.valueOfDigits ds
        (some (if negative then -n else n), after)
    else some (none, cs)
  | [] => some (none, [])

/-- The fraction at the front, which may be missing: its digits and the rest. -/
def fraction? (cs : List Char) : Option (List Char × List Char) :=
  match cs with
  | '.' :: rest => digits? rest
  | _ => some ([], cs)

/-- The number at the front, and the rest.  A leading zero stands alone. -/
def number? (cs : List Char) : Option (NumberText × List Char) := do
  let (negative, cs) :=
    match cs with
    | '-' :: rest => (true, rest)
    | _ => (false, cs)
  let (whole, cs) ← digits? cs
  guard (whole.length = 1 || whole.head? != some '0')
  let (fraction, cs) ← fraction? cs
  let (exponent, cs) ← exponent? cs
  return (⟨negative, whole, fraction, exponent⟩, cs)

/-- The token at the front of a text without white space there, and the rest. -/
def token? (c : Char) (cs : List Char) : Option (Token × List Char) :=
  match c with
  | '\x7b' => some (.openObject, cs)
  | '\x7d' => some (.closeObject, cs)
  | '[' => some (.openList, cs)
  | ']' => some (.closeList, cs)
  | ':' => some (.colon, cs)
  | ',' => some (.comma, cs)
  | 'n' => ("ull".toList.isPrefixOf? cs).map fun rest => (.null, rest)
  | 't' => ("rue".toList.isPrefixOf? cs).map fun rest => (.truth true, rest)
  | 'f' => ("alse".toList.isPrefixOf? cs).map fun rest => (.truth false, rest)
  | '"' => (stringItems? cs).map fun (items, rest) =>
      (.string ((spelled? items).map String.ofList), rest)
  | _ => (number? (c :: cs)).map fun (n, rest) => (.number n, rest)

/-- The tokens of a text, `fuel` of them at most. -/
def tokensWithin : (fuel : Nat) → List Char → List Token
  | 0, _ => []
  | fuel + 1, cs =>
    match cs.dropWhile isSpace with
    | [] => []
    | c :: rest =>
      match token? c rest with
      | some (t, rest) => t :: tokensWithin fuel rest
      | none => [.broken]

/-- The tokens of a text; every token takes at least one character, so there are no more tokens
than characters. -/
def tokens (cs : List Char) : List Token :=
  tokensWithin cs.length cs

end ClientCounters.Json
