/-
# Decimal numerals

Reading a natural number from decimal digits.  Both readers take the whole text or nothing.
-/
namespace ClientCounters.Decimal

/-- The number that a run of digits stands for. -/
def valueOfDigits (cs : List Char) : Nat :=
  cs.foldl (fun n c => 10 * n + (c.toNat - '0'.toNat)) 0

/-- The number written by one or more decimal digits. -/
def readDigits? (cs : List Char) : Option Nat :=
  if cs.isEmpty || !cs.all Char.isDigit then none else some (valueOfDigits cs)

/-- Numbers below this bound fit a counter. -/
def wordBound : Nat := UInt64.size

/-- The number below `2 ^ 64` written by decimal digits, with a plus sign allowed in front. -/
def readWord? (cs : List Char) : Option Nat :=
  let digits :=
    match cs with
    | '+' :: rest => rest
    | _ => cs
  (readDigits? digits).filter (· < wordBound)

end ClientCounters.Decimal
