/-
# Durations

A span of time, exact to the nanosecond.  Settings write it as a whole number of milliseconds,
seconds, minutes or hours; diagnostics show it in the largest unit that leaves a whole part.
-/
import ClientCounters.Decimal.Quantity

namespace ClientCounters

/-- A span of time. -/
structure Duration where
  /-- Its length in nanoseconds. -/
  nanoseconds : Nat
deriving DecidableEq, Repr, Inhabited

namespace Duration

/-- The duration of so many milliseconds. -/
def ofMilliseconds (n : Nat) : Duration :=
  ⟨n * 1000000⟩

/-- The whole milliseconds of a duration. -/
def milliseconds (d : Duration) : Nat :=
  d.nanoseconds / 1000000

/-- The units a duration is written in, in milliseconds; a bare number counts seconds. -/
def scale : Decimal.Scale where
  units := [⟨"ms", 1⟩, ⟨"s", 1000⟩, ⟨"m", 60000⟩, ⟨"h", 3600000⟩]
  plain := 1000

/-- The duration that a text such as `250ms` stands for. -/
def read? (s : String) : Option Duration :=
  (scale.read? s).map ofMilliseconds

/-- The digits of `part` after the point, `places` of them, without the zeros at the end. -/
def fractionDigits : (places part : Nat) → List Char
  | 0, _ => []
  | places + 1, part =>
    if part = 0 then []
    else
      Nat.digitChar (part / Nat.pow 10 places) ::
        fractionDigits places (part % Nat.pow 10 places)

/-- A duration in a unit of `10 ^ places` nanoseconds. -/
def showIn (nanoseconds places : Nat) (symbol : String) : String :=
  let whole := toString (nanoseconds / Nat.pow 10 places)
  match fractionDigits places (nanoseconds % Nat.pow 10 places) with
  | [] => whole ++ symbol
  | digits => whole ++ "." ++ String.ofList digits ++ symbol

/-- The duration in seconds, milliseconds, microseconds or nanoseconds, whichever is the largest
with a whole part. -/
protected def toString (d : Duration) : String :=
  if Nat.pow 10 9 ≤ d.nanoseconds then showIn d.nanoseconds 9 "s"
  else if Nat.pow 10 6 ≤ d.nanoseconds then showIn d.nanoseconds 6 "ms"
  else if Nat.pow 10 3 ≤ d.nanoseconds then showIn d.nanoseconds 3 "µs"
  else showIn d.nanoseconds 0 "ns"

end Duration

end ClientCounters
