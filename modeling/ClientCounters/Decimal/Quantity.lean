/-
# Numbers with a unit

Durations and capacities are written as a whole number and a unit, as in `250ms` or `10K`.  Case
and white space around the number do not matter.  The units are tried in the order they are
listed, so one that ends in another must stand before it; a number that leaves the range of a
64-bit word after scaling is refused.
-/
import ClientCounters.Decimal.Natural
import ClientCounters.Text.Blank
import ClientCounters.Text.Lowercase

namespace ClientCounters.Decimal

/-- A unit of a quantity. -/
structure QuantityUnit where
  /-- How the unit is written behind the number, in small letters. -/
  symbol : String
  /-- How much one of it counts. -/
  factor : Nat
deriving DecidableEq, Repr

/-- The units that a kind of quantity is written in. -/
structure Scale where
  /-- The units with a symbol, in the order they are tried. -/
  units : List QuantityUnit
  /-- What a number counts that has none of these units. -/
  plain : Nat
deriving DecidableEq, Repr

namespace Scale

/-- The number part of a text and the factor of its unit. -/
def divide (plain : Nat) (cs : List Char) : List QuantityUnit → List Char × Nat
  | [] => (cs, plain)
  | u :: us =>
    match u.symbol.toList.isSuffixOf? cs with
    | some number => (number, u.factor)
    | none => divide plain cs us

/-- The amount a text stands for. -/
def read? (scale : Scale) (s : String) : Option Nat :=
  let text := Text.lowercaseChars (Text.trimChars s.toList)
  let (number, factor) := divide scale.plain text scale.units
  (readWord? (Text.trimChars number)).bind fun n =>
    if n * factor < wordBound then some (n * factor) else none

end Scale

end ClientCounters.Decimal
