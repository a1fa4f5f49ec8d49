/-
# Values with a text

The values that names and components are made from, and the text each stands for.
-/
import ClientCounters.Decimal.Shortest

namespace ClientCounters

/-- A value with a text. -/
inductive Printable where
  /-- A text stands for itself. -/
  | text (s : String)
  /-- A whole number, shown in decimal digits. -/
  | integer (n : Int)
  /-- A truth value, shown as a word. -/
  | truth (b : Bool)
  /-- A double, shown by the fewest digits that read back as it. -/
  | double (x : Float)

namespace Printable

/-- The text of a value. -/
protected def toString : Printable → String
  | text s => s
  | integer n => if n < 0 then "-" ++ toString n.natAbs else toString n.natAbs
  | truth b => if b then "true" else "false"
  | double x => Decimal.ofFloat x

end Printable

end ClientCounters
