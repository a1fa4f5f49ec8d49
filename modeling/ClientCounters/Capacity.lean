/-
# Capacities

A number of entries, written plainly or in thousands and millions, as in `512` or `10k`.
-/
import ClientCounters.Decimal.Quantity

namespace ClientCounters.Capacity

/-- The units a capacity is written in; a bare number counts single entries. -/
def scale : Decimal.Scale where
  units := [⟨"k", 1000⟩, ⟨"m", 1000000⟩]
  plain := 1

/-- The number of entries that a text such as `10k` stands for. -/
def read? (s : String) : Option Nat :=
  scale.read? s

end ClientCounters.Capacity
