/-
# Character classes given by intervals

A class of characters is a list of closed intervals of code points.  Tables of the Unicode
character database are written in this form.
-/
namespace ClientCounters.Text

/-- A closed interval of code points. -/
structure CodeRange where
  /-- The least code point of the interval. -/
  first : Nat
  /-- The greatest code point of the interval. -/
  last : Nat
deriving DecidableEq, Repr

namespace CodeRange

/-- Whether the interval holds the character. -/
def contains (r : CodeRange) (c : Char) : Bool :=
  r.first ≤ c.toNat && c.toNat ≤ r.last

theorem contains_iff {r : CodeRange} {c : Char} :
    r.contains c = true ↔ r.first ≤ c.toNat ∧ c.toNat ≤ r.last := by
  simp [contains]

end CodeRange

/-- Whether one of the intervals holds the character. -/
def inRanges (rs : List CodeRange) (c : Char) : Bool :=
  rs.any (·.contains c)

theorem inRanges_iff {rs : List CodeRange} {c : Char} :
    inRanges rs c = true ↔ ∃ r ∈ rs, r.first ≤ c.toNat ∧ c.toNat ≤ r.last := by
  simp [inRanges, CodeRange.contains_iff]

end ClientCounters.Text
