/-
# Places in a text by bytes

A place in a text can be given by the number of bytes in front of it.  Not every number is a
place: one that falls inside of a character is none.
-/
namespace ClientCounters.Text

/-- The characters in front of a place. -/
def before? : Nat → List Char → Option (List Char)
  | 0, _ => some []
  | _ + 1, [] => none
  | n + 1, c :: cs =>
    if c.utf8Size ≤ n + 1 then (before? (n + 1 - c.utf8Size) cs).map (c :: ·) else none

/-- The characters behind a place. -/
def behind? : Nat → List Char → Option (List Char)
  | 0, cs => some cs
  | _ + 1, [] => none
  | n + 1, c :: cs => if c.utf8Size ≤ n + 1 then behind? (n + 1 - c.utf8Size) cs else none

/-- The characters between two places. -/
def between? (first last : Nat) (cs : List Char) : Option (List Char) :=
  (behind? first cs).bind (before? (last - first))

end ClientCounters.Text
