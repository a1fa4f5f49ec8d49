/-
# Query parameters

A query is a row of items joined by `&`.  An item is a key and a value with the first `=` between
them, or a key alone, whose value is empty; an empty item is no item.  The first item with a key
decides its value, and nothing is decoded.
-/
import ClientCounters.Text.Cut

namespace ClientCounters.Http

/-- The key and the value of an item of a query. -/
def queryItem? (item : List Char) : Option (List Char × List Char) :=
  match Text.cut? '=' item with
  | some (key, value) => some (key, value)
  | none => if item.isEmpty then none else some (item, [])

/-- The items of a query, in order. -/
def queryItems (query : List Char) : List (List Char × List Char) :=
  (query.splitOn '&').filterMap queryItem?

/-- The value of the first item with the given key. -/
def queryValue? (query key : List Char) : Option (List Char) :=
  ((queryItems query).find? (·.1 == key)).map (·.2)

end ClientCounters.Http
