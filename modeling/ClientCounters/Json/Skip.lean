/-
# Skipping a JSON value

Values that nobody asked for are passed over, whatever they hold, as long as their tokens form a
value.
-/
import ClientCounters.Json.Token

namespace ClientCounters.Json

/-- What a value is inside of. -/
inductive Frame where
  | object
  | list
deriving DecidableEq, Repr

/-- What may stand next inside a value that is being skipped. -/
inductive Expected where
  /-- A value. -/
  | value
  /-- A value or the end of the list that was just opened. -/
  | firstValue
  /-- A key. -/
  | key
  /-- A key or the end of the object that was just opened. -/
  | firstKey
  /-- The colon behind a key. -/
  | colon
  /-- A comma or the end of what encloses the value. -/
  | more
deriving DecidableEq, Repr

/-- The tokens behind the value at the front; nothing if there is no value.  `frames` is what
encloses the place, innermost first. -/
def skip? (frames : List Frame) (expected : Expected) : List Token → Option (List Token)
  | [] => none
  | t :: ts =>
    let closed (outer : List Frame) : Option (List Token) :=
      if outer.isEmpty then some ts else skip? outer .more ts
    let value : Option (List Token) :=
      match t with
      | .null | .truth _ | .number _ | .string _ => closed frames
      | .openObject => skip? (.object :: frames) .firstKey ts
      | .openList => skip? (.list :: frames) .firstValue ts
      | _ => none
    let key : Option (List Token) :=
      match t with
      | .string _ => skip? frames .colon ts
      | _ => none
    match expected, frames, t with
    | .value, _, _ => value
    | .firstValue, .list :: outer, .closeList => closed outer
    | .firstValue, _, _ => value
    | .key, _, _ => key
    | .firstKey, .object :: outer, .closeObject => closed outer
    | .firstKey, _, _ => key
    | .colon, _, .colon => skip? frames .value ts
    | .more, .object :: outer, .closeObject => closed outer
    | .more, .list :: outer, .closeList => closed outer
    | .more, .object :: _, .comma => skip? frames .key ts
    | .more, .list :: _, .comma => skip? frames .value ts
    | _, _, _ => none

/-- The tokens behind the value at the front. -/
def skipValue? (ts : List Token) : Option (List Token) :=
  skip? [] .value ts

end ClientCounters.Json
