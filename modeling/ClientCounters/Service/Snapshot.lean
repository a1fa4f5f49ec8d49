/-
# The counters as JSON

The endpoint for counters answers with one JSON object: a member for each counter, in ascending
order of the names, with the prefix `counter.` before the name.
-/
import ClientCounters.Counter.Registry

namespace ClientCounters.Snapshot

/-- A small number as four hexadecimal digits. -/
def hexDigits4 (n : Nat) : List Char :=
  let digits := Nat.toDigits 16 n
  List.replicate (4 - digits.length) '0' ++ digits

/-- A character as it stands in a JSON string: quotes, backslashes and controls are escaped. -/
def escapedChar (c : Char) : List Char :=
  if c = '"' then ['\\', '"']
  else if c = '\\' then ['\\', '\\']
  else if c = '\x08' then ['\\', 'b']
  else if c = '\x0c' then ['\\', 'f']
  else if c = '\n' then ['\\', 'n']
  else if c = '\r' then ['\\', 'r']
  else if c = '\t' then ['\\', 't']
  else if c.toNat < 0x20 then '\\' :: 'u' :: hexDigits4 c.toNat
  else [c]

/-- A text as a JSON string. -/
def jsonString (s : String) : List Char :=
  '"' :: s.toList.flatMap escapedChar ++ ['"']

/-- What stands in front of the names of counters. -/
def memberPrefix : String := "counter."

/-- A row of names and values with one more in its place; one of the same name is replaced. -/
def insertMember (name : String) (value : UInt64) :
    List (String × UInt64) → List (String × UInt64)
  | [] => [(name, value)]
  | (n, v) :: rest =>
    if name < n then (name, value) :: (n, v) :: rest
    else if name = n then (n, value) :: rest
    else (n, v) :: insertMember name value rest

/-- A counter as a member: its name behind the prefix, and its value. -/
def prefixed (c : String × UInt64) : String × UInt64 :=
  (memberPrefix ++ c.1, c.2)

/-- The members of the object. -/
def members (r : CounterRegistry) : List (String × UInt64) :=
  (r.snapshot.map prefixed).foldl (fun row m => insertMember m.1 m.2 row) []

/-- A member as it is written. -/
def memberText (m : String × UInt64) : List Char :=
  jsonString m.1 ++ ':' :: Nat.toDigits 10 m.2.toNat

/-- The counters as a JSON object. -/
def body (r : CounterRegistry) : String :=
  String.ofList ('\x7b' :: [','].intercalate ((members r).map memberText) ++ ['\x7d'])

end ClientCounters.Snapshot
