/-
# Settings in JSON

Settings are written as an object with a member for each field, in any order, or as a list with
the fields in their own order.  Fields that are left out keep their defaults, members with other
names are passed over, and a field that is given twice is refused.  The first fault in the text
decides the error.
-/
import ClientCounters.Json.Skip
import ClientCounters.Settings.Basic

namespace ClientCounters

/-- Why a text gives no settings. -/
inductive SettingsJsonError where
  /-- It is no JSON, or does not end where it should. -/
  | malformed
  /-- A value is of the wrong kind, or a field is given twice. -/
  | unacceptable
  /-- The time limit is no duration. -/
  | badTimeout (text : String)
deriving DecidableEq, Repr

namespace SettingsJsonError

/-- The text of an error that has one. -/
def message? : SettingsJsonError → Option String
  | badTimeout text => some ("invalid parse_timeout: " ++ Text.quoted text)
  | _ => none

end SettingsJsonError

namespace Settings

open Json (Token)

/-- What a value came to, with the tokens behind it. -/
abbrev Taken (α : Type) := Except SettingsJsonError (α × List Token)

/-- The error of a token that stands where another kind of value should. -/
def wrongKind : List Token → SettingsJsonError
  | .number n :: _ => if n.overflows then .malformed else .unacceptable
  | .string none :: _ => .malformed
  | .null :: _ | .truth _ :: _ | .string (some _) :: _ | .openObject :: _ | .openList :: _ =>
    .unacceptable
  | _ => .malformed

/-- A string. -/
def takeText : List Token → Taken String
  | .string (some s) :: rest => .ok (s, rest)
  | ts => .error (wrongKind ts)

/-- The strings of a list behind its first one. -/
def takeMoreTexts : List Token → Taken (List String)
  | .closeList :: rest => .ok ([], rest)
  | .comma :: .string (some s) :: rest =>
    (takeMoreTexts rest).map fun (ss, rest) => (s :: ss, rest)
  | .comma :: ts => .error (wrongKind ts)
  | _ => .error .malformed

/-- A list of strings. -/
def takeTexts : List Token → Taken (List String)
  | .openList :: .closeList :: rest => .ok ([], rest)
  | .openList :: .string (some s) :: rest =>
    (takeMoreTexts rest).map fun (ss, rest) => (s :: ss, rest)
  | .openList :: ts => .error (wrongKind ts)
  | ts => .error (wrongKind ts)

/-- A natural number below `2 ^ 64`. -/
def takeCapacity : List Token → Taken Nat
  | .number n :: rest =>
    match n.word? with
    | some k => .ok (k, rest)
    | none => .error (wrongKind (.number n :: rest))
  | ts => .error (wrongKind ts)

/-- A duration, or null for none. -/
def takeTimeout : List Token → Taken (Option Duration)
  | .null :: rest => .ok (none, rest)
  | .string (some s) :: rest =>
    match Duration.read? s with
    | some d => .ok (some d, rest)
    | none => .error (.badTimeout s)
  | ts => .error (wrongKind ts)

/-- The fields of settings. -/
inductive Field where
  | keys
  | space
  | headerName
  | capacity
  | parseTimeout
deriving DecidableEq, Repr

namespace Field

/-- The fields in their own order. -/
def all : List Field :=
  [keys, space, headerName, capacity, parseTimeout]

/-- The name of a field in JSON. -/
def name : Field → String
  | keys => "keys"
  | space => "prefix"
  | headerName => "header_name"
  | capacity => "cache_capacity"
  | parseTimeout => "parse_timeout"

/-- The field of a name. -/
def ofName? (s : String) : Option Field :=
  all.find? (·.name == s)

end Field

/-- Takes the value of a field. -/
def takeField (s : Settings) (ts : List Token) : Field → Taken Settings
  | .keys => (takeTexts ts).map fun (v, rest) => ({ s with keys := v }, rest)
  | .space => (takeText ts).map fun (v, rest) => ({ s with space := v }, rest)
  | .headerName => (takeText ts).map fun (v, rest) => ({ s with headerName := v }, rest)
  | .capacity => (takeCapacity ts).map fun (v, rest) => ({ s with capacity := v }, rest)
  | .parseTimeout => (takeTimeout ts).map fun (v, rest) => ({ s with parseTimeout := v }, rest)

/-- Takes the values of a list, each for the next field; `first` says that no comma stands in
front of the next one. -/
def takeList (s : Settings) (first : Bool) (ts : List Token) : List Field → Taken Settings
  | [] =>
    match ts with
    | .closeList :: rest => .ok (s, rest)
    | _ => .error .malformed
  | f :: fs =>
    match first, ts with
    | _, .closeList :: rest => .ok (s, rest)
    | true, ts =>
      match takeField s ts f with
      | .ok (s, rest) => takeList s false rest fs
      | .error e => .error e
    | false, .comma :: ts =>
      match takeField s ts f with
      | .ok (s, rest) => takeList s false rest fs
      | .error e => .error e
    | false, _ => .error .malformed

/-- Takes a member of an object whose name has been read; `seen` are the fields given before. -/
def takeMember (s : Settings) (seen : List Field) (name : String) (ts : List Token) :
    Except SettingsJsonError (Settings × List Field × List Token) :=
  match Field.ofName? name with
  | some f =>
    if seen.contains f then .error .unacceptable
    else
      match ts with
      | .colon :: ts => (takeField s ts f).map fun (s, rest) => (s, f :: seen, rest)
      | _ => .error .malformed
  | none =>
    match ts with
    | .colon :: ts =>
      match Json.skipValue? ts with
      | some rest => .ok (s, seen, rest)
      | none => .error .malformed
    | _ => .error .malformed

/-- Takes the members of an object behind its first one, `fuel` of them at most. -/
def takeMembers : (fuel : Nat) → Settings → (seen : List Field) → List Token → Taken Settings
  | 0, _, _, _ => .error .malformed
  | fuel + 1, s, seen, ts =>
    match ts with
    | .closeObject :: rest => .ok (s, rest)
    | .comma :: .string (some name) :: rest =>
      match takeMember s seen name rest with
      | .ok (s, seen, rest) => takeMembers fuel s seen rest
      | .error e => .error e
    | _ => .error .malformed

/-- Takes the settings at the front. -/
def take (ts : List Token) : Taken Settings :=
  match ts with
  | .openList :: rest => takeList {} true rest Field.all
  | .openObject :: .closeObject :: rest => .ok ({}, rest)
  | .openObject :: .string (some name) :: rest =>
    match takeMember {} [] name rest with
    | .ok (s, seen, rest) => takeMembers ts.length s seen rest
    | .error e => .error e
  | .openObject :: _ => .error .malformed
  | ts => .error (wrongKind ts)

/-- The settings that a JSON text gives. -/
def ofJson (text : String) : Except SettingsJsonError Settings :=
  match take (Json.tokens text.toList) with
  | .ok (s, []) => .ok s
  | .ok (_, _ :: _) => .error .malformed
  | .error e => .error e

end Settings

end ClientCounters
