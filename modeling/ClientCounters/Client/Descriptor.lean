/-
# Client descriptors

What is known about a client: the agent's name, version, family and kind, and the operating
system it runs on.
-/
import ClientCounters.Text.Blank

namespace ClientCounters

/-- The kind of program a client is. -/
inductive AgentKind where
  | browser
  | robot
  | library
  | unknown
deriving DecidableEq, Repr, Inhabited

namespace AgentKind

/-- The word for a kind. -/
def name : AgentKind → String
  | browser => "Browser"
  | robot => "Robot"
  | library => "Library"
  | unknown => "Unknown"

end AgentKind

/-- An operating system. -/
structure OperatingSystem where
  name : String
  family : String
  version : String
deriving DecidableEq, Repr, Inhabited

namespace OperatingSystem

/-- An operating system nothing is known about. -/
def unknown : OperatingSystem :=
  ⟨"Unknown", "Unknown", ""⟩

end OperatingSystem

/-- What is known about a client. -/
structure Descriptor where
  /-- The agent's name. -/
  name : String
  /-- The agent's version, empty if it gives none. -/
  version : String := ""
  /-- The family of agents it belongs to; on its own it is its own family. -/
  family : String := name
  /-- The kind of program it is. -/
  kind : AgentKind := .unknown
  /-- The system it runs on. -/
  operatingSystem : OperatingSystem := .unknown
deriving DecidableEq, Repr, Inhabited

namespace Descriptor

/-- What stands for a part that a version does not have. -/
def unknownPart : String := "unknown"

/-- The part of a version between two dots, counted from 0; a blank part counts as missing. -/
def versionPart (version : String) (i : Nat) : String :=
  match (version.toList.splitOn '.')[i]?.map Text.trimChars with
  | some (c :: cs) => String.ofList (c :: cs)
  | _ => unknownPart

/-- The part of the version before the first dot. -/
def majorVersion (d : Descriptor) : String :=
  versionPart d.version 0

/-- The part of the version behind the first dot. -/
def minorVersion (d : Descriptor) : String :=
  versionPart d.version 1

/-- The name, followed by the version if there is one. -/
protected def toString (d : Descriptor) : String :=
  if d.version.isEmpty then d.name else d.name ++ " " ++ d.version

end Descriptor

end ClientCounters
