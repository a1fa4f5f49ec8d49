/-
# The operating system of a client

Markers in the identification text name the system.  They are looked for in a fixed order, so
that one system may mention another: a phone's text may say `like Mac OS X`.
-/
import ClientCounters.Client.Descriptor
import ClientCounters.Client.Pattern

namespace ClientCounters.OperatingSystem

/-- The name of a Windows release by the version of its kernel. -/
def windowsName (version : String) : String :=
  match version with
  | "10.0" => "Windows 10"
  | "6.3" => "Windows 8.1"
  | "6.2" => "Windows 8"
  | "6.1" => "Windows 7"
  | "6.0" => "Windows Vista"
  | "5.1" => "Windows XP"
  | "5.2" => "Windows XP"
  | other => "Windows NT " ++ other

/-- A version with dots where the text has underscores. -/
def dotted (version : List Char) : String :=
  String.ofList (version.map fun c => if c = '_' then '.' else c)

/-- The operating system that an identification text names. -/
def detect (cs : List Char) : OperatingSystem :=
  if Pattern.occurs "Windows Phone" cs then ⟨"Windows Phone", "Windows", ""⟩
  else if let some version := Pattern.search Pattern.windows? cs then
    ⟨windowsName (String.ofList version), "Windows", String.ofList version⟩
  else if let some version := Pattern.search Pattern.phone? cs then
    ⟨"iOS", "iOS", dotted version⟩
  else if let some version := Pattern.search Pattern.android? cs then
    ⟨"Android", "Android", String.ofList version⟩
  else if Pattern.occurs "CrOS" cs then ⟨"Chrome OS", "Chrome OS", ""⟩
  else if let some version := Pattern.search Pattern.mac? cs then
    ⟨"OS X", "OS X", dotted version⟩
  else if Pattern.occurs "Linux" cs then ⟨"Linux", "Linux", ""⟩
  else unknown

end ClientCounters.OperatingSystem
