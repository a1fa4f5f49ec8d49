/-
# Recognising a client

The built-in reading of an identification text.  Robots come first, then browsers, then HTTP
libraries, then any other product; most browsers claim to be several others, so the more specific
token wins.
-/
import ClientCounters.Client.Platform
import ClientCounters.Client.ProductToken
import ClientCounters.Error
import ClientCounters.Text.IgnoreCase
import ClientCounters.Text.Word

namespace ClientCounters.Recognition

/-- The words that mark a robot. -/
def robotWords : List String :=
  ["bot", "spider", "crawler", "slurp"]

/-- Whether a token's name ends in a robot word, whatever its case. -/
def isRobotToken (t : ProductToken) : Bool :=
  robotWords.any fun w => w.toList.isSuffixOf (Text.asciiLower t.name)

/-- Whether a character matches a small letter when case is ignored; the long s is an s. -/
def matchesLetter (letter c : Char) : Bool :=
  c.toLower == letter || (letter == 's' && c == 'ſ')

/-- The text behind a word at the front, the case of letters ignored. -/
def behindWord? : (word cs : List Char) → Option (List Char)
  | [], cs => some cs
  | _ :: _, [] => none
  | w :: word, c :: cs => if matchesLetter w c then behindWord? word cs else none

/-- Whether a robot word stands at the front and no word goes on behind it. -/
def robotWordEnds (cs : List Char) : Bool :=
  robotWords.any fun w =>
    match behindWord? w.toList cs with
    | some rest => !Text.startsInWord rest
    | none => false

/-- Whether a robot word stands somewhere as a word of its own; `inWord` says whether the
character before the text belongs to a word. -/
def hasRobotWord (inWord : Bool) : List Char → Bool
  | [] => false
  | c :: cs => (!inWord && robotWordEnds (c :: cs)) || hasRobotWord (Text.isWordChar c) cs

/-- The HTTP libraries: the name of their token and the name they are known by. -/
def libraries : List (String × String) := [
  ("curl", "curl"),
  ("Wget", "Wget"),
  ("python-requests", "Python Requests"),
  ("okhttp", "OkHttp"),
  ("Go-http-client", "Go HTTP Client"),
  ("Apache-HttpClient", "Apache HttpClient"),
  ("Java", "Java")]

/-- A robot, if one of the tokens or a word of the text says so. -/
def robot? (cs : List Char) (tokens : List ProductToken) : Option Descriptor :=
  match tokens.find? isRobotToken with
  | some t => some { name := t.name, version := t.version, kind := .robot }
  | none => if hasRobotWord false cs then some { name := "Robot", kind := .robot } else none

/-- A browser, if one of the tokens or an old marker in the text says so. -/
def browser? (cs : List Char) (tokens : List ProductToken) : Option Descriptor :=
  let version? := ProductToken.versionOf? tokens
  let browser (name family version : String) : Descriptor :=
    { name, family, version, kind := .browser }
  if let some v := (version? "Edg").or (version? "Edge") then some (browser "Edge" "Edge" v)
  else if let some v := version? "OPR" then some (browser "Opera" "Chrome" v)
  else if let some v := version? "Opera" then
    some (browser "Opera" "Opera" ((version? "Version").getD v))
  else if let some v := version? "Chromium" then some (browser "Chromium" "Chrome" v)
  else if let some v := (version? "Chrome").or (version? "CriOS") then
    some (browser "Chrome" "Chrome" v)
  else if let some v := (version? "Firefox").or (version? "FxiOS") then
    some (browser "Firefox" "Firefox" v)
  else if let some v :=
      (Pattern.search Pattern.explorer? cs).or (Pattern.search Pattern.engineRevision? cs) then
    some (browser "IE" "IE" (String.ofList v))
  else if let some v := version? "Safari" then
    some (browser "Safari" "Safari" ((version? "Version").getD v))
  else none

/-- A library, if one of the tokens is that of a library; the first library listed wins. -/
def library? (tokens : List ProductToken) : Option Descriptor :=
  libraries.findSome? fun (token, name) =>
    (tokens.find? fun t => Text.sameIgnoringCase t.name token).map fun t =>
      { name, version := t.version, kind := .library }

/-- The first product that is not the token every browser carries. -/
def product? (tokens : List ProductToken) : Option Descriptor :=
  (tokens.find? (·.name != "Mozilla")).map fun t => { name := t.name, version := t.version }

/-- The agent that a text names. -/
def agent? (cs : List Char) : Option Descriptor :=
  let tokens := ProductToken.scan cs
  (robot? cs tokens).or <| (browser? cs tokens).or <| (library? tokens).or <| product? tokens

/-- The client that an identification text names. -/
def recognize (s : String) : Except ParseError Descriptor :=
  match Text.trimChars s.toList with
  | [] => .error .empty
  | cs =>
    match agent? cs with
    | some d => .ok { d with operatingSystem := .detect cs }
    | none => .error (.unrecognized (String.ofList cs))

end ClientCounters.Recognition
