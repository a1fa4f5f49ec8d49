/-
# Attributes of a descriptor

A descriptor is read by attribute names.  Most attributes are texts; the operating system is an
object with attributes of its own.
-/
import ClientCounters.Client.Descriptor
import ClientCounters.Text.Quoted

namespace ClientCounters

/-- Something with attributes. -/
inductive AttributeObject where
  | client (d : Descriptor)
  | system (os : OperatingSystem)
deriving DecidableEq, Repr

/-- What an attribute path can lead to. -/
inductive AttributeValue where
  | text (s : String)
  | object (o : AttributeObject)
deriving DecidableEq, Repr

namespace AttributeObject

/-- The text an object stands for. -/
def text : AttributeObject → String
  | client d => d.toString
  | system os => os.name

/-- The attribute of an object with the given name. -/
def attribute? : AttributeObject → String → Option AttributeValue
  | client d, name =>
    match name with
    | "name" => some (.text d.name)
    | "version" => some (.text d.version)
    | "majorVersion" => some (.text d.majorVersion)
    | "minorVersion" => some (.text d.minorVersion)
    | "family" => some (.text d.family)
    | "type" => some (.text d.kind.name)
    | "operatingSystem" => some (.object (.system d.operatingSystem))
    | "operatingSystemName" => some (.text d.operatingSystem.name)
    | _ => none
  | system os, name =>
    match name with
    | "name" => some (.text os.name)
    | "family" => some (.text os.family)
    | "version" => some (.text os.version)
    | _ => none

end AttributeObject

namespace AttributeValue

/-- The text a value stands for. -/
protected def toString : AttributeValue → String
  | text s => s
  | object o => o.text

/-- The value as diagnostics show it. -/
def diagnostic : AttributeValue → String
  | text s => "Text(" ++ Text.quoted s ++ ")"
  | object o => "Object(" ++ Text.quoted o.text ++ ")"

/-- The attribute of a value; a text has none. -/
def attribute? : AttributeValue → String → Option AttributeValue
  | text _, _ => none
  | object o, name => o.attribute? name

/-- The value at the end of a path of attribute names, or the first name that leads nowhere. -/
def walk (v : AttributeValue) : List String → Except String AttributeValue
  | [] => .ok v
  | name :: rest =>
    match v.attribute? name with
    | some next => next.walk rest
    | none => .error name

end AttributeValue

/-- The value of an attribute path on a descriptor, or the first name that leads nowhere. -/
def Descriptor.resolve (d : Descriptor) (path : List String) : Except String AttributeValue :=
  AttributeValue.walk (.object (.client d)) path

end ClientCounters
