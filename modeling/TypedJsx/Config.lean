import TypedJsx.Json.Record
import TypedJsx.Text.Basic
/-!
Settings of a conversion. Every setting has a default, and two are accepted without having an effect.
-/
namespace TypedJsx

/-- How much is converted: interfaces and signatures, or the interfaces of hooks too. -/
inductive Level where
  | basic | standard | advanced
deriving DecidableEq, Repr, Inhabited

namespace Level

def name : Level → String
  | basic => "basic"
  | standard => "standard"
  | advanced => "advanced"

def all : List Level := [basic, standard, advanced]

/-- The level of a name. -/
def ofName? (text : List Char) : Option Level := all.find? fun l => l.name.toList == text

/-- Reads a level from text: blanks around it and the case of its letters do not matter. The error is
the text that was looked up. -/
def parse (text : List Char) : Except (List Char) Level :=
  let text := (trim text).map asciiLower
  match ofName? text with
  | some level => .ok level
  | none => .error text

/-- The message for a text that names no level. -/
def unknownMessage (text : List Char) : String :=
  "unknown conversion level `" ++ String.ofList text ++ "` (expected basic, standard or advanced)"

def toJson (l : Level) : Json := .string l.name

def ofJson : Decode Level := Json.asVariant (all.map fun l => (l.name, l))

end Level

structure Config where
  level : Level := .standard
  /-- Interface names take the affixes below instead of the default suffix. -/
  usesAffixes : Bool := false
  nameStart : String := ""
  nameEnd : String := "Props"
  /-- Accepted, without effect. -/
  includesDocs : Bool := false
  /-- Accepted, without effect. -/
  keepsFormatting : Bool := false
deriving DecidableEq, Repr, Inhabited

namespace Config

/-- What follows the component's name in the name of its interface, unless set otherwise. -/
def defaultEnd : String := "Props"

/-- The name of the props interface of a component. -/
def interfaceName (c : Config) (component : String) : String :=
  if c.usesAffixes then
    c.nameStart ++ component ++ (if c.nameEnd.isEmpty then defaultEnd else c.nameEnd)
  else component ++ defaultEnd

def withHooks (c : Config) : Bool := c.level == .advanced

def toJson (c : Config) : Json :=
  .ofMembers [("conversionLevel", c.level.toJson), ("customInterfaceNaming", .bool c.usesAffixes),
    ("interfacePrefix", .string c.nameStart), ("interfaceSuffix", .string c.nameEnd),
    ("includeJSDoc", .bool c.includesDocs), ("preserveFormatting", .bool c.keepsFormatting)]

def fields : List JsonField :=
  [.optional "conversionLevel" Level.ofJson, .optional "customInterfaceNaming" Json.asBool,
    .optional "interfacePrefix" Json.asString, .optional "interfaceSuffix" Json.asString,
    .optional "includeJSDoc" Json.asBool, .optional "preserveFormatting" Json.asBool]

def ofJson : Decode Config := fun j => do
  let r ← JsonRecord.read "ConversionConfig" fields j
  let d : Config := {}
  return {
    level := ← r.getD "conversionLevel" Level.ofJson d.level
    usesAffixes := ← r.getD "customInterfaceNaming" Json.asBool d.usesAffixes
    nameStart := ← r.getD "interfacePrefix" Json.asString d.nameStart
    nameEnd := ← r.getD "interfaceSuffix" Json.asString d.nameEnd
    includesDocs := ← r.getD "includeJSDoc" Json.asBool d.includesDocs
    keepsFormatting := ← r.getD "preserveFormatting" Json.asBool d.keepsFormatting }

/-- Reads a config from JSON text. -/
def ofText (text : List Char) : Except JsonError Config := Json.decodeText ofJson text

end Config

end TypedJsx
