import TypedJsx.Json.Record
import TypedJsx.Text.Alphabetic
import TypedJsx.Text.Basic
/-!
Interfaces of the typed module: names with typed members, and the text each is declared by.
-/
namespace TypedJsx

structure InterfaceMember where
  name : String
  /-- The text of its type. -/
  type : String
  isOptional : Bool
  /-- Comments that stand above the member, as they are written. -/
  comments : List String := []
deriving DecidableEq, Repr, Inhabited

structure Interface where
  name : String
  members : List InterfaceMember := []
deriving DecidableEq, Repr, Inhabited

/-- Whether a text can be written as a key without quotes. -/
def isIdentifierName (name : List Char) : Bool :=
  match name with
  | [] => false
  | c :: cs =>
    (c == '_' || c == '$' || isAlphabetic c)
      && cs.all fun c => c == '_' || c == '$' || isAlphanumeric c

/-- A text in which one character is replaced wherever it stands. -/
def replaceEach (c : Char) (written text : List Char) : List Char :=
  text.flatMap fun d => if d == c then written else [d]

/-- A text as a key in single quotes: backslashes are doubled, then quotes get one. -/
def quotedKey (name : List Char) : List Char :=
  '\x27' :: (replaceEach '\x27' ['\\', '\x27'] (replaceEach '\\' ['\\', '\\'] name) ++ ['\x27'])

namespace InterfaceMember

/-- The key of a member: its name, in quotes unless it is an identifier. -/
def key (m : InterfaceMember) : List Char :=
  if isIdentifierName m.name.toList then m.name.toList else quotedKey m.name.toList

/-- A line of a comment; every line but the first is indented one blank more. -/
def commentLine (indent : Nat) (line : List Char) : List Char :=
  List.replicate indent ' ' ++ trim line ++ ['\n']

/-- The lines of a comment above a member. -/
def commentText (comment : String) : List Char :=
  match lines comment.toList with
  | [] => []
  | first :: rest => commentLine 2 first ++ rest.flatMap (commentLine 3)

/-- The member as it is declared, with its comments above it. -/
def render (m : InterfaceMember) : List Char :=
  m.comments.flatMap commentText ++ "  ".toList ++ m.key ++ (if m.isOptional then ['?'] else [])
    ++ ": ".toList ++ m.type.toList ++ [';']

end InterfaceMember

/-- Texts with something between them. -/
def joinWith (separator : List Char) : List (List Char) → List Char
  | [] => []
  | [t] => t
  | t :: ts => t ++ separator ++ joinWith separator ts

/-- The declaration of an interface. -/
def Interface.render (i : Interface) : List Char :=
  "interface ".toList ++ i.name.toList ++
    match i.members with
    | [] => " \x7b\x7d".toList
    | members => " \x7b\n".toList ++ joinWith ['\n'] (members.map InterfaceMember.render) ++ "\n\x7d".toList

/-! ## As JSON -/

namespace InterfaceMember

def toJson (m : InterfaceMember) : Json :=
  let fields := [("name", Json.string m.name), ("tsType", .string m.type), ("optional", .bool m.isOptional)]
  .ofMembers (if m.comments.isEmpty then fields else fields ++ [("comments", .ofStrings m.comments)])

def fields : List JsonField :=
  [.required "name" Json.asString, .required "tsType" Json.asString, .required "optional" Json.asBool,
    .optional "comments" (Json.asList Json.asString)]

def ofJson : Decode InterfaceMember := fun j => do
  let r ← JsonRecord.read "InterfaceMember" fields j
  return {
    name := ← r.get "name" Json.asString
    type := ← r.get "tsType" Json.asString
    isOptional := ← r.get "optional" Json.asBool
    comments := ← r.getD "comments" (Json.asList Json.asString) [] }

end InterfaceMember

namespace Interface

def toJson (i : Interface) : Json :=
  .ofMembers [("name", .string i.name), ("members", .array (i.members.map InterfaceMember.toJson))]

def fields : List JsonField :=
  [.required "name" Json.asString, .required "members" (Json.asList InterfaceMember.ofJson)]

def ofJson : Decode Interface := fun j => do
  let r ← JsonRecord.read "SynthesizedInterface" fields j
  return {
    name := ← r.get "name" Json.asString
    members := ← r.get "members" (Json.asList InterfaceMember.ofJson) }

end Interface

end TypedJsx
