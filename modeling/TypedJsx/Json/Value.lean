import TypedJsx.Tree.Node
/-!
JSON values, what can be wrong with a text or a value that is to be read as something, and the text of a value,
on one line or indented.

A value that was read from a text knows where it stands there. A text that stops being JSON at some
point still has a value: the part read so far, with a `broken` leaf at that point. Whoever reads the
value in order meets the leaf, or a wrong value before it, so the first fault in the text is the one
that is reported.
-/
namespace TypedJsx

/-- What makes a text no JSON. -/
inductive JsonFlaw where
  | eofInList | eofInObject | eofInString | eofInValue
  | expectedColon | expectedListEnd | expectedObjectEnd | expectedWord | expectedValue
  | invalidEscape | invalidNumber | numberRange | invalidCodePoint | controlCharacter
  | keyNotString | loneSurrogate | trailingComma | trailingCharacters | endOfHexEscape
deriving DecidableEq, Repr, Inhabited

/-- Faults are of three categories: the text ended too early, it is no JSON, or the value has another
shape than the one asked for. -/
inductive JsonCategory where
  | eof | syntaxFault | data
deriving DecidableEq, Repr, Inhabited

def JsonCategory.name : JsonCategory → String
  | .eof => "eof"
  | .syntaxFault => "syntax"
  | .data => "data"

namespace JsonFlaw

def category : JsonFlaw → JsonCategory
  | eofInList | eofInObject | eofInString | eofInValue => .eof
  | _ => .syntaxFault

def message : JsonFlaw → String
  | eofInList => "EOF while parsing a list"
  | eofInObject => "EOF while parsing an object"
  | eofInString => "EOF while parsing a string"
  | eofInValue => "EOF while parsing a value"
  | expectedColon => "expected `:`"
  | expectedListEnd => "expected `,` or `]`"
  | expectedObjectEnd => "expected `,` or `\x7d`"
  | expectedWord => "expected ident"
  | expectedValue => "expected value"
  | invalidEscape => "invalid escape"
  | invalidNumber => "invalid number"
  | numberRange => "number out of range"
  | invalidCodePoint => "invalid unicode code point"
  | controlCharacter => "control character (\\u0000-\\u001F) found while parsing a string"
  | keyNotString => "key must be a string"
  | loneSurrogate => "lone leading surrogate in hex escape"
  | trailingComma => "trailing comma"
  | trailingCharacters => "trailing characters"
  | endOfHexEscape => "unexpected end of hex escape"

end JsonFlaw

/-- Where a value stands in its text, in bytes. -/
structure Extent where
  start : Nat := 0
  stop : Nat := 0
deriving DecidableEq, Repr, Inhabited

/-- A number: a whole one that fits a machine word, or the text of the double nearest to any
other. -/
inductive JsonNumber where
  | whole (value : Int)
  | other (text : String)
deriving DecidableEq, Repr, Inhabited

/-- A key of an object, and where the text behind it goes on. -/
structure JsonKey where
  text : String
  stop : Nat := 0
deriving DecidableEq, Repr, Inhabited

inductive Json where
  | null (extent : Extent := {})
  | bool (value : Bool) (extent : Extent := {})
  | number (value : JsonNumber) (extent : Extent := {})
  | string (value : String) (extent : Extent := {})
  | array (items : List Json) (extent : Extent := {})
  | object (members : List (JsonKey × Json)) (extent : Extent := {})
  /-- Text that is well formed but stands for no value; it may be skipped. -/
  | unreadable (flaw : JsonFlaw) (offset : Nat)
  /-- The point at which the text stops being JSON. -/
  | broken (flaw : JsonFlaw) (offset : Nat)
deriving Inhabited

namespace Json

/-- An object with the given members. -/
def ofMembers (members : List (String × Json)) : Json :=
  .object (members.map fun (k, v) => ({ text := k }, v))

def ofNat (n : Nat) : Json := .number (.whole n)

def ofStrings (items : List String) : Json := .array (items.map fun s => .string s)

/-- The last value of a key; none for other values than objects. -/
def get? (j : Json) (name : String) : Option Json :=
  match j with
  | .object members _ => (members.reverse.find? fun m => m.1.text == name).map (·.2)
  | _ => none

mutual

/-- The point at which the text of a value stops being JSON. -/
def break? : Json → Option (JsonFlaw × Nat)
  | .broken flaw offset => some (flaw, offset)
  | .array items _ => breakOfItems? items
  | .object members _ => breakOfMembers? members
  | _ => none

def breakOfItems? : List Json → Option (JsonFlaw × Nat)
  | [] => none
  | j :: rest => match j.break? with
    | some b => some b
    | none => breakOfItems? rest

def breakOfMembers? : List (JsonKey × Json) → Option (JsonFlaw × Nat)
  | [] => none
  | (_, j) :: rest => match j.break? with
    | some b => some b
    | none => breakOfMembers? rest

end

mutual

/-- The first flaw of a text all of which is read. -/
def flaw? : Json → Option (JsonFlaw × Nat)
  | .broken flaw offset => some (flaw, offset)
  | .unreadable flaw offset => some (flaw, offset)
  | .array items _ => flawOfItems? items
  | .object members _ => flawOfMembers? members
  | _ => none

def flawOfItems? : List Json → Option (JsonFlaw × Nat)
  | [] => none
  | j :: rest => match j.flaw? with
    | some b => some b
    | none => flawOfItems? rest

def flawOfMembers? : List (JsonKey × Json) → Option (JsonFlaw × Nat)
  | [] => none
  | (_, j) :: rest => match j.flaw? with
    | some b => some b
    | none => flawOfMembers? rest

end

end Json

/-! ## Writing -/

namespace Json

def hexChar (n : Nat) : Char := Nat.digitChar n

/-- A character inside a string. Only quotes, backslashes and control characters are escaped. -/
def escapeChar (c : Char) : List Char :=
  match c.toNat with
  | 0x08 => ['\\', 'b']
  | 0x09 => ['\\', 't']
  | 0x0a => ['\\', 'n']
  | 0x0c => ['\\', 'f']
  | 0x0d => ['\\', 'r']
  | 0x22 => ['\\', c]
  | 0x5c => ['\\', c]
  | n => if n < 0x20 then ['\\', 'u', '0', '0', hexChar (n / 16), hexChar (n % 16)] else [c]

def quote (s : String) : List Char :=
  '\x22' :: (s.toList.flatMap escapeChar ++ ['\x22'])

/-- A number as it was read, or in decimal digits. -/
def numberText : JsonNumber → List Char
  | .whole n => (toString n).toList
  | .other text => text.toList

mutual

/-- A value on one line without blanks. -/
def compact : Json → List Char
  | .null _ => "null".toList
  | .bool value _ => if value then "true".toList else "false".toList
  | .number value _ => numberText value
  | .string value _ => quote value
  | .array items _ => '[' :: (compactItems items ++ [']'])
  | .object members _ => '{' :: (compactMembers members ++ ['}'])
  | .unreadable _ _ | .broken _ _ => []

def compactItems : List Json → List Char
  | [] => []
  | [j] => j.compact
  | j :: rest => j.compact ++ ',' :: compactItems rest

def compactMembers : List (JsonKey × Json) → List Char
  | [] => []
  | [(k, j)] => quote k.text ++ ':' :: j.compact
  | (k, j) :: rest => quote k.text ++ ':' :: (j.compact ++ ',' :: compactMembers rest)

end

/-- A new line with two blanks for each level. -/
def line (level : Nat) : List Char := '\n' :: List.replicate (2 * level) ' '

mutual

/-- A value with every item and member on a line of its own, at the given level. -/
def pretty (level : Nat) : Json → List Char
  | .array [] _ => "[]".toList
  | .array (j :: rest) _ =>
    '[' :: (line (level + 1) ++ j.pretty (level + 1) ++ prettyItems (level + 1) rest ++ line level ++ [']'])
  | .object [] _ => "\x7b\x7d".toList
  | .object ((k, j) :: rest) _ =>
    '{' :: (line (level + 1) ++ quote k.text ++ ": ".toList ++ j.pretty (level + 1)
      ++ prettyMembers (level + 1) rest ++ line level ++ ['}'])
  | .null _ => "null".toList
  | .bool value _ => if value then "true".toList else "false".toList
  | .number value _ => numberText value
  | .string value _ => quote value
  | .unreadable _ _ | .broken _ _ => []

def prettyItems (level : Nat) : List Json → List Char
  | [] => []
  | j :: rest => ',' :: (line level ++ j.pretty level ++ prettyItems level rest)

def prettyMembers (level : Nat) : List (JsonKey × Json) → List Char
  | [] => []
  | (k, j) :: rest =>
    ',' :: (line level ++ quote k.text ++ ": ".toList ++ j.pretty level ++ prettyMembers level rest)

end

end Json

end TypedJsx
