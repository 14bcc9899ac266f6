import TypedJsx.Json.Reader
/-!
Reading values as something: texts, whole numbers, lists, records, words of a fixed set.

A record is read from an object, whose unknown keys are skipped, or from a list of its fields in
order. Its fields are read in the order of the text, so that of two faults the first one is reported.
-/
namespace TypedJsx

/-- Why a value cannot be read as what was asked for. -/
inductive JsonFault where
  | flawed (flaw : JsonFlaw)
  | invalidType (found expected : String)
  | invalidValue (found expected : String)
  | invalidLength (length : Nat) (expected : String)
  | missingField (name : String)
  | duplicateField (name : String)
  | unknownVariant (name : String) (known : List String)
deriving DecidableEq, Repr, Inhabited

structure JsonError where
  fault : JsonFault
  offset : Nat
deriving DecidableEq, Repr, Inhabited

abbrev Decode (α : Type) := Json → Except JsonError α

namespace JsonFault

def category : JsonFault → JsonCategory
  | flawed flaw => flaw.category
  | _ => .data

/-- The names of a set of words. -/
def alternatives : List String → String
  | [] => "there are no variants"
  | [a] => "expected `" ++ a ++ "`"
  | [a, b] => "expected `" ++ a ++ "` or `" ++ b ++ "`"
  | names => "expected one of " ++ ", ".intercalate (names.map fun n => "`" ++ n ++ "`")

def message : JsonFault → String
  | flawed flaw => flaw.message
  | invalidType found expected => "invalid type: " ++ found ++ ", expected " ++ expected
  | invalidValue found expected => "invalid value: " ++ found ++ ", expected " ++ expected
  | invalidLength length expected =>
    "invalid length " ++ toString length ++ ", expected " ++ expected
  | missingField name => "missing field `" ++ name ++ "`"
  | duplicateField name => "duplicate field `" ++ name ++ "`"
  | unknownVariant name known => "unknown variant `" ++ name ++ "`, " ++ alternatives known

end JsonFault

namespace JsonError

def category (e : JsonError) : JsonCategory := e.fault.category

/-- The message with the line and the column, in bytes, of the fault in its text. -/
def message (text : List Char) (e : JsonError) : String :=
  let before := takeBytes e.offset text
  let line := (before.filter (· == '\n')).length + 1
  let current := before.reverse.takeWhile (· != '\n')
  let column := e.offset - (byteLength before - byteLength current)
  e.fault.message ++ " at line " ++ toString line ++ " column " ++ toString column

end JsonError

namespace Json

/-- The text of a character in a string that a message shows. -/
def shownChar (c : Char) : List Char :=
  match c with
  | '\x00' => ['\\', '0']
  | '\t' => ['\\', 't']
  | '\n' => ['\\', 'n']
  | '\r' => ['\\', 'r']
  | '\x22' => ['\\', '\x22']
  | '\\' => ['\\', '\\']
  | c =>
    if c.toNat < 0x20 || (0x7f ≤ c.toNat && c.toNat < 0xa0) then
      "\\u\x7b".toList ++ Nat.toDigits 16 c.toNat ++ ['\x7d']
    else [c]

/-- How a message calls a value. -/
def describe : Json → String
  | .null _ => "null"
  | .bool value _ => "boolean `" ++ (if value then "true" else "false") ++ "`"
  | .number (.whole n) _ => "integer `" ++ toString n ++ "`"
  | .number (.other text) _ => "floating point `" ++ text ++ "`"
  | .string value _ => "string \x22" ++ String.ofList (value.toList.flatMap shownChar) ++ "\x22"
  | .array _ _ => "sequence"
  | .object _ _ => "map"
  | .unreadable _ _ | .broken _ _ => "nothing"

/-- Where a value of the wrong type is reported: behind it, but before a list or an object. -/
def faultOffset : Json → Nat
  | .null e | .bool _ e | .number _ e | .string _ e => e.stop
  | .array _ e | .object _ e => e.start
  | .unreadable _ offset | .broken _ offset => offset

/-- The first byte of a value has been seen. -/
def firstByte : Json → Nat
  | .null e | .bool _ e | .number _ e | .string _ e | .array _ e | .object _ e => e.start + 1
  | .unreadable _ offset | .broken _ offset => offset

/-- The value is not of the expected type, or there is none. -/
def mismatch {α : Type} (j : Json) (expected : String) : Except JsonError α :=
  match j with
  | .unreadable flaw offset | .broken flaw offset => .error ⟨.flawed flaw, offset⟩
  | j => .error ⟨.invalidType j.describe expected, j.faultOffset⟩

def asString : Decode String
  | .string value _ => .ok value
  | j => j.mismatch "a string"

def asBool : Decode Bool
  | .bool value _ => .ok value
  | j => j.mismatch "a boolean"

/-- Whole numbers of 32 bits. -/
def asWord32 : Decode Nat
  | .number (.whole n) e =>
    if 0 ≤ n && n < Nat.pow 2 32 then .ok n.toNat
    else .error ⟨.invalidValue ("integer `" ++ toString n ++ "`") "u32", e.stop⟩
  | j => j.mismatch "u32"

/-- Every item of a list in turn. -/
def asItems {α : Type} (item : Decode α) : List Json → Except JsonError (List α)
  | [] => .ok []
  | j :: rest => do
    let a ← item j
    let more ← asItems item rest
    return a :: more

def asList {α : Type} (item : Decode α) : Decode (List α)
  | .array items _ => asItems item items
  | j => j.mismatch "a sequence"

/-- A value, or `null` for none. -/
def asOption {α : Type} (item : Decode α) : Decode (Option α)
  | .null _ => .ok none
  | j => some <$> item j

/-- A word of a fixed set, or an object with the word as its only key and nothing under it. -/
def asVariant {α : Type} (variants : List (String × α)) : Decode α :=
  let pick (name : String) (offset : Nat) : Except JsonError α :=
    match variants.lookup name with
    | some a => .ok a
    | none => .error ⟨.unknownVariant name (variants.map (·.1)), offset⟩
  fun j => match j with
  | .string name e => pick name e.stop
  | .object [] e => .error ⟨.flawed .expectedValue, e.stop⟩
  | .object ((k, content) :: more) _ => do
    match k.text, content with
    | "", .broken flaw offset => .error ⟨.flawed flaw, offset⟩
    | _, _ => pure ()
    let a ← pick k.text k.stop
    match content, more with
    | .null _, [] => return a
    | .null e, (_, .broken .eofInObject _) :: _ => .error ⟨.flawed .eofInObject, e.stop⟩
    | .null e, _ => .error ⟨.flawed .expectedValue, e.stop⟩
    | other, _ => other.mismatch "unit"
  | .unreadable flaw offset | .broken flaw offset => .error ⟨.flawed flaw, offset⟩
  | j => .error ⟨.flawed .expectedValue, j.firstByte⟩

end Json

/-! ## Records -/

/-- A field of a record: its key, whether it has to be given, and what its values are. -/
structure JsonField where
  name : String
  isRequired : Bool
  check : Decode Unit

def JsonField.required {α : Type} (name : String) (decode : Decode α) : JsonField :=
  ⟨name, true, fun j => do let _ ← decode j⟩

def JsonField.optional {α : Type} (name : String) (decode : Decode α) : JsonField :=
  ⟨name, false, fun j => do let _ ← decode j⟩

/-- The values of the fields of a record, by name. -/
abbrev JsonRecord := List (String × Json)

namespace JsonRecord

/-- The known members of an object; every value is checked before the next one is looked at. -/
def ofMembers (fields : List JsonField) (seen : List String) :
    List (JsonKey × Json) → Except JsonError JsonRecord
  | [] => .ok []
  | (k, j) :: rest =>
    match fields.find? fun f => f.name == k.text with
    | none =>
      match j.break? with
      | some (flaw, offset) => .error ⟨.flawed flaw, offset⟩
      | none => ofMembers fields seen rest
    | some f =>
      if seen.contains f.name then .error ⟨.duplicateField f.name, k.stop⟩
      else do
        f.check j
        let more ← ofMembers fields (f.name :: seen) rest
        return (f.name, j) :: more

/-- A required field that is not given is missing. -/
def complete (fields : List JsonField) (stop : Nat) (r : JsonRecord) : Except JsonError JsonRecord :=
  match fields.find? fun f => f.isRequired && !(r.any fun p => p.1 == f.name) with
  | some f => .error ⟨.missingField f.name, stop⟩
  | none => .ok r

/-- More items in a list than a record has fields. -/
def excess (stop : Nat) : Json → JsonError
  | .broken .eofInList offset => ⟨.flawed .eofInList, offset⟩
  | .broken .trailingComma offset => ⟨.flawed .trailingComma, offset⟩
  | _ => ⟨.flawed .trailingCharacters, stop⟩

/-- The fields in order. -/
def ofItems (what : String) (stop count : Nat) :
    List JsonField → List Json → Except JsonError JsonRecord
  | [], [] => .ok []
  | [], j :: _ => .error (excess stop j)
  | f :: fields, [] =>
    if f.isRequired then .error ⟨.invalidLength count what, stop⟩
    else ofItems what stop (count + 1) fields []
  | f :: fields, j :: rest => do
    f.check j
    let more ← ofItems what stop (count + 1) fields rest
    return (f.name, j) :: more

/-- Reads the fields of a record. -/
def read (name : String) (fields : List JsonField) : Decode JsonRecord
  | .object members e => do
    complete fields e.stop (← ofMembers fields [] members)
  | .array items e =>
    let size := toString fields.length ++ (if fields.length = 1 then " element" else " elements")
    ofItems ("struct " ++ name ++ " with " ++ size) e.stop 0 fields items
  | j => j.mismatch ("struct " ++ name)

/-- The value of a field that has to be given. -/
def get {α : Type} (r : JsonRecord) (name : String) (decode : Decode α) : Except JsonError α :=
  match r.lookup name with
  | some j => decode j
  | none => .error ⟨.missingField name, 0⟩

/-- The value of a field, or what stands for it when it is not given. -/
def getD {α : Type} (r : JsonRecord) (name : String) (decode : Decode α) (default : α) :
    Except JsonError α :=
  match r.lookup name with
  | some j => decode j
  | none => .ok default

end JsonRecord

/-- Reads a text as something. -/
def Json.decodeText {α : Type} (decode : Decode α) (text : List Char) : Except JsonError α := do
  let (j, trailing) := JsonText.document text
  let a ← decode j
  match trailing with
  | some (flaw, offset) => .error ⟨.flawed flaw, offset⟩
  | none => return a

end TypedJsx
