import TypedJsx.Text.Basic
import TypedJsx.Text.Alphabetic
import TypedJsx.Interface
import TypedJsx.Comment
/-!
Diagnostics: what went wrong, where, how bad it is, and what to do about it. A failure becomes a
diagnostic; its category and its place are read off the words of its message.
-/
namespace TypedJsx

/-! ## Locations

A message that ends in `(line N, column M)` is located there; any other one at the first numbers that follow
the words `line` and `column`. -/

namespace Location

/-- The rest of a text behind a given start. -/
def behind? : List Char → List Char → Option (List Char)
  | [], text => some text
  | c :: cs, d :: ds => if c = d then behind? cs ds else none
  | _ :: _, [] => none

/-- The digits at the start of a text and what follows; none without a digit. -/
def digits? (text : List Char) : Option (List Char × List Char) :=
  match text.takeWhile isDecimalDigit with
  | [] => none
  | ds => some (ds, text.dropWhile isDecimalDigit)

/-- The number that digits stand for; none unless they are 0 to 9 and it fits 32 bits. -/
def number? (ds : List Char) : Option Nat :=
  if ds.all isAsciiDigit then
    let n := ds.foldl (fun n c => n * 10 + (c.toNat - '0'.toNat)) 0
    if n < Nat.pow 2 32 then some n else none
  else none

/-- The digits of a text that is a location and nothing else but blanks behind it. -/
def suffix? (text : List Char) : Option (List Char × List Char) := do
  let text ← behind? "(line ".toList text
  let (line, text) ← digits? text
  let text ← behind? ", column ".toList text
  let (column, text) ← digits? text
  let text ← behind? [')'] text
  if text.all isBlank then some (line, column) else none

/-- The location at the end of a text. -/
def atEnd? : List Char → Option (List Char × List Char)
  | [] => none
  | c :: cs =>
    match suffix? (c :: cs) with
    | some found => some found
    | none => atEnd? cs

/-- The digits behind a word at the start of a text, after a colon and blanks that may stand between.
The case of the word does not matter. -/
def mention? (word text : List Char) : Option (List Char) := do
  if (text.take word.length).map asciiLower != word then none
  let text := text.drop word.length
  let text := match text with
    | ':' :: rest => rest
    | text => text
  let (ds, _) ← digits? (trimLeft text)
  return ds

/-- The first mention of a word in a text. `inWord` tells that the character before is part of a word:
the word has to begin one. -/
def firstMention? (word : List Char) (inWord : Bool) : List Char → Option (List Char)
  | [] => none
  | c :: cs =>
    match if inWord then none else mention? word (c :: cs) with
    | some ds => some ds
    | none => firstMention? word (isWordChar c) cs

/-- The number behind the first mention of a word, zero without one. -/
def mentioned (word : String) (message : List Char) : Nat :=
  ((firstMention? word.toList false message).bind number?).getD 0

/-- Line and column that a message mentions, zero where it mentions none. -/
def ofMessage (message : List Char) : Position :=
  let loose : Position := ⟨mentioned "line" message, mentioned "column" message⟩
  match atEnd? message with
  | none => loose
  | some (line, column) =>
    match number? line, number? column with
    | some l, some c => ⟨l, c⟩
    | _, _ => loose

end Location

/-! ## Snippets

A line with two lines around it on each side, numbered, the line itself marked. -/

namespace Snippet

def digitsOf (n : Nat) : List Char := Nat.toDigits 10 n

/-- A number, right-aligned to a width. -/
def aligned (width n : Nat) : List Char :=
  List.replicate (width - (digitsOf n).length) ' ' ++ digitsOf n

/-- A row of a snippet. -/
def row (width marked n : Nat) (content : List Char) : List Char :=
  aligned width n ++ [' ', (if n = marked then '>' else ' '), ' ', '|', ' '] ++ content

/-- Rows for the given lines, the first of which has number `n`. -/
def rows (width marked : Nat) : Nat → List (List Char) → List (List Char)
  | _, [] => []
  | n, content :: rest => row width marked n content :: rows width marked (n + 1) rest

/-- The snippet around a line; none if the source has no such line. -/
def around? (source : List Char) (line : Nat) : Option (List Char) :=
  let all := lines source
  if line = 0 || all.length < line then none
  else
    let first := max 1 (line - 2)
    let last := min (line + 2) all.length
    let width := (digitsOf last).length
    let shown := (all.drop (first - 1)).take (last + 1 - first)
    some (joinWith ['\n'] (rows width line first shown))

end Snippet

/-! ## Failures -/

/-- Why a conversion, or the conversion of one component, failed. -/
inductive Failure where
  | parse (message : String) (position : Position)
  | transform (message : String)
  | transformAt (message : String) (position : Position)
  | serialization (message : String)
deriving DecidableEq, Repr, Inhabited

namespace Failure

/-- A message with its location behind it. -/
def located (message : String) (p : Position) : String :=
  message ++ " (line " ++ toString p.line ++ ", column " ++ toString p.column ++ ")"

def message : Failure → String
  | parse m p => located m p
  | transform m => m
  | transformAt m p => located m p
  | serialization m => "Failed to generate code: " ++ m

def position? : Failure → Option Position
  | parse _ p | transformAt _ p => some p
  | transform _ | serialization _ => none

/-- A failure at an offset of the source. -/
def atOffset (message : String) (source : List Char) (offset : Nat) : Failure :=
  .transformAt message (Position.ofOffset source offset)

end Failure

/-- What a computation that was given up leaves behind: a text, or something else. -/
inductive Payload where
  | text (value : String)
  | other
deriving DecidableEq, Repr, Inhabited

/-- What can be said about a computation that was given up. -/
def Payload.message : Payload → String
  | .text value => value
  | .other => "unknown panic"

/-! ## Categories -/

inductive Category where
  | grammar | propTypes | modules | markup | conversion
deriving DecidableEq, Repr, Inhabited

namespace Category

def code : Category → String
  | grammar => "SYNTAX_ERROR"
  | propTypes => "PROP_TYPES_ERROR"
  | modules => "IMPORT_ERROR"
  | markup => "JSX_ERROR"
  | conversion => "CONVERSION_ERROR"

def suggestions : Category → List String
  | grammar =>
    ["Check for syntax errors like missing brackets or parentheses.",
      "Verify that all JSX tags are properly closed."]
  | propTypes =>
    ["Make sure propTypes are defined correctly.",
      "Consider using TypeScript interfaces instead of PropTypes."]
  | modules =>
    ["Verify that all imported modules are available.",
      "Check the import syntax and path correctness."]
  | markup =>
    ["Make sure every JSX element has a matching closing tag.",
      "Wrap adjacent JSX elements in a single parent or a fragment (<>...</>)."]
  | conversion =>
    ["Review the code for syntax errors.",
      "Ensure the JSX code is valid before conversion."]

/-- The words that tell a category, in the order in which they are looked for. -/
def keywords : List (Category × List String) :=
  [(grammar, ["Unexpected token"]), (propTypes, ["propTypes"]), (modules, ["import", "require"]),
    (markup, ["JSX"])]

/-- The categories whose words a message has. -/
def allOf (message : List Char) : List Category :=
  (keywords.filter fun k => k.2.any fun w => occursIn w.toList message).map (·.1)

/-- The category of a message. -/
def ofMessage (message : List Char) : Category := (allOf message).headD conversion

/-- What to do about a message: the suggestions of all its categories. -/
def suggestionsFor (message : List Char) : List String :=
  match allOf message with
  | [] => conversion.suggestions
  | found => found.flatMap suggestions

end Category

/-! ## Diagnostics -/

inductive Severity where
  | error | warning | info
deriving DecidableEq, Repr, Inhabited

namespace Severity

def name : Severity → String
  | error => "error"
  | warning => "warning"
  | info => "info"

def all : List Severity := [error, warning, info]

def toJson (s : Severity) : Json := .string s.name

def ofJson : Decode Severity := Json.asVariant (all.map fun s => (s.name, s))

end Severity

structure Diagnostic where
  message : String
  line : Nat
  column : Nat
  severity : Severity
  code : String
  snippet : Option String := none
  suggestions : List String := []
deriving DecidableEq, Repr, Inhabited

namespace Diagnostic

def isError (d : Diagnostic) : Bool := d.severity == .error

/-- The snippet around a line of the source. -/
def snippetOf (source : List Char) (line : Nat) : Option String :=
  (Snippet.around? source line).map String.ofList

/-- A finding at a known place that does not stop the conversion. -/
def warning (code message : String) (source : List Char) (p : Position) (suggestions : List String) :
    Diagnostic :=
  { message := message, line := p.line, column := p.column, severity := .warning, code := code,
    snippet := snippetOf source p.line, suggestions := suggestions }

/-- The diagnostic of a failure. One without a position is placed where its message says. -/
def ofFailure (severity : Severity) (failure : Failure) (source : List Char) : Diagnostic :=
  let message := failure.message
  let p := failure.position?.getD (Location.ofMessage message.toList)
  { message := message, line := p.line, column := p.column, severity := severity,
    code := (Category.ofMessage message.toList).code, snippet := snippetOf source p.line,
    suggestions := Category.suggestionsFor message.toList }

/-- A failure that ended the conversion of a file. -/
def report (failure : Failure) (source : List Char) : Diagnostic := ofFailure .error failure source

/-- A failure that was contained to one component. -/
def reportContained (failure : Failure) (source : List Char) : Diagnostic :=
  ofFailure .warning failure source

def toJson (d : Diagnostic) : Json :=
  .ofMembers ([("message", Json.string d.message), ("line", .ofNat d.line), ("column", .ofNat d.column),
    ("severity", d.severity.toJson), ("code", .string d.code)]
    ++ (match d.snippet with
      | some s => [("snippet", Json.string s)]
      | none => [])
    ++ [("suggestions", .ofStrings d.suggestions)])

def fields : List JsonField :=
  [.required "message" Json.asString, .required "line" Json.asWord32, .required "column" Json.asWord32,
    .required "severity" Severity.ofJson, .required "code" Json.asString,
    .optional "snippet" (Json.asOption Json.asString), .optional "suggestions" (Json.asList Json.asString)]

def ofJson : Decode Diagnostic := fun j => do
  let r ← JsonRecord.read "ErrorDetail" fields j
  return {
    message := ← r.get "message" Json.asString
    line := ← r.get "line" Json.asWord32
    column := ← r.get "column" Json.asWord32
    severity := ← r.get "severity" Severity.ofJson
    code := ← r.get "code" Json.asString
    snippet := ← r.getD "snippet" (Json.asOption Json.asString) none
    suggestions := ← r.getD "suggestions" (Json.asList Json.asString) [] }

end Diagnostic

end TypedJsx
