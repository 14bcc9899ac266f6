import TypedJsx.Number
import TypedJsx.Printer.Page
/-!
Names and literals on the page.
-/
namespace TypedJsx.Printing

/-! ## Strings -/

/-- The text of a character inside a string between double quotes. `next` is the character after it:
a digit there would extend an escaped zero. -/
def stringChar (c : Char) (next : Option Char) : List Char :=
  match c.toNat with
  | 0 =>
    match next with
    | some d => if '0' ≤ d && d ≤ '9' then "\\x00".toList else "\\0".toList
    | none => "\\0".toList
  | 0x07 => "\\x07".toList
  | 0x08 => "\\b".toList
  | 0x0a => "\\n".toList
  | 0x0b => "\\v".toList
  | 0x0c => "\\f".toList
  | 0x0d => "\\r".toList
  | 0x1b => "\\x1B".toList
  | 0x22 => "\\\x22".toList
  | 0x5c => "\\\\".toList
  | 0xa0 => "\\xA0".toList
  | 0x2028 => "\\u2028".toList
  | 0x2029 => "\\u2029".toList
  | _ => [c]

/-- The text between the quotes of a string. With `hasLone`, U+FFFD and the four digits behind it stand
for the unpaired surrogate of that number, or for U+FFFD itself. -/
def stringBody (hasLone : Bool) : Nat → List Char → List Char
  | 0, _ => []
  | _, [] => []
  | n + 1, '\ufffd' :: a :: b :: c :: d :: r =>
    if hasLone then
      if [a, b, c, d] == "fffd".toList then '\ufffd' :: stringBody hasLone n r
      else '\\' :: 'u' :: a :: b :: c :: d :: stringBody hasLone n r
    else '\ufffd' :: stringBody hasLone n (a :: b :: c :: d :: r)
  | n + 1, '<' :: '/' :: r =>
    if (r.take 6).map asciiLower == "script".toList then '<' :: '\\' :: '/' :: stringBody hasLone n r
    else '<' :: '/' :: stringBody hasLone n r
  | n + 1, c :: r => stringChar c r.head? ++ stringBody hasLone n r

def stringLiteral (value : String) (hasLone : Bool) : Printing := do
  put "\x22"
  chars (stringBody hasLone (value.length + 1) value.toList)
  put "\x22"

/-- The quote for a directive: the first quote in it that is not escaped must not be this one. -/
def directiveQuote : List Char → String
  | [] => "\x22"
  | '\\' :: _ :: r => directiveQuote r
  | c :: r =>
    if c == '\x22' then "'"
    else if c == '\x27' then "\x22"
    else directiveQuote r

/-- Text between quotes; single ones if a double quote is in it. -/
def quotedRaw (raw : String) : Printing := do
  let quote := if raw.toList.contains '\x22' then "'" else "\x22"
  put quote
  put raw
  put quote

/-! ## Numbers and regular expressions -/

/-- A number in its shortest form, or in a type as it is written. -/
def number (value : Numeral) (written : String) (place : Place) : Printing := do
  let text := if place.inType then written.toList else NumberText.literal (Double.ofNumeral value)
  separateWord
  chars text
  whenever (NumberText.needsBlankBeforeDot text) do
    modify fun p => { p with numberEnd := p.length }

def bigint (value : Nat) : Printing := do
  separateWord
  chars (Nat.toDigits 10 value)
  put "n"

/-- A regular expression, kept from being read as the end of a tag or the start of a comment. -/
def regexp (pattern flags : String) : Printing := do
  let p ← get
  match p.reversed with
  | '/' :: _ => blank
  | '<' :: _ => whenever ((pattern.toList.take 6).map asciiLower == "script".toList) blank
  | _ => pure ()
  put "/"
  put pattern
  put "/"
  chars ("dgimsuvy".toList.filter fun c => flags.toList.contains c)
  modify fun p => { p with regexpEnd := p.length }

/-- The pieces of a template with the expressions between them. -/
def templatePieces (write : Node → Printing) : List String → List Node → Printing
  | [], _ => pure ()
  | [piece], _ => put piece
  | piece :: pieces, [] => do
    put piece
    templatePieces write pieces []
  | piece :: pieces, e :: es => do
    put piece
    put "$\x7b"
    write e
    put "\x7d"
    templatePieces write pieces es

/-- A template between its quotes. -/
def quotedTemplate (pieces : List String) (parts : List Node) (write : Node → Printing) : Printing := do
  put "\x60"
  templatePieces write pieces parts
  put "\x60"

/-- A template in an expression. -/
def template (pieces : List String) (parts : List Node) (write : Node → Printing) : Printing :=
  quotedTemplate (pieces.map fun piece => String.ofList (escapeScript piece.toList)) parts write

end TypedJsx.Printing
