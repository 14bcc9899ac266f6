import TypedJsx.Fault
import TypedJsx.Text.IdentifierChar
import TypedJsx.Text.Basic
import TypedJsx.Tree.Node
/-!
The texts of names, strings, templates, regular expressions and numbers: where each ends, and what it
stands for.
-/
namespace TypedJsx.Lexeme

/-! ## Escapes -/

/-- The number written by four digits of base sixteen. -/
def fourDigits? : List Char → Option (Nat × List Char)
  | a :: b :: c :: d :: r => do
    let a ← hexValue? a
    let b ← hexValue? b
    let c ← hexValue? c
    let d ← hexValue? d
    return (((a * 16 + b) * 16 + c) * 16 + d, r)
  | _ => none

/-- Digits of base sixteen up to a closing brace, at least one. -/
def bracedDigits? (acc : Option Nat) : List Char → Option (Nat × List Char)
  | [] => none
  | c :: r =>
    if c = '}' then acc.map (·, r)
    else match hexValue? c with
      | some d => bracedDigits? (some (acc.getD 0 * 16 + d)) r
      | none => none

/-- The code written after `\u`. -/
def unicodeEscape? : List Char → Option (Nat × List Char)
  | '{' :: r =>
    match bracedDigits? none r with
    | some (n, rest) => if n ≤ 0x10ffff then some (n, rest) else none
    | none => none
  | r => fourDigits? r

/-! ## Names -/

structure Name where
  text : List Char
  rest : List Char
  /-- Some character is written as an escape. -/
  isEscaped : Bool
  /-- What is wrong with the first escape that stands for no character of a name, and the text at which
  that is reported. -/
  issue : Option (Fault × List Char)

/-- The longest name at the start of a text; `fuel` bounds the number of escapes. -/
def nameLoop (isFirst : Bool) : Nat → List Char → Name
  | 0, cs => ⟨[], cs, false, none⟩
  | fuel + 1, cs =>
    let plain := cs.takeWhile isIdentifierPart
    let isFirst := isFirst && plain.isEmpty
    match cs.drop plain.length with
    | '\\' :: 'u' :: r =>
      match unicodeEscape? r with
      | none => ⟨plain, r, true, some (.invalidUnicodeEscape, 'u' :: r)⟩
      | some (n, rest) =>
        let c := Char.ofNat n
        let more := nameLoop false fuel rest
        let isFitting := if isFirst then isIdentifierStart c else isIdentifierPart c
        if n = c.toNat && isFitting then ⟨plain ++ c :: more.text, more.rest, true, more.issue⟩
        else if n = c.toNat then ⟨plain, more.rest, true, some (.invalidCharacter c, rest)⟩
        else ⟨plain, more.rest, true, some (.invalidUnicodeEscape, 'u' :: r)⟩
    | '\\' :: r => ⟨plain, r, true, some (.invalidUnicodeEscape, r)⟩
    | rest => ⟨plain, rest, false, none⟩

/-- A character that a name is written with: a part of a name, or of an escape. -/
def isNameText (c : Char) : Bool := isIdentifierPart c || c = '\\' || c = '{' || c = '}'

/-- The longest name at the start of a text. -/
def name (cs : List Char) : Name := nameLoop true ((cs.takeWhile isNameText).length + 1) cs

/-! ## Strings -/

/-- The text up to the closing quote, and the text after it if there is one before the line or the text
ends. A backslash keeps the character after it, or the line end, from ending the string. -/
def quoted (quote : Char) : List Char → List Char × Option (List Char)
  | [] => ([], none)
  | '\\' :: '\r' :: '\n' :: r =>
    let p := quoted quote r
    ('\\' :: '\r' :: '\n' :: p.1, p.2)
  | '\\' :: c :: r =>
    let p := quoted quote r
    ('\\' :: c :: p.1, p.2)
  | c :: r =>
    if c = quote then ([], some r)
    else if c = '\n' || c = '\r' then ([], none)
    else
      let p := quoted quote r
      (c :: p.1, p.2)

/-- A decoded unit: a character, half of a surrogate pair, or an escape that is not well formed, with
the text from its backslash on. -/
inductive CodeUnit where
  | char (c : Char)
  | surrogate (n : Nat)
  | malformed (text : List Char)
deriving DecidableEq

def isHighSurrogate (n : Nat) : Bool := 0xd800 ≤ n && n ≤ 0xdbff

def isLowSurrogate (n : Nat) : Bool := 0xdc00 ≤ n && n ≤ 0xdfff

def CodeUnit.ofNat (n : Nat) : CodeUnit :=
  if isHighSurrogate n || isLowSurrogate n then .surrogate n else .char (Char.ofNat n)

def octalValue? (c : Char) : Option Nat :=
  if '0' ≤ c && c ≤ '7' then some (c.toNat - '0'.toNat) else none

def isDecimal (c : Char) : Bool := '0' ≤ c && c ≤ '9'

/-- The value of an escape in octal digits, of which at most three are read and at most 255 meant. -/
def octalEscape (first : Nat) : List Char → Nat × List Char
  | a :: b :: r =>
    match octalValue? a, octalValue? b with
    | some x, some y =>
      if first < 4 then ((first * 8 + x) * 8 + y, r) else (first * 8 + x, b :: r)
    | some x, none => (first * 8 + x, b :: r)
    | none, _ => (first, a :: b :: r)
  | [a] =>
    match octalValue? a with
    | some x => (first * 8 + x, [])
    | none => (first, [a])
  | [] => (first, [])

/-- The character that two escapes of four digits stand for together. -/
def pairEscape? : List Char → Option (Char × List Char)
  | r => do
    let (high, r) ← fourDigits? r
    match r with
    | '\\' :: 'u' :: r =>
      let (low, r) ← fourDigits? r
      if isHighSurrogate high && isLowSurrogate low then
        some (Char.ofNat (0x10000 + (high - 0xd800) * 0x400 + (low - 0xdc00)), r)
      else none
    | _ => none

/-- The character or surrogate written after `\u`, which two escapes may spell together. -/
def unicodeUnit? (r : List Char) : Option (CodeUnit × List Char) :=
  match pairEscape? r with
  | some (c, rest) => some (.char c, rest)
  | none => (unicodeEscape? r).map fun p => (.ofNat p.1, p.2)

/-- The character written after `\x` by two digits. -/
def twoDigits? : List Char → Option (Char × List Char)
  | a :: b :: r => do
    let a ← hexValue? a
    let b ← hexValue? b
    return (Char.ofNat (a * 16 + b), r)
  | _ => none

/-- The unit that an escape stands for, if it stands for one, and the text after it; `cs` is the text
after the backslash. In a template no digits but a single zero may follow the backslash. -/
def escape (inTemplate : Bool) (cs : List Char) : List CodeUnit × List Char :=
  let bad (rest : List Char) : List CodeUnit × List Char := ([.malformed ('\\' :: cs)], rest)
  match cs with
  | [] => ([], [])
  | 'n' :: r => ([.char '\n'], r)
  | 't' :: r => ([.char '\t'], r)
  | 'r' :: r => ([.char '\r'], r)
  | 'b' :: r => ([.char '\x08'], r)
  | 'v' :: r => ([.char '\x0b'], r)
  | 'f' :: r => ([.char '\x0c'], r)
  | 'x' :: r =>
    match twoDigits? r with
    | some (c, rest) => ([.char c], rest)
    | none => bad r
  | 'u' :: r =>
    match unicodeUnit? r with
    | some (u, rest) => ([u], rest)
    | none => bad r
  | '\r' :: '\n' :: r => ([], r)
  | c :: r =>
    if isLineEnd c then ([], r)
    else if c = '0' && !r.head?.any isDecimal then ([.char (Char.ofNat 0)], r)
    else if inTemplate && isDecimal c then bad r
    else match octalValue? c with
      | some d =>
        let (n, r) := octalEscape d r
        ([.ofNat n], r)
      | none => ([.char c], r)

/-- The units a text stands for; `fuel` bounds their number. -/
def decodeLoop (inTemplate : Bool) : Nat → List Char → List CodeUnit
  | 0, _ => []
  | _, [] => []
  | fuel + 1, '\\' :: r =>
    let (units, rest) := escape inTemplate r
    units ++ decodeLoop inTemplate fuel rest
  | fuel + 1, c :: r => .char c :: decodeLoop inTemplate fuel r

def decode (inTemplate : Bool) (text : List Char) : List CodeUnit :=
  decodeLoop inTemplate (text.length + 1) text

/-- The texts from the escapes on that are not well formed. -/
def malformed (units : List CodeUnit) : List (List Char) :=
  units.filterMap fun u => match u with
    | .malformed text => some text
    | _ => none

/-- `n` in base sixteen with four digits. -/
def hex4 (n : Nat) : List Char :=
  let digits := Nat.toDigits 16 n
  List.replicate (4 - digits.length) '0' ++ digits

/-- The value of a string, with a mark for unpaired surrogates. In a marked value such a surrogate is
written as U+FFFD and its code, and U+FFFD itself as U+FFFD and its code. -/
def stringValue (units : List CodeUnit) : List Char × Bool :=
  let hasLone := units.any fun u => match u with
    | .surrogate _ => true
    | _ => false
  (units.flatMap fun u => match u with
    | .surrogate n => '\ufffd' :: hex4 n
    | .char c => if hasLone && c = '\ufffd' then '\ufffd' :: hex4 0xfffd else [c]
    | .malformed _ => [], hasLone)

/-- The text of an attribute up to its closing quote, in which nothing is escaped. -/
def attribute? (quote : Char) : List Char → Option (List Char × List Char)
  | [] => none
  | c :: r => if c = quote then some ([], r) else (attribute? quote r).map fun p => (c :: p.1, p.2)

/-! ## Templates -/

structure TemplatePiece where
  text : List Char
  rest : List Char
  /-- The closing quote follows the piece, and not an expression. -/
  closes : Bool

/-- A piece of a template, up to the closing quote or the next expression. -/
def templatePiece? : List Char → Option TemplatePiece
  | [] => none
  | '\\' :: c :: r => (templatePiece? r).map fun p => { p with text := '\\' :: c :: p.text }
  | '$' :: '{' :: r => some ⟨[], r, false⟩
  | c :: r =>
    if c = '\x60' then some ⟨[], r, true⟩
    else (templatePiece? r).map fun p => { p with text := c :: p.text }

/-- Line ends of a template are read as newlines. -/
def normalizeNewlines : List Char → List Char
  | '\r' :: '\n' :: r => '\n' :: normalizeNewlines r
  | '\r' :: r => '\n' :: normalizeNewlines r
  | c :: r => c :: normalizeNewlines r
  | [] => []

/-! ## Regular expressions -/

/-- The pattern after the opening slash and the text after the closing one. -/
def regexpBody? (inClass : Bool) : List Char → Option (List Char × List Char)
  | [] => none
  | '\\' :: c :: r =>
    if isLineEnd c then none
    else (regexpBody? inClass r).map fun p => ('\\' :: c :: p.1, p.2)
  | c :: r =>
    if isLineEnd c then none
    else if c = '/' && !inClass then some ([], r)
    else
      let inClass := if c = '[' then true else if c = ']' then false else inClass
      (regexpBody? inClass r).map fun p => (c :: p.1, p.2)

/-- A character that is read as a flag behind a regular expression. -/
def isFlagText (c : Char) : Bool := c.toNat < 128 && isIdentifierPart c

/-! ## Numbers -/

/-- Digits with single separators between them, and the text after them. -/
structure Digits where
  digits : List Char
  rest : List Char
  /-- The text at which a digit is missing. -/
  missing : Option (List Char) := none

/-- Digits that may be missing. A separator must be followed by a digit. -/
def digitRun (isDigit : Char → Bool) : List Char → Digits
  | '_' :: d :: r =>
    if isDigit d then
      let more := digitRun isDigit r
      { more with digits := d :: more.digits }
    else ⟨[], d :: r, some (d :: r)⟩
  | '_' :: [] => ⟨[], [], some []⟩
  | c :: r =>
    if isDigit c then
      let more := digitRun isDigit r
      { more with digits := c :: more.digits }
    else ⟨[], c :: r, none⟩
  | [] => ⟨[], [], none⟩

/-- Digits behind a mark: nothing when the first one is not there. -/
def digitsAfterMark (isDigit : Char → Bool) (cs : List Char) : Digits :=
  if cs.head?.any isDigit then digitRun isDigit cs else ⟨[], cs, none⟩

/-- Digits of which the first has to be there. -/
def someDigits (isDigit : Char → Bool) (cs : List Char) : Digits :=
  if cs.head?.any isDigit then digitRun isDigit cs else ⟨[], cs, some cs⟩

/-- The value of digits in a base. -/
def valueOf (base : Nat) (digits : List Char) : Nat :=
  digits.foldl (fun n c => n * base + (hexValue? c).getD 0) 0

structure Number where
  value : Numeral
  form : String
  rest : List Char
  isBig : Bool := false
  /-- The text at which a digit is missing. -/
  missing : Option (List Char) := none
  /-- What follows is not looked at. -/
  isClosed : Bool := false

/-- A number in base two, eight or sixteen, after its opening mark. -/
def basedNumber (base : Nat) (form : String) (cs : List Char) : Number :=
  let d := someDigits (fun c => (hexValue? c).any (· < base)) cs
  let value : Numeral := ⟨valueOf base d.digits, 0⟩
  match d.rest with
  | 'n' :: rest => { value := value, form := form, rest := rest, isBig := true, missing := d.missing }
  | rest => { value := value, form := form, rest := rest, missing := d.missing }

/-- The number with these digits, `fraction` of them behind the point, and the exponent that may be
written. -/
def scaled (digits : List Char) (fraction : Nat) (form : String) (missing : Option (List Char))
    (cs : List Char) : Number :=
  let plain : Number :=
    { value := ⟨valueOf 10 digits, -fraction⟩, form := form, rest := cs, missing := missing }
  match cs with
  | e :: r =>
    if e = 'e' || e = 'E' then
      let (sign, r) : Int × List Char := match r with
        | '+' :: r => (1, r)
        | '-' :: r => (-1, r)
        | r => (1, r)
      let d := someDigits isDecimal r
      { value := ⟨valueOf 10 digits, sign * (valueOf 10 d.digits : Nat) - fraction⟩, form := "float",
        rest := d.rest, missing := missing.or d.missing }
    else plain
  | [] => plain

/-- The fraction and exponent of a number whose point is read. -/
def fractional (whole : List Char) (missing : Option (List Char)) (cs : List Char) : Number :=
  let d := digitsAfterMark isDecimal cs
  scaled (whole ++ d.digits) d.digits.length "float" (missing.or d.missing) d.rest

/-- A number that begins with a zero before another digit. It is octal unless a digit above seven is in
it, and only then has a fraction or an exponent. -/
def zeroLed (cs : List Char) : Number :=
  let digits := cs.takeWhile isDecimal
  let rest := cs.drop digits.length
  if digits.all fun d => (octalValue? d).isSome then
    { value := ⟨valueOf 8 digits, 0⟩, form := "octal", rest := rest }
  else match rest with
    | '.' :: r => fractional digits none r
    | 'e' :: _ => { scaled digits 0 "decimal" none rest with isClosed := true }
    | rest => { value := ⟨valueOf 10 digits, 0⟩, form := "decimal", rest := rest }

/-- The number at the start of a text that begins with a digit, or with a point before a digit. -/
def number (cs : List Char) : Number :=
  match cs with
  | '.' :: r => fractional [] none r
  | '0' :: c :: r =>
    if c = 'x' || c = 'X' then basedNumber 16 "hex" r
    else if c = 'o' || c = 'O' then basedNumber 8 "octal" r
    else if c = 'b' || c = 'B' then basedNumber 2 "binary" r
    else if c = 'e' || c = 'E' then { scaled ['0'] 0 "decimal" none (c :: r) with isClosed := true }
    else if c = '.' then fractional ['0'] none r
    else if c = 'n' then { value := ⟨0, 0⟩, form := "decimal", rest := r, isBig := true }
    else if isDecimal c then zeroLed cs
    else { value := ⟨0, 0⟩, form := "decimal", rest := c :: r }
  | _ =>
    let d := digitRun isDecimal cs
    match d.rest with
    | '.' :: r => fractional d.digits d.missing r
    | 'n' :: r =>
      { value := ⟨valueOf 10 d.digits, 0⟩, form := "decimal", rest := r, isBig := true,
        missing := d.missing }
    | rest => scaled d.digits 0 "decimal" d.missing rest

end TypedJsx.Lexeme
