import TypedJsx.Comment
import TypedJsx.Fault
import TypedJsx.Text.Basic
import TypedJsx.Token.Basic
import TypedJsx.Token.Lexeme
/-!
Reading a source text token by token. What a character means depends on where the grammar stands, so
the reader is asked for one token at a time, and some tokens are read again in another way: a slash as
a regular expression, a closing brace as the next piece of a template, text between tags as it is.
-/
namespace TypedJsx

/-- The text that is still to be read, the offset at which it stands, the comments met so far and the
faults found, the newest first. -/
structure Reader where
  rest : List Char
  offset : Nat := 0
  trivia : Trivia := {}
  issues : List Issue := []
deriving Inhabited

namespace Reader

def report (r : Reader) (fault : Fault) (offset : Nat) : Reader :=
  { r with issues := ⟨fault, offset⟩ :: r.issues }

/-! ## Between tokens -/

/-- Inside what the reader stands while it skips to the next token. A comment is kept from its first
character on, the last read first. -/
inductive Gap where
  | blank
  | lineComment (start : Nat) (read : List Char)
  | blockComment (start : Nat) (read : List Char)

structure Skipped where
  rest : List Char
  offset : Nat
  trivia : Trivia
  newline : Bool
  /-- Where a comment begins that never ends. -/
  unterminated : Option Nat

/-- Skips blanks, line ends and comments. -/
def skip (gap : Gap) (offset : Nat) (trivia : Trivia) (newline : Bool) : List Char → Skipped
  | [] =>
    match gap with
    | .blank => ⟨[], offset, trivia, newline, none⟩
    | .lineComment start read =>
      ⟨[], offset, trivia.addLine ⟨start, offset⟩ read.reverse, newline, none⟩
    | .blockComment start _ => ⟨[], offset, trivia, newline, some start⟩
  | '/' :: '/' :: r =>
    match gap with
    | .blank => skip (.lineComment offset ['/', '/']) (offset + 2) trivia newline r
    | .lineComment start read =>
      skip (.lineComment start ('/' :: '/' :: read)) (offset + 2) trivia newline r
    | .blockComment start read =>
      skip (.blockComment start ('/' :: '/' :: read)) (offset + 2) trivia newline r
  | '/' :: '*' :: r =>
    match gap with
    | .blank => skip (.blockComment offset ['*', '/']) (offset + 2) trivia newline r
    | .lineComment start read =>
      skip (.lineComment start ('*' :: '/' :: read)) (offset + 2) trivia newline r
    | .blockComment start read =>
      -- the star may close the comment
      match r with
      | '/' :: r =>
        let span : Span := ⟨start, offset + 3⟩
        skip .blank (offset + 3) (trivia.addBlock span (('/' :: '*' :: '/' :: read).reverse)) newline r
      | r => skip (.blockComment start ('*' :: '/' :: read)) (offset + 2) trivia newline r
  | c :: r =>
    let after := offset + c.utf8Size
    match gap with
    | .blank =>
      if isLineEnd c then skip .blank after trivia.newline true r
      else if isTokenBlank c then skip .blank after trivia newline r
      else ⟨c :: r, offset, trivia, newline, none⟩
    | .lineComment start read =>
      if isLineEnd c then
        skip .blank after (trivia.addLine ⟨start, offset⟩ read.reverse) true r
      else skip (.lineComment start (c :: read)) after trivia newline r
    | .blockComment start read =>
      match c, r with
      | '*', '/' :: r =>
        let span : Span := ⟨start, offset + 2⟩
        skip .blank (offset + 2) (trivia.addBlock span ('/' :: '*' :: read).reverse) newline r
      | c, r => skip (.blockComment start (c :: read)) after trivia (newline || isLineEnd c) r

/-! ## Tokens -/

/-- What stands at the start of a text: the kind of token, its value, its mark, the text after it and
the faults with their distances from the start. -/
structure Read where
  kind : TokenKind
  rest : List Char
  value : String := ""
  marked : Bool := false
  issues : List (Fault × Nat) := []

def readName (cs : List Char) : Read :=
  let n := Lexeme.name cs
  let text := String.ofList n.text
  let kind :=
    if reservedWords.contains text || contextualWords.contains text then TokenKind.word else .name
  let issues := n.issue.toList.map fun i => (i.1, bytesBefore i.2 cs)
  { kind := kind, rest := n.rest, value := text, marked := n.isEscaped, issues := issues }

def readString (quote : Char) (cs : List Char) : Read :=
  let (text, rest) := Lexeme.quoted quote cs
  let units := Lexeme.decode false text
  let issues := (Lexeme.malformed units).map fun m => (Fault.invalidEscape, 1 + bytesBefore m text)
  match rest with
  | none => { kind := .invalid, rest := [], issues := issues ++ [(.unterminatedString, 0)] }
  | some rest =>
    let (value, marked) := Lexeme.stringValue units
    { kind := .string, rest := rest, value := String.ofList value, marked := marked, issues := issues }

/-- A piece of a template. Its line ends are read as newlines, unless an escape in it is not well
formed. -/
def readTemplate (opens : Bool) (cs : List Char) : Read :=
  match Lexeme.templatePiece? cs with
  | none => { kind := .invalid, rest := [], issues := [(.unterminatedString, 0)] }
  | some p =>
    let isBad := !(Lexeme.malformed (Lexeme.decode true p.text)).isEmpty
    let text := if isBad then p.text else Lexeme.normalizeNewlines p.text
    { kind := .template opens p.closes, rest := p.rest, value := String.ofList text, marked := isBad }

/-- The fault of a text that begins with no character that could stand there. -/
def misplaced : List Char → Fault
  | c :: _ => .invalidCharacter c
  | [] => .unexpectedEnd

/-- A number must not run into a name or another number. -/
def readNumber (cs : List Char) : Read :=
  let n := Lexeme.number cs
  let issues := n.missing.toList.map fun m => (misplaced m, bytesBefore m cs)
  let runsOn := !n.isClosed && n.rest.head?.any fun c => isIdentifierStart c || Lexeme.isDecimal c
  if runsOn then
    { kind := .invalid, rest := n.rest.dropWhile isIdentifierStart,
      issues := issues ++ [(.afterNumber, bytesBefore n.rest cs)] }
  else if n.missing.isSome && n.form != "decimal" && n.form != "float" then
    { kind := .invalid, rest := n.rest, issues := issues }
  else
    let kind := if n.isBig then TokenKind.bigint n.value.digits n.form else .number n.value n.form
    { kind := kind, rest := n.rest, issues := issues }

/-- A name behind its hash. -/
def readPrivateName (cs : List Char) : Read :=
  let got := readName cs
  { got with kind := .privateName, issues := got.issues.map fun i => (i.1, i.2 + 1) }

/-- The token at the start of a text. -/
def read : List Char → Read
  | [] => { kind := .endOfText, rest := [] }
  | c :: r =>
    if isIdentifierStart c || c = '\\' then readName (c :: r)
    else if Lexeme.isDecimal c then readNumber (c :: r)
    else if c = '.' && (r.head?.any Lexeme.isDecimal) then readNumber (c :: r)
    else if c = '\x22' || c = '\x27' then readString c r
    else if c = '\x60' then readTemplate true r
    else if c = '#' then
      match r with
      | d :: _ =>
        if isIdentifierStart d || d = '\\' then readPrivateName r
        else { kind := .invalid, rest := r, issues := [(.invalidCharacter d, 1)] }
      | [] => { kind := .invalid, rest := r, issues := [(.unexpectedEnd, 1)] }
    else match Punctuator.read? (c :: r) with
      | some (p, rest) => { kind := .punctuator p, rest := rest }
      | none => { kind := .invalid, rest := r, issues := [(.invalidCharacter c, 0)] }

/-- A token, the text from its start on, and the reader after it. -/
structure Step where
  token : Token
  text : List Char
  reader : Reader

/-- Takes a token that starts at the reader's offset. -/
def take (r : Reader) (newline : Bool) (note : Annotation) (text : List Char) (got : Read) : Step :=
  let stop := r.offset + bytesBefore got.rest text
  let token : Token :=
    { kind := got.kind, start := r.offset, stop := stop, newlineBefore := newline,
      value := got.value, marked := got.marked, note := note }
  let isOpener := got.kind == .punctuator .assign || got.kind == .punctuator .openParen
  let issues := got.issues.foldl (fun all i => ⟨i.1, r.offset + i.2⟩ :: all) r.issues
  ⟨token, text,
    { rest := got.rest, offset := stop, trivia := r.trivia.token r.offset isOpener,
      issues := issues }⟩

/-- The next token. -/
def next (r : Reader) : Step :=
  let gap := skip .blank r.offset r.trivia false r.rest
  let note := gap.trivia.annotationFrom r.offset
  let r := { r with rest := gap.rest, offset := gap.offset, trivia := gap.trivia }
  match gap.unterminated with
  | some start =>
    let r := r.report .unterminatedComment start
    ⟨{ kind := .endOfText, start := start, stop := gap.offset, newlineBefore := gap.newline }, [], r⟩
  | none => r.take gap.newline note gap.rest (read gap.rest)

/-- A token that stands directly at the reader's offset, without skipping. -/
def takeHere (r : Reader) (got : List Char → Read) : Step := r.take false {} r.rest (got r.rest)

/-! ## Markup -/

/-- Text between tags, up to the next tag or expression. A closing brace or angle is a fault. -/
def markupText (distance : Nat) :
    List Char → Option (List Char × List Char × List (Fault × Nat))
  | [] => none
  | c :: r =>
    if c = '<' || c = '{' then some ([], c :: r, [])
    else
      let issue := if c = '}' then [(Fault.strayBrace, distance)]
        else if c = '>' then [(Fault.strayAngle, distance)] else []
      (markupText (distance + c.utf8Size) r).map fun p => (c :: p.1, p.2.1, issue ++ p.2.2)

/-- The next child of an element: a tag, an expression, or text. Text that runs to the end of the
source is no child. -/
def nextChild (r : Reader) : Step :=
  match r.rest with
  | [] => r.takeHere fun _ => { kind := .endOfText, rest := [] }
  | c :: cs =>
    if c = '<' then r.takeHere fun _ => { kind := .punctuator .less, rest := cs }
    else if c = '{' then r.takeHere fun _ => { kind := .punctuator .openBrace, rest := cs }
    else match markupText 0 (c :: cs) with
      | none => r.takeHere fun _ => { kind := .endOfText, rest := [] }
      | some (text, rest, issues) =>
        let r := issues.foldl (fun r i => r.report i.1 (r.offset + i.2)) r
        r.takeHere fun _ => { kind := .jsxText, rest := rest, value := String.ofList text }

/-- The value of an attribute: a quoted text without escapes, or any other token. -/
def nextAttributeValue (r : Reader) : Step :=
  match r.rest with
  | c :: cs =>
    if c = '\x22' || c = '\x27' then
      r.takeHere fun _ => match Lexeme.attribute? c cs with
        | some (text, rest) => { kind := .string, rest := rest, value := String.ofList text }
        | none => { kind := .invalid, rest := [], issues := [(.unterminatedString, 0)] }
    else r.next
  | [] => r.next

/-- The rest of a name in markup, where a name may hold dashes. -/
def markupNameTail (cs : List Char) : List Char × List Char :=
  match cs with
  | '-' :: _ =>
    let taken := cs.takeWhile fun c => isIdentifierPart c || c = '-'
    (taken, cs.drop taken.length)
  | _ => ([], cs)

end Reader

end TypedJsx
