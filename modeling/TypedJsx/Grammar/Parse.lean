import TypedJsx.Token.Reader
import TypedJsx.Tree.Node
/-!
Parsers as functions on a state: the current token, the reader behind it, and what the grammar has to
remember. A fault that ends the parse is an error of the monad; one that does not is recorded. States
are values, so looking ahead and trying an alternative are runs whose end state is dropped, but for the
places where no arrow function was found: they are kept, so that none is tried twice.

The rules of the grammar call each other through `Rule`: a rule's body gets a parser for every rule as
an argument, and one recursion on a bound of the nesting depth ties them together.
-/
namespace TypedJsx

/-- What the surrounding code allows. -/
structure Context where
  /-- `in` is an operator. -/
  allowsIn : Bool := true
  /-- `yield` is an operator. -/
  inGenerator : Bool := false
  /-- `await` is an operator. -/
  inAsync : Bool := false
  /-- `return` may be written. -/
  inFunction : Bool := false
  /-- Declarations stand for something defined elsewhere. -/
  isAmbient : Bool := false
  /-- `extends` after a type does not start a conditional type. -/
  plainTypes : Bool := false
  /-- The expression of a decorator, in which a bracket does not start an index. -/
  inDecorator : Bool := false
  /-- Nothing but the closing brace of an expression in a template is still wanted. -/
  inHole : Bool := false
deriving Inhabited

structure ParseState where
  token : Token
  /-- The text from the start of the token on. -/
  text : List Char
  /-- The reader behind the token. -/
  reader : Reader
  /-- No more tokens than this are in the whole text. -/
  limit : Nat
  /-- Where the token before ended. -/
  lastStop : Nat := 0
  context : Context := {}
  /-- Faults that did not end the parse, the newest first. -/
  issues : List Issue := []
  /-- Defaults written in object literals, `{ a = 1 }`, by the start of their property. They are
  faults unless the literal turns out to be a pattern. -/
  defaults : List (Nat × Node) := []
  /-- Commas after the last item of array and object literals, by the start of the literal. They are
  faults after the rest of a pattern. -/
  trailingCommas : List (Nat × Nat) := []
  /-- Where an arrow function was tried and is none. -/
  notArrows : List Nat := []
deriving Inhabited

abbrev Parse := EStateM Issue ParseState

/-- The rules that are called from inside other rules. -/
inductive Rule where
  /-- An expression without commas. After a `?` an arrow function's return type needs care. -/
  | assignment (arrowType : Bool)
  | expression
  /-- An expression of operators that bind tighter than the given one. -/
  | binary (min : Precedence)
  | unary
  | leftHand
  | objectLiteral
  /-- A statement; `single` where a declaration may not stand. -/
  | statement (single : Bool)
  | bindingPattern
  | type
  | typeOperator
  | primaryType
  /-- An element or fragment, its first `<` being read; `nested` inside another one. -/
  | markup (start : Nat) (nested : Bool)
  | moduleDeclaration (start : Nat) (word : String) (isDeclare : Bool)
deriving Inhabited

abbrev Rules := Rule → Parse Node

namespace Parse

/-! ## Faults -/

/-- Ends the parse. Of all faults the reader's come first, then the recorded ones, each in the order in
which they were found. -/
def stop {α : Type} (fault : Fault) (offset : Nat) : Parse α := fun s =>
  match s.reader.issues.getLast?, s.issues.getLast? with
  | some issue, _ => .error issue s
  | none, some issue => .error issue s
  | none, none => .error ⟨fault, offset⟩ s

/-- Ends the parse. At the brace that closes an expression in a template the template goes on, and as
nothing more is read it never ends. -/
def fail {α : Type} (fault : Fault) (offset : Nat) : Parse α := fun s =>
  if s.context.inHole && s.token.isPunctuator .closeBrace then
    let last := s.reader.offset + byteLength s.reader.rest - 1
    let issues := if s.reader.issues.isEmpty then [⟨.unterminatedString, last⟩] else s.reader.issues
    stop fault offset { s with reader := { s.reader with issues := issues } }
  else stop fault offset s

/-- Records a fault. -/
def record (fault : Fault) (offset : Nat) : Parse Unit :=
  modify fun s => { s with issues := ⟨fault, offset⟩ :: s.issues }

/-- The marks that a merge leaves around texts that conflict. -/
def conflictMarks : List String := ["<<<<<<<", "=======", ">>>>>>>", "|||||||"]

/-- The current token begins a line with the mark of a conflict. -/
def isAtConflict : Parse Bool := do
  let s ← get
  return (s.token.newlineBefore || s.token.start == 0)
    && conflictMarks.any fun mark => mark.toList.isPrefixOf s.text

/-- The current token cannot stand here. Where no token could be read, the reader's last fault is the
reason. -/
def unexpected {α : Type} : Parse α := do
  let s ← get
  match s.token.isStop, s.reader.issues with
  | true, issue :: earlier => do
    set { s with reader := { s.reader with issues := earlier } }
    fail issue.fault issue.offset
  | _, _ =>
    if ← isAtConflict then fail .conflictMarker s.token.start
    else fail .unexpectedToken s.token.start

/-! ## Tokens -/

def token : Parse Token := return (← get).token

/-- Where the current token starts. -/
def position : Parse Nat := return (← get).token.start

/-- Moves to a token that the reader has read. -/
def moveTo (step : Reader → Reader.Step) : Parse Unit :=
  modify fun s =>
    let next := step s.reader
    { s with token := next.token, text := next.text, reader := next.reader,
             lastStop := s.token.stop }

/-- Moves to the next token from one that is a name here. -/
def advanceName : Parse Unit := moveTo Reader.next

/-- Moves to the next token. A word that is no name here may not be written with escapes. -/
def advance : Parse Unit := do
  let t ← token
  if t.marked && t.kind == .word then record .escapedKeyword t.start
  moveTo Reader.next

def isAt (p : Punctuator) : Parse Bool := return (← get).token.isPunctuator p

def isAtWord (w : String) : Parse Bool := return (← get).token.isWord w

/-- The current token stands on a new line. -/
def isOnNewLine : Parse Bool := return (← get).token.newlineBefore

def eat (p : Punctuator) : Parse Bool := do
  if ← isAt p then
    advance
    return true
  else return false

def eatWord (w : String) : Parse Bool := do
  if ← isAtWord w then
    advance
    return true
  else return false

/-- The current token is not the wanted one. -/
def expectedInstead {α : Type} (wanted : String) : Parse α := do
  let t ← token
  if ← isAtConflict then stop .conflictMarker t.start
  stop (.expected wanted t.describe) t.start

def expect (p : Punctuator) : Parse Unit := do
  if ← isAt p then advance else expectedInstead p.text

def expectWord (w : String) : Parse Unit := do
  if ← isAtWord w then advance else expectedInstead w

/-- A statement may end here: at a semicolon, before a closing brace, at the end, or at a new line. -/
def canEndStatement : Parse Bool := do
  let t ← token
  return t.isPunctuator .semicolon || t.isPunctuator .closeBrace || t.isEnd || t.newlineBefore

/-- Ends a statement. -/
def endStatement : Parse Unit := do
  if ← canEndStatement then
    let _ ← eat .semicolon
  else fail .missingSemicolon (← get).lastStop

/-! ## Reading a token in another way -/

/-- Reads the text of the current token again. -/
def reread (read : List Char → Reader.Read) : Parse Unit :=
  modify fun s =>
    let r := { s.reader with offset := s.token.start }
    let next := r.take s.token.newlineBefore s.token.note s.text (read s.text)
    { s with token := next.token, reader := next.reader }

/-- A `>` together with the characters that make it a longer operator. -/
def joinAngle : Parse Unit := do
  if ← isAt .greater then
    reread fun cs =>
      let (p, rest) := Punctuator.readAngle cs
      { kind := .punctuator p, rest := rest }

/-- The first `<` of a longer operator. -/
def splitAngle : Parse Unit := do
  let t ← token
  if t.isPunctuator .shiftLeft || t.isPunctuator .shiftLeftAssign || t.isPunctuator .lessEqual then
    reread fun cs => { kind := .punctuator .less, rest := cs.drop 1 }

/-- The first `>` of a longer operator. -/
def splitCloseAngle : Parse Unit := do
  let t ← token
  if t.isPunctuator .shiftRight || t.isPunctuator .shiftRightZero || t.isPunctuator .greaterEqual
      || t.isPunctuator .shiftRightAssign || t.isPunctuator .shiftRightZeroAssign then
    reread fun cs => { kind := .punctuator .greater, rest := cs.drop 1 }

/-! ## Alternatives -/

/-- Goes back to an earlier state, keeping where no arrow function is. -/
def goBack (earlier : ParseState) : Parse Unit :=
  modify fun s => { earlier with notArrows := s.notArrows }

/-- Runs a parser, and goes back when it fails. -/
def attempt {α : Type} (p : Parse α) : Parse (Option α) := fun s =>
  match p s with
  | .ok a s => .ok (some a) s
  | .error _ failed => .ok none { s with notArrows := failed.notArrows }

/-- Runs a parser and goes back; none when it fails. -/
def peek {α : Type} (p : Parse α) : Parse (Option α) := do
  let saved ← get
  let found ← attempt p
  goBack saved
  return found

/-- Looks ahead for a condition, which fails where the parser does. -/
def ahead (p : Parse Bool) : Parse Bool := return (← peek p).getD false

/-- A condition on the token after the current one. -/
def nextToken (condition : Token → Bool) : Parse Bool :=
  ahead do
    advance
    return condition (← token)

/-! ## Context -/

/-- Runs a parser in a changed context. -/
def within {α : Type} (change : Context → Context) (p : Parse α) : Parse α := do
  let saved := (← get).context
  modify fun s => { s with context := change s.context }
  let a ← p
  modify fun s => { s with context := saved }
  return a

def context : Parse Context := return (← get).context

def allowingIn {α : Type} (p : Parse α) : Parse α := within (fun c => { c with allowsIn := true }) p

/-- Runs a parser between two marks, of which the second is still wanted. -/
def enclosed {α : Type} (p : Parse α) : Parse α := within (fun c => { c with inHole := false }) p

/-! ## Nodes and repetition -/

/-- A node from `start` to the end of the last token. -/
def finish (start : Nat) (kind : Kind) (children : List Node) : Parse Node :=
  return .mk kind ⟨start, (← get).lastStop⟩ children

/-- A bound on the number of tokens that are left. -/
def limit : Parse Nat := return (← get).limit

/-- Applies a step until it yields nothing. -/
def iterate {α : Type} (step : α → Parse (Option α)) : Nat → α → Parse α
  | 0, a => return a
  | n + 1, a => do
    match ← step a with
    | some b => iterate step n b
    | none => return a

/-- Applies a step as often as there can be tokens. -/
def repeatFrom {α : Type} (a : α) (step : α → Parse (Option α)) : Parse α := do
  iterate step (← limit) a

/-- The items read until one yields nothing. -/
def many {α : Type} (item : Parse (Option α)) : Parse (List α) := do
  let found ← repeatFrom ([] : List α) fun items => do
    match ← item with
    | some a => return some (a :: items)
    | none => return none
  return found.reverse

/-- Items up to a closing mark, with a comma between them and possibly one after the last, whose offset
is given too. The closing mark is not taken. -/
def delimited (close : Punctuator) (item : Parse Node) : Parse (List Node × Option Nat) := enclosed do
  let t ← token
  if t.isPunctuator close || t.isStop then return ([], none)
  let first ← item
  let (items, comma, _) ← repeatFrom ([first], (none : Option Nat), false) fun (items, comma, done) => do
    let t ← token
    if done || t.isPunctuator close || t.isStop then return none
    if !t.isPunctuator .comma then
      fail (.expectedEither "," close.text t.describe) t.start
    advance
    if ← isAt close then return some (items, some t.start, true)
    let next ← item
    return some (next :: items, comma, false)
  return (items.reverse, comma)

/-- Items up to a closing mark of which one may be a rest, which has to be the last. -/
def delimitedWithRest (close : Punctuator) (item rest : Parse Node) (last : Fault) :
    Parse (List Node × Option Node) := enclosed do
  let allowsComma := (← context).isAmbient
  let (items, found, _, _) ←
    repeatFrom (([] : List Node), (none : Option Node), true, false) fun (items, found, first, done) => do
      let t ← token
      if done || t.isPunctuator close || t.isStop then return none
      if !first then
        if !t.isPunctuator .comma then
          fail (.expectedEither "," close.text t.describe) t.start
        advance
      if !first && (← isAt close) then
        if found.isSome && !allowsComma then record .restTrailingComma t.start
        return some (items, found, false, true)
      if let some r := found then fail last r.span.start
      if ← isAt .ellipsis then
        return some (items, some (← rest), false, false)
      else return some ((← item) :: items, found, false, false)
  return (items.reverse, found)

end Parse

end TypedJsx
