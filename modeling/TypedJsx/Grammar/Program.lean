import TypedJsx.Grammar.Module
/-!
Statements; and whole source texts: the recursion behind the rules, and the parse of a module.
-/
namespace TypedJsx

open Parse

namespace Grammar

/-- An expression in parentheses behind a keyword. -/
def condition (rules : Rules) : Parse Node := do
  expect .openParen
  let e ← allowingIn (rules .expression)
  expect .closeParen
  return e

def ifStatement (rules : Rules) : Parse Node := do
  let start ← position
  advance
  let test ← condition rules
  let first ← rules (.statement true)
  let second ← if ← eatWord "else" then rules (.statement true) else pure Node.absent
  finish start .ifStatement [test, first, second]

def doWhileStatement (rules : Rules) : Parse Node := do
  let start ← position
  advance
  let body ← rules (.statement true)
  expectWord "while"
  let test ← condition rules
  let _ ← eat .semicolon
  finish start .doWhileStatement [body, test]

/-! ## Loops -/

/-- Checks the variables of a loop of three parts. -/
def checkLoopVariables : Node → Parse Unit
  | .mk (.variableDeclaration word _) _ declarators => do
    if !isUsing word then
      for d in declarators do
        checkInitializer word (d.child 0) (d.child 2)
  | _ => return ()

/-- A loop of three parts behind its first one. -/
def forRest (rules : Rules) (start : Nat) (isAwait : Bool) (first : Node) : Parse Node := do
  expect .semicolon
  checkLoopVariables first
  let test ← if ← isAt .semicolon then pure Node.absent else allowingIn (rules .expression)
  expect .semicolon
  let step ← if ← isAt .closeParen then pure Node.absent else allowingIn (rules .expression)
  expect .closeParen
  if isAwait then record .awaitLoop start
  let body ← rules (.statement true)
  finish start .forStatement [first, test, step, body]

/-- A loop over something behind its left part. -/
def forEachRest (rules : Rules) (start : Nat) (isAwait : Bool) (left : Node) : Parse Node := do
  let isIn ← isAtWord "in"
  advance
  let right ← allowingIn (if isIn then rules .expression else rules (.assignment true))
  expect .closeParen
  if isAwait && isIn then record .awaitLoop start
  let body ← rules (.statement true)
  finish start (if isIn then .forIn else .forOf isAwait) [left, right, body]

/-- The word `let` declares here, and is no name. -/
def isLetDeclaration : Parse Bool := do
  if !(← isAtWord "let") then return false
  nextToken fun t => (t.isIdentifier && !t.isWord "of" || t.isWord "of")
    || t.isPunctuator .openBracket || t.isPunctuator .openBrace

/-- The word that opens the declaration at the head of a loop. -/
def loopWord? : Parse (Option DeclarationWord) := do
  let t ← token
  if t.isWord "let" then return if ← isLetDeclaration then some .letWord else none
  match declarationWord? t with
  | some word => return some word
  | none => usingWord? true

def forStatement (rules : Rules) : Parse Node := do
  let start ← position
  advance
  if (← isAtWord "await") && !(← context).inAsync then record .awaitOutside (← position)
  let isAwait ← eatWord "await"
  expect .openParen
  let t ← token
  if t.isPunctuator .semicolon then return ← forRest rules start isAwait .absent
  if let some word ← loopWord? then
    let noIn (c : Context) : Context := { c with allowsIn := false }
    let declared ← within noIn (variableDeclaration rules t.start word true false)
    if ← isAtWord "in" then
      if word == .usingWord then record .usingIn t.start
      if word == .awaitUsing then record .awaitUsingIn t.start
    if (← isAtWord "in") || (← isAtWord "of") then
      return ← forEachRest rules start isAwait declared
    return ← forRest rules start isAwait declared
  if t.isPunctuator .closeParen then return ← forRest rules start isAwait .absent
  let first ← within (fun c => { c with allowsIn := false }) (rules .expression)
  if (← isAtWord "in") || (← isAtWord "of") then
    if ← isAtWord "of" then
      if !isAwait && first.kind == .reference "async" then record .asyncOf t.start
      if t.isWord "let" then record .letOf t.start
    let target ← assignmentTarget first
    forEachRest rules start isAwait target
  else forRest rules start isAwait first

/-! ## Jumps -/

/-- `break` and `continue`, with the label that may follow. -/
def jump (kind : Kind) : Parse Node := do
  let start ← position
  advance
  let label ← if ← canEndStatement then pure Node.absent else labelName
  endStatement
  finish start kind [label]

def returnStatement (rules : Rules) : Parse Node := do
  let start ← position
  advance
  let value ←
    if ← canEndStatement then do
      let _ ← eat .semicolon
      pure Node.absent
    else do
      let e ← allowingIn (rules .expression)
      endStatement
      pure e
  if !(← context).inFunction then record .returnOutside start
  finish start .returnStatement [value]

def throwStatement (rules : Rules) : Parse Node := do
  let start ← position
  advance
  if ← isOnNewLine then record .lineAfterThrow start
  let e ← allowingIn (rules .expression)
  endStatement
  finish start .throwStatement [e]

/-! ## Choices -/

/-- A statement of a case, which may declare nothing that is given back at the end of its block. -/
def caseStatement (rules : Rules) : Parse Node := do
  let s ← rules (.statement false)
  if let .variableDeclaration word _ := s.kind then
    if isUsing word then record .usingInCase s.span.start
  return s

def switchCase (rules : Rules) : Parse Node := do
  let start ← position
  let t ← token
  let test ←
    if t.isWord "default" then do
      advance
      pure Node.absent
    else if t.isWord "case" then do
      advance
      allowingIn (rules .expression)
    else fail .switchClause start
  expect .colon
  let items ← many do
    let t ← token
    if t.isWord "case" || t.isWord "default" || isBlockEnd t then return none
    return some (← caseStatement rules)
  finish start .switchCase (test :: items)

def switchStatement (rules : Rules) : Parse Node := do
  let start ← position
  advance
  let value ← condition rules
  expect .openBrace
  let cases ← many do
    if isBlockEnd (← token) then return none
    return some (← switchCase rules)
  expect .closeBrace
  finish start .switchStatement (value :: cases)

def catchClause (rules : Rules) : Parse Node := do
  let start ← position
  advance
  let here ← position
  let parameter ←
    if ← eat .openParen then do
      let pattern ← rules .bindingPattern
      let type ← typeAfterColon rules
      let parameter ← finish (here + 1) .catchParameter [pattern, type]
      expect .closeParen
      pure (parameter.withSpan pattern.span)
    else pure Node.absent
  let body ← block rules
  finish start .catchClause [parameter, body]

def tryStatement (rules : Rules) : Parse Node := do
  let start ← position
  advance
  let body ← block rules
  let handler ← if ← isAtWord "catch" then catchClause rules else pure Node.absent
  let last ← if ← eatWord "finally" then block rules else pure Node.absent
  if handler.isAbsent && last.isAbsent then record .catchOrFinally body.span.stop
  finish start .tryStatement [body, handler, last]

/-! ## Declarations and expressions -/

/-- A declaration of variables, which may not be a lexical one where a single statement is wanted. -/
def variableStatement (rules : Rules) (word : DeclarationWord) (single : Bool) : Parse Node := do
  let start ← position
  let d ← variableDeclaration rules start word false false
  if single && word.isLexical then record .lexicalSingle start
  return d

/-- A class, which may not stand where a single statement is wanted. -/
def classStatement (rules : Rules) (single : Bool) : Parse Node := do
  let start ← position
  let c ← classFrom rules start {} (.mk .decorators Span.none [])
  if single then record .classSingle start
  return c

/-- A function. Where a single statement is wanted it may neither wait nor generate. -/
def functionStatement (rules : Rules) (single : Bool) : Parse Node := do
  let start ← position
  let isAsync ← eatWord "async"
  let f ← functionFrom rules start .declaration isAsync false
  if let .function form := f.kind then
    if single && form.isAsync then record .asyncSingle start
    if single && form.isGenerator then record .generatorSingle start
  return f

/-- An expression behind which the statement ends. -/
def expressionStatement (start : Nat) (e : Node) : Parse Node := do
  endStatement
  finish start .expressionStatement [e]

def expressionOrLabel (rules : Rules) : Parse Node := do
  let start ← position
  let e ← rules .expression
  match e with
  | .mk (.reference name) span _ =>
    if ← eat .colon then
      let body ← rules (.statement true)
      finish start .labeled [.mk (.name name) span [], body]
    else expressionStatement start e
  | _ => expressionStatement start e

/-- A token that makes a `let` before it the left operand of an operator. -/
def isOperatorAfterLet (t : Token) : Bool :=
  (assignOp? t).isSome || match infixed? t with
    | some (.binary _) => true
    | _ => false

/-- A statement that begins with `let`, which may be a name. A member or call of that name is a statement
without its semicolon. -/
def letStatement (rules : Rules) (single : Bool) : Parse Node := do
  let start ← position
  if ← nextToken isOperatorAfterLet then
    let e ← rules (.assignment true)
    return ← expressionStatement start e
  if ← nextToken fun t => t.isPunctuator .dot || t.isPunctuator .openParen then
    let e ← rules .expression
    return ← finish start .expressionStatement [e]
  let isName ← nextToken fun t => (single && !t.isPunctuator .openBracket) || t.isPunctuator .semicolon
  if isName then
    let e ← identifierReference
    expressionStatement start e
  else variableStatement rules .letWord single

/-- A statement that a word opens; none when the word is a name. -/
def wordStatement? (rules : Rules) (t : Token) (single : Bool) : Parse (Option Node) := do
  let noDecorators := Node.mk .decorators Span.none []
  let declaration : Parse Node := within (fun c => { c with inAsync := false }) do
    declarationFrom rules t.start (← declarationModifiers []) noDecorators
  let some' (p : Parse Node) : Parse (Option Node) := return some (← p)
  match t.value with
  | "if" => some' (ifStatement rules)
  | "do" => some' (doWhileStatement rules)
  | "while" => some' do
    advance
    let test ← condition rules
    let body ← rules (.statement true)
    finish t.start .whileStatement [test, body]
  | "for" => some' (forStatement rules)
  | "continue" => some' (jump .continueStatement)
  | "break" => some' (jump .breakStatement)
  | "with" => some' do
    advance
    let object ← condition rules
    let body ← rules (.statement true)
    finish t.start .withStatement [object, body]
  | "switch" => some' (switchStatement rules)
  | "throw" => some' (throwStatement rules)
  | "try" => some' (tryStatement rules)
  | "debugger" => some' do
    advance
    endStatement
    finish t.start .debuggerStatement []
  | "class" => some' (classStatement rules single)
  | "export" => some' (exportDeclaration rules noDecorators)
  | "return" => some' (returnStatement rules)
  | "var" => some' (variableStatement rules .varWord single)
  | "const" => some' do
    if ← nextToken fun t => t.isWord "enum" then declaration
    else variableStatement rules .constWord single
  | "function" => some' (functionStatement rules single)
  | "let" => if t.marked then return none else some' (letStatement rules single)
  | "async" =>
    if ← isAsyncFunction then some' (functionStatement rules single)
    else if ← startsDeclaration then some' declaration
    else return none
  | "import" =>
    if ← nextToken fun t => t.isPunctuator .openParen || t.isPunctuator .dot then return none
    else some' importDeclaration
  | "using" | "await" =>
    match ← usingWord? false with
    | some word => some' (variableStatement rules word single)
    | none => return none
  | word =>
    if ["interface", "type", "module", "namespace", "declare", "enum", "private", "protected", "public",
        "abstract", "accessor", "static", "readonly", "global"].contains word then
      if ← startsDeclaration then some' declaration else return none
    else return none

/-- Marks the function that a statement declares or exports, or the value of its first constant, as one
without effects. -/
def markStatement : Node → Node
  | .mk (.exportNamed isType) span (d :: rest) => .mk (.exportNamed isType) span (markStatement d :: rest)
  | .mk .exportDefault span [d] => .mk .exportDefault span [markNoEffects d]
  | .mk (.variableDeclaration .constWord isDeclare) span (.mk kind s [pattern, type, value] :: rest) =>
    .mk (.variableDeclaration .constWord isDeclare) span (.mk kind s [pattern, type, markNoEffects value] :: rest)
  | .mk (.function form) span cs => markNoEffects (.mk (.function form) span cs)
  | n => n

/-- A statement behind the comments that stand before it. -/
def plainStatement (rules : Rules) (single : Bool) : Parse Node := do
  let t ← token
  match t.kind with
  | .punctuator .openBrace => block rules
  | .punctuator .semicolon =>
    advance
    finish t.start .emptyStatement []
  | .punctuator .atSign =>
    let ds ← decorators rules
    if ← isAtWord "export" then exportDeclaration rules ds
    else
      let written ← declarationModifiers []
      if !(← isAtWord "class") then unexpected
      permit ["declare", "abstract"] .modifierUnusable written
      let m := Modifiers.ofWritten written
      classFrom rules t.start { isAbstract := m.isAbstract, isDeclare := m.isDeclare } ds
  | .word =>
    match ← wordStatement? rules t single with
    | some s => return s
    | none => expressionOrLabel rules
  | _ => expressionOrLabel rules

def statement (rules : Rules) (single : Bool) : Parse Node := do
  let hasNoEffects := (← token).note.hasNoEffects
  let s ← plainStatement rules single
  return if hasNoEffects then markStatement s else s

/-! ## Source texts -/

/-- The body of every rule, with the rules it calls given. -/
def body (rules : Rules) : Rule → Parse Node
  | .assignment arrowType => assignment rules arrowType
  | .expression => expression rules
  | .binary min => binary rules min
  | .unary => unary rules
  | .leftHand => leftHand rules
  | .objectLiteral => objectLiteral rules
  | .statement single => statement rules single
  | .bindingPattern => bindingPattern rules
  | .type => type rules
  | .typeOperator => operatorType rules
  | .primaryType => primaryType rules
  | .markup start nested => markup rules start nested
  | .moduleDeclaration start word isDeclare => moduleFrom rules start word isDeclare

/-- The rules, nested at most as deep as the bound says. -/
def rulesTo : Nat → Rules
  | 0 => fun _ => do fail .tooDeep (← position)
  | depth + 1 => body (rulesTo depth)

/-- The line `#!…` that may open a source. -/
def hashbang? : List Char → Option (List Char)
  | '#' :: '!' :: r => some (r.takeWhile fun c => !isLineEnd c)
  | _ => none

/-- A whole program; the reader stands at its first token. -/
def program (depth : Nat) (hashbang : Option String) : Parse Node := do
  let items ← statementList (rulesTo depth) Token.isEnd
  let s ← get
  return .mk (.program hashbang) ⟨0, s.token.stop⟩ items

end Grammar

/-- A source text that has been parsed. -/
structure Module where
  /-- The whole text. -/
  source : List Char
  /-- Its program. -/
  tree : Node
  /-- Its comments in order. -/
  comments : List Comment

/-- Parses a module. The fault that is reported is the first of the reader's, else the first recorded
one, else a default value in an object literal that is no pattern. -/
def Module.parse (source : List Char) : Except Issue Module :=
  let hashbang := Grammar.hashbang? source
  let skipped := match hashbang with
    | some line => byteLength line + 2
    | none => 0
  let reader : Reader := { rest := dropBytes skipped source, offset := skipped }
  let first := reader.next
  let state : ParseState :=
    { token := first.token, text := first.text, reader := first.reader, limit := source.length + 2,
      context := { inAsync := true } }
  let depth := 8 * source.length + 64
  match Grammar.program depth (hashbang.map String.ofList) state with
  | .error issue _ => .error issue
  | .ok tree s =>
    match s.reader.issues.getLast?, s.issues.getLast?, s.defaults.getLast? with
    | some issue, _, _ => .error issue
    | none, some issue, _ => .error issue
    | none, none, some (offset, _) => .error ⟨.objectDefault, offset⟩
    | none, none, none => .ok { source := source, tree := tree, comments := s.reader.trivia.comments }

/-- Whether a text is a module with some property can be decided if the property can. -/
instance {source : List Char} {P : Module → Prop} [DecidablePred P] :
    Decidable (∃ m, Module.parse source = .ok m ∧ P m) :=
  decidable_of_iff ((Module.parse source).toOption.any fun m => decide (P m)) (by
    cases Module.parse source <;> simp [Except.toOption])

end TypedJsx
