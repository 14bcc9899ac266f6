import TypedJsx.Grammar.Type
/-!
Functions, their bodies, and the statement lists that may open with directives.
-/
namespace TypedJsx.Grammar

open Parse

/-- A statement that is only a string, directly as written, is a directive while nothing else has been
seen. Its text is kept as it stands between the quotes. -/
def directive? (source : List Char) (start : Nat) : Node → Option Node
  | .mk .expressionStatement span [.mk (.stringLiteral _ _) inner _] =>
    let raw := sliceBytes (inner.start + 1 - start) (inner.stop - 1 - start) source
    some (.mk (.directive (String.ofList raw)) span [])
  | _ => none

/-- Statements up to a closing mark, the first of which may be directives. -/
def statementList (rules : Rules) (isDone : Token → Bool) : Parse (List Node) := do
  let (items, _) ← repeatFrom (([] : List Node), true) fun (items, directives) => do
    let t ← token
    if isDone t then return none
    let source := (← get).text
    let item ← rules (.statement false)
    if directives then
      match directive? source t.start item with
      | some d => return some (d :: items, true)
      | none => return some (item :: items, false)
    else return some (item :: items, false)
  return items.reverse

/-- The end of a block: its brace, or no more text. -/
def isBlockEnd (t : Token) : Bool := t.isPunctuator .closeBrace || t.isEnd

def functionBody (rules : Rules) : Parse Node := do
  let start ← position
  expect .openBrace
  let items ← enclosed <|
    within (fun c => { c with inFunction := true }) (statementList rules isBlockEnd)
  expect .closeBrace
  finish start .functionBody items

/-- A block of statements. -/
def block (rules : Rules) : Parse Node := do
  let start ← position
  expect .openBrace
  let items ← many do
    if isBlockEnd (← token) then return none
    return some (← rules (.statement false))
  expect .closeBrace
  finish start .block items

/-- What a function is written for. -/
inductive FunctionPlace where
  | declaration | defaultExport | expression | method | constructor
deriving DecidableEq

/-- The name of a function. -/
def functionName (place : FunctionPlace) (isAsync isGenerator : Bool) : Parse Node := do
  let t ← token
  if t.isIdentifier then
    let c ← context
    let c := if place == .expression then { c with inAsync := isAsync, inGenerator := isGenerator } else c
    checkName t c
    advanceName
    return .mk (.binding t.value) t.span []
  if place == .declaration then
    if t.isPunctuator .openParen then record .functionName t.start
    else if t.isReserved then fail (.expected "Identifier" t.describe) t.start
  return .absent

/-- A function after its name. Only an expression needs a body, and a function that is declared to be
defined elsewhere must have none. -/
def functionRest (rules : Rules) (start : Nat) (place : FunctionPlace) (form : FunctionForm) (name : Node) :
    Parse Node := do
  let change (c : Context) : Context :=
    { c with allowsIn := true, inAsync := form.isAsync, inGenerator := form.isGenerator }
  let (types, this, params, result, body) ← within change do
    let types ← typeParameters rules
    let (this, params) ← parameters rules (place == .constructor)
    if place == .constructor then
      if this.isPresent then record .constructorThis this.span.start
      if types.isPresent then record .constructorTypes types.span.start
    let result ← returnType rules
    let hasBody := place == .expression || (← isAt .openBrace)
    let body ← if hasBody then functionBody rules else pure Node.absent
    return (types, this, params, result, body)
  if body.isAbsent then endStatement
  else if form.isDeclare then record .ambientBody body.span.start
  finish start (.function form) [name, types, this, params, result, body]

/-- A function from its keyword on. -/
def functionFrom (rules : Rules) (start : Nat) (place : FunctionPlace) (isAsync isDeclare : Bool) :
    Parse Node := do
  expectWord "function"
  let isGenerator ← eat .star
  let name ← functionName place isAsync isGenerator
  let form : FunctionForm :=
    { isAsync := isAsync, isGenerator := isGenerator, isDeclare := isDeclare,
      isExpression := place == .expression }
  functionRest rules start place form name

/-- The function of a method, from its parameters on. -/
def methodFunction (rules : Rules) (place : FunctionPlace) (isAsync isGenerator : Bool) : Parse Node := do
  let start ← position
  functionRest rules start place { isAsync := isAsync, isGenerator := isGenerator, isExpression := true }
    .absent

/-- A parameter with an initial value. -/
def hasInitializer : Node → Bool
  | .mk (.parameter _) _ [_, _, _, value] => value.isPresent
  | _ => false

/-- A getter has no parameter but a rest, and a setter one that is no rest and has no initial value. -/
def checkAccessor (form : MemberForm) (f : Node) : Parse Unit := do
  let params := f.child 3
  let (rests, items) := params.children.partition fun p => p.kind == .rest
  match form with
  | .getter => if !items.isEmpty then record .getterParameters params.span.start
  | .setter =>
    match rests with
    | rest :: _ => record .setterRest rest.span.start
    | [] =>
      match items with
      | [one] => if hasInitializer one then record .setterInitializer params.span.start
      | _ => record .setterParameters params.span.start
  | _ => pure ()

/-- Marks a function calls of which have no effect. -/
def markNoEffects : Node → Node
  | .mk (.function form) span cs => .mk (.function { form with hasNoEffects := true }) span cs
  | .mk (.arrow form) span cs => .mk (.arrow { form with hasNoEffects := true }) span cs
  | n => n

/-- The current word is `async` before `function` on its line. -/
def isAsyncFunction : Parse Bool := do
  if ← isAtWord "async" then
    nextToken fun t => t.isWord "function" && !t.newlineBefore
  else return false

/-- A function begins here, possibly an asynchronous one. -/
def isFunctionStart : Parse Bool := do
  if ← isAtWord "function" then return true
  isAsyncFunction

end TypedJsx.Grammar
