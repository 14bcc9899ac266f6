import TypedJsx.Grammar.Class
import TypedJsx.Grammar.Markup
/-!
Expressions.
-/
namespace TypedJsx.Grammar

open Parse

/-! ## Operators -/

/-- What an operator between two operands makes of them. -/
inductive Infixed where
  | binary (op : BinaryOp)
  | logical (op : LogicalOp)
  | asType
  | satisfiesType
deriving DecidableEq

def Infixed.precedence : Infixed → Precedence
  | .binary op => op.precedence
  | .logical op => op.precedence
  | .asType | .satisfiesType => .compare

/-- The operator that a token is between two operands. -/
def infixed? (t : Token) : Option Infixed :=
  match t.kind with
  | .word =>
    if t.value == "in" then some (.binary .memberOf)
    else if t.value == "instanceof" then some (.binary .instanceOf)
    else if t.value == "as" then some .asType
    else if t.value == "satisfies" then some .satisfiesType
    else none
  | .punctuator p =>
    match p with
    | .coalesce => some (.logical .coalesce)
    | .orOr => some (.logical .or)
    | .andAnd => some (.logical .and)
    | .pipe => some (.binary .bitOr)
    | .caret => some (.binary .bitXor)
    | .ampersand => some (.binary .bitAnd)
    | .equal => some (.binary .equal)
    | .notEqual => some (.binary .notEqual)
    | .strictEqual => some (.binary .strictEqual)
    | .strictNotEqual => some (.binary .strictNotEqual)
    | .less => some (.binary .less)
    | .lessEqual => some (.binary .lessEqual)
    | .greater => some (.binary .greater)
    | .greaterEqual => some (.binary .greaterEqual)
    | .shiftLeft => some (.binary .shiftLeft)
    | .shiftRight => some (.binary .shiftRight)
    | .shiftRightZero => some (.binary .shiftRightZero)
    | .plus => some (.binary .add)
    | .minus => some (.binary .subtract)
    | .star => some (.binary .multiply)
    | .slash => some (.binary .divide)
    | .percent => some (.binary .remainder)
    | .power => some (.binary .power)
    | _ => none
  | _ => none

/-- The operator that a token is in an assignment. -/
def assignOp? (t : Token) : Option AssignOp :=
  match t.kind with
  | .punctuator p =>
    match p with
    | .assign => some .assign
    | .plusAssign => some (.compound .add)
    | .minusAssign => some (.compound .subtract)
    | .starAssign => some (.compound .multiply)
    | .slashAssign => some (.compound .divide)
    | .percentAssign => some (.compound .remainder)
    | .powerAssign => some (.compound .power)
    | .shiftLeftAssign => some (.compound .shiftLeft)
    | .shiftRightAssign => some (.compound .shiftRight)
    | .shiftRightZeroAssign => some (.compound .shiftRightZero)
    | .ampersandAssign => some (.compound .bitAnd)
    | .pipeAssign => some (.compound .bitOr)
    | .caretAssign => some (.compound .bitXor)
    | .andAssign => some (.logical .and)
    | .orAssign => some (.logical .or)
    | .coalesceAssign => some (.logical .coalesce)
    | _ => none
  | _ => none

def unaryOp? (t : Token) : Option UnaryOp :=
  match t.kind with
  | .word =>
    if t.value == "typeof" then some .typeof
    else if t.value == "void" then some .void
    else if t.value == "delete" then some .delete
    else none
  | .punctuator .plus => some .plus
  | .punctuator .minus => some .minus
  | .punctuator .bang => some .not
  | .punctuator .tilde => some .bitNot
  | _ => none

def updateOp? (t : Token) : Option UpdateOp :=
  match t.kind with
  | .punctuator .increment => some .increment
  | .punctuator .decrement => some .decrement
  | _ => none

/-! ## Primary expressions -/

/-- An argument of a call or an element of an array, which may be a spread. -/
def spreadOr (rules : Rules) : Parse Node := do
  let start ← position
  if ← eat .ellipsis then
    let e ← rules (.assignment true)
    finish start .spread [e]
  else rules (.assignment true)

/-- Remembers the comma after the last item of the literal at `start`. -/
def rememberComma (start : Nat) : Option Nat → Parse Unit
  | some comma => modify fun s => { s with trailingCommas := (start, comma) :: s.trailingCommas }
  | none => return ()

def arrayLiteral (rules : Rules) : Parse Node := do
  let start ← position
  expect .openBracket
  let element : Parse Node := do
    if ← isAt .comma then
      let here ← position
      return .mk .hole ⟨here, here⟩ []
    else spreadOr rules
  let (items, comma) ← allowingIn (delimited .closeBracket element)
  rememberComma start comma
  expect .closeBracket
  finish start .array items

/-- The function of a method of an object, which has a body. -/
def objectMethod (rules : Rules) (isAsync isGenerator : Bool) : Parse Node := do
  let f ← methodFunction rules .method isAsync isGenerator
  if (f.child 5).isAbsent then record .functionBody f.span.start
  return f

/-- A getter or setter of an object behind that word. -/
def objectAccessor (rules : Rules) (start : Nat) (form : MemberForm) (written : List Written) :
    Parse Node := do
  let (key, isComputed) ← propertyKey rules
  let f ← objectMethod rules false false
  checkAccessor form f
  permit [] .modifierUnusable written
  finish start (.property form false isComputed) [key, f]

/-- A property of an object literal. Of all modifiers only `async` can stand there, before a method. -/
def objectProperty (rules : Rules) : Parse Node := do
  let start ← position
  if ← isAt .ellipsis then return ← spreadOr rules
  let written ← modifiers true
  if ← eatModifier "get" then return ← objectAccessor rules start .getter written
  if ← eatModifier "set" then return ← objectAccessor rules start .setter written
  let isGenerator ← eat .star
  let t ← token
  let c ← context
  let isName := t.isIdentifier && !(c.inAsync && t.isWord "await") && !(c.inGenerator && t.isWord "yield")
  let (key, isComputed) ← propertyKey rules
  if isGenerator || (← isAt .openParen) || (← isAt .less) then
    permit ["async"] .modifierUnusable written
    let f ← objectMethod rules (Modifiers.ofWritten written).isAsync isGenerator
    return ← finish start (.property .method false isComputed) [key, f]
  permit [] .modifierUnusable written
  if isName && !(← isAt .colon) then
    let value := Node.mk (.reference t.value) t.span []
    if ← eat .assign then
      let default ← allowingIn (rules (.assignment true))
      modify fun s => { s with defaults := (start, default) :: s.defaults.filter fun d => d.1 != start }
    return ← finish start (.property .plain true false) [key, value]
  expect .colon
  let value ← allowingIn (rules (.assignment true))
  finish start (.property .plain false isComputed) [key, value]

def objectLiteral (rules : Rules) : Parse Node := do
  let start ← position
  expect .openBrace
  let (items, comma) ← allowingIn (delimited .closeBrace (objectProperty rules))
  rememberComma start comma
  expect .closeBrace
  finish start .object items

/-- A function directly in parentheses is marked, so that it keeps a pair of them. -/
def markWrapped : Node → Node
  | .mk (.function form) span cs => .mk (.function { form with wrapped := true }) span cs
  | .mk (.arrow form) span cs => .mk (.arrow { form with wrapped := true }) span cs
  | n => n

/-- Expressions in parentheses. What a comment before the parenthesis says of a function holds for the
one directly in it. -/
def parenthesized (rules : Rules) : Parse Node := do
  let start ← position
  let hasNoEffects := (← token).note.hasNoEffects
  expect .openParen
  let here ← position
  let change (c : Context) : Context := { c with allowsIn := true, inDecorator := false }
  let (items, comma) ← within change (delimited .closeParen (rules (.assignment true)))
  if let some offset := comma then record (.trailingComma "Parenthesized expressions") offset
  match items with
  | [] =>
    expect .closeParen
    fail .emptyParentheses start
  | [e] =>
    expect .closeParen
    finish start .parenthesized [markWrapped (if hasNoEffects then markNoEffects e else e)]
  | items =>
    let e ← finish here .sequence items
    expect .closeParen
    finish start .parenthesized [e]

def templateLiteral (rules : Rules) (isTagged : Bool) : Parse Node := do
  let start ← position
  let (pieces, holes) ← templateParts isTagged (allowingIn (rules .expression))
  finish start (.template pieces) holes

/-- The flags a regular expression may have, in the order in which they are kept. -/
def knownFlags : List Char := "dgimsuvy".toList

/-- Reports unknown and repeated flags. -/
def checkFlags (r : Reader) (offset : Nat) (seen : List Char) : List Char → Reader
  | [] => r
  | c :: cs =>
    let r :=
      if !knownFlags.contains c then r.report (.regexpFlag c) offset
      else if seen.contains c then r.report (.regexpFlagTwice c) offset
      else r
    checkFlags r (offset + c.utf8Size) (c :: seen) cs

/-- A regular expression: the current token is its opening slash. -/
def regexpLiteral : Parse Node := do
  let s ← get
  let start := s.token.start
  match Lexeme.regexpBody? false (s.text.drop 1) with
  | none =>
    set { s with reader := s.reader.report .unterminatedRegexp start }
    unexpected
  | some (body, rest) =>
    let flags := rest.takeWhile Lexeme.isFlagText
    let rest := rest.drop flags.length
    let flagStart := start + 2 + byteLength body
    let stop := flagStart + byteLength flags
    let reader := checkFlags { s.reader with rest := rest, offset := stop } flagStart [] flags
    set { s with token := { s.token with stop := stop }, reader := reader }
    if flags.contains 'u' && flags.contains 'v' then record .regexpFlagsExclude start
    advance
    let kept := knownFlags.filter flags.contains
    finish start (.regexpLiteral (String.ofList body) (String.ofList kept)) []

/-- `import.meta`, or a module loaded by a call. -/
def importExpression (rules : Rules) : Parse Node := do
  let start ← position
  expectWord "import"
  let call (phase : String) : Parse Node := do
    expect .openParen
    if ← eat .closeParen then fail .importWithoutSource start
    let source ← allowingIn (rules (.assignment true))
    let hasMore ← eat .comma
    let options ←
      if hasMore && !(← isAt .closeParen) then do
        let options ← allowingIn (rules (.assignment true))
        let _ ← eat .comma
        pure options
      else pure Node.absent
    if !(← eat .closeParen) then fail .importArguments start
    finish start (.importCall phase) [source, options]
  if ← eat .dot then
    let t ← token
    if t.isWord "meta" then
      advance
      finish start (.metaProperty "import" "meta") []
    else if t.isWord "source" || t.isWord "defer" then
      advance
      call t.value
    else
      advance
      fail .importMeta start
  else if ← isAt .openParen then call ""
  else unexpected

/-- A call's arguments in parentheses. -/
def arguments (rules : Rules) : Parse (List Node) := do
  expect .openParen
  let change (c : Context) : Context := { c with allowsIn := true, inDecorator := false }
  let (items, _) ← within change (delimited .closeParen (spreadOr rules))
  expect .closeParen
  return items

/-! ## Members and calls -/

/-- What follows a `?.` makes it an access and not a call. -/
def isOptionalAccess (t : Token) : Bool :=
  t.isIdentifierName || t.kind == .privateName || t.isPunctuator .openBracket

/-- The member of an object that is named at the current token. -/
def memberOf (start : Nat) (object : Node) (isOptional : Bool) : Parse Node := do
  if (← token).kind == .privateName then
    let name ← privateName
    finish start (.privateMember isOptional) [object, name]
  else
    let name ← identifierName
    finish start (.member isOptional) [object, name]

def indexOf (rules : Rules) (start : Nat) (object : Node) (isOptional : Bool) : Parse Node := do
  expect .openBracket
  let key ← enclosed (allowingIn (rules .expression))
  expect .closeBracket
  finish start (.index isOptional) [object, key]

/-- A template behind its tag. -/
def tagged (rules : Rules) (start : Nat) (tag : Node) (inChain : Bool) : Parse Node := do
  let (tag, types) := match tag with
    | .mk .instantiation _ [e, types] => (e, types)
    | e => (e, Node.absent)
  let here ← position
  let template ← templateLiteral rules true
  if inChain then record .optionalTemplate here
  finish start .taggedTemplate [tag, types, template]

/-- The accesses, templates and type arguments that follow an expression, with the mark whether an
optional step is among them. -/
def memberSteps (rules : Rules) (start : Nat) (allowsOptional : Bool) (first : Node × Bool) :
    Parse (Node × Bool) :=
  repeatFrom first fun (e, inChain) => do
    let t ← token
    if allowsOptional && t.isPunctuator .questionDot then
      if ← nextToken isOptionalAccess then
        advance
        if ← isAt .openBracket then return some (← indexOf rules start e true, true)
        return some (← memberOf start e true, true)
      return none
    if ← eat .dot then return some (← memberOf start e false, inChain)
    if t.isPunctuator .openBracket && !(← context).inDecorator then
      return some (← indexOf rules start e false, inChain)
    match t.kind with
    | .template true _ => return some (← tagged rules start e inChain, inChain)
    | _ => pure ()
    if t.isPunctuator .bang && !t.newlineBefore then
      advance
      return some (← finish start .nonNull [e], inChain)
    if t.isPunctuator .less || t.isPunctuator .shiftLeft then
      match ← attempt (typeArgumentsInExpression rules) with
      | some types => return some (← finish start .instantiation [e, types], inChain)
      | none => return none
    return none

/-- Calls and accesses in any order. -/
def callSteps (rules : Rules) (start : Nat) (first : Node × Bool) : Parse (Node × Bool) := do
  let first ← memberSteps rules start true first
  repeatFrom first fun (e, inChain) => do
    let t ← token
    if t.isPunctuator .questionDot then
      advance
      let types ← attempt do
        let t ← token
        if t.isPunctuator .less || t.isPunctuator .shiftLeft then typeArgumentsInExpression rules
        else unexpected
      if types.isSome || (← isAt .openParen) then
        let args ← arguments rules
        let call ← finish start (.call true false) (e :: types.getD .absent :: args)
        return some (← memberSteps rules start true (call, true))
      match (← token).kind with
      | .template true _ =>
        let e ← tagged rules start e true
        return some (← memberSteps rules start true (e, true))
      | _ => fail .optionalName t.start
    if t.isPunctuator .openParen then
      let (callee, types) := match e with
        | .mk .instantiation _ [e, types] => (e, types)
        | e => (e, Node.absent)
      let args ← arguments rules
      let call ← finish start (.call false false) (callee :: types :: args)
      return some (← memberSteps rules start true (call, inChain))
    return none

/-- Marks an expression with an optional step in it. -/
def asChain (span : Span) : Node → Node
  | .mk .instantiation s [e, types] => .mk .instantiation s [asChain s e, types]
  | n => match n.kind with
    | .member _ | .index _ | .privateMember _ | .call _ _ | .nonNull => .mk .chain span [n]
    | _ => n

def superExpression : Parse Node := do
  let t ← token
  advance
  let next ← token
  if !(next.isPunctuator .dot || next.isPunctuator .openBracket || next.isPunctuator .openParen) then
    record .superPlace t.start
  return .mk .superExpression t.span []

/-- An expression that is no operation; `new` is given as a parser. -/
def primaryWith (rules : Rules) (newExpression : Parse Node) : Parse Node := do
  let t ← token
  if ← isAsyncFunction then
    advance
    return ← functionFrom rules t.start .expression true false
  match ← literal? with
  | some n => return n
  | none => pure ()
  match t.kind with
  | .name => identifierReference
  | .punctuator .openBracket => arrayLiteral rules
  | .punctuator .openBrace => objectLiteral rules
  | .punctuator .openParen => parenthesized rules
  | .punctuator .slash | .punctuator .slashAssign => regexpLiteral
  | .punctuator .less =>
    advance
    rules (.markup t.start false)
  | .punctuator .atSign =>
    let ds ← decorators rules
    classFrom rules t.start { isExpression := true } ds
  | .template true _ => templateLiteral rules false
  | .word =>
    if t.value == "function" then functionFrom rules t.start .expression false false
    else if t.value == "class" then
      classFrom rules t.start { isExpression := true } (.mk .decorators Span.none [])
    else if t.value == "this" then
      advance
      return .mk .thisExpression t.span []
    else if t.value == "new" then newExpression
    else if t.value == "super" then superExpression
    else if t.value == "import" then importExpression rules
    else identifierReference
  | _ => identifierReference

/-- `new` expressions, which may nest in their callee. -/
def newExpressionWith (rules : Rules) : Nat → Parse Node
  | 0 => do fail .tooDeep (← position)
  | depth + 1 => do
    let start ← position
    expectWord "new"
    if ← eat .dot then
      if ← eatWord "target" then return ← finish start (.metaProperty "new" "target") []
      advance
      fail .newTarget start
    let here ← position
    let first ← primaryWith rules (newExpressionWith rules depth)
    let (callee, inChain) ← memberSteps rules here false (first, false)
    if let .mk (.importCall _) span _ := callee then record .newImport span.start
    if (← isAt .questionDot) || inChain then fail .newOptionalChain (← position)
    let (callee, types) := match callee with
      | .mk .instantiation _ [e, types] => (e, types)
      | e => (e, Node.absent)
    let args ← if ← isAt .openParen then arguments rules else pure []
    finish start (.new false) (callee :: types :: args)

def primary (rules : Rules) : Parse Node := do
  primaryWith rules (newExpressionWith rules (← limit))

/-- Members and calls of a primary expression. -/
def leftHand (rules : Rules) : Parse Node := do
  let start ← position
  let first ← primary rules
  let (e, inChain) ← callSteps rules start (first, false)
  if inChain then return asChain ⟨start, (← get).lastStop⟩ e else return e

/-! ## Operators applied -/

/-- An operand with the `++` or `--` that may stand before or after it. -/
def updateExpression (rules : Rules) : Parse Node := do
  let start ← position
  let t ← token
  match updateOp? t with
  | some op =>
    advance
    let e ← rules .unary
    let target ← simpleTarget e
    finish start (.update op true) [target]
  | none =>
    if t.isPunctuator .less then
      advance
      return ← rules (.markup t.start false)
    let e ← leftHand rules
    let next ← token
    match updateOp? next with
    | some op =>
      if next.newlineBefore then return e
      advance
      let target ← simpleTarget e
      finish start (.update op false) [target]
    | none => return e

/-- The current word is `await` as an operator. -/
def isAwait : Parse Bool := do
  if !(← isAtWord "await") then return false
  if (← context).inAsync then return true
  nextToken fun t => !t.newlineBefore && (t.isIdentifierName || t.kind == .string
    || (match t.kind with | .number _ _ | .bigint _ _ => true | _ => false))

def unary (rules : Rules) : Parse Node := do
  let start ← position
  let t ← token
  match unaryOp? t with
  | some op =>
    advance
    let e ← rules .unary
    finish start (.unary op) [e]
  | none =>
    if ← isAwait then
      if !(← context).inAsync then record .awaitOutside start
      advance
      let e ← within (fun c => { c with inAsync := true }) (rules .unary)
      finish start .await [e]
    else updateExpression rules

/-- An operand that a power may not start with, unless it stands in parentheses. -/
def isUnaryOperand : Node → Bool
  | .mk (.unary _) _ _ => true
  | .mk .await _ _ => true
  | _ => false

/-- A logical operation of `&&` or `||`. -/
def isAndOr : Node → Bool
  | .mk (.logical .and) _ _ => true
  | .mk (.logical .or) _ _ => true
  | _ => false

/-- Marks the call or `new` that comes first in an expression as one without effect. -/
def markPure : Node → Node
  | .mk (.call isOptional _) span cs => .mk (.call isOptional true) span cs
  | .mk (.new _) span cs => .mk (.new true) span cs
  | .mk .chain span [.mk (.call isOptional _) s cs] => .mk .chain span [.mk (.call isOptional true) s cs]
  | .mk .parenthesized span [e] => .mk .parenthesized span [markPure e]
  | .mk .asType span [e, type] => .mk .asType span [markPure e, type]
  | .mk .satisfiesType span [e, type] => .mk .satisfiesType span [markPure e, type]
  | .mk .nonNull span [e] => .mk .nonNull span [markPure e]
  | .mk .instantiation span [e, types] => .mk .instantiation span [markPure e, types]
  | .mk (.binary op) span [left, right] => .mk (.binary op) span [markPure left, right]
  | .mk (.logical op) span [left, right] => .mk (.logical op) span [markPure left, right]
  | .mk .conditional span [test, first, second] => .mk .conditional span [markPure test, first, second]
  | n => n

/-- The question `#name in object`. Behind an operator that binds as tight as `in` it cannot begin. -/
def privateIn (rules : Rules) (min : Precedence) : Parse Node := do
  let start ← position
  if Precedence.compare.rank ≤ min.rank then fail .privateOperand start
  let name ← privateName
  if !(← isAtWord "in") then expectedInstead "in"
  advance
  let object ← rules (.binary .compare)
  finish start .privateIn [name, object]

/-- Operands joined by operators that bind tighter than `min`, or as tight for a power. -/
def binary (rules : Rules) (min : Precedence) : Parse Node := do
  let start ← position
  let isPure := (← token).note.isPure
  let first ←
    if (← token).kind == .privateName && (← context).allowsIn then privateIn rules min
    else unary rules
  let first := if isPure then markPure first else first
  repeatFrom first fun left => do
    joinAngle
    let t ← token
    match infixed? t with
    | none => return none
    | some op =>
      let precedence := op.precedence
      let binds :=
        if precedence == .power then min.rank ≤ precedence.rank else min.rank < precedence.rank
      if !binds then return none
      if op == .binary .memberOf && !(← context).allowsIn then return none
      if (op == .asType || op == .satisfiesType) && t.newlineBefore then return none
      advance
      match op with
      | .asType => return some (← finish start .asType [left, ← rules .type])
      | .satisfiesType => return some (← finish start .satisfiesType [left, ← rules .type])
      | .logical op =>
        let right ← rules (.binary precedence)
        if op == .coalesce && (isAndOr right || (!(right.kind == .logical .coalesce) && isAndOr left)) then
          record .mixedCoalesce start
        return some (← finish start (.logical op) [left, right])
      | .binary op =>
        let right ← rules (.binary precedence)
        if op == .power && isUnaryOperand left then record .powerOfUnary left.span.start
        return some (← finish start (.binary op) [left, right])

/-! ## Arrow functions -/

/-- How sure it is that an arrow function begins. -/
inductive Certainty where
  | no | maybe | yes
deriving DecidableEq, Inhabited

/-- A word that may modify a parameter. -/
def isParameterModifier (t : Token) : Bool :=
  t.kind == .word && ["public", "private", "protected", "readonly", "override", "static", "declare",
    "abstract", "accessor", "const", "export", "default", "in", "out"].contains t.value

/-- Looks at the tokens behind the opening of a possible arrow function. -/
def arrowStart : Parse Certainty := do
  if ← eatWord "async" then
    let t ← token
    if t.newlineBefore || !(t.isPunctuator .openParen || t.isPunctuator .less) then return .no
  let isParen ← isAt .openParen
  advance
  let second ← token
  if isParen then
    if second.isPunctuator .closeParen then
      advance
      let t ← token
      if t.isPunctuator .colon then return .maybe
      return if t.isPunctuator .arrow || t.isPunctuator .openBrace then .yes else .no
    if second.isPunctuator .openBracket || second.isPunctuator .openBrace then return .maybe
    advance
    let third ← token
    if second.isPunctuator .ellipsis then return if third.kind == .name then .yes else .maybe
    if isParameterModifier second && third.isIdentifier then
      return if third.isWord "as" then .no else .yes
    if !second.isIdentifier && !second.isWord "this" then return .no
    if third.isPunctuator .colon then return .yes
    if third.isPunctuator .question then
      advance
      let t ← token
      return if t.isPunctuator .colon || t.isPunctuator .comma || t.isPunctuator .assign
        || t.isPunctuator .closeParen then .yes else .no
    return if third.isPunctuator .comma || third.isPunctuator .assign || third.isPunctuator .closeParen
      then .maybe else .no
  else
    let isConst ← eatWord "const"
    if !(← token).isIdentifier && !isConst then return .no
    advance
    if ← eatWord "extends" then
      let t ← token
      if t.isPunctuator .assign || t.isPunctuator .greater || t.isPunctuator .slash then return .no
      return if t.isIdentifier then .maybe else .yes
    return if (← isAt .comma) || (← isAt .assign) then .yes else .no

/-- Whether an arrow function in parentheses begins at the current token. -/
def arrowCertainty : Parse Certainty := do
  let t ← token
  if t.isPunctuator .less || t.isPunctuator .openParen || t.isWord "async" then
    return (← peek arrowStart).getD .no
  else return .no

/-- What stands before the arrow. -/
structure ArrowHead where
  start : Nat
  isAsync : Bool
  types : Node
  params : Node
  result : Node

/-- The arrow itself, which has to stand on the line of what is before it. -/
def expectArrow : Parse Unit := do
  let t ← token
  if t.isPunctuator .arrow && t.newlineBefore then record .newlineBeforeArrow t.start
  expect .arrow

def arrowHead (rules : Rules) : Parse ArrowHead := do
  let start ← position
  let isAsync ← eatWord "async"
  let (types, params, result) ← within (fun c => { c with inAsync := c.inAsync || isAsync }) do
    let types ← typeParameters rules
    let (this, params) ← parameters rules false
    if this.isPresent then record .arrowThis this.span.start
    let result ← returnType rules
    return (types, params, result)
  expectArrow
  return ⟨start, isAsync, types, params, result⟩

/-- An arrow function behind its arrow. -/
def arrowRest (rules : Rules) (head : ArrowHead) (arrowType : Bool) : Parse Node := do
  let change (c : Context) : Context := { c with inAsync := head.isAsync, inGenerator := false }
  let isExpression := !(← isAt .openBrace)
  let body ← within change do
    if isExpression then
      let e ← rules (.assignment arrowType)
      return Node.mk .functionBody e.span [.mk .expressionStatement e.span [e]]
    else functionBody rules
  finish head.start (.arrow { isAsync := head.isAsync, isExpression := isExpression })
    [head.types, head.params, head.result, body]

/-- Goes back to where no arrow function begins after all. -/
def noArrow (start : ParseState) : Parse (Option Node) := do
  goBack start
  modify fun s => { s with notArrows := start.token.start :: s.notArrows }
  return none

/-- An arrow function where it is not sure that one begins. A head that does not parse is none; and
between `?` and `:` a return type makes it one only if the colon of the choice still follows. -/
def possibleArrow? (rules : Rules) (arrowType : Bool) : Parse (Option Node) := do
  let start ← get
  if start.notArrows.contains start.token.start then return none
  match ← attempt (arrowHead rules) with
  | none => noArrow start
  | some head =>
    if !arrowType && head.result.isPresent then
      let found ← attempt (arrowRest rules head arrowType)
      if found.isSome && (← isAt .colon) then return found
      noArrow start
    else return some (← arrowRest rules head arrowType)

/-- An arrow function that begins with a parenthesis or type parameters. -/
def arrowInParentheses? (rules : Rules) (arrowType : Bool) : Parse (Option Node) := do
  match ← arrowCertainty with
  | .no => return none
  | .yes => return some (← arrowRest rules (← arrowHead rules) true)
  | .maybe => possibleArrow? rules arrowType

/-- The list that a single name is as a parameter. -/
def singleParameter (name : String) (span : Span) : Node :=
  let pattern := Node.mk (.binding name) span []
  let ds := Node.mk .decorators Span.none []
  .mk .parameters span [.mk (.parameter {}) span [ds, pattern, .absent, .absent]]

/-- `async x => …`, whose parameter is read as an operand. -/
def asyncArrow? (rules : Rules) (arrowType : Bool) : Parse (Option Node) := do
  let t ← token
  if !t.isWord "async" then return none
  let isArrow ← ahead do
    advance
    let t ← token
    if t.newlineBefore || !t.isIdentifier then return false
    advance
    let t ← token
    return t.isPunctuator .arrow && !t.newlineBefore
  if !isArrow then return none
  advance
  match ← rules (.binary .comma) with
  | .mk (.reference name) span _ =>
    expectArrow
    let head : ArrowHead := ⟨t.start, true, .absent, singleParameter name span, .absent⟩
    return some (← arrowRest rules head arrowType)
  | _ => unexpected

/-! ## Assignments and sequences -/

/-- The current word is `yield` as an operator, which it is only meant to be in a generator. -/
def isYield : Parse Bool := do
  if !(← isAtWord "yield") then return false
  if (← context).inGenerator then return true
  nextToken fun t => !t.newlineBefore && isLiteralKey t && t.kind != .privateName

/-- `yield` is an operator inside a generator. -/
def yieldExpression (rules : Rules) : Parse Node := do
  let start ← position
  if !(← context).inGenerator then record .yieldOutside start
  advance
  if ← isOnNewLine then return ← finish start (.yield false) [.absent]
  let isDelegate ← eat .star
  let t ← token
  let isBare := t.isEnd || t.isWord "in" || (match t.kind with
    | .punctuator p => [.semicolon, .closeBrace, .closeParen, .closeBracket, .colon, .comma].contains p
    | _ => false)
  let argument ← if !isBare || isDelegate then rules (.assignment true) else pure Node.absent
  finish start (.yield isDelegate) [argument]

/-- An expression without commas. What a comment before it says of a function holds for the one that it
is. -/
def assignment (rules : Rules) (arrowType : Bool) : Parse Node := do
  if ← isYield then return ← yieldExpression rules
  let hasNoEffects := (← token).note.hasNoEffects
  let noted (e : Node) : Node := if hasNoEffects then markNoEffects e else e
  if let some e ← arrowInParentheses? rules arrowType then return noted e
  if let some e ← asyncArrow? rules arrowType then return noted e
  let start ← position
  let left := noted (← binary rules .comma)
  let t ← token
  if t.isPunctuator .arrow then
    match left with
    | .mk (.reference name) span _ =>
      expectArrow
      let head : ArrowHead := ⟨start, false, .absent, singleParameter name span, .absent⟩
      return noted (← arrowRest rules head arrowType)
    | _ => pure ()
  match assignOp? t with
  | some op =>
    let target ← assignmentTarget left
    advance
    let value ← rules (.assignment arrowType)
    finish start (.assignment op) [target, value]
  | none =>
    if ← eat .question then
      let first ← enclosed (allowingIn (rules (.assignment false)))
      expect .colon
      let second ← rules (.assignment arrowType)
      finish start .conditional [left, first, second]
    else return left

/-- Expressions with commas between them. -/
def expression (rules : Rules) : Parse Node := do
  let start ← position
  let first ← rules (.assignment true)
  if !(← isAt .comma) then return first
  let more ← many do
    if ← eat .comma then return some (← rules (.assignment true)) else return none
  finish start .sequence (first :: more)

end TypedJsx.Grammar
