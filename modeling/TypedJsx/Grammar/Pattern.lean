import TypedJsx.Grammar.Parse
/-!
Names, keys and literals: the parts of the grammar that hold no other rule but a computed key. Binding
patterns, and the assignment targets that expressions turn out to be.
-/
namespace TypedJsx.Grammar

open Parse

/-! ## Names and keys -/

/-- A name may not be an operator of its context. -/
def checkName (t : Token) (c : Context) : Parse Unit := do
  if c.inAsync && t.isWord "await" then record .awaitName t.start
  if c.inGenerator && t.isWord "yield" then record .yieldName t.start

/-- A name that refers to something. -/
def identifierReference : Parse Node := do
  let t ← token
  if !t.isIdentifier then unexpected
  checkName t (← context)
  advanceName
  return .mk (.reference t.value) t.span []

/-- A name that binds something. -/
def bindingIdentifier : Parse Node := do
  let t ← token
  if !t.isIdentifier then
    if t.isReserved then fail (.reservedWord t.value) t.start else unexpected
  checkName t (← context)
  advanceName
  return .mk (.binding t.value) t.span []

/-- Any name or word. -/
def identifierName : Parse Node := do
  let t ← token
  if !t.isIdentifierName then unexpected
  advanceName
  return .mk (.name t.value) t.span []

def privateName : Parse Node := do
  let t ← token
  advance
  return .mk (.privateName t.value) t.span []

/-- A label: a name in the place of one. -/
def labelName : Parse Node := do
  let t ← token
  if !t.isIdentifier then unexpected
  checkName t (← context)
  advanceName
  return .mk (.name t.value) t.span []

def stringLiteral : Parse Node := do
  let t ← token
  if t.kind != .string then unexpected
  advance
  return .mk (.stringLiteral t.value t.marked) t.span []

/-- The literal that the current token is, if it is one. -/
def literal? : Parse (Option Node) := do
  let t ← token
  let text := (← get).text
  let kind : Option Kind := match t.kind with
    | .string => some (.stringLiteral t.value t.marked)
    | .number value _ => 
      some (.numberLiteral value (String.ofList (takeBytes (t.stop - t.start) text)))
    | .bigint value _ => some (.bigintLiteral value)
    | .word =>
      if t.value == "true" then some (.booleanLiteral true)
      else if t.value == "false" then some (.booleanLiteral false)
      else if t.value == "null" then some .nullLiteral
      else none
    | _ => none
  match kind with
  | some k =>
    advance
    return some (.mk k t.span [])
  | none => return none

/-- The token is a key that is written as a name, a text or a number. -/
def isLiteralKey (t : Token) : Bool :=
  t.isIdentifierName || t.kind == .string || t.kind == .privateName
    || (match t.kind with | .number _ _ | .bigint _ _ => true | _ => false)

/-- A key in brackets. -/
def computedKey (rules : Rules) : Parse Node := do
  expect .openBracket
  let key ← enclosed (allowingIn (rules (.assignment true)))
  expect .closeBracket
  return key

/-- The key of a property, and whether it stands in brackets. -/
def propertyKey (rules : Rules) : Parse (Node × Bool) := do
  let t ← token
  match t.kind with
  | .string | .number _ _ | .bigint _ _ =>
    match ← literal? with
    | some n => return (n, false)
    | none => unexpected
  | .punctuator .openBracket => return (← computedKey rules, true)
  | _ => return (← identifierName, false)

/-! ## Binding patterns -/

/-- A pattern with the default value that may follow it. -/
def patternWithDefault (rules : Rules) : Parse Node := do
  let start ← position
  let pattern ← rules .bindingPattern
  if ← eat .assign then
    let value ← allowingIn (rules (.assignment true))
    finish start .defaultPattern [pattern, value]
  else return pattern

/-- The rest of a pattern, which has no default value. -/
def restElement (rules : Rules) : Parse Node := do
  let start ← position
  expect .ellipsis
  let pattern ← patternWithDefault rules
  if pattern.kind == .defaultPattern then record .restElementInitializer pattern.span.start
  if ← isAt .colon then fail .restElementKey (← position)
  finish start .rest [pattern, .absent]

/-- A property of an object pattern. A name alone binds itself. -/
def patternProperty (rules : Rules) : Parse Node := do
  let start ← position
  let isName := (← token).isIdentifier
  let (key, isComputed) ← propertyKey rules
  if isName && !(← isAt .colon) then
    match key with
    | .mk (.name text) span _ =>
      let binding := Node.mk (.binding text) span []
      let value ←
        if ← eat .assign then do
          let value ← allowingIn (rules (.assignment true))
          finish start .defaultPattern [binding, value]
        else pure binding
      finish start (.patternProperty true false) [key, value]
    | _ => unexpected
  else
    expect .colon
    let value ← patternWithDefault rules
    finish start (.patternProperty false isComputed) [key, value]

/-- A pattern that is a name. -/
def isBinding : Node → Bool
  | .mk (.binding _) _ _ => true
  | _ => false

/-- An object pattern, the rest of which is bound to a name. -/
def objectPattern (rules : Rules) : Parse Node := do
  let start ← position
  expect .openBrace
  let (items, rest) ← delimitedWithRest .closeBrace (patternProperty rules) (restElement rules)
    .restElementLast
  match rest with
  | some (.mk _ _ (argument :: _)) =>
    if !isBinding argument then fail .restElement argument.span.start
  | _ => pure ()
  expect .closeBrace
  finish start .objectPattern (items ++ rest.toList)

def arrayPattern (rules : Rules) : Parse Node := do
  let start ← position
  expect .openBracket
  let element : Parse Node := do
    if ← isAt .comma then
      let here ← position
      return .mk .hole ⟨here, here⟩ []
    else patternWithDefault rules
  let (items, rest) ← allowingIn
    (delimitedWithRest .closeBracket element (restElement rules) .restElementLast)
  expect .closeBracket
  finish start .arrayPattern (items ++ rest.toList)

def bindingPattern (rules : Rules) : Parse Node := do
  let t ← token
  if t.isPunctuator .openBracket then arrayPattern rules
  else if t.isPunctuator .openBrace then objectPattern rules
  else bindingIdentifier

/-! ## Assignment targets -/

/-- An expression that a value can be stored in. -/
def isSimpleTarget : Node → Bool
  | .mk (.reference _) _ _ => true
  | .mk (.member _) _ _ => true
  | .mk (.index _) _ _ => true
  | .mk (.privateMember _) _ _ => true
  | _ => false

/-- The expression inside parentheses and type operators. -/
def innerExpression : Node → Node
  | .mk .parenthesized _ [e] => innerExpression e
  | .mk .asType _ [e, _] => innerExpression e
  | .mk .satisfiesType _ [e, _] => innerExpression e
  | .mk .nonNull _ [e] => innerExpression e
  | n => n

/-- An expression as a target that is no pattern. Its parentheses are dropped. -/
def simpleTarget : Node → Parse Node
  | .mk .parenthesized span [inner] =>
    match inner.kind with
    | .object | .array => fail .assignmentTarget span.start
    | _ => simpleTarget inner
  | n =>
    match n.kind with
    | .asType | .satisfiesType | .nonNull =>
      if isSimpleTarget (innerExpression n) then return n else fail .assignmentLeft n.span.start
    | .instantiation => fail .assignmentLeft n.span.start
    | _ => if isSimpleTarget n then return n else fail .assignmentTarget n.span.start

/-- Records a comma after the rest of the literal at `start`. -/
def checkTrailingComma (start : Nat) : Parse Unit := do
  if let some comma := (← get).trailingCommas.lookup start then record .restTrailingComma comma

/-- Takes the default that was written for the property at `start`. -/
def takeDefault (start : Nat) : Parse Node := do
  let s ← get
  match s.defaults.lookup start with
  | none => return .absent
  | some value =>
    set { s with defaults := s.defaults.filter fun d => d.1 != start }
    return value

mutual

/-- An expression as the target of an assignment. -/
def assignmentTarget : Node → Parse Node
  | .mk .array span elements => return .mk .arrayTarget span (← arrayTargets span elements)
  | .mk .object span properties => return .mk .objectTarget span (← objectTargets span properties)
  | n => simpleTarget n

/-- An element of a target, which may carry a default value. -/
def targetWithDefault : Node → Parse Node
  | .mk (.assignment op) span [target, value] => do
    if op != .assign then record .defaultOperator span.start
    return .mk .defaultTarget span [target, value]
  | .mk .hole span _ => return .mk .hole span []
  | .mk .array span elements => return .mk .arrayTarget span (← arrayTargets span elements)
  | .mk .object span properties => return .mk .objectTarget span (← objectTargets span properties)
  | n => simpleTarget n

/-- The elements of the array literal over `whole` as targets, of which the last may be a spread. -/
def arrayTargets (whole : Span) : List Node → Parse (List Node)
  | [] => return []
  | .mk .spread span [argument] :: rest => do
    if !rest.isEmpty then fail .spreadLast span.start
    let target ← assignmentTarget argument
    checkTrailingComma whole.start
    return [.mk .spread span [target]]
  | n :: rest => do
    let target ← targetWithDefault n
    return target :: (← arrayTargets whole rest)

/-- The properties of the object literal over `whole` as targets. The last may be a spread of a target
that is no pattern. -/
def objectTargets (whole : Span) : List Node → Parse (List Node)
  | [] => return []
  | .mk .spread span [argument] :: rest => do
    if !rest.isEmpty then fail .spreadLast span.start
    let target ← assignmentTarget argument
    if target.kind == .arrayTarget || target.kind == .objectTarget then
      fail .restArgument target.span.start
    checkTrailingComma whole.start
    return [.mk .spread span [target]]
  | .mk (.property _ true _) span [_, value] :: rest => do
    let default ← takeDefault span.start
    return .mk .targetShorthand span [value, default] :: (← objectTargets whole rest)
  | .mk (.property _ false isComputed) span [key, value] :: rest => do
    let target ← targetWithDefault value
    return .mk (.targetProperty isComputed) span [key, target] :: (← objectTargets whole rest)
  | n :: _ => fail .assignmentTarget n.span.start

end

end TypedJsx.Grammar
