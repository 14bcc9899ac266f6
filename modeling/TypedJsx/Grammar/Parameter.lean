import TypedJsx.Grammar.Pattern
/-!
Modifiers: the words before a class member, a property, a parameter, a type parameter or a declaration.
They are read alike everywhere and may stand in any order, but each only once; whether each may stand
before what follows is checked once that is known.

Parameters, type annotations, type parameters and type arguments.
-/
namespace TypedJsx.Grammar

open Parse

/-- A modifier and the offset at which it stands. -/
structure Written where
  word : String
  offset : Nat

def accessibilityWords : List String := ["public", "private", "protected"]

/-- The words that can be modifiers. -/
def modifierWords : List String :=
  accessibilityWords ++ ["abstract", "accessor", "async", "const", "declare", "default", "export", "in",
    "out", "override", "readonly", "static"]

/-- Adds the modifier that a word is. -/
def Modifiers.add (m : Modifiers) (word : String) : Modifiers :=
  match word with
  | "public" => { m with accessibility := some .isPublic }
  | "private" => { m with accessibility := some .isPrivate }
  | "protected" => { m with accessibility := some .isProtected }
  | "static" => { m with isStatic := true }
  | "declare" => { m with isDeclare := true }
  | "abstract" => { m with isAbstract := true }
  | "override" => { m with isOverride := true }
  | "readonly" => { m with isReadonly := true }
  | "async" => { m with isAsync := true }
  | "const" => { m with isConst := true }
  | "accessor" => { m with isAccessor := true }
  | "in" => { m with isIn := true }
  | "out" => { m with isOut := true }
  | _ => m

/-- What modifiers mean together. -/
def Modifiers.ofWritten (written : List Written) : Modifiers :=
  written.foldl (fun m w => Modifiers.add m w.word) {}

/-! ## Repetition -/

/-- What is wrong with a word behind the modifiers that were seen before it. -/
def repetition? (seen : List String) (word : String) : Option Fault :=
  if accessibilityWords.contains word && seen.any accessibilityWords.contains then
    some .accessibilitySeen
  else if seen.contains word then some (.modifierSeen word)
  else none

/-- Takes the current word as a modifier behind those that were seen, the newest first. -/
def takeModifier (seen : List Written) : Parse (List Written) := do
  let t ← token
  if let some fault := repetition? (seen.map (·.word)) t.value then record fault t.start
  advance
  return ⟨t.value, t.start⟩ :: seen

/-! ## Where a word is a modifier -/

/-- A token that can follow a modifier. -/
def followsModifier (t : Token) : Bool :=
  t.isPunctuator .openBracket || t.isPunctuator .openBrace || t.isPunctuator .star
    || t.isPunctuator .ellipsis || isLiteralKey t

/-- The tokens from here on are what `default` can stand before. -/
def followsDefault : Parse Bool := do
  let t ← token
  if t.isWord "class" || t.isWord "function" || t.isWord "interface" || t.isPunctuator .atSign then
    return true
  if t.isWord "abstract" then return ← nextToken fun t => t.isWord "class" && !t.newlineBefore
  if t.isWord "async" then return ← nextToken fun t => t.isWord "function" && !t.newlineBefore
  return false

/-- The tokens from here on are what `export` can stand before. -/
def followsExport : Parse Bool := do
  let t ← token
  if t.isWord "default" then
    advance
    followsDefault
  else
    return t.isPunctuator .atSign
      || !t.isPunctuator .star && !t.isWord "as" && !t.isPunctuator .openBrace && followsModifier t

/-- The current word modifies what follows it. Most words have to stand on the line of what they
modify. -/
def isModifier (word : String) : Parse Bool := do
  let t ← token
  if !t.isWord word then return false
  match word with
  | "static" | "accessor" | "get" | "set" => nextToken followsModifier
  | "export" => ahead do
    advance
    followsExport
  | "default" => ahead do
    advance
    followsDefault
  | _ => nextToken fun t => !t.newlineBefore && followsModifier t

/-- Takes a word when it modifies what follows. -/
def eatModifier (word : String) : Parse Bool := do
  if ← isModifier word then
    advance
    return true
  else return false

/-- The modifiers that stand here. A block of static code begins with none of them, and a second
`static` is a name. -/
def modifiers (allowsConst : Bool) : Parse (List Written) := do
  let found ← repeatFrom ([] : List Written) fun seen => do
    let t ← token
    if t.kind != .word || !modifierWords.contains t.value then return none
    if t.value == "const" && !allowsConst then return none
    if t.value == "static" then
      if seen.any (·.word == "static") then return none
      if ← nextToken fun t => t.isPunctuator .openBrace then return none
    if ← isModifier t.value then return some (← takeModifier seen) else return none
  return found.reverse

/-! ## Which may stand -/

/-- Records a fault for every modifier that is not allowed. -/
def permit (allowed : List String) (fault : String → Fault) : List Written → Parse Unit
  | [] => return ()
  | w :: rest => do
    if !allowed.contains w.word then record (fault w.word) w.offset
    permit allowed fault rest

/-! ## Type annotations -/

/-- The type after a colon, when one is written. -/
def typeAfterColon (rules : Rules) : Parse Node := do
  if ← eat .colon then rules .type else return .absent

/-! ## Return types -/

/-- A type, or a statement about a parameter such as `x is T`. What it stands in does not limit it. -/
def typeOrPredicate (rules : Rules) : Parse Node := within (fun c => { c with plainTypes := false }) do
  let start ← position
  let t ← token
  let isPredicate ←
    if t.isIdentifier then nextToken fun t => t.isWord "is" && !t.newlineBefore else pure false
  if isPredicate then
    advanceName
    advance
    let type ← rules .type
    finish start (.typePredicate false) [.mk (.name t.value) t.span [], type]
  else rules .type

/-- The type that a function returns, when one is written. -/
def returnType (rules : Rules) : Parse Node := do
  if ← eat .colon then typeOrPredicate rules else return .absent

/-! ## Decorators -/

/-- The decorators that stand here. -/
def decorators (rules : Rules) : Parse Node := do
  if !(← isAt .atSign) then return .mk .decorators Span.none []
  let start ← position
  let found ← many do
    if ← eat .atSign then
      let e ← within (fun c => { c with inDecorator := true }) (rules .leftHand)
      return some e
    else return none
  finish start .decorators found

/-! ## Parameters -/

/-- A parameter. One of a constructor may be a property of the class too, if it is a name. -/
def parameter (rules : Rules) (ofConstructor : Bool) : Parse Node := do
  let start ← position
  let ds ← decorators rules
  let written ← modifiers false
  let allowed := if ofConstructor then "readonly" :: "override" :: accessibilityWords else ["readonly"]
  permit allowed .modifierOnParameter written
  let m := Modifiers.ofWritten written
  let pattern ← rules .bindingPattern
  let isOptional ← eat .question
  let type ← typeAfterColon rules
  let value ← if ← eat .assign then allowingIn (rules (.assignment true)) else pure Node.absent
  if isOptional && value.isPresent then record .optionalInitializer start
  if (m.accessibility.isSome || m.isReadonly || m.isOverride) && !isBinding pattern then
    record .propertyPattern start
  finish start (.parameter { m with isOptional := isOptional }) [ds, pattern, type, value]

/-- The parameter that takes all further arguments. -/
def restParameter (rules : Rules) : Parse Node := do
  let start ← position
  expect .ellipsis
  let pattern ← rules .bindingPattern
  let t ← token
  if ← eat .question then record .restParameterOptional t.start
  let type ← typeAfterColon rules
  if ← eat .assign then
    let _ ← allowingIn (rules (.assignment true))
    record .restElementInitializer pattern.span.start
  finish start .rest [pattern, type]

/-- A parameter list in parentheses: the `this` parameter, which is no item, and the list. -/
def parameters (rules : Rules) (ofConstructor : Bool) : Parse (Node × Node) := do
  let start ← position
  expect .openParen
  let this ←
    if ← isAtWord "this" then do
      let here ← position
      advance
      let type ← typeAfterColon rules
      let this ← finish here .thisParameter [type]
      let _ ← eat .comma
      pure this
    else pure Node.absent
  let (items, rest) ← delimitedWithRest .closeParen (parameter rules ofConstructor) (restParameter rules)
    .restParameterLast
  expect .closeParen
  return (this, ← finish start .parameters (items ++ rest.toList))

/-- The parameters of something that builds an object, where `this` cannot be one. -/
def constructorParameters (rules : Rules) (ofConstructor : Bool) : Parse Node := do
  let (this, params) ← parameters rules ofConstructor
  if this.isPresent then record .constructorThis this.span.start
  return params

/-! ## Type parameters and arguments -/

def typeParameter (rules : Rules) : Parse Node := do
  let start ← position
  let written ← modifiers true
  permit ["in", "out", "const"] .modifierOnTypeParameter written
  let m := Modifiers.ofWritten written
  let name ← bindingIdentifier
  let bound ← if ← eatWord "extends" then rules .type else pure Node.absent
  let default ← if ← eat .assign then rules .type else pure Node.absent
  finish start (.typeParameter m.isConst m.isIn m.isOut) [name, bound, default]

/-- The type parameters of a declaration, when some are written. -/
def typeParameters (rules : Rules) : Parse Node := do
  if !(← isAt .less) then return .absent
  let start ← position
  advance
  let (items, _) ← delimited .greater (typeParameter rules)
  if items.isEmpty then record (.emptyTypeList "Type parameter") start
  expect .greater
  finish start .typeParameters items

/-- The type arguments of a type, when some are written on its line. -/
def typeArguments? (rules : Rules) : Parse Node := do
  splitAngle
  if !(← isAt .less) then return .absent
  let start ← position
  advance
  let (items, _) ← delimited .greater (rules .type)
  if items.isEmpty then record (.emptyTypeList "Type argument") start
  splitCloseAngle
  expect .greater
  finish start .typeArguments items

/-- The current token starts an expression. -/
def startsExpression (t : Token) : Bool :=
  match t.kind with
  | .name | .string | .number _ _ | .bigint _ _ | .privateName | .template _ _ => true
  | .word =>
    !t.isReserved || ["this", "super", "null", "true", "false", "function", "class", "new", "import",
      "delete", "typeof", "void", "in", "instanceof"].contains t.value
  | .punctuator p =>
    [.openParen, .openBracket, .openBrace, .slash, .slashAssign, .plus, .minus, .tilde, .bang,
      .increment, .decrement, .less, .atSign, .star, .percent, .power, .shiftLeft, .shiftRight,
      .shiftRightZero, .greater, .lessEqual, .greaterEqual, .equal, .notEqual, .strictEqual,
      .strictNotEqual, .ampersand, .pipe, .caret, .andAnd, .orOr, .coalesce].contains p
  | _ => false

/-- The current token is an operator between two operands. -/
def isBinaryToken (c : Context) (t : Token) : Bool :=
  match t.kind with
  | .word =>
    t.value == "instanceof" || (t.value == "in" && c.allowsIn) || t.value == "as"
      || t.value == "satisfies"
  | .punctuator p =>
    [.plus, .minus, .star, .slash, .percent, .power, .shiftLeft, .shiftRight, .shiftRightZero,
      .less, .greater, .lessEqual, .greaterEqual, .equal, .notEqual, .strictEqual,
      .strictNotEqual, .ampersand, .pipe, .caret, .andAnd, .orOr, .coalesce].contains p
  | _ => false

/-- Type arguments may end here inside an expression. -/
def canFollowTypeArguments : Parse Bool := do
  let t ← token
  match t.kind with
  | .punctuator .openParen | .template true _ => return true
  | .punctuator .less | .punctuator .greater | .punctuator .plus | .punctuator .minus => return false
  | _ => return t.newlineBefore || isBinaryToken (← context) t || !startsExpression t

/-- Type arguments after an expression. They fail where the angles are better read as comparisons. -/
def typeArgumentsInExpression (rules : Rules) : Parse Node := do
  splitAngle
  let start ← position
  expect .less
  let (items, _) ← delimited .greater (rules .type)
  joinAngle
  if ← isAt .greaterEqual then unexpected
  splitCloseAngle
  expect .greater
  if !(← canFollowTypeArguments) then unexpected
  if items.isEmpty then record (.emptyTypeList "Type argument") start
  finish start .typeArguments items

end TypedJsx.Grammar
