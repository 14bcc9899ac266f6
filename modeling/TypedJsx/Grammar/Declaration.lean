import TypedJsx.Grammar.Expression
/-!
Declarations: variables, and the interfaces, aliases, enumerations and modules of types.
-/
namespace TypedJsx.Grammar

open Parse

/-! ## Variables -/

/-- A pattern that takes a value apart. -/
def isDestructuring : Node → Bool
  | .mk .objectPattern _ _ => true
  | .mk .arrayPattern _ _ => true
  | _ => false

/-- Words whose variables hold something that is given back at the end of their block. -/
def isUsing (word : DeclarationWord) : Bool := word == .usingWord || word == .awaitUsing

/-- A constant and a pattern need a value, unless they stand for something defined elsewhere. -/
def checkInitializer (word : DeclarationWord) (pattern value : Node) : Parse Unit := do
  if value.isAbsent && !(← context).isAmbient then
    if isDestructuring pattern then record .patternInitializer pattern.span.start
    else if word == .constWord then record .constInitializer pattern.span.start

/-- One declared pattern. In the head of a loop it is not known yet whether it needs a value. -/
def declarator (rules : Rules) (word : DeclarationWord) (inLoop : Bool) : Parse Node := do
  let start ← position
  let pattern ← rules .bindingPattern
  let t ← token
  if ← eat .question then record .optionalVariable t.start
  let t ← token
  let isDefinite := t.isPunctuator .bang && !t.newlineBefore && !isDestructuring pattern
  if isDefinite then advance
  let type ← typeAfterColon rules
  let value ← if ← eat .assign then rules (.assignment true) else pure Node.absent
  if isDefinite then
    if value.isPresent then record .definiteInitializer t.start
    else if type.isAbsent then record .definiteType t.start
  if !inLoop then checkInitializer word pattern value
  if isUsing word then
    if isDestructuring pattern then record .usingPattern pattern.span.start
    if !inLoop && value.isAbsent then record .usingInitializer pattern.span.start
  finish start (.declarator isDefinite) [pattern, type, value]

/-- A variable declaration from its keyword on. -/
def variableDeclaration (rules : Rules) (start : Nat) (word : DeclarationWord) (inLoop isDeclare : Bool) :
    Parse Node := do
  advance
  if word == .awaitUsing then advance
  let first ← declarator rules word inLoop
  let more ← many do
    if ← eat .comma then return some (← declarator rules word inLoop) else return none
  if !inLoop then endStatement
  finish start (.variableDeclaration word isDeclare) (first :: more)

/-- The declaration that a word opens. -/
def declarationWord? (t : Token) : Option DeclarationWord :=
  if t.isWord "var" then some .varWord
  else if t.isWord "let" then some .letWord
  else if t.isWord "const" then some .constWord
  else none

/-- The word `using` declares here, alone or behind `await`. At the head of a loop it is a name before
`of`. -/
def usingWord? (inLoop : Bool) : Parse (Option DeclarationWord) := do
  let declares (t : Token) : Bool := (t.isIdentifier || t.isPunctuator .openBrace) && !t.newlineBefore
  if ← isAtWord "using" then
    let declares ← nextToken fun t => declares t && !(inLoop && t.isWord "of")
    return if declares then some .usingWord else none
  if ← isAtWord "await" then
    let isUsing ← ahead do
      advance
      if !(← isAtWord "using") || (← isOnNewLine) then return false
      advance
      return declares (← token)
    return if isUsing then some .awaitUsing else none
  return none

/-! ## Types -/

/-- A name or a dotted name. -/
def isEntityName : Node → Bool
  | .mk (.reference _) _ _ => true
  | .mk (.member false) _ [object, _] => isEntityName object
  | _ => false

/-- An interface may extend types that are given by name, and implements nothing. -/
def interfaceFrom (rules : Rules) (start : Nat) (isDeclare : Bool) : Parse Node := do
  expectWord "interface"
  let name ← bindingIdentifier
  let types ← typeParameters rules
  let bases ← bases rules
  let extended ← match bases.extended with
    | some (here, types) => finish here .interfaceExtends types
    | none => pure (Node.mk .interfaceExtends Span.none [])
  let bodyStart ← position
  let members ← typeMembers rules
  let body ← finish bodyStart .interfaceBody members
  if let some unnamed := extended.children.find? fun n => !isEntityName (n.child 0) then
    record .interfaceExtends unnamed.span.start
  if let some (here, _) := bases.implemented then record .interfaceImplements here
  finish start (.interfaceDeclaration isDeclare) [name, types, extended, body]

def typeAliasFrom (rules : Rules) (start : Nat) (isDeclare : Bool) : Parse Node := do
  expectWord "type"
  let name ← bindingIdentifier
  let types ← typeParameters rules
  expect .assign
  let type ← rules .type
  endStatement
  finish start (.typeAlias isDeclare) [name, types, type]

/-- The name of a member of an enumeration, and whether it stands in brackets. It is a name or a
text. -/
def enumName (rules : Rules) : Parse (Node × Bool) := do
  let t ← token
  match t.kind with
  | .punctuator .openBracket =>
    let key ← computedKey rules
    match key.kind with
    | .stringLiteral _ _ | .template [_] => return (key, true)
    | .numberLiteral _ _ => fail .enumNumber key.span.start
    | _ => fail .enumComputed key.span.start
  | .template _ _ => fail .enumComputed t.start
  | .number _ _ | .bigint _ _ => fail .enumNumber t.start
  | _ => propertyKey rules

def enumMember (rules : Rules) : Parse Node := do
  let start ← position
  let (key, isComputed) ← enumName rules
  let value ← if ← eat .assign then rules (.assignment true) else pure Node.absent
  finish start (.enumMember isComputed) [key, value]

def enumFrom (rules : Rules) (start : Nat) (isDeclare isConst : Bool) : Parse Node := do
  expectWord "enum"
  let name ← bindingIdentifier
  expect .openBrace
  let (members, _) ← delimited .closeBrace (enumMember rules)
  expect .closeBrace
  finish start (.enumDeclaration isDeclare isConst) (name :: members)

/-- The statements of a module declaration. -/
def moduleBlock (rules : Rules) : Parse Node := do
  let start ← position
  expect .openBrace
  let items ← statementList rules isBlockEnd
  expect .closeBrace
  finish start .moduleBlock items

/-- A module declaration from its name on. A dotted name nests; what is called a module may be named by a
text, and only such a one may have no body. -/
def moduleFrom (rules : Rules) (start : Nat) (word : String) (isDeclare : Bool) : Parse Node := do
  let t ← token
  let name ←
    if word == "global" then pure (Node.mk (.name "global") t.span [])
    else if word == "module" && t.kind == .string then stringLiteral
    else bindingIdentifier
  if word == "global" then advance
  let change (c : Context) : Context := { c with isAmbient := c.isAmbient || isDeclare }
  let body ←
    if ← eat .dot then do
      let here ← position
      rules (.moduleDeclaration here word false)
    else if t.kind != .string || (← isAt .openBrace) then within change (moduleBlock rules)
    else do
      endStatement
      pure Node.absent
  finish start (.moduleDeclaration word isDeclare) [name, body]

/-- `import A = B` from the name on. -/
def importEqualsFrom (start : Nat) (isType : Bool) (name : Node) : Parse Node := do
  expect .assign
  let here ← position
  let target ←
    if ← eatWord "require" then do
      expect .openParen
      let source ← stringLiteral
      expect .closeParen
      finish here .externalModule [source]
    else typeName false
  endStatement
  finish start (.importEquals isType) [name, target]

/-! ## Where a declaration of types begins -/

/-- The tokens from here on begin a declaration with modifiers or of types. -/
def startsDeclaration : Parse Bool :=
  ahead do
    let skipped ← repeatFrom (none : Option Bool) fun answer => do
      if answer.isSome then return none
      let t ← token
      if t.kind != .word then return some (some false)
      if ["var", "let", "const", "function", "class", "enum"].contains t.value then return some (some true)
      if t.value == "interface" || t.value == "type" then
        advance
        let t ← token
        return some (some (t.isIdentifier && !t.newlineBefore))
      if t.value == "module" || t.value == "namespace" then
        advance
        let t ← token
        return some (some (!t.newlineBefore && (t.isIdentifier || t.kind == .string)))
      if t.value == "global" then
        advance
        let t ← token
        return some (some (t.isPunctuator .openBrace || t.kind == .name || t.isWord "export"))
      if t.value == "import" then
        advance
        let t ← token
        return some (some (t.isIdentifierName || t.kind == .string || t.isPunctuator .star
          || t.isPunctuator .openBrace))
      if t.value == "export" then
        advance
        let t ← token
        return some (some (t.isPunctuator .assign || t.isPunctuator .star || t.isPunctuator .openBrace
          || t.isPunctuator .atSign || t.isWord "default" || t.isWord "as"))
      if t.value == "static" then
        advance
        return some none
      if ["abstract", "accessor", "async", "declare", "private", "protected", "public",
          "readonly"].contains t.value then
        advance
        if ← isOnNewLine then return some (some false)
        return some none
      return some (some false)
    return skipped.getD false

/-- The modifiers before a declaration, behind those that were seen. -/
def declarationModifiers (seen : List Written) : Parse (List Written) := do
  let found ← repeatFrom seen.reverse fun seen => do
    let t ← token
    if t.kind != .word || !modifierWords.contains t.value then return none
    let isModifier ←
      if t.value == "const" then nextToken fun t => t.isWord "enum" else isModifier t.value
    if isModifier then return some (← takeModifier seen) else return none
  return found.reverse.drop seen.length

/-- A declaration after its modifiers. Only a class has decorators. -/
def declarationFrom (rules : Rules) (start : Nat) (written : List Written) (ds : Node) : Parse Node := do
  let m := Modifiers.ofWritten written
  let allow (words : List String) : Parse Unit := permit words .modifierUnusable written
  let change (c : Context) : Context := { c with isAmbient := c.isAmbient || m.isDeclare }
  within change do
    let t ← token
    if !t.isWord "class" then refuseDecorators ds
    if let some word := declarationWord? t then
      allow ["declare"]
      return ← variableDeclaration rules start word false m.isDeclare
    if ← isFunctionStart then
      allow ["declare", "async"]
      let isAsync ← eatWord "async"
      return ← functionFrom rules start .declaration (isAsync || m.isAsync) m.isDeclare
    if t.kind != .word then unexpected
    match t.value with
    | "class" =>
      allow ["declare", "abstract"]
      classFrom rules start { isAbstract := m.isAbstract, isDeclare := m.isDeclare } ds
    | "interface" =>
      allow ["declare"]
      interfaceFrom rules start m.isDeclare
    | "type" =>
      allow ["declare"]
      typeAliasFrom rules start m.isDeclare
    | "enum" =>
      allow ["declare", "const"]
      enumFrom rules start m.isDeclare m.isConst
    | "module" | "namespace" =>
      allow ["declare"]
      advance
      rules (.moduleDeclaration start t.value m.isDeclare)
    | "global" =>
      allow ["declare"]
      rules (.moduleDeclaration start "global" m.isDeclare)
    | "import" =>
      advance
      let isType := (← isAtWord "type") && (← nextToken fun t => t.isIdentifier)
      if isType then advance
      let name ← bindingIdentifier
      importEqualsFrom start isType name
    | _ => unexpected

end TypedJsx.Grammar
