import TypedJsx.Grammar.Declaration
/-!
Imports and exports.
-/
namespace TypedJsx.Grammar

open Parse

/-- A name in an import or export list, which may be a text without unpaired surrogates. -/
def exportedName : Parse Node := do
  let t ← token
  if t.kind == .string then
    if t.marked then record .exportedSurrogate t.start
    stringLiteral
  else identifierName

/-- The names of a list item, with the mark of a type: what it is called there and here. -/
structure ListedName where
  isType : Bool
  outer : Node
  inner : Node

/-- Reads `a`, `a as b`, `type a` and `type a as b`, where `type` and `as` may be names themselves. -/
def listedName : Parse ListedName := do
  let first ← exportedName
  let isTypeWord := match first with
    | .mk (.name "type") _ _ => true
    | _ => false
  let plain (isType : Bool) (name : Node) : Parse ListedName := do
    if ← eatWord "as" then
      let inner ← exportedName
      return ⟨isType, name, inner⟩
    else return ⟨isType, name, name⟩
  if !isTypeWord then return ← plain false first
  let t ← token
  if t.isWord "as" then
    let firstAs ← identifierName
    let t ← token
    if t.isWord "as" then
      let secondAs ← identifierName
      if (← token).isIdentifierName then
        let inner ← exportedName
        return ⟨true, firstAs, inner⟩
      return ⟨false, first, secondAs⟩
    if t.isIdentifierName then
      let inner ← exportedName
      return ⟨false, first, inner⟩
    return ⟨true, firstAs, firstAs⟩
  if t.isIdentifierName || t.kind == .string then
    let name ← exportedName
    return ← plain true name
  return ⟨false, first, first⟩

/-- A word that a module may not bind. -/
def isModuleReserved (text : String) : Bool :=
  reservedWords.contains text || text == "await" || text == "yield"

/-- A name as the binding of an import. -/
def asBinding : Node → Parse Node
  | .mk (.name text) span _ =>
    if isModuleReserved text then fail (.reservedWord text) span.start
    else return .mk (.binding text) span []
  | n => fail .identifierExpected n.span.start

/-- An item of an import list; in a list of types none is marked again. -/
def importSpecifier (ofTypes : Bool) : Parse Node := do
  let start ← position
  let listed ← listedName
  let binding ← asBinding listed.inner
  if ofTypes && listed.isType then record .typeImportTwice start
  finish start (.importSpecifier listed.isType) [listed.outer, binding]

/-- The text of an attribute's key. -/
def attributeKey (n : Node) : String :=
  match (n.child 0).kind with
  | .name text | .stringLiteral text _ => text
  | _ => ""

/-- The item whose key is the first to come again. -/
def repeatedKey? (seen : List Node) : List Node → Option Node
  | [] => none
  | n :: rest =>
    match seen.find? fun m => attributeKey m == attributeKey n with
    | some earlier => some earlier
    | none => repeatedKey? (n :: seen) rest

/-- The attributes after a module's name. -/
def importAttributes : Parse Node := do
  let t ← token
  let isWith := t.isWord "with" || (t.isWord "assert" && !t.newlineBefore)
  if !isWith then return .absent
  advance
  expect .openBrace
  let item : Parse Node := do
    let start ← position
    let key ← if (← token).kind == .string then stringLiteral else identifierName
    expect .colon
    if (← token).kind != .string then fail .attributeValue (← position)
    let value ← stringLiteral
    finish start .importAttribute [key, value]
  let (items, _) ← delimited .closeBrace item
  expect .closeBrace
  if let some n := repeatedKey? [] items then record (.declaredTwice (attributeKey n)) n.span.start
  finish t.start (.importAttributes t.value) items

/-- The list of imported names in braces. -/
def importList (ofTypes : Bool) : Parse (List Node) := do
  expect .openBrace
  let (items, _) ← delimited .closeBrace (importSpecifier ofTypes)
  expect .closeBrace
  return items

/-- Everything imported under one name. -/
def namespaceImport : Parse Node := do
  let start ← position
  expect .star
  expectWord "as"
  let name ← bindingIdentifier
  finish start .importNamespace [name]

/-- The names after a default import. Types are imported by default or by name, not both. -/
def importTail (ofTypes : Bool) (first : Node) : Parse (List Node) := do
  if ← eat .comma then
    if ofTypes then record .typeImportBoth first.span.start
    if ← isAt .star then return [first, ← namespaceImport]
    if ← isAt .openBrace then return first :: (← importList ofTypes)
    unexpected
  else return [first]

/-! ## Phases -/

/-- The current word is the mark of an import of types. -/
def isTypeMark : Parse Bool := do
  if !(← isAtWord "type") then return false
  ahead do
    advance
    let t ← token
    if t.isPunctuator .star || t.isPunctuator .openBrace then return true
    if !t.isIdentifier then return false
    if t.isWord "from" then
      advance
      let t ← token
      return t.isWord "from" || t.isPunctuator .assign
    return true

/-- The current word puts the evaluation of a module off. Only everything under one name is imported that
way. -/
def isDeferMark : Parse Bool := do
  let t ← token
  if !t.isWord "defer" then return false
  if ← nextToken fun t => t.isPunctuator .star then return true
  if ← nextToken fun t => t.isPunctuator .openBrace then fail .deferNamed t.start
  let hasDefault ← ahead do
    advance
    let t ← token
    if !t.isIdentifier then return false
    if t.isWord "from" then
      advance
      return (← token).kind != .string
    return true
  if hasDefault then fail .deferDefault t.start
  return false

/-- The current word asks for the source of a module. Only a default is imported that way. -/
def isSourceMark : Parse Bool := do
  let t ← token
  if !t.isWord "source" then return false
  if ← nextToken fun t => t.isPunctuator .openBrace || t.isPunctuator .star then fail .sourceDefault t.start
  ahead do
    advance
    let t ← token
    if !t.isIdentifier then return false
    if t.isWord "from" then
      advance
      return (← isAtWord "from")
    return true

def importDeclaration : Parse Node := do
  let start ← position
  expectWord "import"
  let complete (isType : Bool) (phase : String) (specifiers : List Node) (hasSpecifiers : Bool) :
      Parse Node := do
    let source ← stringLiteral
    let attributes ← importAttributes
    endStatement
    finish start (.importDeclaration isType phase hasSpecifiers) (source :: attributes :: specifiers)
  if (← token).kind == .string then return ← complete false "" [] false
  -- a phase or the mark of a type stands before the names
  let t ← token
  let isType ← isTypeMark
  let isDefer ← isDeferMark
  let isSource ← isSourceMark
  if isType || isDefer || isSource then advance
  let phase := if isDefer || isSource then t.value else ""
  if ← isAt .openBrace then
    let items ← importList isType
    expectWord "from"
    return ← complete isType phase items true
  if ← isAt .star then
    let item ← namespaceImport
    expectWord "from"
    return ← complete isType phase [item] true
  let name ← bindingIdentifier
  if ← isAt .assign then return ← importEqualsFrom start isType name
  let default := Node.mk .importDefault name.span [name]
  let items ← if isSource then pure [default] else importTail isType default
  expectWord "from"
  complete isType phase items true

/-! ## Exports -/

/-- Words that no module of this strictness may bind. -/
def futureWords : List String :=
  ["implements", "interface", "package", "private", "protected", "public", "static"]

/-- What is exported without a source refers to a binding, and a binding has a name. -/
def exportedReference : Node → Parse Node
  | .mk (.exportSpecifier t) span [.mk (.name text) s _, exported] => do
    if isModuleReserved text || futureWords.contains text then record .exportedReserved s.start
    return .mk (.exportSpecifier t) span [.mk (.reference text) s [], exported]
  | .mk (.exportSpecifier t) span [name, exported] => do
    record .exportedText name.span.start
    return .mk (.exportSpecifier t) span [name, exported]
  | n => return n

/-- `export { … }`, its list being the current token. -/
def exportList (start : Nat) (isType : Bool) : Parse Node := do
  expect .openBrace
  let item : Parse Node := do
    let here ← position
    let listed ← listedName
    if isType && listed.isType then record .typeExportTwice here
    finish here (.exportSpecifier listed.isType) [listed.outer, listed.inner]
  let (items, _) ← delimited .closeBrace item
  expect .closeBrace
  let source ← if ← eatWord "from" then stringLiteral else pure Node.absent
  let attributes ← if source.isPresent then importAttributes else pure Node.absent
  let items ← if source.isPresent then pure items else items.mapM exportedReference
  endStatement
  finish start (.exportNamed isType) (.absent :: source :: attributes :: items)

/-- `export * from …` -/
def exportAll (start : Nat) (isType : Bool) : Parse Node := do
  expect .star
  let name ← if ← eatWord "as" then exportedName else pure Node.absent
  expectWord "from"
  let source ← stringLiteral
  let attributes ← importAttributes
  endStatement
  finish start (.exportAll isType) [name, source, attributes]

/-- The decorators of an exported class, which stand before `export` or behind it. -/
def exportDecorators (rules : Rules) (ds : Node) : Parse Node := do
  if !(← isAt .atSign) then return ds
  if !ds.children.isEmpty then record .decoratorsTwice (← position)
  decorators rules

def exportDefault (rules : Rules) (start : Nat) (ds : Node) : Parse Node := do
  expectWord "default"
  let here ← position
  let hasNoEffects := (← token).note.hasNoEffects
  let ds ← exportDecorators rules ds
  let t ← token
  if t.isWord "class" then
    let c ← classFrom rules here {} ds
    return ← finish start .exportDefault [c]
  if t.isWord "abstract" && (← nextToken fun t => t.isWord "class" && !t.newlineBefore) then
    advance
    let c ← classFrom rules here { isAbstract := true } ds
    return ← finish start .exportDefault [c]
  refuseDecorators ds
  if t.isWord "interface" && (← nextToken fun t => t.isIdentifier && !t.newlineBefore) then
    let i ← interfaceFrom rules here false
    return ← finish start .exportDefault [i]
  if ← isFunctionStart then
    let isAsync ← eatWord "async"
    let f ← functionFrom rules here .defaultExport isAsync false
    return ← finish start .exportDefault [if hasNoEffects then markNoEffects f else f]
  let e ← rules (.assignment true)
  endStatement
  finish start .exportDefault [e]

def exportDeclaration (rules : Rules) (ds : Node) : Parse Node := do
  let start ← position
  expectWord "export"
  let t ← token
  if t.isPunctuator .assign then
    advance
    let e ← rules (.assignment true)
    endStatement
    return ← finish start .exportAssignment [e]
  if t.isPunctuator .star then return ← exportAll start false
  if t.isPunctuator .openBrace then return ← exportList start false
  if t.isWord "default" then return ← exportDefault rules start ds
  if t.isWord "as" && (← nextToken fun t => t.isWord "namespace") then
    advance
    advance
    let name ← identifierName
    endStatement
    return ← finish start .namespaceExport [name]
  if t.isWord "type" then
    if ← nextToken fun t => t.isPunctuator .openBrace then
      advance
      return ← exportList start true
    if ← nextToken fun t => t.isPunctuator .star then
      advance
      return ← exportAll start true
  let here ← position
  if t.isWord "import" then
    let d ← importDeclaration
    match d.kind with
    | .importEquals _ => return ← finish start (.exportNamed false) [d, .absent, .absent]
    | _ => fail .exportedImport here
  if let some word ← usingWord? false then
    let d ← variableDeclaration rules here word false false
    record .exportedUsing here
    return ← finish start (.exportNamed false) [d, .absent, .absent]
  let ds ← exportDecorators rules ds
  let written ← declarationModifiers [⟨"export", start⟩]
  let d ← declarationFrom rules here written ds
  finish start (.exportNamed false) [d, .absent, .absent]

end TypedJsx.Grammar
