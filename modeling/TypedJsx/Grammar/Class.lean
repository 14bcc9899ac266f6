import TypedJsx.Grammar.Function
/-!
Classes.
-/
namespace TypedJsx.Grammar

open Parse

/-- A field ends like a statement, except that a missing semicolon is the fault of the next token. -/
def endField : Parse Unit := do
  if ← canEndStatement then
    let _ ← eat .semicolon
  else expect .semicolon

/-! ## Members -/

/-- Static code of a class. -/
def staticBlock (rules : Rules) (start : Nat) : Parse Node := do
  expectWord "static"
  expect .openBrace
  let change (c : Context) : Context :=
    { c with allowsIn := true, inAsync := true, inGenerator := false, inFunction := false }
  let items ← enclosed <| within change <| many do
    if isBlockEnd (← token) then return none
    return some (← rules (.statement false))
  expect .closeBrace
  finish start .staticBlock items

/-- The key of a class member. A private one takes no word about who may see it. -/
def memberKey (rules : Rules) (written : List Written) : Parse (Node × Bool) := do
  let t ← token
  if t.kind == .privateName then
    let hidden := written.filter fun w => accessibilityWords.contains w.word
    permit [] (fun _ => .privateAccessibility) hidden
    if t.value == "constructor" then record .privateConstructor t.start
    return (← privateName, false)
  propertyKey rules

/-- The name that a key which is not computed has. -/
def keyName? : Node → Bool → Option String
  | .mk (.name text) _ _, false => some text
  | .mk (.stringLiteral text _) _ _, false => some text
  | _, _ => none

/-- The key names the constructor of the class. -/
def isConstructorKey (key : Node) (isComputed : Bool) : Bool := keyName? key isComputed == some "constructor"

/-- A static member may not take the name of the object behind all instances. -/
def checkPrototype (m : Modifiers) (key : Node) (isComputed : Bool) : Parse Unit := do
  if m.isStatic && keyName? key isComputed == some "prototype" then record .staticPrototype key.span.start

/-- Decorators that cannot stand before what follows. -/
def refuseDecorators (ds : Node) : Parse Unit := do
  if !ds.children.isEmpty then record .decoratorPlace ds.span.start

/-- What is wrong with a modifier that a class member of its kind does not take. -/
def memberFault (word : String) : Fault :=
  match word with
  | "readonly" => .modifierOfProperty word
  | "export" | "declare" => .modifierOnMember word
  | "const" => .constMember
  | "in" | "out" => .modifierOfTypeParameter word
  | _ => .modifierUnusable word

/-- What is read of a class member before its key: where it starts, the text from the key on, and the
decorators and modifiers. -/
structure MemberHead where
  start : Nat
  decorators : Node
  written : List Written
  keyStart : Nat := 0
  text : List Char := []

def MemberHead.modifiers (h : MemberHead) : Modifiers := Modifiers.ofWritten h.written

/-- The head of a member whose key is the current token. -/
def MemberHead.atKey (h : MemberHead) : Parse MemberHead :=
  return { h with keyStart := ← position, text := (← get).text }

/-- What a message calls a member: its name, or the text of its key. -/
def MemberHead.nameOf (h : MemberHead) (key : Node) : String :=
  match key.kind with
  | .name text | .stringLiteral text _ => text
  | _ => String.ofList (sliceBytes (key.span.start - h.keyStart) (key.span.stop - h.keyStart) h.text)

/-- An abstract member has neither a body nor an initial value. -/
def checkAbstract (h : MemberHead) (key definition : Node) (fault : String → Fault) : Parse Unit := do
  if h.modifiers.isAbstract && definition.isPresent then record (fault (h.nameOf key)) key.span.start

/-- A getter or setter behind that word. -/
def accessorMember (rules : Rules) (h : MemberHead) (form : MemberForm) : Parse Node := do
  let h ← h.atKey
  let (key, isComputed) ← memberKey rules h.written
  let f ← methodFunction rules .method false false
  checkAccessor form f
  if isConstructorKey key isComputed && !h.modifiers.isStatic then record .constructorAccessor key.span.start
  checkPrototype h.modifiers key isComputed
  checkAbstract h key (f.child 5) .abstractAccessor
  permit ("abstract" :: "static" :: "override" :: accessibilityWords) memberFault h.written
  finish h.start (.classMethod form isComputed h.modifiers) [h.decorators, key, f]

/-- A method or the constructor, from its parameters on. -/
def methodMember (rules : Rules) (h : MemberHead) (key : Node) (isComputed isOptional isGenerator : Bool) :
    Parse Node := do
  let m := { h.modifiers with isOptional := isOptional }
  let isConstructor := isConstructorKey key isComputed && !m.isStatic
  let f ← methodFunction rules (if isConstructor then .constructor else .method) m.isAsync isGenerator
  if isConstructor then
    if m.isAsync then record .constructorAsync key.span.start
    if isGenerator then record .constructorGenerator key.span.start
    refuseDecorators h.decorators
    permit ("async" :: accessibilityWords) .modifierOnConstructor h.written
  else
    checkPrototype m key isComputed
    checkAbstract h key (f.child 5) .abstractMethod
    if (f.child 5).isAbsent && !h.decorators.children.isEmpty then
      record .decoratorOverload h.decorators.span.start
    permit ("abstract" :: "static" :: "override" :: "async" :: accessibilityWords) memberFault h.written
  let form : MemberForm := if isConstructor then .constructor else .method
  finish h.start (.classMethod form isComputed m) [h.decorators, key, f]

/-- A field behind its key. -/
def fieldMember (rules : Rules) (h : MemberHead) (key : Node) (isComputed isOptional : Bool) : Parse Node := do
  let here := (← get).lastStop
  let isDefinite ← eat .bang
  if isOptional && isDefinite then record .optionalDefinite (here - 1)
  let type ← typeAfterColon rules
  let change (c : Context) : Context := { c with allowsIn := true, inAsync := false, inGenerator := false }
  let value ← if ← eat .assign then within change (rules .expression) else pure Node.absent
  endField
  let m := { h.modifiers with isOptional := isOptional, isDefinite := isDefinite }
  if isConstructorKey key isComputed then record .constructorField key.span.start
  checkPrototype m key isComputed
  if m.isAccessor && isOptional then record .optionalAccessor (here - 1)
  checkAbstract h key value .abstractField
  let always := "abstract" :: "static" :: "override" :: accessibilityWords
  if m.isAccessor then permit ("accessor" :: always) .accessorWith h.written
  else permit ("declare" :: "readonly" :: always) memberFault h.written
  finish h.start (.classField isComputed m) [h.decorators, key, type, value]

/-- The current token names the constructor: the word itself, or a text with that value before the
parameters. -/
def isConstructorName : Parse Bool := do
  let t ← token
  if t.isWord "constructor" then return true
  if t.kind == .string && t.value == "constructor" then nextToken fun t => t.isPunctuator .openParen
  else return false

def classMember (rules : Rules) : Parse Node := do
  let start ← position
  let ds ← decorators rules
  let written ← modifiers true
  let h : MemberHead := { start := start, decorators := ds, written := written }
  if (← isAtWord "static") && (← nextToken fun t => t.isPunctuator .openBrace) then
    refuseDecorators ds
    permit [] (fun _ => .modifiersHere) written
    return ← staticBlock rules start
  if ← eatModifier "get" then return ← accessorMember rules h .getter
  if ← eatModifier "set" then return ← accessorMember rules h .setter
  if ← isIndexSignature then
    refuseDecorators ds
    return ← indexSignature rules start ["readonly", "static"] written
  let h ← h.atKey
  if !h.modifiers.isStatic && (← isConstructorName) then
    let (key, _) ← propertyKey rules
    return ← methodMember rules h key false false false
  let change (c : Context) : Context := { c with isAmbient := c.isAmbient || h.modifiers.isDeclare }
  within change do
    let isGenerator ← eat .star
    let (key, isComputed) ← memberKey rules written
    let isOptional ← eat .question
    if isGenerator || (← isAt .openParen) || (← isAt .less) then
      methodMember rules h key isComputed isOptional isGenerator
    else fieldMember rules h key isComputed isOptional

/-- The members between braces. Semicolons between them mean nothing. -/
def classBody (rules : Rules) : Parse Node := do
  let start ← position
  expect .openBrace
  let members ← enclosed <| many do
    let _ ← many do
      if ← eat .semicolon then return some () else return none
    if ← isAt .closeBrace then return none
    return some (← classMember rules)
  expect .closeBrace
  finish start .classBody members

/-! ## Bases -/

/-- An implemented type with its type arguments. -/
def classReference (rules : Rules) : Parse Node := do
  let start ← position
  let name ← typeName false
  let arguments ← typeArguments? rules
  finish start .heritage [name, arguments]

/-- An expression that is built on, with its type arguments. -/
def baseExpression (rules : Rules) : Parse Node := do
  let start ← position
  match ← rules .leftHand with
  | .mk .instantiation _ [base, arguments] => finish start .heritage [base, arguments]
  | base => finish start .heritage [base, ← typeArguments? rules]

/-- What a class or interface builds on: what it extends and the types it implements, each with the
offset of its word. -/
structure Bases where
  extended : Option (Nat × List Node) := none
  implemented : Option (Nat × List Node) := none

/-- Items with commas between them. -/
def separated (item : Parse Node) : Parse (List Node) := do
  let first ← item
  let more ← many do
    if ← eat .comma then return some (← item) else return none
  return first :: more

/-- The clauses before the body of a class or interface. Each may stand once, `extends` first. -/
def bases (rules : Rules) : Parse Bases :=
  repeatFrom ({} : Bases) fun found => do
    let here ← position
    if ← isAtWord "extends" then
      if found.extended.isSome then record .extendsSeen here
      else if let some (start, _) := found.implemented then record .extendsOrder start
      advance
      return some { found with extended := some (here, ← separated (baseExpression rules)) }
    if ← isAtWord "implements" then
      if let some (start, _) := found.implemented then record .implementsSeen start
      advance
      let types ← separated (classReference rules)
      let (start, earlier) := found.implemented.getD (here, [])
      return some { found with implemented := some (start, earlier ++ types) }
    return none

/-- A class from its keyword on. -/
def classFrom (rules : Rules) (start : Nat) (form : ClassForm) (ds : Node) : Parse Node := do
  expectWord "class"
  let t ← token
  let name ← if t.isIdentifier && !t.isWord "implements" then bindingIdentifier else pure Node.absent
  let types ← typeParameters rules
  let bases ← bases rules
  let base ← match bases.extended with
    | some (_, base :: more) => do
      if let second :: _ := more then record .singleBase second.span.start
      pure base
    | _ => pure Node.absent
  let implemented ← match bases.implemented with
    | some (here, types) => finish here .implementsList types
    | none => pure (Node.mk .implementsList Span.none [])
  let body ← classBody rules
  finish start (.classNode form) [ds, name, types, base.child 0, base.child 1, implemented, body]

end TypedJsx.Grammar
