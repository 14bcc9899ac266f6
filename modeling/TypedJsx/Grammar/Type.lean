import TypedJsx.Grammar.Parameter
/-!
Types.
-/
namespace TypedJsx.Grammar

open Parse

/-- The current token starts a type. -/
def startsType (t : Token) : Bool :=
  match t.kind with
  | .name | .string | .number _ _ | .bigint _ _ | .template true _ => true
  | .word => !t.isReserved || ["void", "null", "this", "typeof", "true", "false", "import", "new",
      "function"].contains t.value
  | .punctuator p =>
    [.openBrace, .openBracket, .less, .pipe, .ampersand, .star, .question, .bang, .ellipsis, .minus,
      .openParen].contains p
  | _ => false

/-- Words that are types by themselves. -/
def typeWords : List String :=
  ["any", "unknown", "string", "number", "bigint", "symbol", "boolean", "undefined", "never",
    "object", "intrinsic", "null"]

/-! ## Members of type literals and interfaces -/

/-- A member may end with a comma or a semicolon. -/
def endMember : Parse Unit := do
  if ← eat .comma then return ()
  let _ ← eat .semicolon

/-- An index signature begins here: a bracket and what cannot be an expression in brackets. -/
def isIndexSignature : Parse Bool :=
  ahead do
    if !(← eat .openBracket) then return false
    let t ← token
    if t.kind == .word && modifierWords.contains t.value then
      advance
      if (← token).isIdentifier then return true
    else
      if !t.isIdentifier then return false
      advance
    if (← isAt .colon) || (← isAt .comma) then return true
    if !(← eat .question) then return false
    return (← isAt .colon) || (← isAt .comma) || (← isAt .closeBracket)

/-- An index signature behind its modifiers, of which some may stand. It has one parameter and a type. -/
def indexSignature (rules : Rules) (start : Nat) (allowed : List String) (written : List Written) :
    Parse Node := do
  permit allowed .modifierOnIndex written
  let m := Modifiers.ofWritten written
  expect .openBracket
  let parameter : Parse Node := do
    let here ← position
    match ← identifierName with
    | .mk (.name text) span _ =>
      let t ← token
      if ← eat .question then record .indexSignatureQuestion t.start
      if !(← isAt .colon) then unexpected
      let type ← typeAfterColon rules
      finish here (.parameter {}) [.mk .decorators Span.none [], .mk (.binding text) span [], type, .absent]
    | _ => unexpected
  let (items, comma) ← delimited .closeBracket parameter
  if let some offset := comma then record (.expected "]" ",") offset
  if items.length != 1 then record .indexSignatureParameter start
  expect .closeBracket
  if !(← isAt .colon) then fail .indexSignatureType start
  let type ← typeAfterColon rules
  endMember
  finish start (.indexSignature m.isReadonly m.isStatic) [items.headD .absent, type]

/-- The parts of a signature: type parameters, `this` parameter, parameters and result. -/
def signatureParts (rules : Rules) : Parse (List Node) := do
  let types ← typeParameters rules
  let (this, params) ← parameters rules false
  let result ← returnType rules
  return [types, this, params, result]

/-- What is wrong with a modifier of a member of a type that is no property. -/
def typeMemberFault (word : String) : Fault :=
  if word == "readonly" then .modifierOfProperty word else .modifierOnTypeMember word

/-- The signature of a getter or a setter behind that word. -/
def accessorSignature (rules : Rules) (start : Nat) (form : MemberForm) (written : List Written) :
    Parse Node := do
  permit [] typeMemberFault written
  let (key, isComputed) ← propertyKey rules
  let (this, params) ← parameters rules false
  let colon ← position
  let result ← returnType rules
  endMember
  if form == .setter && result.isPresent then record .setterResult colon
  finish start (.methodSignature form isComputed false) [key, .absent, this, params, result]

def typeMember (rules : Rules) : Parse Node := do
  let start ← position
  let t ← token
  if t.isPunctuator .openParen || t.isPunctuator .less then
    let parts ← signatureParts rules
    endMember
    return ← finish start .callSignature parts
  let isConstruct ←
    if t.isWord "new" then nextToken fun t => t.isPunctuator .openParen || t.isPunctuator .less
    else pure false
  if isConstruct then
    advance
    let types ← typeParameters rules
    let params ← constructorParameters rules false
    let result ← returnType rules
    endMember
    return ← finish start .constructSignature [types, params, result]
  let written ← modifiers false
  if ← eatModifier "get" then return ← accessorSignature rules start .getter written
  if ← eatModifier "set" then return ← accessorSignature rules start .setter written
  if ← isIndexSignature then return ← indexSignature rules start ["readonly"] written
  let (key, isComputed) ← propertyKey rules
  let isOptional ← eat .question
  let next ← token
  if next.isPunctuator .openParen || next.isPunctuator .less then
    permit [] typeMemberFault written
    let parts ← signatureParts rules
    endMember
    finish start (.methodSignature .method isComputed isOptional) (key :: parts)
  else
    permit ["readonly"] .modifierOnTypeMember written
    let type ← typeAfterColon rules
    endMember
    let isReadonly := (Modifiers.ofWritten written).isReadonly
    finish start (.propertySignature isComputed isOptional isReadonly) [key, type]

/-- The members between braces. -/
def typeMembers (rules : Rules) : Parse (List Node) := do
  expect .openBrace
  let members ← enclosed <| many do
    if (← isAt .closeBrace) || (← token).isStop then return none
    return some (← typeMember rules)
  expect .closeBrace
  return members

/-! ## Mapped types -/

/-- A mapped type begins at the current brace. -/
def isMappedType : Parse Bool :=
  ahead do
    advance
    if (← isAt .plus) || (← isAt .minus) then
      advance
      return (← isAtWord "readonly")
    let _ ← eatWord "readonly"
    if !(← eat .openBracket) then return false
    if !(← token).isIdentifierName then return false
    advance
    return (← isAtWord "in")

/-- The mark of a mapped type, which has to follow a sign; `isMark` tells whether it is there. -/
def mappedMark (isMark : Parse Bool) (mark : Parse Unit) : Parse MappedMark := do
  if ← eat .plus then
    mark
    return .added
  else if ← eat .minus then
    mark
    return .removed
  else if ← isMark then
    mark
    return .marked
  else return .unmarked

def mappedType (rules : Rules) : Parse Node := enclosed do
  let start ← position
  expect .openBrace
  let readonly ← mappedMark (isAtWord "readonly") (expectWord "readonly")
  expect .openBracket
  let key ← token
  let _ ← bindingIdentifier
  expectWord "in"
  let constraint ← rules .type
  let renamed ← if ← eatWord "as" then rules .type else pure Node.absent
  expect .closeBracket
  let optional ← mappedMark (isAt .question) (expect .question)
  let type ← typeAfterColon rules
  let _ ← eat .semicolon
  expect .closeBrace
  finish start (.mappedType key.value readonly optional) [constraint, renamed, type]

/-! ## References -/

/-- A dotted name, the first part of which may be any word. -/
def typeName (allowsThis : Bool) : Parse Node := do
  let start ← position
  let t ← token
  let first ←
    if allowsThis && t.isWord "this" then do
      advance
      pure (Node.mk .thisExpression t.span [])
    else do
      let _ ← identifierName
      pure (Node.mk (.reference t.value) t.span [])
  repeatFrom first fun left => do
    if ← eat .dot then
      let name ← identifierName
      return some (← finish start .qualifiedName [left, name])
    else return none

def typeReference (rules : Rules) : Parse Node := do
  let start ← position
  let name ← typeName false
  let arguments ← if ← isOnNewLine then pure Node.absent else typeArguments? rules
  finish start .typeReference [name, arguments]

/-- A text as a type. -/
def isTextType : Node → Bool
  | .mk .literalType _ [.mk (.stringLiteral _ _) _ _] => true
  | _ => false

/-- A type of another module, `import("x").Y`. -/
def importType (rules : Rules) : Parse Node := do
  let start ← position
  expectWord "import"
  expect .openParen
  let (argument, options) ← enclosed do
    let argument ← rules .type
    if !isTextType argument then record .textExpected argument.span.start
    let options ← if ← eat .comma then rules .objectLiteral else pure Node.absent
    return (argument, options)
  expect .closeParen
  let qualifier ← if ← eat .dot then typeName false else pure Node.absent
  let arguments ← if ← isOnNewLine then pure Node.absent else typeArguments? rules
  finish start .importType [argument, options, qualifier, arguments]

def typeQuery (rules : Rules) : Parse Node := do
  let start ← position
  expectWord "typeof"
  let name ← if ← isAtWord "import" then importType rules else typeName true
  let arguments ← if ← isOnNewLine then pure Node.absent else typeArguments? rules
  finish start .typeQuery [name, arguments]

/-! ## Tuples and templates -/

def tupleElement (rules : Rules) : Parse Node := do
  let start ← position
  let isRest ← eat .ellipsis
  let isNamed ← ahead do
    if !(← token).isIdentifierName then return false
    advance
    if ← isAt .colon then return true
    if ← eat .question then return (← isAt .colon)
    return false
  let inner ←
    if isNamed then do
      let here ← position
      let name ← identifierName
      let isOptional ← eat .question
      expect .colon
      let type ← rules .type
      if isRest && isOptional then record .optionalRest start
      finish here (.namedTupleMember isOptional) [name, type]
    else rules .type
  if isRest then finish start .restType [inner] else return inner

/-- An element of a tuple that may be missing. -/
def isOptionalElement (n : Node) : Bool :=
  match n.kind with
  | .optionalType | .namedTupleMember true => true
  | _ => false

/-- A type that is written as a list of any length. -/
def isArrayType : Node → Bool
  | .mk .arrayType _ _ => true
  | .mk .parenthesizedType _ [inner] => isArrayType inner
  | _ => false

/-- A rest of a tuple that stands for any number of elements, and not for those of another tuple. -/
def isOpenRest : Node → Bool
  | .mk .restType _ [.mk (.namedTupleMember _) _ [_, type]] => isArrayType type
  | .mk .restType _ [type] => isArrayType type
  | _ => false

/-- Records the first element out of order: only a rest and other optional elements follow an optional
one, and neither of both a rest of any length. -/
def checkElements (seenOptional seenRest : Bool) : List Node → Parse Unit
  | [] => return ()
  | n :: rest =>
    if isOptionalElement n then
      if seenRest then record .optionalAfterRest n.span.start
      else checkElements true seenRest rest
    else if n.kind == .restType then
      if isOpenRest n && seenRest then record .restAfterRest n.span.start
      else checkElements seenOptional (seenRest || isOpenRest n) rest
    else if seenOptional then record .requiredAfterOptional n.span.start
    else checkElements seenOptional seenRest rest

/-- The text of the template piece that is the current token. Behind a tag it may hold any escape. -/
def templatePiece (isTagged : Bool) : Parse String := do
  let t ← token
  if t.marked && !isTagged then record .templateEscape (t.start + 1)
  advance
  return t.value

/-- The expressions and pieces of a template whose first token is the current one. -/
def templateParts (isTagged : Bool) (hole : Parse Node) : Parse (List String × List Node) := do
  let t ← token
  match t.kind with
  | .template _ true => return ([← templatePiece isTagged], [])
  | .template _ false =>
    let first ← templatePiece isTagged
    let (pieces, holes, _) ← repeatFrom ([first], ([] : List Node), false) fun (pieces, holes, done) => do
      if done then return none
      let e ← within (fun c => { c with inHole := true }) hole
      if !(← isAt .closeBrace) then expectedInstead "\x7d"
      reread fun cs => Reader.readTemplate false (cs.drop 1)
      let t ← token
      match t.kind with
      | .template _ closes => return some ((← templatePiece isTagged) :: pieces, e :: holes, closes)
      | _ => unexpected
    return (pieces.reverse, holes.reverse)
  | _ => unexpected

/-! ## Function types -/

/-- Skips a modifier, a name or a pattern at the start of a parameter. -/
def skipParameterStart (rules : Rules) : Parse Bool := do
  let _ ← modifiers false
  let t ← token
  if t.isIdentifier || t.isWord "this" then
    advance
    return true
  if t.isPunctuator .openBracket || t.isPunctuator .openBrace then
    let _ ← rules .bindingPattern
    return true
  return false

/-- The current parenthesis opens the parameters of a function type. -/
def isFunctionType (rules : Rules) : Parse Bool :=
  ahead do
    advance
    if (← isAt .closeParen) || (← isAt .ellipsis) then return true
    if ← skipParameterStart rules then
      let t ← token
      if t.isPunctuator .colon || t.isPunctuator .comma || t.isPunctuator .question
          || t.isPunctuator .assign then return true
      if t.isPunctuator .closeParen then
        advance
        return (← isAt .arrow)
    return false

/-- A function or constructor type begins here. -/
def startsFunctionType (rules : Rules) : Parse Bool := do
  let t ← token
  if t.isPunctuator .less || t.isWord "new" then return true
  if t.isPunctuator .openParen then return ← isFunctionType rules
  if t.isWord "abstract" then return ← nextToken fun t => t.isWord "new"
  return false

/-- A function or constructor type. The token between its parameters and its result is an arrow. -/
def functionType (rules : Rules) : Parse Node := do
  let start ← position
  let isAbstract ← eatWord "abstract"
  if ← eatWord "new" then
    let types ← typeParameters rules
    let params ← constructorParameters rules false
    advance
    let result ← typeOrPredicate rules
    finish start (.constructorType isAbstract) [types, params, result]
  else
    let types ← typeParameters rules
    let (this, params) ← parameters rules false
    advance
    let result ← typeOrPredicate rules
    finish start .functionType [types, this, params, result]

/-! ## Types, from the tightest to the loosest -/

/-- A token that is a number. -/
def isNumber (t : Token) : Bool :=
  match t.kind with
  | .number _ _ | .bigint _ _ => true
  | _ => false

/-- A literal as a type. Only a number has a sign. -/
def literalType : Parse Node := do
  let start ← position
  if (← isAt .minus) && !(← nextToken isNumber) then unexpected
  let isNegative ← eat .minus
  match ← literal? with
  | some value =>
    let value ← if isNegative then finish start (.unary .minus) [value] else pure value
    finish start .literalType [value]
  | none => unexpected

/-- Marks before which a question mark stands for a type of its own. -/
def followsUnknown : List Punctuator := [.comma, .closeBrace, .closeParen, .greater, .assign, .pipe]

/-- A question mark before a type, or alone as a type that is not known. -/
def questionType (rules : Rules) : Parse Node := do
  let start ← position
  advance
  match (← token).kind with
  | .punctuator p =>
    if followsUnknown.contains p then return ← finish start (.keywordType "unknown") []
  | _ => pure ()
  finish start .nullableType [← rules .type]

def primaryType (rules : Rules) : Parse Node := do
  let start ← position
  let t ← token
  match t.kind with
  | .string | .number _ _ | .bigint _ _ => literalType
  | .template _ true =>
    let (pieces, _) ← templateParts false (rules .type)
    finish start .literalType [.mk (.template pieces) t.span []]
  | .template _ false =>
    let (pieces, types) ← templateParts false (rules .type)
    finish start (.templateType pieces) types
  | .punctuator .question => questionType rules
  | .punctuator .bang =>
    advance
    finish start (.nonNullType true) [← rules .primaryType]
  | .punctuator .minus => literalType
  | .punctuator .openBrace =>
    if ← isMappedType then mappedType rules
    else
      let members ← typeMembers rules
      finish start .typeLiteral members
  | .punctuator .openBracket =>
    advance
    let (items, _) ← delimited .closeBracket (tupleElement rules)
    expect .closeBracket
    checkElements false false items
    finish start .tupleType items
  | .punctuator .openParen =>
    advance
    let inner ← enclosed (within (fun c => { c with plainTypes := false }) (rules .type))
    expect .closeParen
    finish start .parenthesizedType [inner]
  | .word =>
    if t.value == "true" || t.value == "false" then literalType
    else if t.value == "void" then
      advance
      finish start (.keywordType "void") []
    else if t.value == "this" then
      advance
      if (← isAtWord "is") && !(← isOnNewLine) then
        advance
        let type ← rules .type
        finish start (.typePredicate false) [.mk (.name "this") t.span [], type]
      else finish start (.keywordType "this") []
    else if t.value == "typeof" then typeQuery rules
    else if t.value == "import" then importType rules
    else if t.value == "asserts"
        && (← nextToken fun t => (t.isIdentifier || t.isWord "this") && !t.newlineBefore) then
      advance
      let subject ← identifierName
      let type ← if ← eatWord "is" then rules .type else pure Node.absent
      finish start (.typePredicate true) [subject, type]
    else if typeWords.contains t.value && !(← nextToken fun t => t.isPunctuator .dot) then
      advance
      finish start (.keywordType t.value) []
    else typeReference rules
  | _ => typeReference rules

/-- A type followed by brackets or marks. -/
def suffixedType (rules : Rules) : Parse Node := do
  let start ← position
  let first ← primaryType rules
  repeatFrom first fun type => do
    if ← isOnNewLine then return none
    if ← eat .bang then return some (← finish start (.nonNullType false) [type])
    if ← isAt .question then
      if ← nextToken startsType then return none
      advance
      return some (← finish start .optionalType [type])
    if ← eat .openBracket then
      if startsType (← token) then
        let key ← enclosed (rules .type)
        expect .closeBracket
        return some (← finish start .indexedAccess [type, key])
      else
        expect .closeBracket
        return some (← finish start .arrayType [type])
    return none

/-- A type that cannot be written to after `readonly`. -/
def isListType (n : Node) : Bool := n.kind == .arrayType || n.kind == .tupleType

/-- A type after `keyof`, `unique`, `readonly` or `infer`. -/
def operatorType (rules : Rules) : Parse Node := do
  let start ← position
  let t ← token
  if t.isWord "keyof" || t.isWord "unique" || t.isWord "readonly" then
    advance
    let type ← rules .typeOperator
    if t.value == "readonly" && !isListType type then record .readonlyType start
    finish start (.typeOperator t.value) [type]
  else if t.isWord "infer" then
    advance
    let here ← position
    let name ← bindingIdentifier
    let bound ← attempt do
      if !(← eatWord "extends") then unexpected
      let bound ← within (fun c => { c with plainTypes := true }) (rules .type)
      if !(← context).plainTypes && (← isAt .question) then unexpected
      return bound
    let parameter ← finish here (.typeParameter false false false) [name, bound.getD .absent, .absent]
    finish start .inferType [parameter]
  else within (fun c => { c with plainTypes := false }) (suffixedType rules)

/-- Types joined by `|` or `&`, where the first may have the sign before it too. -/
def joinedTypes (sign : Punctuator) (kind : Kind) (part : Parse Node) : Parse Node := do
  let start ← position
  let hasLeading ← eat sign
  let first ← part
  if hasLeading || (← isAt sign) then
    let more ← many do
      if ← eat sign then return some (← part) else return none
    finish start kind (first :: more)
  else return first

def unionType (rules : Rules) : Parse Node :=
  joinedTypes .pipe .unionType (joinedTypes .ampersand .intersectionType (rules .typeOperator))

def type (rules : Rules) : Parse Node := do
  if ← startsFunctionType rules then return ← functionType rules
  let start ← position
  let checked ← unionType rules
  if !(← context).plainTypes && !(← isOnNewLine) && (← eatWord "extends") then
    let bound ← within (fun c => { c with plainTypes := true }) (rules .type)
    expect .question
    let first ← within (fun c => { c with plainTypes := false }) (rules .type)
    expect .colon
    let second ← within (fun c => { c with plainTypes := false }) (rules .type)
    finish start .conditionalType [checked, bound, first, second]
  else return checked

end TypedJsx.Grammar
