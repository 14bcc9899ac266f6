/-!
What can be wrong with a source text, and how each fault is worded.
-/
namespace TypedJsx

inductive Fault where
  | unexpectedToken
  | unexpectedEnd
  | conflictMarker
  | expected (wanted found : String)
  | expectedEither (separator close found : String)
  | missingSemicolon
  | trailingComma (what : String)
  -- Characters and literals.
  | invalidCharacter (c : Char)
  | invalidEscape
  | invalidUnicodeEscape
  | templateEscape
  | escapedKeyword
  | afterNumber
  | unterminatedString
  | unterminatedRegexp
  | unterminatedComment
  | regexpFlag (flag : Char)
  | regexpFlagTwice (flag : Char)
  | regexpFlagsExclude
  -- Markup.
  | closingTag (name : String)
  | strayBrace
  | strayAngle
  | markupHyphen
  | emptyAttribute
  | markupComma
  -- Names.
  | reservedWord (word : String)
  | awaitName
  | yieldName
  | declaredTwice (name : String)
  -- Functions and parameters.
  | functionName
  | functionBody
  | ambientBody
  | getterParameters
  | setterParameters
  | setterRest
  | setterResult
  | setterInitializer
  | optionalInitializer
  | propertyPattern
  | restParameterLast
  | restParameterOptional
  | arrowThis
  | constructorThis
  | constructorTypes
  | newlineBeforeArrow
  -- Patterns and targets.
  | constInitializer
  | patternInitializer
  | usingInitializer
  | usingPattern
  | optionalVariable
  | definiteInitializer
  | definiteType
  | restElementLast
  | restElement
  | restElementInitializer
  | restElementKey
  | restArgument
  | restTrailingComma
  | spreadLast
  | assignmentTarget
  | assignmentLeft
  | defaultOperator
  | objectDefault
  -- Expressions.
  | emptyParentheses
  | mixedCoalesce
  | powerOfUnary
  | privateOperand
  | superPlace
  | newTarget
  | importMeta
  | importWithoutSource
  | importArguments
  | newImport
  | newOptionalChain
  | optionalTemplate
  | optionalName
  | awaitOutside
  | yieldOutside
  -- Statements.
  | returnOutside
  | switchClause
  | catchOrFinally
  | lineAfterThrow
  | lexicalSingle
  | classSingle
  | asyncSingle
  | generatorSingle
  | awaitLoop
  | asyncOf
  | letOf
  | usingIn
  | awaitUsingIn
  | usingInCase
  -- Classes.
  | privateConstructor
  | constructorAccessor
  | constructorAsync
  | constructorGenerator
  | constructorField
  | staticPrototype
  | singleBase
  | extendsSeen
  | extendsOrder
  | implementsSeen
  | interfaceImplements
  | interfaceExtends
  | decoratorPlace
  | decoratorsTwice
  | decoratorOverload
  | abstractField (name : String)
  | abstractMethod (name : String)
  | abstractAccessor (name : String)
  -- Modifiers.
  | modifierUnusable (word : String)
  | modifierOnParameter (word : String)
  | modifierOnTypeMember (word : String)
  | modifierOnTypeParameter (word : String)
  | modifierOnIndex (word : String)
  | modifierOnConstructor (word : String)
  | modifierOnMember (word : String)
  | modifierOfProperty (word : String)
  | modifierOfTypeParameter (word : String)
  | constMember
  | modifiersHere
  | modifierSeen (word : String)
  | accessibilitySeen
  | privateAccessibility
  | accessorWith (word : String)
  | optionalDefinite
  | optionalAccessor
  -- Modules.
  | exportedText
  | exportedReserved
  | exportedSurrogate
  | exportedImport
  | exportedUsing
  | identifierExpected
  | attributeValue
  | deferDefault
  | deferNamed
  | sourceDefault
  | typeImportBoth
  | typeImportTwice
  | typeExportTwice
  -- Types.
  | emptyTypeList (what : String)
  | readonlyType
  | requiredAfterOptional
  | optionalAfterRest
  | restAfterRest
  | optionalRest
  | textExpected
  | indexSignatureType
  | indexSignatureParameter
  | indexSignatureQuestion
  | enumComputed
  | enumNumber
  | tooDeep
deriving DecidableEq, Repr, Inhabited

def Fault.message : Fault → String
  | unexpectedToken => "Unexpected token"
  | unexpectedEnd => "Unexpected end of file"
  | conflictMarker => "Encountered diff marker"
  | expected wanted found => "Expected `" ++ wanted ++ "` but found `" ++ found ++ "`"
  | expectedEither separator close found =>
    "Expected `" ++ separator ++ "` or `" ++ close ++ "` but found `" ++ found ++ "`"
  | missingSemicolon =>
    "Expected a semicolon or an implicit semicolon after a statement, but found none"
  | trailingComma what => what ++ " may not have a trailing comma."
  | invalidCharacter c => "Invalid Character `" ++ String.singleton c ++ "`"
  | invalidEscape => "Invalid escape sequence"
  | invalidUnicodeEscape => "Invalid Unicode escape sequence"
  | templateEscape => "Bad escape sequence in untagged template literal"
  | escapedKeyword => "Keywords cannot contain escape characters"
  | afterNumber => "Invalid characters after number"
  | unterminatedString => "Unterminated string"
  | unterminatedRegexp => "Unterminated regular expression"
  | unterminatedComment => "Unterminated multiline comment"
  | regexpFlag flag =>
    "Unexpected flag " ++ String.singleton flag ++ " in regular expression literal"
  | regexpFlagTwice flag =>
    "Flag " ++ String.singleton flag ++ " is mentioned twice in regular expression literal"
  | regexpFlagsExclude =>
    "The 'u' and 'v' regular expression flags cannot be enabled at the same time"
  | closingTag name => "Expected corresponding JSX closing tag for '" ++ name ++ "'."
  | strayBrace => "Unexpected token. Did you mean `\x7b'\x7d'\x7d` or `&rbrace;`?"
  | strayAngle => "Unexpected token. Did you mean `\x7b'>'\x7d` or `&gt;`?"
  | markupHyphen => "Identifiers in JSX cannot contain hyphens"
  | emptyAttribute => "JSX attributes must only be assigned a non-empty 'expression'."
  | markupComma => "JSX expressions may not use the comma operator"
  | reservedWord word =>
    "Identifier expected. '" ++ word ++ "' is a reserved word that cannot be used here."
  | awaitName => "Cannot use `await` as an identifier in an async context"
  | yieldName => "Cannot use `yield` as an identifier in a generator context"
  | declaredTwice name => "Identifier `" ++ name ++ "` has already been declared"
  | functionName => "Expected function name"
  | functionBody => "Expected function body"
  | ambientBody => "An implementation cannot be declared in ambient contexts."
  | getterParameters => "A 'get' accessor must not have any formal parameters."
  | setterParameters => "A 'set' accessor must have exactly one parameter."
  | setterRest => "A 'set' accessor cannot have rest parameter."
  | setterResult => "A 'set' accessor cannot have a return type annotation."
  | setterInitializer => "A 'set' accessor cannot have an initializer."
  | optionalInitializer => "A parameter cannot have a question mark and an initializer."
  | propertyPattern => "A parameter property may not be declared using a binding pattern."
  | restParameterLast => "A rest parameter must be last in a parameter list"
  | restParameterOptional => "A rest parameter cannot be optional"
  | arrowThis => "An arrow function cannot have a `this` parameter."
  | constructorThis => "A constructor cannot have a `this` parameter."
  | constructorTypes => "Type parameters cannot appear on a constructor declaration"
  | newlineBeforeArrow => "Line terminator not permitted before arrow"
  | constInitializer => "Missing initializer in const declaration"
  | patternInitializer => "Missing initializer in destructuring declaration"
  | usingInitializer => "Using declarations must have an initializer."
  | usingPattern => "Using declarations may not have binding patterns."
  | optionalVariable => "Optional declaration is not allowed here"
  | definiteInitializer =>
    "Declarations with initializers cannot also have definite assignment assertions."
  | definiteType =>
    "Declarations with definite assignment assertions must also have type annotations."
  | restElementLast => "A rest element must be last in a destructuring pattern"
  | restElement => "Invalid rest element"
  | restElementInitializer => "A rest element cannot have an initializer."
  | restElementKey => "A rest element cannot have a property name."
  | restArgument => "Invalid rest operator's argument."
  | restTrailingComma => "A rest parameter or binding pattern may not have a trailing comma."
  | spreadLast => "Spread must be last element"
  | assignmentTarget => "Cannot assign to this expression"
  | assignmentLeft =>
    "The left-hand side of an assignment expression must be a variable or a property access."
  | defaultOperator => "Only '=' operator can be used for specifying default value."
  | objectDefault => "Invalid assignment in object literal"
  | emptyParentheses => "Empty parenthesized expression"
  | mixedCoalesce => "Logical expressions and coalesce expressions cannot be mixed"
  | powerOfUnary => "Unexpected exponentiation expression"
  | privateOperand => "Unexpected private identifier"
  | superPlace => "'super' can only be used with function calls or in property accesses"
  | newTarget => "The only valid meta property for new is new.target"
  | importMeta => "The only valid meta property for import is import.meta"
  | importWithoutSource => "import() requires a specifier."
  | importArguments =>
    "Dynamic imports can only accept a module specifier and an optional set of attributes as arguments"
  | newImport => "Cannot use new with dynamic import"
  | newOptionalChain => "Optional chaining cannot appear in the callee of new expressions"
  | optionalTemplate => "Tagged template expressions are not permitted in an optional chain"
  | optionalName => "Identifier expected after '?.'"
  | awaitOutside =>
    "`await` is only allowed within async functions and at the top levels of modules"
  | yieldOutside => "A 'yield' expression is only allowed in a generator body."
  | returnOutside => "A 'return' statement can only be used within a function body."
  | switchClause => "Expected switch clause"
  | catchOrFinally => "Missing catch or finally clause"
  | lineAfterThrow => "Illegal newline after throw"
  | lexicalSingle => "Lexical declaration cannot appear in a single-statement context"
  | classSingle => "Invalid class declaration"
  | asyncSingle => "Async functions can only be declared at the top level or inside a block"
  | generatorSingle => "Generators can only be declared at the top level or inside a block"
  | awaitLoop => "await can only be used in conjunction with `for...of` statements"
  | asyncOf => "The left-hand side of a `for...of` statement may not be `async`"
  | letOf => "The left-hand side of a `for...of` statement may not start with `let`"
  | usingIn => "The left-hand side of a for...in statement cannot be an using declaration."
  | awaitUsingIn =>
    "The left-hand side of a for...in statement cannot be an await using declaration."
  | usingInCase => "Using declaration cannot appear in the bare case statement."
  | privateConstructor => "Classes can't have an element named '#constructor'"
  | constructorAccessor => "Constructor can't have get/set modifier"
  | constructorAsync => "Constructor can't be an async method"
  | constructorGenerator => "Constructor can't be a generator"
  | constructorField => "Classes can't have a field named 'constructor'"
  | staticPrototype => "Classes may not have a static property named prototype"
  | singleBase => "Classes can only extend a single class."
  | extendsSeen => "'extends' clause already seen"
  | extendsOrder => "'extends' clause must precede 'implements' clause"
  | implementsSeen => "'implements' clause already seen"
  | interfaceImplements => "Interface declaration cannot have 'implements' clause."
  | interfaceExtends =>
    "An interface can only extend an identifier/qualified-name with optional type arguments."
  | decoratorPlace => "Decorators are not valid here."
  | decoratorsTwice =>
    "Decorators may not appear after 'export' or 'export default' if they also appear before 'export'."
  | decoratorOverload => "A decorator can only decorate a method implementation, not an overload."
  | abstractField name =>
    "Property '" ++ name ++ "' cannot have an initializer because it is marked abstract."
  | abstractMethod name =>
    "Method '" ++ name ++ "' cannot have an implementation because it is marked abstract."
  | abstractAccessor name =>
    "Accessor '" ++ name ++ "' cannot have an implementation because it is marked abstract."
  | modifierUnusable word => "'" ++ word ++ "' modifier cannot be used here."
  | modifierOnParameter word => "'" ++ word ++ "' modifier cannot appear on a parameter."
  | modifierOnTypeMember word => "'" ++ word ++ "' modifier cannot appear on a type member."
  | modifierOnTypeParameter word => "'" ++ word ++ "' modifier cannot be used on a type parameter."
  | modifierOnIndex word => "'" ++ word ++ "' modifier cannot appear on an index signature."
  | modifierOnConstructor word =>
    "'" ++ word ++ "' modifier cannot appear on a constructor declaration."
  | modifierOnMember word =>
    "'" ++ word ++ "' modifier cannot appear on class elements of this kind."
  | modifierOfProperty word =>
    "'" ++ word ++ "' modifier can only appear on a property declaration or index signature."
  | modifierOfTypeParameter word =>
    "'" ++ word
      ++ "' modifier can only appear on a type parameter of a class, interface or type alias."
  | constMember => "A class member cannot have the 'const' keyword."
  | modifiersHere => "Modifiers cannot appear here."
  | modifierSeen word => "'" ++ word ++ "' modifier already seen."
  | accessibilitySeen => "Accessibility modifier already seen."
  | privateAccessibility => "An accessibility modifier cannot be used with a private identifier."
  | accessorWith word => "'accessor' modifier cannot be used with '" ++ word ++ "' modifier."
  | optionalDefinite => "A property cannot be both optional and definite."
  | optionalAccessor => "An 'accessor' property cannot be declared optional."
  | exportedText => "A string literal cannot be used as an exported binding without `from`"
  | exportedReserved => "A reserved word cannot be used as an exported binding without `from`"
  | exportedSurrogate => "An export name cannot include a unicode lone surrogate"
  | exportedImport => "Unexpected export."
  | exportedUsing => "Using declarations cannot be exported directly."
  | identifierExpected => "Identifier expected."
  | attributeValue => "Only string literals are allowed as module attribute values."
  | deferDefault => "Default imports are not allowed in a deferred import."
  | deferNamed => "Named imports are not allowed in a deferred import."
  | sourceDefault => "Only a single default import is allowed in a source phase import."
  | typeImportBoth =>
    "A type-only import can specify a default import or named bindings, but not both."
  | typeImportTwice =>
    "The 'type' modifier cannot be used on a named import when 'import type' is used on its import statement."
  | typeExportTwice =>
    "The 'type' modifier cannot be used on a named export when 'export type' is used on its export statement."
  | emptyTypeList what => what ++ " list cannot be empty."
  | readonlyType => "'readonly' type modifier is only permitted on array and tuple literal types."
  | requiredAfterOptional => "A required element cannot follow an optional element."
  | optionalAfterRest => "An optional element cannot follow a rest element."
  | restAfterRest => "A rest element cannot follow another rest element."
  | optionalRest => "A tuple member cannot be both optional and rest."
  | textExpected => "String literal expected."
  | indexSignatureType => "An index signature must have a type annotation."
  | indexSignatureParameter => "An index signature must have exactly one parameter."
  | indexSignatureQuestion => "An index signature parameter cannot have a question mark."
  | enumComputed => "Computed property names are not allowed in enums."
  | enumNumber => "An enum member cannot have a numeric name."
  | tooDeep => "Too deeply nested"

/-- A fault and the offset at which it is reported. -/
structure Issue where
  fault : Fault
  offset : Nat
deriving DecidableEq, Repr, Inhabited

end TypedJsx
