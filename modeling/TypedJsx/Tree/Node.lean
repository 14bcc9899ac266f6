import TypedJsx.Tree.Operator
import TypedJsx.Text.Basic
/-!
The syntax tree. `Kind` says what a node is: it carries the words, operators and flags of a construct, and its
parts are the children of the node. Every kind has a fixed layout of children, given beside it, in the order
in which the parts are read. A part that may be missing holds a node of kind `absent`.

A node has a kind, the span of its text and its children. Children are kept in reading order, so a walk over a
tree is a pair of structural recursions: one over a node, one over a list of nodes.
-/
namespace TypedJsx

/-- An exact decimal number: `digits` times ten to the power `exponent`. -/
structure Numeral where
  digits : Nat
  exponent : Int
deriving DecidableEq, Repr, Inhabited

/-- The word that opens a variable declaration. -/
inductive DeclarationWord where
  | varWord | letWord | constWord | usingWord | awaitUsing
deriving DecidableEq, Repr, Inhabited

def DeclarationWord.text : DeclarationWord → String
  | .varWord => "var"
  | .letWord => "let"
  | .constWord => "const"
  | .usingWord => "using"
  | .awaitUsing => "await using"

/-- Whether a declared name is scoped to its block. -/
def DeclarationWord.isLexical : DeclarationWord → Bool
  | .varWord => false
  | _ => true

/-- How an object property or a class member is written. -/
inductive MemberForm where
  | plain | method | getter | setter | constructor
deriving DecidableEq, Repr, Inhabited

inductive Accessibility where
  | isPublic | isPrivate | isProtected
deriving DecidableEq, Repr, Inhabited

def Accessibility.text : Accessibility → String
  | .isPublic => "public"
  | .isPrivate => "private"
  | .isProtected => "protected"

/-- The words that may stand before a class member, a parameter or a declaration, and the marks
that may follow its name. -/
structure Modifiers where
  accessibility : Option Accessibility := none
  isStatic : Bool := false
  isDeclare : Bool := false
  isAbstract : Bool := false
  isOverride : Bool := false
  isReadonly : Bool := false
  isAsync : Bool := false
  isConst : Bool := false
  isAccessor : Bool := false
  isIn : Bool := false
  isOut : Bool := false
  isExport : Bool := false
  isDefault : Bool := false
  isOptional : Bool := false
  isDefinite : Bool := false
deriving DecidableEq, Repr, Inhabited

/-- Flags of a function. `isExpression` tells an expression from a declaration, and `wrapped` that
the source has parentheses directly around it. -/
structure FunctionForm where
  isAsync : Bool := false
  isGenerator : Bool := false
  isDeclare : Bool := false
  isExpression : Bool := false
  wrapped : Bool := false
  /-- A comment says that calls of it have no effect. -/
  hasNoEffects : Bool := false
deriving DecidableEq, Repr, Inhabited

/-- Flags of an arrow function. With `isExpression` its body is one expression statement that stands
for the returned value. -/
structure ArrowForm where
  isAsync : Bool := false
  isExpression : Bool := false
  wrapped : Bool := false
  /-- A comment says that calls of it have no effect. -/
  hasNoEffects : Bool := false
deriving DecidableEq, Repr, Inhabited

structure ClassForm where
  isExpression : Bool := false
  isAbstract : Bool := false
  isDeclare : Bool := false
deriving DecidableEq, Repr, Inhabited

/-- A `readonly` or `?` mark of a mapped type: not written, written, or written with a sign. -/
inductive MappedMark where
  | unmarked | marked | added | removed
deriving DecidableEq, Repr, Inhabited

inductive Kind where
  /-- A part that is not written. -/
  | absent
  -- Names.
  | reference (name : String)
  | binding (name : String)
  /-- A name that neither binds nor refers: a property, a label, an exported name. -/
  | name (text : String)
  | privateName (text : String)
  -- Literals.
  /-- `hasLone` tells that an unpaired surrogate is written in `value` as U+FFFD and four digits. -/
  | stringLiteral (value : String) (hasLone : Bool)
  /-- `written` is the number as the source has it. -/
  | numberLiteral (value : Numeral) (written : String)
  | bigintLiteral (value : Nat)
  | booleanLiteral (value : Bool)
  | nullLiteral
  | regexpLiteral (pattern flags : String)
  /-- The literal pieces; children: the expressions between them. -/
  | template (pieces : List String)
  /-- tag, type arguments?, template -/
  | taggedTemplate
  -- Expressions.
  | thisExpression
  | superExpression
  /-- elements, a missing one being a `hole` -/
  | array
  | hole
  /-- argument -/
  | spread
  /-- properties and spreads -/
  | object
  /-- key, value -/
  | property (form : MemberForm) (isShorthand isComputed : Bool)
  /-- name?, type parameters?, `this` parameter?, parameters, return type?, body? -/
  | function (form : FunctionForm)
  /-- type parameters?, parameters, return type?, body -/
  | arrow (form : ArrowForm)
  /-- parameters, the last of which may be a `rest` -/
  | parameters
  /-- decorators, pattern, type?, initial value? -/
  | parameter (modifiers : Modifiers)
  /-- type? -/
  | thisParameter
  /-- pattern, type? -/
  | rest
  /-- decorators, name?, type parameters?, base?, base type arguments?, implemented types, body -/
  | classNode (form : ClassForm)
  /-- class references -/
  | implementsList
  /-- members -/
  | classBody
  /-- decorators, key, function -/
  | classMethod (form : MemberForm) (isComputed : Bool) (modifiers : Modifiers)
  /-- decorators, key, type?, value? -/
  | classField (isComputed : Bool) (modifiers : Modifiers)
  /-- decorator expressions -/
  | decorators
  /-- object, property name -/
  | member (isOptional : Bool)
  /-- object, property expression -/
  | index (isOptional : Bool)
  /-- object, private name -/
  | privateMember (isOptional : Bool)
  /-- An expression with an optional step in it; child: the expression. -/
  | chain
  /-- callee, type arguments?, arguments; `isPure` tells that a comment says that the call has no effect -/
  | call (isOptional isPure : Bool)
  /-- callee, type arguments?, arguments -/
  | new (isPure : Bool)
  /-- source, options? -/
  | importCall (phase : String)
  /-- A pair of words such as `new.target`. -/
  | metaProperty (left right : String)
  | unary (op : UnaryOp)
  | update (op : UpdateOp) (isLeading : Bool)
  | binary (op : BinaryOp)
  /-- private name, object -/
  | privateIn
  | logical (op : LogicalOp)
  /-- target, value -/
  | assignment (op : AssignOp)
  /-- test, first, second -/
  | conditional
  | sequence
  | await
  /-- argument? -/
  | yield (isDelegate : Bool)
  | parenthesized
  /-- expression, type -/
  | asType
  /-- expression, type -/
  | satisfiesType
  | nonNull
  /-- expression, type arguments -/
  | instantiation
  -- Patterns and assignment targets.
  /-- properties, the last of which may be a `rest` -/
  | objectPattern
  /-- key, pattern -/
  | patternProperty (isShorthand isComputed : Bool)
  /-- elements, the last of which may be a `rest` -/
  | arrayPattern
  /-- pattern, default value -/
  | defaultPattern
  /-- properties, the last of which may be a `spread` of the target -/
  | objectTarget
  /-- reference, default value? -/
  | targetShorthand
  /-- key, target -/
  | targetProperty (isComputed : Bool)
  /-- elements, the last of which may be a `spread` of the target -/
  | arrayTarget
  /-- target, default value -/
  | defaultTarget
  -- Markup.
  /-- opening tag, children, closing tag? -/
  | jsxElement
  /-- name, type arguments?, attributes -/
  | jsxOpening (isSelfClosing : Bool)
  | jsxClosing
  /-- children -/
  | jsxChildren
  /-- children -/
  | jsxFragment
  | jsxName (text : String)
  /-- object, property -/
  | jsxMember
  /-- prefix, local name -/
  | jsxNamespaced
  /-- name, value? -/
  | jsxAttribute
  | jsxSpreadAttribute
  /-- The text between the quotes as it is written. -/
  | jsxString (raw : String)
  /-- expression or `jsxEmpty` -/
  | jsxContainer
  | jsxEmpty
  | jsxSpreadChild
  | jsxText (raw : String)
  -- Statements.
  /-- directives, statements -/
  | program (hashbang : Option String)
  | directive (raw : String)
  /-- directives, statements -/
  | functionBody
  /-- statements -/
  | block
  /-- expression -/
  | expressionStatement
  | emptyStatement
  | debuggerStatement
  /-- test, statement, alternative? -/
  | ifStatement
  /-- start?, test?, step?, body -/
  | forStatement
  /-- left, right, body -/
  | forIn
  /-- left, right, body -/
  | forOf (isAwait : Bool)
  /-- test, body -/
  | whileStatement
  /-- body, test -/
  | doWhileStatement
  /-- value? -/
  | returnStatement
  | throwStatement
  /-- label? -/
  | breakStatement
  /-- label? -/
  | continueStatement
  /-- value, cases -/
  | switchStatement
  /-- test?, statements -/
  | switchCase
  /-- label, body -/
  | labeled
  /-- block, catch clause?, final block? -/
  | tryStatement
  /-- parameter?, block -/
  | catchClause
  /-- pattern, type? -/
  | catchParameter
  /-- object, body -/
  | withStatement
  /-- declarators -/
  | variableDeclaration (word : DeclarationWord) (isDeclare : Bool)
  /-- pattern, type?, initial value? -/
  | declarator (isDefinite : Bool)
  /-- statements -/
  | staticBlock
  -- Modules.
  /-- source, attributes?, specifiers; `hasSpecifiers` tells `import {} from` from `import`. -/
  | importDeclaration (isType : Bool) (phase : String) (hasSpecifiers : Bool)
  /-- local binding -/
  | importDefault
  /-- local binding -/
  | importNamespace
  /-- imported name, local binding -/
  | importSpecifier (isType : Bool)
  /-- attributes; `word` is the keyword before them -/
  | importAttributes (word : String)
  /-- key, value -/
  | importAttribute
  /-- declaration?, source?, attributes?, specifiers -/
  | exportNamed (isType : Bool)
  /-- local name, exported name -/
  | exportSpecifier (isType : Bool)
  /-- declaration or expression -/
  | exportDefault
  /-- exported name?, source, attributes? -/
  | exportAll (isType : Bool)
  /-- local binding, reference -/
  | importEquals (isType : Bool)
  /-- module name -/
  | externalModule
  | exportAssignment
  | namespaceExport
  -- Type declarations.
  /-- name, type parameters?, extended types, body -/
  | interfaceDeclaration (isDeclare : Bool)
  | interfaceExtends
  | interfaceBody
  /-- expression, type arguments? -/
  | heritage
  /-- name, type parameters?, type -/
  | typeAlias (isDeclare : Bool)
  /-- name, members -/
  | enumDeclaration (isDeclare isConst : Bool)
  /-- name, value? -/
  | enumMember (isComputed : Bool)
  /-- name, body? -/
  | moduleDeclaration (word : String) (isDeclare : Bool)
  /-- directives, statements -/
  | moduleBlock
  -- Types.
  | keywordType (word : String)
  /-- name, type arguments? -/
  | typeReference
  /-- left, name -/
  | qualifiedName
  | literalType
  | unionType
  | intersectionType
  | arrayType
  | tupleType
  /-- label, type -/
  | namedTupleMember (isOptional : Bool)
  | optionalType
  /-- A type with a question mark before it. -/
  | nullableType
  /-- A type with an exclamation mark before or after it. -/
  | nonNullType (isLeading : Bool)
  | restType
  /-- object type, key type -/
  | indexedAccess
  | typeLiteral
  /-- type parameters?, `this` parameter?, parameters, return type -/
  | functionType
  /-- type parameters?, parameters, return type -/
  | constructorType (isAbstract : Bool)
  /-- name, type arguments? -/
  | typeQuery
  /-- argument, options?, qualifier?, type arguments? -/
  | importType
  /-- type -/
  | typeOperator (word : String)
  /-- checked, bound, first, second -/
  | conditionalType
  /-- type parameter -/
  | inferType
  /-- constraint, renaming?, type? -/
  | mappedType (key : String) (readonly optional : MappedMark)
  | parenthesizedType
  /-- types between the pieces -/
  | templateType (pieces : List String)
  /-- subject, type? -/
  | typePredicate (isAsserts : Bool)
  /-- key, type? -/
  | propertySignature (isComputed isOptional isReadonly : Bool)
  /-- key, type parameters?, `this` parameter?, parameters, return type? -/
  | methodSignature (form : MemberForm) (isComputed isOptional : Bool)
  /-- type parameters?, `this` parameter?, parameters, return type? -/
  | callSignature
  /-- type parameters?, parameters, return type? -/
  | constructSignature
  /-- parameter, type -/
  | indexSignature (isReadonly isStatic : Bool)
  /-- type parameters -/
  | typeParameters
  /-- name, bound?, default? -/
  | typeParameter (isConst isIn isOut : Bool)
  /-- types -/
  | typeArguments
deriving DecidableEq, Inhabited

/-! ## Nodes -/

inductive Node where
  | mk (kind : Kind) (span : Span) (children : List Node)

namespace Node

def kind : Node → Kind
  | .mk k _ _ => k

def span : Node → Span
  | .mk _ s _ => s

def children : Node → List Node
  | .mk _ _ cs => cs

/-- The node of a part that is not written. -/
def absent : Node := .mk .absent Span.none []

instance : Inhabited Node := ⟨absent⟩

def isAbsent : Node → Bool
  | .mk .absent _ [] => true
  | _ => false

def isPresent (n : Node) : Bool := !n.isAbsent

/-- The `i`-th child, absent when there is none. -/
def child (n : Node) (i : Nat) : Node := (n.children[i]?).getD absent

/-- The same node over another span. -/
def withSpan : Node → Span → Node
  | .mk k _ cs, s => .mk k s cs

def withChildren : Node → List Node → Node
  | .mk k s _, cs => .mk k s cs

/-- The expression inside any number of parentheses. -/
def withoutParentheses : Node → Node
  | .mk .parenthesized _ [inner] => inner.withoutParentheses
  | n => n

end Node

/-! ## Layers of the tree -/

mutual

/-- How many layers a tree has. -/
def Node.depth : Node → Nat
  | .mk _ _ cs => depthList cs + 1

def depthList : List Node → Nat
  | [] => 0
  | c :: cs => max c.depth (depthList cs)

end

/-! ## Statement lists -/

/-- Kinds whose children are a list of statements, possibly after directives or a case's test. -/
def Kind.isStatementList : Kind → Bool
  | .program _ | .functionBody | .block | .switchCase | .staticBlock | .moduleBlock => true
  | _ => false

/-- Whether the child at position `i` of a node stands in the place of a statement. -/
def Kind.holdsStatementAt (k : Kind) (i : Nat) : Bool :=
  match k with
  | .program _ | .functionBody | .block | .staticBlock | .moduleBlock => true
  | .switchCase | .ifStatement | .whileStatement | .labeled | .withStatement => i != 0
  | .forStatement => i == 3
  | .forIn | .forOf _ => i == 2
  | .doWhileStatement => i == 0
  | _ => false

def Node.isDirective : Node → Bool
  | .mk (.directive _) _ _ => true
  | _ => false

/-- The statements among the children of a statement list. -/
def Node.statements (n : Node) : List Node :=
  match n.kind with
  | .switchCase => n.children.drop 1
  | _ => n.children.filter fun c => !c.isDirective

end TypedJsx
