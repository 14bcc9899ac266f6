import TypedJsx.Printer.Statement
import TypedJsx.Printer.Expression
import TypedJsx.Printer.Signature
import TypedJsx.Printer.Type
/-!
Imports, exports and declarations of types on the page; and whole programs: the recursion behind the writers
of the parts.
-/
namespace TypedJsx

namespace Printing

/-! ## Imports, exports and declarations -/

/-- Names that an import or export lists between braces. -/
def listed (write : Write) (items : List Node) : Printing :=
  if items.isEmpty then put "\x7b\x7d"
  else do
    put "\x7b "
    list items (write · {})
    put " \x7d"

/-- The text of a name of a module, which may be a string. -/
def moduleName (n : Node) : String :=
  match n.kind with
  | .reference name | .binding name => name
  | .name text => text
  | .stringLiteral value _ => value
  | _ => ""

/-- A name and the name it goes by elsewhere, written once if they are one. -/
def renamed (write : Write) (isType : Bool) (first second : Node) : Printing := do
  whenever isType (put "type ")
  write first {}
  whenever (moduleName first != moduleName second) do
    put " as "
    write second {}

def isListed : Node → Bool
  | .mk (.importSpecifier _) _ _ => true
  | _ => false

/-- What an import binds: single names first, then the listed ones. -/
def importedNames (write : Write) (hasSpecifiers : Bool) (items : List Node) : Printing := do
  let single := items.filter fun i => !isListed i
  let many := items.filter isListed
  list single (write · {})
  whenever (!many.isEmpty || (hasSpecifiers && items.isEmpty)) do
    whenever (!single.isEmpty) (put ", ")
    listed write many

/-- An import. The source of one that lists no names is written without escapes, and ends it. -/
def importDeclaration (write : Write) (isType : Bool) (phase : String) (hasSpecifiers : Bool)
    (n : Node) : Printing := do
  put "import "
  whenever isType (put "type ")
  whenever (phase != "") do
    put phase
    blank
  whenever hasSpecifiers do
    importedNames write hasSpecifiers (n.children.drop 2)
    put " from "
  if hasSpecifiers && (n.children.drop 2).isEmpty then
    put "\""
    put (moduleName (n.child 0))
    put "\""
  else
    write (n.child 0) {}
    write (n.child 1) {}
  endStatement

/-- Where an export takes its names from. -/
def exportSource (write : Write) (source attributes : Node) : Printing := do
  optional source fun source => do
    put " from "
    write source {}
  write attributes {}

/-- The comments before an exported name, and a blank behind them. -/
def commentsOfExport (offset : Nat) : Printing := do
  if ← hasComments offset then
    commentsAt offset
    blank
    modify fun p => { p with continues := false }

/-- An exported name and the name it goes by elsewhere, each with the comments before it. -/
def exportedName (write : Write) (isType : Bool) (first second : Node) : Printing := do
  whenever isType (put "type ")
  commentsOfExport first.span.start
  write first {}
  whenever (moduleName first != moduleName second) do
    put " as "
    commentsOfExport second.span.start
    write second {}

/-- The body of a module, behind the names of the modules it is nested in. -/
def moduleBody (write : Write) (place : Place) : Node → Printing
  | .mk (.moduleDeclaration _ _) _ [name, body] => do
    put "."
    write name {}
    moduleBody write place body
  | .mk .absent _ _ => pure ()
  | body => do
    blank
    write body place

def moduleDeclaration (write : Write) (text : String) (isDeclare : Bool) (n : Node) (place : Place) :
    Printing := do
  whenever isDeclare (put "declare ")
  put text
  whenever (text != "global") do
    blank
    write (n.child 0) {}
  moduleBody write place (n.child 1)

/-- A declaration without its indentation and end. An interface, which declares nothing at run time,
is written without the word `declare`. -/
def declaration (write : Write) (n : Node) (place : Place) : Printing := do
  let part (i : Nat) : Printing := write (n.child i) place
  match n.kind with
  | .variableDeclaration w isDeclare => variableDeclaration write w isDeclare n place
  | .interfaceDeclaration _ =>
    put "interface "
    part 0
    part 1
    let extended := (n.child 2).children
    whenever (!extended.isEmpty) do
      put " extends "
      list extended (write · place)
    blank
    part 3
  | .typeAlias isDeclare =>
    whenever isDeclare (put "declare ")
    put "type "
    part 0
    part 1
    put " = "
    part 2
  | .enumDeclaration isDeclare isConst =>
    indentation
    whenever isDeclare (put "declare ")
    whenever isConst (put "const ")
    put "enum "
    part 0
    blank
    let members := n.children.drop 1
    braces members.isEmpty do
      separated (write · place) (put ",\n") members
      whenever (!members.isEmpty) newline
  | .moduleDeclaration text isDeclare => moduleDeclaration write text isDeclare n place
  | .importEquals _ =>
    put "import "
    part 0
    put " = "
    part 1
  | _ => pure ()

/-- A function that is marked as one without effects. -/
def hasNoEffects (n : Node) : Bool :=
  match n.kind with
  | .function form => form.hasNoEffects
  | _ => false

/-- The start of an export of something: a function without effects has a line before it that says so,
which is not indented. -/
def beginExport (n exported : Node) : Printing := do
  commentsAt n.span.start
  whenever (hasNoEffects exported) do
    put noEffects
    newline
  indentation

def isInterface (n : Node) : Bool :=
  match n.kind with
  | .interfaceDeclaration _ => true
  | _ => false

/-- Imports, exports and their parts. -/
def moduleItem (write : Write) (n : Node) (place : Place) : Printing := do
  let part (i : Nat) : Printing := write (n.child i) {}
  match n.kind with
  | .importDeclaration isType phase hasSpecifiers =>
    beginStatement n
    importDeclaration write isType phase hasSpecifiers n
  | .importDefault => part 0
  | .importNamespace =>
    put "* as "
    part 0
  | .importSpecifier isType => renamed write isType (n.child 0) (n.child 1)
  | .exportSpecifier isType => exportedName write isType (n.child 0) (n.child 1)
  | .importAttributes text =>
    blank
    put text
    blank
    listed write n.children
  | .importAttribute =>
    part 0
    put ": "
    part 1
  | .exportNamed isType =>
    beginExport n (n.child 0)
    put "export "
    if (n.child 0).isPresent then
      write (n.child 0) place
      endDeclaration (n.child 0)
    else
      whenever isType (put "type ")
      listed write (n.children.drop 3)
      exportSource write (n.child 1) .absent
      endStatement
  | .exportDefault =>
    let declared := isDeclaration (n.child 0)
    beginExport n (if declared then n.child 0 else .absent)
    put "export default "
    if declared then
      write (n.child 0) place
      whenever (!isInterface (n.child 0)) newline
    else
      modify fun p => { p with exportStart := p.length }
      write (n.child 0) { precedence := .comma }
      endStatement
  | .exportAll isType =>
    beginStatement n
    put "export "
    whenever isType (put "type ")
    put "*"
    optional (n.child 0) fun name => do
      put " as "
      write name {}
    exportSource write (n.child 1) (n.child 2)
    endStatement
  | .externalModule =>
    put "require("
    part 0
    put ")"
  | .exportAssignment =>
    beginInline n
    put "export = "
    part 0
    endStatement
  | .namespaceExport =>
    beginInline n
    put "export as namespace "
    part 0
    endStatement
  | .enumMember isComputed =>
    commentsAt n.span.start
    indentation
    key write isComputed (n.child 0)
    optional (n.child 1) fun value => do
      put " = "
      write value place
  | .moduleBlock => braces n.children.isEmpty (statementList write place n.children)
  | _ => pure ()

/-! ## Programs -/

/-- Writes a node, with its parts written by `write`. -/
def node (write : Write) (n : Node) (place : Place) : Printing :=
  match n.kind with
  | .absent | .hole => pure ()
  | .parameter _ | .thisParameter | .classBody | .classMethod _ _ _ | .classField _ _ =>
    functionPart write n place
  | .objectPattern | .patternProperty _ _ | .arrayPattern | .rest | .defaultPattern | .objectTarget
  | .targetShorthand | .targetProperty _ | .arrayTarget | .defaultTarget => pattern write n place
  | .jsxElement | .jsxOpening _ | .jsxClosing | .jsxChildren | .jsxFragment | .jsxName _ | .jsxMember
  | .jsxNamespaced | .jsxAttribute | .jsxSpreadAttribute | .jsxString _ | .jsxContainer | .jsxEmpty
  | .jsxSpreadChild | .jsxText _ => markup write n
  | .directive _ | .functionBody | .block | .expressionStatement | .emptyStatement
  | .debuggerStatement | .ifStatement | .forStatement | .forIn | .forOf _ | .whileStatement
  | .doWhileStatement | .returnStatement | .throwStatement | .breakStatement | .continueStatement
  | .switchStatement | .switchCase | .labeled | .tryStatement | .catchClause | .catchParameter
  | .withStatement | .staticBlock => statement write n place
  | .declarator isDefinite => declarator write isDefinite n place
  | .variableDeclaration _ _ | .interfaceDeclaration _ | .typeAlias _ | .enumDeclaration _ _
  | .moduleDeclaration _ _ | .importEquals _ => declaration write n place
  | .importDeclaration _ _ _ | .importDefault | .importNamespace | .importSpecifier _
  | .importAttributes _ | .importAttribute | .exportNamed _ | .exportSpecifier _ | .exportDefault
  | .exportAll _ | .externalModule | .exportAssignment | .namespaceExport | .enumMember _
  | .moduleBlock => moduleItem write n place
  | .keywordType _ | .typeReference | .qualifiedName | .literalType | .unionType | .intersectionType
  | .arrayType | .tupleType | .namedTupleMember _ | .optionalType | .nullableType | .nonNullType _ | .restType | .indexedAccess
  | .typeLiteral | .interfaceBody | .functionType | .constructorType _ | .typeQuery | .importType
  | .typeOperator _ | .conditionalType | .inferType | .mappedType _ _ _ | .parenthesizedType
  | .templateType _ | .typePredicate _ | .propertySignature _ _ _ | .methodSignature _ _ _
  | .callSignature | .constructSignature | .indexSignature _ _ | .typeParameters
  | .typeParameter _ _ _ | .typeArguments | .heritage => type write n place
  | _ => expression write n place

/-- Writes a tree of at most the given depth. -/
def toDepth : Nat → Write
  | 0 => fun _ _ => pure ()
  | depth + 1 => fun n place => node (toDepth depth) n place

/-- A whole program, with the comments before and after it. -/
def program (tree : Node) : Printing := do
  commentsAt 0
  match tree.kind with
  | .program (some line) => do
    put "#!"
    put line
    newline
  | _ => pure ()
  statementList (toDepth tree.depth) {} tree.children
  commentsAt tree.span.stop

end Printing

/-- The text of a program with its leading comments. -/
def Node.print (tree : Node) (comments : List Comment) : List Char :=
  let page : Page := { comments := comments.filter fun c => c.isLeading && !c.isAnnotation }
  (Printing.program tree page).2.text

end TypedJsx
