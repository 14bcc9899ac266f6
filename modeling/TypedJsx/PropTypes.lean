import TypedJsx.Tree.Node
import TypedJsx.Comment
import TypedJsx.Config
import TypedJsx.Interface
import TypedJsx.Text.Basic
import TypedJsx.Component
import TypedJsx.Grammar.Program
/-!
Prop declarations: statements `X.propTypes = …`, which say what props a component takes. They are taken out of
a program together with the imports of the module that they use. Comments written on an entry of a declaration
go with it.
-/
namespace TypedJsx

/-! ## Validators

What the value of an entry says about the prop. -/

/-- The forms of a validator that are told apart. A composite one takes arguments, which are not
looked at. -/
inductive Validator where
  | string | number | bool | func | array | object | symbol | node | element | any
  | composite (name : String)
  | unknown
deriving DecidableEq, Repr, Inhabited

namespace Validator

def compositeNames : List String :=
  ["arrayOf", "shape", "oneOf", "oneOfType", "objectOf", "instanceOf", "exact"]

def simpleNames : List (String × Validator) :=
  [("string", string), ("number", number), ("bool", bool), ("func", func), ("array", array),
    ("object", object), ("symbol", symbol), ("node", node), ("element", element), ("any", any)]

def ofName (name : String) : Validator :=
  match simpleNames.lookup name with
  | some v => v
  | none => if compositeNames.contains name then composite name else unknown

/-- The type of the values that a validator accepts, as far as it can be said. -/
def type : Validator → String
  | string => "string"
  | number => "number"
  | bool => "boolean"
  | func => "(...args: any[]) => any"
  | array => "any[]"
  | object => "Record<string, any>"
  | symbol => "symbol"
  | node => "React.ReactNode"
  | element => "React.ReactElement"
  | any | composite _ | unknown => "any"

/-- The name of a validator. -/
def describe : Validator → String
  | string => "string"
  | number => "number"
  | bool => "bool"
  | func => "func"
  | array => "array"
  | object => "object"
  | symbol => "symbol"
  | node => "node"
  | element => "element"
  | any => "any"
  | composite name => "composite:" ++ name
  | unknown => "unknown"

/-- The name of the module's validator that an expression refers to, where `space` is the name of the
module. -/
def reference? (space : String) : Node → Option String
  | .mk (.member _) _ [.mk (.reference s) _ _, .mk (.name name) _ _] =>
    if s == space then some name else none
  | _ => none

/-- The validator that an expression is. Only a composite one can be called. -/
def ofExpression (space : String) (e : Node) : Validator :=
  match e with
  | .mk (.call _ _) _ (callee :: _) =>
    match (reference? space callee).map ofName with
    | some (composite name) => composite name
    | _ => unknown
  | e => ((reference? space e).map ofName).getD unknown

/-- Takes `.isRequired` off an expression, and tells whether it was there. -/
def stripRequired : Node → Node × Bool
  | .mk (.member o) s [inner, .mk (.name name) s' cs] =>
    if name == "isRequired" then (inner, true)
    else (.mk (.member o) s [inner, .mk (.name name) s' cs], false)
  | e => (e, false)

end Validator

/-! ## Statements -/

structure PropEntry where
  name : String
  /-- The source text of its value. -/
  raw : List Char
  isRequired : Bool
  validator : Validator
  comments : List Comment
deriving DecidableEq, Repr, Inhabited

structure PropDeclaration where
  component : String
  entries : List PropEntry
  /-- The span of the statement. -/
  span : Span
deriving DecidableEq, Repr, Inhabited

/-- What reading a declaration needs besides its tree. -/
structure PropContext where
  source : List Char
  comments : List Comment
  /-- The local name of the module of validators. -/
  space : String

/-- The member of an interface that an entry becomes. -/
def PropEntry.member (e : PropEntry) : InterfaceMember :=
  { name := e.name, type := e.validator.type, isOptional := !e.isRequired,
    comments := e.comments.map fun c => String.ofList c.text }

/-- The interface that a declaration becomes. -/
def PropDeclaration.interface (d : PropDeclaration) (config : Config) : Interface :=
  { name := config.interfaceName d.component, members := d.entries.map PropEntry.member }

/-! ## Entries -/

/-- The name that a key gives; none if it has to be computed. -/
def staticKey? (isComputed : Bool) : Node → Option String
  | .mk (.name text) _ _ => if isComputed then none else some text
  | .mk (.stringLiteral value _) _ _ => some value
  | _ => none

/-- A comment on an entry: one that leads its key, or trails it before the next entry begins. -/
def Comment.isOnEntry (c : Comment) (entry : Span) (nextStart : Nat) : Bool :=
  (c.isLeading && c.attachedTo == entry.start)
    || (c.isTrailing && entry.stop ≤ c.span.start && c.span.stop ≤ nextStart)

/-- The entry that a property of a declaration is. Spreads and computed keys are skipped. -/
def PropContext.entry? (ctx : PropContext) (property : Node) (nextStart : Nat) : Option PropEntry :=
  match property with
  | .mk (.property _ _ isComputed) span [k, value] => do
    let name ← staticKey? isComputed k
    let (inner, isRequired) := Validator.stripRequired value
    return {
      name := name
      raw := sliceBytes value.span.start value.span.stop ctx.source
      isRequired := isRequired
      validator := Validator.ofExpression ctx.space inner
      comments := ctx.comments.filter fun c => c.isOnEntry span nextStart }
  | _ => none

/-- The entries of a declaration's properties; `stop` is the end of their object. -/
def PropContext.entries (ctx : PropContext) (stop : Nat) : List Node → List PropEntry
  | [] => []
  | p :: rest =>
    let nextStart := match rest with
      | [] => stop
      | next :: _ => next.span.start
    (ctx.entry? p nextStart).toList ++ ctx.entries stop rest

/-! ## Declarations -/

/-- The component and the value of a statement `X.propTypes = …`. -/
def Node.propAssignment? : Node → Option (String × Node)
  | .mk .expressionStatement _ [.mk (.assignment .assign) _
      [.mk (.member _) _ [.mk (.reference component) _ _, .mk (.name field) _ _], value]] =>
    if field == "propTypes" then some (component, value) else none
  | _ => none

def Node.isPropAssignment (n : Node) : Bool := n.propAssignment?.isSome

/-- The declaration that a statement is. A value that is no object literal has no entries. -/
def PropContext.declaration? (ctx : PropContext) (n : Node) : Option PropDeclaration :=
  n.propAssignment?.map fun (component, value) =>
    { component := component
      entries := match value.withoutParentheses with
        | .mk .object span properties => ctx.entries span.stop properties
        | _ => []
      span := n.span }

mutual

/-- The declarations in all statement lists of a tree, inner lists first. -/
def PropContext.declarations (ctx : PropContext) : Node → List PropDeclaration
  | .mk k _ cs =>
    ctx.declarationsInList cs ++ if k.isStatementList then cs.filterMap ctx.declaration? else []

def PropContext.declarationsInList (ctx : PropContext) : List Node → List PropDeclaration
  | [] => []
  | c :: cs => ctx.declarations c ++ ctx.declarationsInList cs

end

mutual

/-- The tree without the declarations in its statement lists. -/
def Node.withoutDeclarations : Node → Node
  | .mk k s cs =>
    let cs := withoutDeclarationsList cs
    .mk k s (if k.isStatementList then cs.filter fun c => !c.isPropAssignment else cs)

def withoutDeclarationsList : List Node → List Node
  | [] => []
  | c :: cs => c.withoutDeclarations :: withoutDeclarationsList cs

end

/-! ## The module of validators -/

def propTypesModule : String := "prop-types"

/-- A call that loads the module. -/
def isPropTypesRequire (e : Node) : Bool :=
  match e.withoutParentheses with
  | .mk (.call _ _) _ [.mk (.reference "require") _ _, _, .mk (.stringLiteral value _) _ _] =>
    value == propTypesModule
  | _ => false

/-- The module that an import names. -/
def Node.importSource? : Node → Option String
  | .mk (.importDeclaration _ _ _) _ (.mk (.stringLiteral source _) _ _ :: _) => some source
  | _ => none

/-- The value of a declarator. -/
def Node.initialValue : Node → Node
  | .mk (.declarator _) _ [_, _, value] => value
  | _ => .absent

/-- A statement that does nothing but load the module. -/
def Node.isPropTypesBinding (n : Node) : Bool :=
  match n with
  | .mk (.variableDeclaration _ _) _ ds => !ds.isEmpty && ds.all fun d => isPropTypesRequire d.initialValue
  | n => n.importSource? == some propTypesModule

/-- The name that a declarator or an import binds to the whole module. -/
def Node.moduleName? : Node → Option String
  | .mk (.declarator _) _ [.mk (.binding name) _ _, _, value] =>
    if isPropTypesRequire value then some name else none
  | .mk .importDefault _ [.mk (.binding name) _ _] => some name
  | .mk .importNamespace _ [.mk (.binding name) _ _] => some name
  | _ => none

/-- The local name of the module in a statement. -/
def Node.propTypesName? (n : Node) : Option String :=
  match n with
  | .mk (.variableDeclaration _ _) _ ds => ds.findSome? Node.moduleName?
  | n => if n.isPropTypesBinding then (n.children.drop 2).findSome? Node.moduleName? else none

/-- The local name of the module in a program. -/
def Node.propTypesName (program : Node) : String :=
  (program.statements.findSome? Node.propTypesName?).getD "PropTypes"

/-! ## Extraction

What a program says about props is taken out of it. The statements that load the module of validators go
first, then all declarations in what is left. -/

/-- What was taken out of a program. -/
structure Extraction where
  /-- The declarations, in the order of their text. -/
  declarations : List PropDeclaration
  hasReactImport : Bool
  /-- The spans of the statements that loaded the module of validators. -/
  bindings : List Span
  /-- The comments that entries of declarations took with them. -/
  absorbed : List Span
deriving DecidableEq, Repr, Inhabited

namespace Extraction

/-- The spans of all statements that were taken out. -/
def removed (e : Extraction) : List Span := e.bindings ++ e.declarations.map PropDeclaration.span

/-- The declaration that counts for a component: its last one. -/
def declarationFor? (e : Extraction) (component : String) : Option PropDeclaration :=
  e.declarations.reverse.find? fun d => d.component == component

def declares (e : Extraction) (component : String) : Bool := (e.declarationFor? component).isSome

/-- The components with a declaration, in the order of their first ones. -/
def components (e : Extraction) : List String :=
  firstPerKey id (e.declarations.map PropDeclaration.component)

end Extraction

/-- A program without the statements that load the module of validators. -/
def Node.withoutBindings (program : Node) : Node :=
  program.withChildren (program.children.filter fun s => !s.isPropTypesBinding)

/-- A program with everything about props taken out. -/
def Node.withoutProps (program : Node) : Node := program.withoutBindings.withoutDeclarations

/-- What reading the declarations of a module needs besides its tree. -/
def Module.propContext (m : Module) : PropContext :=
  { source := m.source, comments := m.comments, space := m.tree.propTypesName }

/-- What a program says about props. -/
def Module.extraction (m : Module) : Extraction :=
  let found := m.propContext.declarations m.tree.withoutBindings
  { declarations := found.mergeSort fun a b => a.span.start ≤ b.span.start
    hasReactImport := m.tree.statements.any fun s => s.importSource? == some "react"
    bindings := (m.tree.children.filter Node.isPropTypesBinding).map Node.span
    absorbed := found.flatMap fun d => d.entries.flatMap fun e => e.comments.map Comment.span }

end TypedJsx
