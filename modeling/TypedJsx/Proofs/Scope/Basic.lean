import TypedJsx.Tree.Node
/-!
Scopes: what the names of a program refer to. A name can mean a value, a type or a space of names, and
the three are looked up apart. A node opens scopes for its parts; a reference is bound by the innermost
scope around it that has its name with the meaning in which it is read.

What a scope holds is read off what the parts of its node declare (`Declared`): a pattern binds names,
a statement declares names in the list it stands in, and a `var` goes out to the function around it.
The references of a tree are listed with the scopes around each (`Node.uses`), and `Use.resolve` says
where a reference stands and which scope binds it.
-/
namespace TypedJsx

/-- What a name is read as. -/
inductive Meaning where
  | value | type | space
deriving DecidableEq, Repr, Inhabited

/-- A name under one of its meanings. -/
abbrev Denoted := Meaning × String

/-- Names under some meanings. -/
def denoted (meanings : List Meaning) (names : List String) : List Denoted :=
  meanings.flatMap fun m => names.map fun x => (m, x)

/-! ## What a node declares -/

/-- What a node declares for the nodes around it. -/
structure Declared where
  /-- The names that a pattern, or a list of patterns or type parameters, binds. -/
  bound : List String := []
  /-- The names that a list of parameters binds. -/
  params : List String := []
  /-- What a statement declares in the list that it stands in. -/
  listed : List Denoted := []
  /-- The names of `var` declarations, which go out to the function around them. -/
  hoisted : List String := []
  /-- The types that a condition on types infers. -/
  inferred : List String := []
  /-- The text of a plain key. -/
  key : List String := []
deriving Inhabited

/-- What the part at a position declares. -/
def partAt (parts : List Declared) (i : Nat) : Declared := parts.getD i {}

namespace Kind

/-- The names that a node binds as a pattern, from what its parts declare. -/
def bound (k : Kind) (parts : List Declared) : List String :=
  match k with
  | .binding x => [x]
  | .objectPattern | .arrayPattern | .typeParameters | .variableDeclaration _ _ =>
    parts.flatMap Declared.bound
  | .defaultPattern | .rest | .typeParameter _ _ _ | .declarator _ | .catchParameter | .importDefault
  | .importNamespace => (partAt parts 0).bound
  | .patternProperty _ _ | .parameter _ | .importSpecifier _ => (partAt parts 1).bound
  | .enumMember _ => (partAt parts 0).key
  | _ => []

/-- What a node declares as a statement, from what its parts declare. -/
def listed (k : Kind) (parts : List Declared) : List Denoted :=
  match k with
  | .variableDeclaration word _ =>
    if word.isLexical then denoted [.value] (parts.flatMap Declared.bound) else []
  | .function form => if form.isExpression then [] else denoted [.value] (partAt parts 0).bound
  | .classNode form => if form.isExpression then [] else denoted [.value, .type] (partAt parts 1).bound
  | .interfaceDeclaration _ | .typeAlias _ => denoted [.type] (partAt parts 0).bound
  | .enumDeclaration _ _ | .importEquals _ => denoted [.value, .type, .space] (partAt parts 0).bound
  | .moduleDeclaration _ _ => denoted [.value, .space] (partAt parts 0).bound
  | .importDeclaration _ _ _ =>
    denoted [.value, .type, .space] ((parts.drop 2).flatMap Declared.bound)
  | .exportNamed _ | .exportDefault => (partAt parts 0).listed
  | .switchCase => (parts.drop 1).flatMap Declared.listed
  | _ => []

/-- The names of the `var` declarations that go out of a node. They stay in a function. -/
def hoisted (k : Kind) (parts : List Declared) : List String :=
  match k with
  | .variableDeclaration .varWord _ => parts.flatMap Declared.bound
  | .function _ | .arrow _ | .classNode _ | .staticBlock | .moduleBlock => []
  | _ => parts.flatMap Declared.hoisted

/-- The types that are inferred in a node; those of the bound of a condition belong to the condition. -/
def inferred (k : Kind) (parts : List Declared) : List String :=
  match k with
  | .inferType => (partAt parts 0).bound
  | .conditionalType =>
    (partAt parts 0).inferred ++ (partAt parts 2).inferred ++ (partAt parts 3).inferred
  | .function _ | .arrow _ | .classNode _ => []
  | _ => parts.flatMap Declared.inferred

/-- The text of a key that is not computed. -/
def key : Kind → List String
  | .name text | .stringLiteral text _ => [text]
  | _ => []

/-- What a node declares, from what its parts declare. -/
def declared (k : Kind) (parts : List Declared) : Declared :=
  { bound := k.bound parts
    params := if k = .parameters then parts.flatMap Declared.bound else []
    listed := k.listed parts
    hoisted := k.hoisted parts
    inferred := k.inferred parts
    key := k.key }

end Kind

mutual

/-- What a node declares for the nodes around it. -/
def Node.declared : Node → Declared
  | .mk k _ cs => k.declared (declaredList cs)

def declaredList : List Node → List Declared
  | [] => []
  | c :: cs => c.declared :: declaredList cs

end

/-! ## Scopes -/

/-- Names that are declared together. -/
structure Scope where
  /-- The place of the node that opens the scope. -/
  place : List Nat := []
  /-- Whether the scope holds only the name that an expression gives itself. -/
  isOwnName : Bool := false
  names : List Denoted
deriving Inhabited

namespace Scope

def binds (s : Scope) (m : Meaning) (name : String) : Bool := s.names.contains (m, name)

/-- The scope as it is seen from around the node, of which its place is in the part at a position. -/
def below (i : Nat) (s : Scope) : Scope := { s with place := i :: s.place }

/-- What tells a scope of a tree from the others: its place, and which of the two that a node can open
it is. -/
def identity (s : Scope) : List Nat × Bool := (s.place, s.isOwnName)

end Scope

/-- What tells the innermost of some scopes that has a name. -/
def binderIn (scopes : List Scope) (m : Meaning) (name : String) : Option (List Nat × Bool) :=
  (scopes.find? fun s => s.binds m name).map Scope.identity

/-- The scope of the parameters of a function or a signature. -/
def signatureScope (values types : List String) : Scope :=
  { names := denoted [.value] values ++ denoted [.type] types }

/-- The scope that holds only the name that an expression gives itself. -/
def ownNameScope (isExpression : Bool) (names : List Denoted) : List Scope :=
  if isExpression then [{ isOwnName := true, names := names }] else []

/-- The scopes that a node opens for its part at a position, the innermost first. -/
def Kind.scopes (k : Kind) (parts : List Declared) (i : Nat) : List Scope :=
  match k with
  | .program _ | .functionBody | .staticBlock | .moduleBlock =>
    [{ names := parts.flatMap Declared.listed ++ denoted [.value] (parts.flatMap Declared.hoisted) }]
  | .block => [{ names := parts.flatMap Declared.listed }]
  | .switchStatement => if i = 0 then [] else [{ names := (parts.drop 1).flatMap Declared.listed }]
  | .forStatement | .forIn | .forOf _ => [{ names := (partAt parts 0).listed }]
  | .catchClause => [{ names := denoted [.value] (partAt parts 0).bound }]
  | .function form =>
    signatureScope ("arguments" :: (partAt parts 3).params) (partAt parts 1).bound
      :: ownNameScope form.isExpression (denoted [.value] (partAt parts 0).bound)
  | .arrow _ => [signatureScope (partAt parts 1).params (partAt parts 0).bound]
  | .classNode form =>
    if i = 0 then []
    else { names := denoted [.type] (partAt parts 2).bound }
      :: ownNameScope form.isExpression (denoted [.value, .type] (partAt parts 1).bound)
  | .interfaceDeclaration _ | .typeAlias _ => [signatureScope [] (partAt parts 1).bound]
  | .enumDeclaration _ _ => [{ names := denoted [.value] ((parts.drop 1).flatMap Declared.bound) }]
  | .moduleDeclaration _ _ => [{ names := (partAt parts 1).listed }]
  | .functionType | .callSignature => [signatureScope (partAt parts 2).params (partAt parts 0).bound]
  | .constructorType _ | .constructSignature =>
    [signatureScope (partAt parts 1).params (partAt parts 0).bound]
  | .methodSignature _ _ _ => [signatureScope (partAt parts 3).params (partAt parts 1).bound]
  | .indexSignature _ _ => [signatureScope (partAt parts 0).bound []]
  | .mappedType key _ _ => [signatureScope [] [key]]
  | .conditionalType => if i = 2 then [signatureScope [] (partAt parts 1).inferred] else []
  | _ => []

/-! ## References -/

/-- How a name at the part of a node at a position is read, if it refers to something in scope, where
`outer` is how the node itself is read. The first part of a dotted type is a space of names. -/
def Kind.readsAt (k : Kind) (outer : Option Meaning) (i : Nat) : Option Meaning :=
  match k, i with
  | .typeReference, 0 | .heritage, 0 => some .type
  | .qualifiedName, 0 | .member _, 0 => if outer = some .type then some .space else outer
  | .importEquals _, 1 => some .space
  | .importType, 2 => none
  | _, _ => some .value

/-- A reference of a tree. -/
structure Use where
  place : List Nat := []
  meaning : Meaning
  name : String
  /-- The scopes around the reference, the innermost first. -/
  scopes : List Scope := []
deriving Inhabited

/-- Where a reference stands, and the scope that binds it, if there is one. -/
structure Resolution where
  place : List Nat
  meaning : Meaning
  name : String
  binder : Option (List Nat × Bool)
deriving DecidableEq, Repr, Inhabited

namespace Use

/-- The reference as it is seen from around a node that opens scopes for the part it is in. -/
def within (i : Nat) (opened : List Scope) (u : Use) : Use :=
  { u with place := i :: u.place, scopes := u.scopes.map (Scope.below i) ++ opened }

/-- The innermost scope around the reference that has its name. -/
def binder? (u : Use) : Option (List Nat × Bool) := binderIn u.scopes u.meaning u.name

def resolve (u : Use) : Resolution :=
  { place := u.place, meaning := u.meaning, name := u.name, binder := u.binder? }

end Use

/-- The reference that a node is. -/
def Kind.use? (k : Kind) (read : Option Meaning) : Option Use :=
  match k, read with
  | .reference text, some m => some { meaning := m, name := text }
  | _, _ => none

mutual

/-- The references of a tree that is read in some way, in reading order. -/
def Node.uses (read : Option Meaning) : Node → List Use
  | .mk k _ cs => (k.use? read).toList ++ usesFrom k (declaredList cs) read 0 cs

/-- The references in the parts of a node, from position `i` on. -/
def usesFrom (k : Kind) (parts : List Declared) (read : Option Meaning) (i : Nat) :
    List Node → List Use
  | [] => []
  | c :: cs =>
    (c.uses (k.readsAt read i)).map (Use.within i (k.scopes parts i))
      ++ usesFrom k parts read (i + 1) cs

end

/-- The references of a tree with a meaning. -/
def Node.usesOf (m : Meaning) (read : Option Meaning) (n : Node) : List Use :=
  (n.uses read).filter fun u => u.meaning == m

/-- What the references of a program with a meaning are bound by. -/
def Node.resolutions (m : Meaning) (program : Node) : List Resolution :=
  (program.usesOf m (some .value)).map Use.resolve

end TypedJsx
