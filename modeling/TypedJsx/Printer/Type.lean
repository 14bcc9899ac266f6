import TypedJsx.Printer.Signature
/-!
Types on the page.
-/
namespace TypedJsx.Printing

/-- Members of an interface or object type, each on a line of its own. -/
def typeMembers (write : Write) (members : List Node) (place : Place) : Printing :=
  braces members.isEmpty <| each members fun member => do
    commentsAt member.span.start
    indentation
    write member place
    endStatement

/-- A key of a member of a type. -/
def typeKey (write : Write) (isComputed : Bool) (k : Node) (place : Place) : Printing :=
  if isComputed then key write true k else write k { inType := place.inType }

def accessorWord (form : MemberForm) : Printing :=
  match form with
  | .getter => put "get "
  | .setter => put "set "
  | _ => pure ()

def mappedMark (mark : MappedMark) (text : String) : String :=
  match mark with
  | .unmarked => ""
  | .marked => text
  | .added => "+" ++ text
  | .removed => "-" ++ text

def mappedType (write : Write) (inner : Place) (name : String) (readonly opt : MappedMark)
    (constraint renamed type : Node) : Printing := do
  put "\x7b "
  whenever (readonly != .unmarked) do
    put (mappedMark readonly "readonly")
    blank
  put "["
  put name
  put " in "
  write constraint inner
  optional renamed fun renamed => do
    put " as "
    write renamed inner
  put "]"
  put (mappedMark opt "?")
  blank
  optional type fun type => do
    put ": "
    write type inner
  put " \x7d"

def conditionalType (write : Write) (inner : Place) (checked bound first second : Node) :
    Printing := do
  write checked inner
  put " extends "
  write bound inner
  put " ? "
  write first inner
  put " : "
  write second inner

def importType (write : Write) (inner : Place) (argument options qualifier arguments : Node) :
    Printing := do
  put "import("
  write argument inner
  optional options fun options => do
    put ", "
    write options inner
  put ")"
  optional qualifier fun qualifier => do
    put "."
    write qualifier inner
  write arguments inner

/-- A part of a type or declaration that is no type on its own. -/
def isTypePart (n : Node) : Bool :=
  match n.kind with
  | .interfaceBody | .propertySignature _ _ _ | .methodSignature _ _ _ | .callSignature
  | .constructSignature | .indexSignature _ _ | .typeParameters | .typeParameter _ _ _
  | .typeArguments | .heritage => true
  | _ => false

/-- A type, or a part of one. Numbers inside of a type are kept as they are written. -/
def type (write : Write) (n : Node) (place : Place) : Printing := do
  let inner := if isTypePart n then place.inner else place.type
  let part (i : Nat) : Printing := write (n.child i) inner
  match n.kind with
  | .keywordType w => word w
  | .typeReference | .typeQuery =>
    whenever (n.kind == .typeQuery) (put "typeof ")
    part 0
    part 1
  | .qualifiedName =>
    part 0
    put "."
    part 1
  | .literalType => part 0
  | .unionType => separated (write · inner) (put " | ") n.children
  | .intersectionType => separated (write · inner) (put " & ") n.children
  | .arrayType =>
    part 0
    put "[]"
  | .tupleType =>
    put "["
    list n.children (write · inner)
    put "]"
  | .namedTupleMember isOptional =>
    part 0
    whenever isOptional (put "?")
    put ": "
    part 1
  | .optionalType =>
    part 0
    put "?"
  | .nullableType =>
    put "?"
    part 0
  | .nonNullType isLeading =>
    whenever isLeading (put "!")
    part 0
    whenever (!isLeading) (put "!")
  | .restType =>
    put "..."
    part 0
  | .indexedAccess =>
    part 0
    put "["
    part 1
    put "]"
  | .typeLiteral | .interfaceBody => typeMembers write n.children inner
  | .functionType =>
    part 0
    parameterList write inner (n.child 1) (n.child 2)
    put " => "
    part 3
  | .constructorType isAbstract =>
    whenever isAbstract (put "abstract ")
    put "new "
    part 0
    parameterList write inner .absent (n.child 1)
    put " => "
    part 2
  | .importType => importType write inner (n.child 0) (n.child 1) (n.child 2) (n.child 3)
  | .typeOperator w =>
    put w
    blank
    part 0
  | .conditionalType => conditionalType write inner (n.child 0) (n.child 1) (n.child 2) (n.child 3)
  | .inferType =>
    put "infer "
    part 0
  | .mappedType name readonly opt =>
    mappedType write inner name readonly opt (n.child 0) (n.child 1) (n.child 2)
  | .parenthesizedType =>
    put "("
    part 0
    put ")"
  | .templateType pieces => quotedTemplate pieces n.children (write · inner)
  | .typePredicate isAsserts =>
    whenever isAsserts (put "asserts ")
    part 0
    optional (n.child 1) fun type => do
      put " is "
      write type inner
  | .propertySignature isComputed isOptional isReadonly =>
    whenever isReadonly (put "readonly ")
    typeKey write isComputed (n.child 0) inner
    whenever isOptional (put "?")
    typed write inner (n.child 1)
  | .methodSignature form isComputed isOptional =>
    accessorWord form
    typeKey write isComputed (n.child 0) inner
    whenever isOptional (put "?")
    signature write inner (n.child 1) (n.child 2) (n.child 3) (n.child 4)
  | .callSignature => signature write inner (n.child 0) (n.child 1) (n.child 2) (n.child 3)
  | .constructSignature =>
    put "new "
    signature write inner (n.child 0) .absent (n.child 1) (n.child 2)
  | .indexSignature isReadonly _ =>
    whenever isReadonly (put "readonly ")
    put "["
    part 0
    put "]"
    typed write inner (n.child 1)
  | .typeParameters => typeParameters write inner n.children
  | .typeParameter isConst isIn isOut =>
    typeParameter write inner isConst isIn isOut (n.child 0) (n.child 1) (n.child 2)
  | .typeArguments => typeArguments write inner n.children
  | .heritage =>
    write (n.child 0) (place.withPrecedence .call)
    part 1
  | _ => pure ()

end TypedJsx.Printing
