import TypedJsx.Printer.Signature
/-!
Functions, classes and their members on the page.
-/
namespace TypedJsx.Printing

/-- A node whose text begins where a statement, or a default export, would read it as a declaration. -/
def atDeclarationStart : StateM Page Bool := do
  let p ← get
  return p.statementStart == p.length || p.exportStart == p.length

def body (write : Write) (b : Node) (place : Place) : Printing :=
  if b.isPresent then do
    blank
    write b place.inner
  else put ";"

/-- The comment that says that calls of a function have no effect. -/
def noEffects : String := "/* @__NO_SIDE_EFFECTS__ */"

/-- A function. An expression is wrapped where it would be read as a declaration. -/
def function (write : Write) (form : FunctionForm) (n : Node) (place : Place) : Printing := do
  let place := place.allowingCall
  whenever (form.isExpression && form.hasNoEffects) do
    put noEffects
    blank
  let wrap := form.isExpression && ((← atDeclarationStart) || form.wrapped)
  wrapped wrap do
    separateWord
    whenever form.isDeclare (put "declare ")
    whenever form.isAsync (put "async ")
    put "function"
    whenever form.isGenerator (put "* ")
    optional (n.child 0) fun name => do
      separateWord
      write name {}
    signature write place (n.child 1) (n.child 2) (n.child 3) (n.child 4)
    body write (n.child 5) place

/-- An arrow function; the expression that may be its body is written without its statement. -/
def arrow (write : Write) (form : ArrowForm) (place : Place) (n : Node) : Printing := do
  whenever form.hasNoEffects do
    put noEffects
    blank
  wrapped (place.precedence.atLeast .assign || form.wrapped) do
    whenever form.isAsync (word "async ")
    signature write place (n.child 0) .absent (n.child 1) (n.child 2)
    put " => "
    if form.isExpression then
      match (n.child 3).statements with
      | .mk .expressionStatement _ [e] :: _ => do
        modify fun p => { p with arrowStart := p.length }
        write e place.item
      | _ => pure ()
    else write (n.child 3) place.inner

/-- The function of a method behind its name. -/
def methodRest (write : Write) (f this : Node) (place : Place) : Printing := do
  signature write place (f.child 1) this (f.child 3) (f.child 4)
  body write (f.child 5) place

/-- Words before the name of a method that its function decides. -/
def methodWords (f : Node) : Printing :=
  match f.kind with
  | .function form => do
    whenever form.isAsync (word "async ")
    whenever form.isGenerator (put "*")
  | _ => pure ()

/-! ## Classes -/

def accessibilityWord (m : Modifiers) : Printing :=
  match m.accessibility with
  | some a => do
    word a.text
    blank
  | none => pure ()

/-- Words before a class member. -/
def memberWords (m : Modifiers) : Printing := do
  whenever m.isDeclare (put "declare ")
  accessibilityWord m
  whenever m.isAbstract (put "abstract ")
  whenever m.isStatic (put "static ")
  whenever m.isReadonly (put "readonly ")

/-- Words before a field that is read and written through functions. -/
def accessorWords (m : Modifiers) : Printing := do
  whenever m.isAbstract (put "abstract ")
  accessibilityWord m
  whenever m.isStatic (put "static ")
  whenever m.isOverride (put "override ")
  put "accessor"
  blank

def memberForm (form : MemberForm) : Printing :=
  match form with
  | .getter => put "get "
  | .setter => put "set "
  | _ => pure ()

def classMethod (write : Write) (form : MemberForm) (isComputed : Bool) (m : Modifiers)
    (n : Node) (place : Place) : Printing := do
  decorators write (n.child 0)
  memberWords m
  memberForm form
  methodWords (n.child 2)
  key write isComputed (n.child 1)
  whenever m.isOptional (put "?")
  methodRest write (n.child 2) ((n.child 2).child 2) place
  newline

def classField (write : Write) (isComputed : Bool) (m : Modifiers) (n : Node) (place : Place) :
    Printing := do
  decorators write (n.child 0)
  if m.isAccessor then accessorWords m else memberWords m
  key write isComputed (n.child 1)
  whenever (m.isOptional && !m.isAccessor) (put "?")
  typed write place (n.child 2)
  initial write {} (n.child 3)
  endStatement

/-- A member of a class on its lines. -/
def classMember (write : Write) (place : Place) (member : Node) : Printing := do
  commentsAt member.span.start
  indentation
  write member place
  match member.kind with
  | .indexSignature _ _ => endStatement
  | _ => pure ()

def classNode (write : Write) (form : ClassForm) (n : Node) (place : Place) : Printing := do
  let wrap := form.isExpression && (← atDeclarationStart)
  let place := place.allowingCall
  wrapped wrap do
    decorators write (n.child 0)
    separateWord
    whenever form.isDeclare (put "declare ")
    whenever form.isAbstract (put "abstract ")
    put "class"
    optional (n.child 1) fun name => do
      blank
      write name {}
      write (n.child 2) place.inner
    optional (n.child 3) fun base => do
      put " extends "
      write base (place.withPrecedence .postfixed)
      write (n.child 4) place.inner
    let implemented := (n.child 5).children
    whenever (!implemented.isEmpty) do
      put " implements "
      list implemented (write · place.inner)
    blank
    write (n.child 6) place.inner

/-- The parts of functions and classes. -/
def functionPart (write : Write) (n : Node) (place : Place) : Printing :=
  match n.kind with
  | .parameter m => parameter write place m (n.child 0) (n.child 1) (n.child 2) (n.child 3)
  | .thisParameter => do
    put "this"
    typed write place (n.child 0)
  | .classBody => braces n.children.isEmpty (each n.children (classMember write place))
  | .classMethod form isComputed m => classMethod write form isComputed m n place
  | .classField isComputed m => classField write isComputed m n place
  | _ => pure ()

end TypedJsx.Printing
