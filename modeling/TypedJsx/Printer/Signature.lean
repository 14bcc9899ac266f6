import TypedJsx.Printer.Literal
/-!
The parts that functions, methods and types share: types behind a colon, type parameters and
arguments, parameters, keys. Patterns and assignment targets are always on one line.
-/
namespace TypedJsx.Printing

/-- Writes a part that may be missing. -/
def optional (n : Node) (body : Node → Printing) : Printing :=
  if n.isPresent then body n else pure ()

/-- A type behind a colon. -/
def typed (write : Write) (place : Place) (type : Node) : Printing :=
  optional type fun type => do
    put ": "
    write type place.inner

/-- An initial value. Its place is that of an item between commas. -/
def initial (write : Write) (place : Place) (value : Node) : Printing :=
  optional value fun value => do
    put " = "
    write value place.item

/-- One parameter keeps a comma, which tells it from an element; two or more stand on lines of their
own. -/
def typeParameters (write : Write) (place : Place) (params : List Node) : Printing := do
  put "<"
  match params with
  | [param] =>
    write param place
    put ","
  | params =>
    indented (separated (fun param => do freshLine; write param place) (put ",") params)
    freshLine
  put ">"

def typeParameter (write : Write) (place : Place) (isConst isIn isOut : Bool)
    (name bound default : Node) : Printing := do
  whenever isConst (put "const ")
  whenever isIn (put "in ")
  whenever isOut (put "out ")
  write name {}
  optional bound fun bound => do
    put " extends "
    write bound place
  optional default fun default => do
    put " = "
    write default place

def typeArguments (write : Write) (place : Place) (types : List Node) : Printing := do
  put "<"
  list types (write · place)
  put ">"

/-- Words before a parameter. -/
def parameterWords (m : Modifiers) : Printing := do
  match m.accessibility with
  | some a => do
    word a.text
    blank
  | none => pure ()
  whenever m.isOverride (put "override ")
  whenever m.isReadonly (put "readonly ")

/-- An expression that is read as a decorator without parentheses: a name, a member that is named, or a
call of one. -/
def isPlainDecorator : Node → Bool
  | .mk (.reference _) _ _ => true
  | .mk (.member _) _ _ => true
  | .mk (.privateMember _) _ _ => true
  | .mk (.call _ _) _ (callee :: _) => isPlainDecorator callee
  | _ => false

def decorators (write : Write) (ds : Node) : Printing :=
  each ds.children fun d => do
    put "@"
    wrapped (!isPlainDecorator d) (write d {})
    blank

def parameter (write : Write) (place : Place) (m : Modifiers) (ds pattern type value : Node) :
    Printing := do
  decorators write ds
  parameterWords m
  write pattern place
  whenever m.isOptional (put "?")
  typed write place type
  initial write place value

/-- Parameters between parentheses; `this` comes first. -/
def parameterList (write : Write) (place : Place) (this params : Node) : Printing := do
  put "("
  optional this fun this => do
    write this place
    whenever (!params.children.isEmpty) (put ", ")
  list params.children (write · place)
  put ")"

/-- A key of a member, in brackets if it is computed. -/
def key (write : Write) (isComputed : Bool) (k : Node) : Printing :=
  if isComputed then do
    put "["
    write k { precedence := .comma }
    put "]"
  else write k {}

/-- Type parameters, parameters and return type of a function. -/
def signature (write : Write) (place : Place) (types this params result : Node) : Printing := do
  write types place.inner
  parameterList write place.inner this params
  typed write place result

/-! ## Patterns -/

/-- Whether a key and the pattern under it are one name. -/
def isSameName (k value : Node) : Bool :=
  match k, value with
  | .mk (.name a) _ _, .mk (.binding b) _ _ => a == b
  | .mk (.name a) _ _, .mk .defaultPattern _ (.mk (.binding b) _ _ :: _) => a == b
  | _, _ => false

/-- A key and what it is bound to. -/
def keyed (write : Write) (place : Place) (isComputed : Bool) (k value : Node) : Printing := do
  key write isComputed k
  put ": "
  write value place

def isRest : Node → Bool
  | .mk .rest _ _ => true
  | .mk .spread _ _ => true
  | _ => false

/-- Elements between brackets. A comma follows a hole at the end, and the element before a rest;
`alwaysBlank` puts a blank before the rest even if it is the only element. -/
def bracketed (write : Write) (place : Place) (alwaysBlank : Bool) (elements : List Node) :
    Printing := do
  let items := elements.filter fun e => !isRest e
  let rest := elements.filter isRest
  put "["
  list items (write · place)
  match items.getLast? with
  | some last => whenever (last.kind == .hole || !rest.isEmpty) (put ",")
  | none => pure ()
  each rest fun r => do
    whenever (alwaysBlank || !items.isEmpty) blank
    write r place
  put "]"

/-- A pattern or target. A name that is key and variable of a pattern is written once; a target keeps
both. -/
def pattern (write : Write) (n : Node) (place : Place) : Printing := do
  let inner := place.inner
  let part (i : Nat) : Printing := write (n.child i) inner
  match n.kind with
  | .objectPattern =>
    if n.children.isEmpty then put "\x7b\x7d"
    else
      put "\x7b "
      list n.children (write · inner)
      put " \x7d"
  | .patternProperty _ isComputed =>
    if !isComputed && isSameName (n.child 0) (n.child 1) then part 1
    else keyed write inner isComputed (n.child 0) (n.child 1)
  | .arrayPattern => bracketed write inner true n.children
  | .rest =>
    put "..."
    part 0
    typed write place (n.child 1)
  | .objectTarget =>
    put "\x7b"
    list n.children (write · inner)
    put "\x7d"
  | .targetProperty isComputed => keyed write inner isComputed (n.child 0) (n.child 1)
  | .arrayTarget => bracketed write inner false n.children
  | .defaultPattern | .targetShorthand | .defaultTarget =>
    part 0
    initial write {} (n.child 1)
  | _ => pure ()

end TypedJsx.Printing
