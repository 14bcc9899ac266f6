import TypedJsx.Printer.Signature
import TypedJsx.Printer.Function
/-!
Expressions on the page. Parentheses of the source are not kept: a pair is written where the place of
an expression needs it. The text of elements is written as it was read.
-/
namespace TypedJsx.Printing

/-! ## Elements

Text and attribute strings are written as they were read, and no blank is added between children. Type
arguments of an element are not written. -/

def openingTag (write : Write) (isSelfClosing : Bool) (name : Node) (items : List Node) :
    Printing := do
  put "<"
  write name {}
  each items fun item => do
    blank
    write item {}
  put (if isSelfClosing then " />" else ">")

def markup (write : Write) (n : Node) : Printing := do
  let part (i : Nat) : Printing := write (n.child i) {}
  match n.kind with
  | .jsxElement =>
    part 0
    part 1
    part 2
  | .jsxOpening isSelfClosing => openingTag write isSelfClosing (n.child 0) (n.children.drop 2)
  | .jsxClosing =>
    put "</"
    part 0
    put ">"
  | .jsxChildren => each n.children (write · {})
  | .jsxFragment =>
    put "<>"
    part 0
    put "</>"
  | .jsxName text => put text
  | .jsxMember =>
    part 0
    put "."
    part 1
  | .jsxNamespaced =>
    part 0
    put ":"
    part 1
  | .jsxAttribute =>
    part 0
    optional (n.child 1) fun value => do
      put "="
      write value {}
  | .jsxSpreadAttribute =>
    put "\x7b..."
    write (n.child 0) { precedence := .comma }
    put "\x7d"
  | .jsxSpreadChild =>
    put "\x7b..."
    part 0
    put "\x7d"
  | .jsxString raw => quotedRaw raw
  | .jsxContainer =>
    put "\x7b"
    part 0
    put "\x7d"
  | .jsxEmpty => commentsAt n.span.stop
  | .jsxText raw => put raw
  | _ => pure ()

/-- An item between commas. -/
def item : Place := { precedence := .comma }

/-! ## Objects and arrays -/

/-- The value of a property is the name that its key is. -/
def isShorthand (wasShorthand : Bool) (k value : Node) : Bool :=
  match k, value.withoutParentheses with
  | .mk (.name a) _ _, .mk (.reference b) _ _ => if a == "__proto__" then wasShorthand else a == b
  | _, _ => false

/-- A number that is too large to be written in digits. -/
def isInfinite : Node → Bool
  | .mk (.numberLiteral value _) _ _ =>
    match Double.ofNumeral value with
    | .infinite => true
    | _ => false
  | _ => false

def property (write : Write) (form : MemberForm) (wasShorthand isComputed : Bool) (k value : Node)
    (place : Place) : Printing :=
  match form with
  | .plain => do
    let isComputed := isComputed || isInfinite k
    whenever (isComputed || !isShorthand wasShorthand k value) do
      key write isComputed k
      put ": "
    write value item
  | form => do
    memberForm form
    methodWords value
    key write isComputed k
    methodRest write value .absent place

/-- An object literal: on one line up to one property, else each on its own. In a place where a brace
would open a block, or behind comments, it is put in parentheses. -/
def object (write : Write) (n : Node) (place : Place) : Printing := do
  let p ← get
  let hasComment ← hasComments n.span.start
  let wrap := hasComment || p.statementStart == p.length || p.arrowStart == p.length
  wrapped wrap do
    commentsInline n.span.start
    match n.children with
    | [] => put "\x7b\x7d"
    | [one] => do
      put "\x7b "
      write one place.inner
      put " \x7d"
    | many => do
      put "\x7b"
      indented (separated (fun m => do freshLine; write m place.inner) (put ",") many)
      freshLine
      put "\x7d"

/-- An array: on one line up to two elements, else each on its own. A hole at the end is followed by a
comma. -/
def array (write : Write) (elements : List Node) : Printing := do
  let endsInHole := match elements.getLast? with
    | some last => last.kind == .hole
    | none => false
  put "["
  if elements.length ≤ 2 then
    list elements (write · item)
    whenever endsInHole (put ",")
  else
    indented do
      separated (fun e => do freshLine; write e item) (put ",") elements
      whenever endsInHole (put ",")
    freshLine
  put "]"

/-! ## Calls -/

/-- Arguments in a list with comments in it, each on a line of its own. -/
def argumentLines (write : Write) (args : List Node) : Printing :=
  separated (fun arg => do
    if ← commentsOnLines arg.span.start then indentation else freshLine
    write arg item) (put ",") args

/-- The arguments of a call that ends at `stop`. -/
def arguments (write : Write) (stop : Nat) (args : List Node) : Printing := do
  let p ← get
  let atEnd ← if stop == 0 then pure false else hasComments (stop - 1)
  let hasComment := atEnd || args.any fun a => p.comments.any fun c => c.attachedTo == a.span.start
  put "("
  if hasComment then
    indented do
      argumentLines write args
      let written ← if atEnd then commentsOnLines (stop - 1) else pure false
      whenever (!written) newline
    indentation
  else list args (write · item)
  put ")"

/-- The comment that says that a call has no effect, which keeps its call together in parentheses. -/
def pureComment (isPure : Bool) : Printing := whenever isPure (put "/* @__PURE__ */ ")

/-- A call keeps the start of the statement or export it begins. -/
def call (write : Write) (isOptional isPure : Bool) (place : Place) (n : Node) : Printing := do
  let p ← get
  let isExport := p.exportStart == p.length
  let isStatement := p.statementStart == p.length
  let wrap := place.precedence.atLeast .new || place.forbidsCall
    || (isPure && place.precedence.atLeast .postfixed)
  wrapped wrap do
    pureComment isPure
    modify fun p =>
      if isExport then { p with exportStart := p.length }
      else if isStatement then { p with statementStart := p.length }
      else p
    write (n.child 0) { precedence := .postfixed }
    whenever isOptional (put "?.")
    write (n.child 1) {}
    arguments write n.span.stop (n.children.drop 2)

def newCall (write : Write) (isPure : Bool) (place : Place) (n : Node) : Printing :=
  wrapped (place.precedence.atLeast .call || (isPure && place.precedence.atLeast .postfixed)) do
    pureComment isPure
    word "new "
    write (n.child 0) { precedence := .new, forbidsCall := true }
    write (n.child 1) {}
    arguments write n.span.stop (n.children.drop 2)

/-- A module loaded by a call. If comments are among its parts, each stands on a line of its own. -/
def importCall (write : Write) (phase : String) (place : Place) (n : Node) : Printing := do
  let source := n.child 0
  let options := n.child 1
  let final := n.span.stop - 1
  let hasComment := (← hasComments final) || (← hasComments source.span.start)
    || (options.isPresent && (← hasComments options.span.start))
  let level : Printing → Printing := if hasComment then indented else id
  wrapped (place.precedence.atLeast .new || place.forbidsCall) do
    word "import"
    whenever (phase != "") do
      put "."
      put phase
    put "("
    level do
      if ← commentsOnLines source.span.start then indentation
      else whenever hasComment freshLine
      write source item
      optional options fun options => do
        put ","
        if hasComment then freshLine else blank
        write options item
      whenever hasComment do
        if !(← commentsOnLines final) then newline
    put ")"

/-! ## Members -/

/-- Separates a point from a number right before it that it would extend. -/
def separateNumber : Printing := do
  let p ← get
  whenever (p.numberEnd != 0 && p.numberEnd == p.length) blank

/-- A name behind a point. A private name, which no number has, stands right behind its point. -/
def member (write : Write) (isOptional isPrivate : Bool) (place : Place) (n : Node) : Printing := do
  write (n.child 0) { precedence := .postfixed, forbidsCall := place.forbidsCall }
  if isOptional then put "?."
  else
    whenever (!isPrivate) separateNumber
    put "."
  write (n.child 1) {}

/-- The expression is the name `let`, with marks of types behind it or not. -/
def isLet : Node → Bool
  | .mk (.reference name) _ _ => name == "let"
  | .mk .parenthesized _ [e] => isLet e
  | .mk .asType _ [e, _] => isLet e
  | .mk .satisfiesType _ [e, _] => isLet e
  | .mk .nonNull _ [e] => isLet e
  | .mk .instantiation _ [e, _] => isLet e
  | _ => false

/-- An expression in brackets behind an object. The name `let` before a bracket would open a
declaration. -/
def index (write : Write) (isOptional : Bool) (place : Place) (n : Node) : Printing := do
  wrapped (isLet (n.child 0)) do
    write (n.child 0) { precedence := .postfixed, forbidsCall := place.forbidsCall }
  whenever isOptional (put "?.")
  put "["
  write (n.child 1) {}
  put "]"

/-! ## Operators -/

def isAndOr : Node → Bool
  | .mk (.logical .and) _ _ => true
  | .mk (.logical .or) _ _ => true
  | _ => false

/-- An operator before its operand. -/
def isUnary : Node → Bool
  | .mk (.unary _) _ _ => true
  | _ => false

/-- The place of the left operand of an operator. All operators but the power group to the left;
`&&` and `||` cannot stand bare beside `??`, nor an operator before its operand to the left of a
power. -/
def leftPrecedence (p : Precedence) (operand : Node) : Precedence :=
  if p == .power then if isUnary operand.withoutParentheses then .call else .power
  else if p == .coalesce && isAndOr operand.withoutParentheses then .unary
  else p.looser

/-- The place of the right operand. Logical operators may group to the right too. -/
def rightPrecedence (p : Precedence) (isLogical : Bool) (operand : Node) : Precedence :=
  if p == .coalesce && isAndOr operand.withoutParentheses then .unary
  else if isLogical || p == .power then p.looser
  else p

/-- Two operands with an operator between them. -/
def infixed (write : Write) (text : String) (p : Precedence) (isIn isLogical : Bool) (place : Place)
    (n : Node) : Printing := do
  let wrap := place.precedence.atLeast p || (isIn && place.forbidsIn)
  let forbidsIn := place.forbidsIn && !wrap
  let place := { place with forbidsIn := forbidsIn }
  wrapped wrap do
    write (n.child 0) (place.withPrecedence (leftPrecedence p (n.child 0)))
    blank
    put text
    blank
    write (n.child 1) { precedence := rightPrecedence p isLogical (n.child 1), forbidsIn := forbidsIn }

/-- The question whether an object has a private name. Its object is written like one that stands
where `in` would end the statement. -/
def privateIn (write : Write) (place : Place) (n : Node) : Printing :=
  wrapped (place.precedence.atLeast .power) do
    write (n.child 0) {}
    put " in "
    write (n.child 1) { precedence := .equals, forbidsIn := true }

/-- An operator before its operand. A number that is written as the name `Infinity` cannot be deleted as
one. -/
def unary (write : Write) (op : UnaryOp) (place : Place) (n : Node) : Printing :=
  wrapped (place.precedence.atLeast .unary) do
    if op.isWord then
      word op.text
      blank
    else operator (.unary op) op.text
    let isName := op == .delete && isInfinite (n.child 0)
    whenever isName (put "(0, ")
    write (n.child 0) (place.withPrecedence .power)
    whenever isName (put ")")

def update (write : Write) (op : UpdateOp) (isLeading : Bool) (place : Place) (n : Node) : Printing :=
  if isLeading then
    wrapped (place.precedence.atLeast .unary) do
      operator (.update op) op.text
      write (n.child 0) (place.withPrecedence .unary)
  else
    wrapped (place.precedence.atLeast .postfixed) do
      separateOperator (.update op)
      write (n.child 0) (place.withPrecedence .postfixed)
      put op.text
      modify fun p => { p with operator := some (.update op), operatorEnd := p.length }

/-- An assignment to an object of targets must not begin with its brace. -/
def assignment (write : Write) (op : AssignOp) (place : Place) (n : Node) : Printing := do
  let p ← get
  let opensBlock := (n.child 0).kind == .objectTarget
    && (p.statementStart == p.length || p.arrowStart == p.length)
  wrapped (opensBlock || place.precedence.atLeast .assign) do
    write (n.child 0) place.item
    blank
    put op.text
    blank
    write (n.child 1) place.item

def conditional (write : Write) (place : Place) (n : Node) : Printing := do
  let wrap := place.precedence.atLeast .conditional
  let forbidsIn := place.forbidsIn && !wrap
  wrapped wrap do
    write (n.child 0) { precedence := .conditional, forbidsIn := forbidsIn }
    put " ? "
    write (n.child 1) { precedence := .yield }
    put " : "
    write (n.child 2) { precedence := .yield, forbidsIn := forbidsIn }

def yieldExpression (write : Write) (isDelegate : Bool) (place : Place) (n : Node) : Printing :=
  wrapped (place.precedence.atLeast .assign) do
    word "yield"
    whenever isDelegate (put "*")
    optional (n.child 0) fun e => do
      blank
      write e { precedence := .yield }

/-- An expression with a type behind a word. -/
def typeAssertion (write : Write) (text : String) (place : Place) (n : Node) : Printing :=
  wrapped (place.precedence.atLeast .compare) do
    write (n.child 0) (place.withPrecedence .power)
    put text
    write (n.child 1) place.inner

/-- An expression. -/
def expression (write : Write) (n : Node) (place : Place) : Printing :=
  match n.kind with
  | .reference name | .binding name => word name
  | .name text => put text
  | .privateName text => do
    put "#"
    put text
  | .stringLiteral value hasLone => stringLiteral value hasLone
  | .numberLiteral value written => number value written place
  | .bigintLiteral value => bigint value
  | .booleanLiteral true => word "true"
  | .booleanLiteral false => word "false"
  | .nullLiteral => word "null"
  | .regexpLiteral pattern flags => regexp pattern flags
  | .template pieces => template pieces n.children (write · {})
  | .taggedTemplate => do
    write (n.child 0) { precedence := .postfixed }
    write (n.child 1) {}
    write (n.child 2) {}
  | .thisExpression => word "this"
  | .superExpression => word "super"
  | .array => array write n.children
  | .spread => do
    put "..."
    write (n.child 0) item
  | .object => object write n place
  | .property form wasShorthand isComputed =>
    property write form wasShorthand isComputed (n.child 0) (n.child 1) place
  | .function form => function write form n place
  | .arrow form => arrow write form place n
  | .classNode form => classNode write form n place
  | .member isOptional => member write isOptional false place n
  | .privateMember isOptional => member write isOptional true place n
  | .index isOptional => index write isOptional place n
  | .chain => wrapped (place.precedence.atLeast .postfixed) (write (n.child 0) place)
  | .call isOptional isPure => call write isOptional isPure place n
  | .new isPure => newCall write isPure place n
  | .importCall phase => importCall write phase place n
  | .metaProperty left right => do
    word left
    put "."
    put right
  | .unary op => unary write op place n
  | .update op isLeading => update write op isLeading place n
  | .binary op => infixed write op.text op.precedence (op == .memberOf) false place n
  | .privateIn => privateIn write place n
  | .logical op => infixed write op.text op.precedence false true place n
  | .assignment op => assignment write op place n
  | .conditional => conditional write place n
  | .sequence =>
    wrapped (place.precedence.atLeast .comma)
      (list n.children (write · place.allowingCall.inner))
  | .await =>
    wrapped (place.precedence.atLeast .unary) do
      word "await "
      write (n.child 0) (place.withPrecedence .power)
  | .yield isDelegate => yieldExpression write isDelegate place n
  | .parenthesized => write (n.child 0) place
  | .asType => typeAssertion write " as " place n
  | .satisfiesType => typeAssertion write " satisfies " place n
  | .nonNull => do
    wrapped ((n.child 0).kind == .parenthesized) (write (n.child 0) place)
    put "!"
  | .instantiation => do
    write (n.child 0) place
    write (n.child 1) place.inner
  | _ => pure ()

end TypedJsx.Printing
