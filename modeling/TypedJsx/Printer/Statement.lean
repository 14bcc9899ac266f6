import TypedJsx.Printer.Function
/-!
Statements on the page, each on lines of its own. A statement that is the body of another one goes on
behind it, on the same line.
-/
namespace TypedJsx.Printing

/-- The start of a statement: the comments that lead it, and its indentation. -/
def beginStatement (n : Node) : Printing := do
  commentsAt n.span.start
  indentation

/-- A declaration, which may also be written as a part of another statement. -/
def isDeclaration (n : Node) : Bool :=
  match n.kind with
  | .variableDeclaration _ _ | .interfaceDeclaration _ | .typeAlias _ | .enumDeclaration _ _
  | .moduleDeclaration _ _ | .importEquals _ => true
  | .function form => !form.isExpression
  | .classNode form => !form.isExpression
  | _ => false

/-- The start of a statement that writes its comments behind its indentation. -/
def beginInline (n : Node) : Printing := do
  indentation
  commentsAt n.span.start

/-- The start of a declaration on lines of its own. -/
def beginDeclaration (n : Node) : Printing :=
  match n.kind with
  | .interfaceDeclaration _ | .typeAlias _ | .importEquals _ => beginInline n
  | .function form => do
    commentsAt n.span.start
    whenever form.hasNoEffects do
      indentation
      put noEffects
      newline
    indentation
  | _ => beginStatement n

/-- What follows a declaration. -/
def endDeclaration (n : Node) : Printing :=
  match n.kind with
  | .variableDeclaration _ _ | .typeAlias _ | .importEquals _ => endStatement
  | .moduleDeclaration _ _ => if (n.child 1).isAbsent then endStatement else newline
  | _ => newline

/-- A statement on lines of its own. -/
def onLines (write : Write) (place : Place) (n : Node) : Printing :=
  if isDeclaration n then do
    beginDeclaration n
    write n place
    endDeclaration n
  else write n place

/-- Statements in braces. -/
def block (write : Write) (place : Place) (b : Node) : Printing :=
  braces b.children.isEmpty (each b.children (onLines write place))

def directive (n : Node) (raw : String) : Printing := do
  let quote := directiveQuote raw.toList
  beginStatement n
  put quote
  put raw
  put quote
  endStatement

/-- A string as an expression, which at the start of a list of statements would be a directive. -/
def looksLikeDirective : Node → Bool
  | .mk .expressionStatement _ [e] =>
    match e.withoutParentheses.kind with
    | .stringLiteral _ _ => true
    | _ => false
  | _ => false

/-- Directives and statements. A first statement that must not become a directive is put in
parentheses. -/
def statementList (write : Write) (place : Place) (items : List Node) : Printing :=
  match items with
  | first :: rest =>
    if looksLikeDirective first then do
      wrapped true (write (first.child 0) {})
      endStatement
      each rest (onLines write place)
    else each items (onLines write place)
  | [] => pure ()

/-- The body of a function. Comments before its closing brace are written there. -/
def functionBody (write : Write) (place : Place) (n : Node) : Printing := do
  let final ← if n.span.stop == 0 then pure [] else takeComments (n.span.stop - 1)
  let onOneLine := n.children.isEmpty && final.all fun c => !c.newlineBefore && !c.newlineAfter
  braces onOneLine do
    statementList write place n.children
    commentGroup final
    modify fun p => { p with continues := false }

/-- The statement that another one governs. -/
def governed (write : Write) (place : Place) (s : Node) : Printing :=
  match s.kind with
  | .block => do
    blank
    block write place s
    newline
  | .emptyStatement => endStatement
  | _ => do
    modify fun p => { p with continues := true }
    onLines write place s

/-- A statement that ends in an `if` without `else`, which would take the `else` behind it. -/
def endsInOpenIf : Node → Bool
  | .mk .ifStatement _ [_, _, alternative] =>
    match alternative with
    | .mk .absent _ _ => true
    | _ => endsInOpenIf alternative
  | .mk .forStatement _ [_, _, _, body] => endsInOpenIf body
  | .mk .forIn _ [_, _, body] => endsInOpenIf body
  | .mk (.forOf _) _ [_, _, body] => endsInOpenIf body
  | .mk .whileStatement _ [_, body] => endsInOpenIf body
  | .mk .withStatement _ [_, body] => endsInOpenIf body
  | .mk .labeled _ [_, body] => endsInOpenIf body
  | _ => false

/-- The branch of an `if` that is taken when the test holds. -/
def firstBranch (write : Write) (place : Place) (s : Node) (hasElse : Bool) : Printing :=
  let after := if hasElse then blank else newline
  if s.kind == .block then do
    blank
    block write place s
    after
  else if endsInOpenIf s then do
    put " \x7b\n"
    indented (onLines write place s)
    indentation
    put "\x7d"
    after
  else do
    governed write place s
    whenever hasElse indentation

/-- An `if` behind its indentation; an `else` may be followed by another one on its line. -/
def ifChain (write : Write) (place : Place) : Node → Printing
  | .mk .ifStatement _ [test, first, second] => do
    word "if ("
    write test {}
    put ")"
    firstBranch write place first second.isPresent
    match second with
    | .mk .absent _ _ => pure ()
    | .mk .ifStatement _ _ => do
      word "else "
      ifChain write place second
    | _ => do
      word "else"
      governed write place second
  | _ => pure ()

/-- A `for` statement over the items of something, of which the right side binds tighter than
`precedence`. The name `async` would open a function on the left. -/
def forEach (write : Write) (place : Place) (joint : String) (precedence : Precedence) (n : Node) :
    Printing := do
  put " ("
  wrapped ((n.child 0).kind == .reference "async") (write (n.child 0) { forbidsIn := true })
  blank
  put joint
  blank
  write (n.child 1) { precedence := precedence }
  put ")"
  governed write place (n.child 2)

def forLoop (write : Write) (place : Place) (n : Node) : Printing := do
  put "for ("
  write (n.child 0) { forbidsIn := true }
  put ";"
  optional (n.child 1) fun e => do
    blank
    write e {}
  put ";"
  optional (n.child 2) fun e => do
    blank
    write e {}
  put ")"
  governed write place (n.child 3)

/-- A case with one statement keeps it on its line. -/
def switchCase (write : Write) (place : Place) (n : Node) : Printing := do
  indentation
  if (n.child 0).isPresent then
    put "case "
    write (n.child 0) {}
  else put "default"
  put ":"
  match n.children.drop 1 with
  | [one] => governed write place one
  | many => do
    newline
    indented (each many (onLines write place))

def tryStatement (write : Write) (place : Place) (n : Node) : Printing := do
  put "try "
  block write place (n.child 0)
  optional (n.child 1) fun handler => do
    blank
    write handler place
  optional (n.child 2) fun final => do
    put " finally "
    block write place final
  newline

def catchClause (write : Write) (place : Place) (n : Node) : Printing := do
  commentsAt n.span.start
  put "catch"
  optional (n.child 0) fun parameter => do
    put " ("
    write parameter {}
    put ")"
  blank
  commentsAt (n.child 1).span.start
  joined
  block write place (n.child 1)

/-- A word with what may follow it. -/
def jump (write : Write) (text : String) (n : Node) : Printing := do
  word text
  optional (n.child 0) fun e => do
    blank
    write e {}
  endStatement

def declarator (write : Write) (isDefinite : Bool) (n : Node) (place : Place) : Printing := do
  write (n.child 0) place
  whenever isDefinite (put "!")
  typed write place (n.child 1)
  initial write place (n.child 2)

/-- A variable declaration without the semicolon. -/
def variableDeclaration (write : Write) (w : DeclarationWord) (isDeclare : Bool) (n : Node) (place : Place) :
    Printing := do
  whenever isDeclare (put "declare ")
  put w.text
  blank
  list n.children (write · place)

/-- A statement, or a part of one. -/
def statement (write : Write) (n : Node) (place : Place) : Printing := do
  match n.kind with
  | .directive raw => directive n raw
  | .functionBody => functionBody write place n
  | .block => do
    beginStatement n
    block write place n
    newline
  | .expressionStatement => do
    beginStatement n
    modify fun p => { p with statementStart := p.length }
    write (n.child 0) {}
    endStatement
  | .emptyStatement => do
    beginStatement n
    endStatement
  | .debuggerStatement => do
    beginStatement n
    put "debugger"
    endStatement
  | .ifStatement => do
    beginStatement n
    ifChain write place n
  | .forStatement => do
    beginStatement n
    forLoop write place n
  | .forIn => do
    beginStatement n
    put "for"
    forEach write place "in" .lowest n
  | .forOf isAwait => do
    beginStatement n
    put (if isAwait then "for await" else "for")
    forEach write place "of" .comma n
  | .whileStatement => do
    beginStatement n
    put "while ("
    write (n.child 0) {}
    put ")"
    governed write place (n.child 1)
  | .doWhileStatement => do
    beginStatement n
    put "do"
    if (n.child 0).kind == .block then
      blank
      block write place (n.child 0)
      blank
    else
      newline
      indented (onLines write place (n.child 0))
      indentation
    put "while ("
    write (n.child 1) {}
    put ")"
    endStatement
  | .returnStatement => do
    beginStatement n
    jump write "return" n
  | .throwStatement => do
    beginStatement n
    jump write "throw" n
  | .breakStatement => do
    beginStatement n
    jump write "break" n
  | .continueStatement => do
    beginStatement n
    jump write "continue" n
  | .switchStatement => do
    beginStatement n
    put "switch ("
    write (n.child 0) {}
    put ") "
    let cases := n.children.drop 1
    braces cases.isEmpty (each cases (write · place))
    newline
  | .switchCase => switchCase write place n
  | .labeled => do
    beginStatement n
    write (n.child 0) {}
    put ":"
    governed write place (n.child 1)
  | .tryStatement => do
    beginStatement n
    tryStatement write place n
  | .catchClause => catchClause write place n
  | .staticBlock => do
    put "static "
    block write place n
    newline
  | .catchParameter => write (n.child 0) {}
  | .withStatement => do
    beginStatement n
    put "with ("
    write (n.child 0) {}
    put ")"
    governed write place (n.child 1)
  | _ => pure ()

end TypedJsx.Printing
