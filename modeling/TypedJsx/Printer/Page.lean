import TypedJsx.Comment
import TypedJsx.Text.IdentifierChar
import TypedJsx.Tree.Node
import TypedJsx.Text.Basic
/-!
The page that code is written on: the text so far, the indentation of the next line, and the places
whose meaning depends on what is written right after them. Writing is a function on pages, and what a
node needs to know of its surroundings is its `Place`.

A group of comments is written before the code it leads; a comment keeps its own line if it had one, and
code follows a comment on the same line only if it did so before.
-/
namespace TypedJsx

/-- An operator as the character before the next token. -/
inductive WrittenOp where
  | unary (op : UnaryOp)
  | update (op : UpdateOp)
deriving DecidableEq, Repr, Inhabited

structure Page where
  /-- The text, its last character first. -/
  reversed : List Char := []
  length : Nat := 0
  indent : Nat := 0
  /-- The next indentation is one blank: the code goes on behind what stands on the line. -/
  continues : Bool := false
  /-- Where the last statement began. -/
  statementStart : Nat := 0
  /-- Where the last expression that is the body of an arrow function began. -/
  arrowStart : Nat := 0
  /-- Where the last default export began. -/
  exportStart : Nat := 0
  /-- Where the last operator ended, and which it was. -/
  operatorEnd : Nat := 0
  operator : Option WrittenOp := none
  /-- Where the last regular expression ended. -/
  regexpEnd : Nat := 0
  /-- Where the last number ended that a point would extend. -/
  numberEnd : Nat := 0
  /-- Leading comments that are not yet written. -/
  comments : List Comment := []
deriving Inhabited

/-- What a node has to know of the place it is written at. -/
structure Place where
  /-- An expression that binds no tighter than this is put in parentheses. -/
  precedence : Precedence := .lowest
  /-- The operator `in` would end the start of a `for` statement. -/
  forbidsIn : Bool := false
  /-- A call would end the callee of `new`. -/
  forbidsCall : Bool := false
  /-- A number is a part of a type, where it is kept as it is written. -/
  inType : Bool := false
deriving Inhabited

/-- The same place for an operand of the given precedence. -/
def Place.withPrecedence (place : Place) (p : Precedence) : Place := { place with precedence := p }

/-- The place of code that is a part of what stands at a place. -/
def Place.inner (place : Place) : Place := place.withPrecedence .lowest

/-- The place of an item between commas. -/
def Place.item (place : Place) : Place := place.withPrecedence .comma

/-- The same place inside of code that keeps its calls together. -/
def Place.allowingCall (place : Place) : Place := { place with forbidsCall := false }

/-- The place of a part of a type. -/
def Place.type (place : Place) : Place := { place.inner with inType := true }

abbrev Printing := StateM Page Unit

/-- How to write the parts of a node. -/
abbrev Write := Node → Place → Printing

namespace Page

/-- The text of a page. -/
def text (p : Page) : List Char := p.reversed.reverse

def append (p : Page) (cs : List Char) : Page :=
  { p with reversed := cs.foldl (fun r c => c :: r) p.reversed, length := p.length + cs.length }

end Page

namespace Printing

def chars (cs : List Char) : Printing := modify fun p => p.append cs

def put (s : String) : Printing := chars s.toList

def blank : Printing := put " "

def newline : Printing := put "\n"

/-- Begins the text of a line. -/
def indentation : Printing := do
  let p ← get
  if p.continues then
    blank
    modify fun p => { p with continues := false }
  else chars (List.replicate p.indent '\t')

/-- Writes something one level deeper. -/
def indented (body : Printing) : Printing := do
  modify fun p => { p with indent := p.indent + 1 }
  body
  modify fun p => { p with indent := p.indent - 1 }

/-- A new line with its indentation. -/
def freshLine : Printing := do
  newline
  indentation

/-- Does something, unless there is nothing to do. -/
def whenever (condition : Bool) (body : Printing) : Printing :=
  if condition then body else pure ()

/-- Parentheses around something, if they are needed. -/
def wrapped (condition : Bool) (body : Printing) : Printing :=
  if condition then do
    put "("
    body
    put ")"
  else body

/-- Separates a word from a name or regular expression right before it. -/
def separateWord : Printing := do
  let p ← get
  match p.reversed with
  | [] => pure ()
  | c :: _ => whenever (isIdentifierPart c || p.regexpEnd == p.length) blank

/-- A word that must not run into what stands before it. -/
def word (s : String) : Printing := do
  separateWord
  put s

/-- Two operators that would be read as one. -/
def WrittenOp.clash : WrittenOp → WrittenOp → Bool
  | .unary .plus, .unary .plus => true
  | .unary .plus, .update .increment => true
  | .unary .minus, .unary .minus => true
  | .unary .minus, .update .decrement => true
  | _, _ => false

/-- Separates an operator from one right before it that it would be read with. -/
def separateOperator (next : WrittenOp) : Printing := do
  let p ← get
  match p.operator with
  | some previous => whenever (p.operatorEnd == p.length && WrittenOp.clash previous next) blank
  | none => pure ()

/-- An operator before its operand. -/
def operator (op : WrittenOp) (text : String) : Printing := do
  separateOperator op
  put text
  modify fun p => { p with operator := some op, operatorEnd := p.length }

/-- The end of a statement. -/
def endStatement : Printing := put ";\n"

/-- Writes the items of a list with something between them. -/
def separated {α : Type} (item : α → Printing) (separator : Printing) : List α → Printing
  | [] => pure ()
  | [a] => item a
  | a :: rest => do
    item a
    separator
    separated item separator rest

/-- Items with commas between them. -/
def list {α : Type} (items : List α) (item : α → Printing) : Printing :=
  separated item (put ", ") items

/-- Each item in turn. -/
def each {α : Type} (items : List α) (item : α → Printing) : Printing :=
  separated item (pure ()) items

/-- Braces around something, on lines of its own unless it is nothing. -/
def braces (isEmpty : Bool) (body : Printing) : Printing := do
  put "\x7b"
  if isEmpty then body
  else do
    newline
    indented body
    indentation
  put "\x7d"

/-! ## Comments -/

/-- Whether comments wait to be written at an offset. -/
def hasComments (offset : Nat) : StateM Page Bool :=
  return (← get).comments.any fun c => c.attachedTo == offset

/-- Takes the comments of an offset. -/
def takeComments (offset : Nat) : StateM Page (List Comment) := do
  let (found, rest) := (← get).comments.partition fun c => c.attachedTo == offset
  modify fun p => { p with comments := rest }
  return found


/-- The text without a way to end a script element of a web page. -/
def escapeScript : List Char → List Char
  | [] => []
  | '<' :: '/' :: r =>
    if (r.take 6).map asciiLower == "script".toList then '<' :: '\\' :: '/' :: escapeScript r
    else '<' :: '/' :: escapeScript r
  | c :: r => c :: escapeScript r

/-- The lines of a comment, ended by any line terminator of the language. -/
def commentLines : List Char → List (List Char)
  | [] => [[]]
  | '\r' :: '\n' :: r => [] :: commentLines r
  | c :: r =>
    if isLineEnd c then [] :: commentLines r
    else match commentLines r with
      | [] => [[c]]
      | l :: ls => (c :: l) :: ls

/-- A line of a comment, moved to the indentation unless it opens the comment. -/
def commentLine (line : List Char) : Printing := do
  whenever (!"/*".toList.isPrefixOf line) indentation
  chars (trimLeft line)
  whenever (!"*/".toList.isSuffixOf line) newline

def commentText (c : Comment) : Printing :=
  match commentLines (escapeScript c.text) with
  | [line] => chars line
  | lines => each lines commentLine

/-- The start of a group of comments. -/
def beginComments (first : Comment) : Printing := do
  if first.newlineBefore then
    match (← get).reversed with
    | [] => pure ()
    | '\n' :: _ => indentation
    | '\t' :: _ => pure ()
    | _ => freshLine
  else indentation

/-- What stands between two comments. -/
def betweenComments (next : Comment) : Printing :=
  if next.newlineBefore then freshLine
  else if next.isLegal then newline
  else blank

/-- The comments after the first one. -/
def restOfComments : List Comment → Printing
  | [] => pure ()
  | c :: rest => do
    betweenComments c
    commentText c
    restOfComments rest

/-- What follows a group of comments. -/
def endComments (last : Comment) : Printing :=
  if last.isLine || last.newlineAfter then newline
  else modify fun p => { p with continues := true }

/-- A group of comments. -/
def commentGroup : List Comment → Printing
  | [] => pure ()
  | first :: rest => do
    beginComments first
    commentText first
    restOfComments rest
    endComments (rest.getLast?.getD first)

/-- The comments that lead the code at an offset. -/
def commentsAt (offset : Nat) : Printing := do
  commentGroup (← takeComments offset)

/-- A blank before code that goes on behind a comment on its line. -/
def joined : Printing := do
  whenever (← get).continues blank
  modify fun p => { p with continues := false }

/-- The comments of code that goes on behind them. -/
def commentsInline (offset : Nat) : Printing := do
  if ← hasComments offset then
    commentsAt offset
    indentation

/-- The comments of an expression in a list, each on a line of its own; whether there are any. -/
def commentsOnLines (offset : Nat) : StateM Page Bool := do
  let found ← takeComments offset
  each found fun c => do
    freshLine
    commentText c
  if found.isEmpty then return false
  newline
  return true

end Printing

end TypedJsx
