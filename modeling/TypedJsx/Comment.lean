import TypedJsx.Text.Basic
import TypedJsx.Tree.Node
/-!
Comments of a source text, and how each is tied to the code around it while tokens are read.

A comment on the line of the token before it may trail that token; every other comment leads the next
token, at whose start it is attached. `Trivia` is the reader's memory between two tokens: the comments
that are settled, the ones that still wait for the next token, and whether a line has ended since the
last one.

Only comments that lead something are printed, so a comment that trails, or that stands at or in a statement
that was taken out, is made to lead a statement that is still there: a trailing comment the one that it closes,
else the next one; a comment of a removed statement the next one. After the last statement, it leads the end of
the program.
-/
namespace TypedJsx

inductive CommentPlace where
  | leading | trailing
deriving DecidableEq, Repr, Inhabited

structure Comment where
  span : Span
  /-- The comment as it is written, with its marks. -/
  text : List Char
  isLine : Bool
  place : CommentPlace := .trailing
  /-- The offset of the code it leads; zero for a trailing comment. -/
  attachedTo : Nat := 0
  newlineBefore : Bool := false
  newlineAfter : Bool := false
deriving DecidableEq, Repr, Inhabited

namespace Comment

def isLeading (c : Comment) : Bool := c.place == .leading

def isTrailing (c : Comment) : Bool := c.place == .trailing

/-- The same comment, leading the code at `offset`. -/
def leadTo (c : Comment) (offset : Nat) : Comment :=
  { c with place := .leading, attachedTo := offset }

end Comment

/-- Whether `word` occurs in a text. -/
def occursIn (word : List Char) : List Char → Bool
  | [] => word.isEmpty
  | c :: cs => word.isPrefixOf (c :: cs) || occursIn word cs

/-! ## Annotations -/

/-- What comments say of the code behind them: that a call or `new` has no effect if its value is not
used, or that calls of a function have none. -/
structure Annotation where
  isPure : Bool := false
  hasNoEffects : Bool := false
deriving DecidableEq, Repr, Inhabited

def Annotation.and (a b : Annotation) : Annotation :=
  ⟨a.isPure || b.isPure, a.hasNoEffects || b.hasNoEffects⟩

def isAsciiBlank (c : Char) : Bool := c == ' ' || c == '\t' || c == '\n' || c == '\r' || c == '\x0c'

/-- The text between the marks of a comment. -/
def Comment.content (c : Comment) : List Char :=
  let inner := c.text.drop 2
  if c.isLine then inner else inner.take (inner.length - 2)

/-- A comment that documents what follows it: one that opens with a second star and does not consist of
stars alone. -/
def Comment.isDocumentation (c : Comment) : Bool :=
  !c.isLine && c.content.head? == some '*' && c.content.any (· != '*')

/-! ## Notices -/

/-- Words that open a comment which tells a tool to leave code out of its count. -/
def coverageMarks : List String := ["v8 ignore", "c8 ignore", "node:coverage", "istanbul ignore"]

/-- A comment that speaks to a bundler: the rest of its word begins with a capital. -/
def isBundlerMark (content : List Char) : Bool :=
  "webpack".toList.isPrefixOf content
    && (content.drop 7).head?.any fun c => 'A' ≤ c && c ≤ 'Z'

/-- A comment that speaks to a tool about the code behind it. -/
def Comment.isInstruction (c : Comment) : Bool :=
  let content := c.content.dropWhile isAsciiBlank
  "@vite".toList.isPrefixOf content || isBundlerMark content
    || coverageMarks.any fun mark => mark.toList.isPrefixOf content

/-- A comment that must be kept with the code: one that opens with `!`, or that names a licence and
does not speak to a tool. -/
def Comment.isLegal (c : Comment) : Bool :=
  c.content.head? == some '!'
    || !c.isInstruction
      && (occursIn "@license".toList c.text || occursIn "@preserve".toList c.text)

/-! ## What a comment says of a call -/

/-- The annotation that a comment is. It may say more behind the word. -/
def Comment.annotation (c : Comment) : Annotation :=
  if c.isDocumentation then {}
  else match c.content.dropWhile isAsciiBlank with
    | sign :: word =>
      if sign == '@' || sign == '#' then
        ⟨"__PURE__".toList.isPrefixOf word, "__NO_SIDE_EFFECTS__".toList.isPrefixOf word⟩
      else {}
    | [] => {}

def Comment.isAnnotation (c : Comment) : Bool := c.annotation != {}

/-! ## Reading comments between tokens -/

structure Trivia where
  /-- Comments whose place is known, the newest first. -/
  settled : List Comment := []
  /-- Comments that wait for the next token, the newest first. -/
  waiting : List Comment := []
  /-- A line has ended since the last token. -/
  sawNewline : Bool := true
  /-- A line has ended since the last token or comment. -/
  onFreshLine : Bool := true
  /-- The last token was `=` or `(`, after which a line comment leads. -/
  afterOpener : Bool := false
deriving Inhabited

namespace Trivia

/-- All comments in the order in which they were read. -/
def comments (t : Trivia) : List Comment := (t.waiting ++ t.settled).reverse

/-- What the comments from an offset on say together. -/
def annotationFrom (t : Trivia) (offset : Nat) : Annotation :=
  let recent := t.waiting.takeWhile (offset ≤ ·.span.start) ++ t.settled.takeWhile (offset ≤ ·.span.start)
  recent.foldl (fun a c => a.and c.annotation) {}

/-- Comments that wait trail the token before them. -/
def settle (t : Trivia) : Trivia :=
  { t with settled := t.waiting ++ t.settled, waiting := [] }

/-- A line ends. Comments on the line of the last token trail it. -/
def newline (t : Trivia) : Trivia :=
  match t.waiting with
  | [] => { t with sawNewline := true, onFreshLine := true }
  | c :: cs =>
    let marked := { t with waiting := { c with newlineAfter := true } :: cs, onFreshLine := true }
    if t.sawNewline then marked else { marked.settle with sawNewline := true }

/-- A comment over several lines. -/
def addBlock (t : Trivia) (span : Span) (text : List Char) : Trivia :=
  let c : Comment := { span := span, text := text, isLine := false, newlineBefore := t.onFreshLine }
  { t with waiting := c :: t.waiting, onFreshLine := false }

/-- A comment to the end of its line, which trails the last token unless that opens something. -/
def addLine (t : Trivia) (span : Span) (text : List Char) : Trivia :=
  let c : Comment :=
    { span := span, text := text, isLine := true, newlineBefore := t.onFreshLine, newlineAfter := true }
  let trails := !t.sawNewline && !t.afterOpener
  let t := { t with waiting := c :: t.waiting, sawNewline := true, onFreshLine := true }
  if trails then t.settle else t

/-- A token begins at `start`: the comments that wait lead it. -/
def token (t : Trivia) (start : Nat) (isOpener : Bool) : Trivia :=
  { settled := t.waiting.map (·.leadTo start) ++ t.settled
    waiting := []
    sawNewline := false
    onFreshLine := false
    afterOpener := isOpener }

end Trivia

/-! ## New places -/

mutual

/-- The spans of all statements in a tree that stand for source text. -/
def Node.statementSpans : Node → List Span
  | .mk k _ cs => statementSpansFrom k 0 cs

/-- The statements among and in the children of a node, from position `i` on. -/
def statementSpansFrom (k : Kind) (i : Nat) : List Node → List Span
  | [] => []
  | c :: cs =>
    (if k.holdsStatementAt i && !c.isDirective && !c.span.isEmpty then [c.span] else [])
      ++ c.statementSpans ++ statementSpansFrom k (i + 1) cs

end

/-- Spans in the order of their starts, then of their ends. -/
def Span.before (a b : Span) : Bool := a.start < b.start || (a.start == b.start && a.stop ≤ b.stop)

/-- Where comments can be placed. -/
structure Anchors where
  source : List Char
  /-- The statements, in order. -/
  statements : List Span
  /-- The end of the program. -/
  stop : Nat
deriving Inhabited

namespace Anchors

/-- The start of the first statement at or after an offset, else the end. -/
def next (a : Anchors) (offset : Nat) : Nat :=
  ((a.statements.find? fun s => offset ≤ s.start).map Span.start).getD a.stop

/-- The start of the outermost statement that ends on the line of a comment, right before it. -/
def closed? (a : Anchors) (comment : Span) : Option Nat := do
  let before := a.statements.filter fun s => s.stop ≤ comment.start
  let stop ← (before.map Span.stop).max?
  if (sliceBytes stop comment.start a.source).contains '\n' then none
  ((a.statements.filter fun s => s.stop == stop).map Span.start).min?

/-- The new place of a comment, if it needs one. -/
def target? (a : Anchors) (removed : List Span) (c : Comment) : Option Nat :=
  match removed.find? fun r => r.contains c.span with
  | some r => some (a.next r.stop)
  | none =>
    match removed.find? fun r => c.isLeading && c.attachedTo == r.start with
    | some r => some (a.next r.stop)
    | none =>
      if c.isTrailing then some ((a.closed? c.span).getD (a.next c.span.stop)) else none

/-- The comment at its new place, on a line of its own; unchanged if it needs none or an entry of a
prop declaration took it. -/
def place (a : Anchors) (removed absorbed : List Span) (c : Comment) : Comment :=
  if absorbed.contains c.span then c
  else match a.target? removed c with
    | some offset => { c.leadTo offset with newlineBefore := true, newlineAfter := true }
    | none => c

/-- Whether a comment gets a new place. -/
def moves (a : Anchors) (removed absorbed : List Span) (c : Comment) : Bool :=
  !absorbed.contains c.span && (a.target? removed c).isSome

end Anchors

/-- The anchors of a program. -/
def Node.anchors (program : Node) (source : List Char) : Anchors :=
  { source := source
    statements := program.statementSpans.mergeSort Span.before
    stop := program.span.stop }

end TypedJsx
