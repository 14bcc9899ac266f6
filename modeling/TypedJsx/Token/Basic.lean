import TypedJsx.Comment
import TypedJsx.Tree.Node
import TypedJsx.Text.Basic
/-!
Punctuators, and the longest one at the start of a text; and tokens. Words of the language are told from other
names, because a message names a word by itself and any other name as `Identifier`; whether a word may be used
as a name is a question of the grammar.
-/
namespace TypedJsx

inductive Punctuator where
  | openBrace | closeBrace | openParen | closeParen | openBracket | closeBracket
  | dot | ellipsis | semicolon | comma | atSign
  | less | lessEqual | greater | greaterEqual
  | equal | notEqual | strictEqual | strictNotEqual
  | plus | minus | star | slash | percent | power
  | increment | decrement
  | shiftLeft | shiftRight | shiftRightZero
  | ampersand | pipe | caret | bang | tilde
  | andAnd | orOr | question | questionDot | coalesce | colon
  | assign | plusAssign | minusAssign | starAssign | slashAssign | percentAssign | powerAssign
  | shiftLeftAssign | shiftRightAssign | shiftRightZeroAssign
  | ampersandAssign | pipeAssign | caretAssign
  | andAssign | orAssign | coalesceAssign
  | arrow
deriving DecidableEq, Repr, Inhabited

namespace Punctuator

def text : Punctuator → String
  | openBrace => "\x7b"
  | closeBrace => "\x7d"
  | openParen => "("
  | closeParen => ")"
  | openBracket => "["
  | closeBracket => "]"
  | dot => "."
  | ellipsis => "..."
  | semicolon => ";"
  | comma => ","
  | atSign => "@"
  | less => "<"
  | lessEqual => "<="
  | greater => ">"
  | greaterEqual => ">="
  | equal => "=="
  | notEqual => "!="
  | strictEqual => "==="
  | strictNotEqual => "!=="
  | plus => "+"
  | minus => "-"
  | star => "*"
  | slash => "/"
  | percent => "%"
  | power => "**"
  | increment => "++"
  | decrement => "--"
  | shiftLeft => "<<"
  | shiftRight => ">>"
  | shiftRightZero => ">>>"
  | ampersand => "&"
  | pipe => "|"
  | caret => "^"
  | bang => "!"
  | tilde => "~"
  | andAnd => "&&"
  | orOr => "||"
  | question => "?"
  | questionDot => "?."
  | coalesce => "??"
  | colon => ":"
  | assign => "="
  | plusAssign => "+="
  | minusAssign => "-="
  | starAssign => "*="
  | slashAssign => "/="
  | percentAssign => "%="
  | powerAssign => "**="
  | shiftLeftAssign => "<<="
  | shiftRightAssign => ">>="
  | shiftRightZeroAssign => ">>>="
  | ampersandAssign => "&="
  | pipeAssign => "|="
  | caretAssign => "^="
  | andAssign => "&&="
  | orAssign => "||="
  | coalesceAssign => "??="
  | arrow => "=>"

/-- The longest punctuator a text starts with, and the text after it. A `>` is always read alone,
because it may close type arguments or a tag; `?.` before a digit is a question mark. -/
def read? : List Char → Option (Punctuator × List Char)
  | '{' :: r => some (openBrace, r)
  | '}' :: r => some (closeBrace, r)
  | '(' :: r => some (openParen, r)
  | ')' :: r => some (closeParen, r)
  | '[' :: r => some (openBracket, r)
  | ']' :: r => some (closeBracket, r)
  | '.' :: '.' :: '.' :: r => some (ellipsis, r)
  | '.' :: r => some (dot, r)
  | ';' :: r => some (semicolon, r)
  | ',' :: r => some (comma, r)
  | '@' :: r => some (atSign, r)
  | '<' :: '<' :: '=' :: r => some (shiftLeftAssign, r)
  | '<' :: '<' :: r => some (shiftLeft, r)
  | '<' :: '=' :: r => some (lessEqual, r)
  | '<' :: r => some (less, r)
  | '>' :: r => some (greater, r)
  | '=' :: '=' :: '=' :: r => some (strictEqual, r)
  | '=' :: '=' :: r => some (equal, r)
  | '=' :: '>' :: r => some (arrow, r)
  | '=' :: r => some (assign, r)
  | '!' :: '=' :: '=' :: r => some (strictNotEqual, r)
  | '!' :: '=' :: r => some (notEqual, r)
  | '!' :: r => some (bang, r)
  | '+' :: '+' :: r => some (increment, r)
  | '+' :: '=' :: r => some (plusAssign, r)
  | '+' :: r => some (plus, r)
  | '-' :: '-' :: r => some (decrement, r)
  | '-' :: '=' :: r => some (minusAssign, r)
  | '-' :: r => some (minus, r)
  | '*' :: '*' :: '=' :: r => some (powerAssign, r)
  | '*' :: '*' :: r => some (power, r)
  | '*' :: '=' :: r => some (starAssign, r)
  | '*' :: r => some (star, r)
  | '/' :: '=' :: r => some (slashAssign, r)
  | '/' :: r => some (slash, r)
  | '%' :: '=' :: r => some (percentAssign, r)
  | '%' :: r => some (percent, r)
  | '&' :: '&' :: '=' :: r => some (andAssign, r)
  | '&' :: '&' :: r => some (andAnd, r)
  | '&' :: '=' :: r => some (ampersandAssign, r)
  | '&' :: r => some (ampersand, r)
  | '|' :: '|' :: '=' :: r => some (orAssign, r)
  | '|' :: '|' :: r => some (orOr, r)
  | '|' :: '=' :: r => some (pipeAssign, r)
  | '|' :: r => some (pipe, r)
  | '^' :: '=' :: r => some (caretAssign, r)
  | '^' :: r => some (caret, r)
  | '~' :: r => some (tilde, r)
  | '?' :: '?' :: '=' :: r => some (coalesceAssign, r)
  | '?' :: '?' :: r => some (coalesce, r)
  | '?' :: '.' :: d :: r =>
    if '0' ≤ d && d ≤ '9' then some (question, '.' :: d :: r) else some (questionDot, d :: r)
  | '?' :: '.' :: [] => some (questionDot, [])
  | '?' :: r => some (question, r)
  | ':' :: r => some (colon, r)
  | _ => none

/-- The longest operator at a `>`: one of `>`, `>=`, `>>`, `>>=`, `>>>` and `>>>=`. -/
def readAngle : List Char → Punctuator × List Char
  | '>' :: '>' :: '>' :: '=' :: r => (shiftRightZeroAssign, r)
  | '>' :: '>' :: '>' :: r => (shiftRightZero, r)
  | '>' :: '>' :: '=' :: r => (shiftRightAssign, r)
  | '>' :: '>' :: r => (shiftRight, r)
  | '>' :: '=' :: r => (greaterEqual, r)
  | r => (greater, r.drop 1)

end Punctuator

/-! ## Tokens -/

/-- Words that no name may be. -/
def reservedWords : List String :=
  ["break", "case", "catch", "class", "const", "continue", "debugger", "default", "delete", "do",
    "else", "enum", "export", "extends", "false", "finally", "for", "function", "if", "import", "in",
    "instanceof", "new", "null", "return", "super", "switch", "this", "throw", "true", "try",
    "typeof", "var", "void", "while", "with"]

/-- Words with a meaning in some places that may be names elsewhere. -/
def contextualWords : List String :=
  ["await", "async", "from", "get", "meta", "of", "set", "target", "accessor", "source", "defer",
    "abstract", "as", "asserts", "assert", "any", "boolean", "constructor", "declare", "infer",
    "intrinsic", "is", "keyof", "module", "namespace", "never", "out", "readonly", "require",
    "number", "object", "satisfies", "string", "symbol", "type", "undefined", "unique", "using",
    "unknown", "global", "bigint", "override", "implements", "interface", "let", "package",
    "private", "protected", "public", "static", "yield"]

inductive TokenKind where
  | endOfText
  /-- Text that is no token; the reader has said why. -/
  | invalid
  | name
  | word
  | punctuator (p : Punctuator)
  | string
  /-- `form` is how messages call it. -/
  | number (value : Numeral) (form : String)
  | bigint (value : Nat) (form : String)
  | privateName
  /-- A piece of a template: `opens` after the first quote, `closes` before the last. -/
  | template (opens closes : Bool)
  | jsxText
deriving DecidableEq, Repr, Inhabited

structure Token where
  kind : TokenKind
  start : Nat
  stop : Nat
  /-- A line ends between the token before and this one. -/
  newlineBefore : Bool := false
  /-- The name, the value of a string or the text of a template piece. -/
  value : String := ""
  /-- A name or word with an escape in it, a string with an unpaired surrogate, or a piece of a template
  with an escape that is not well formed. -/
  marked : Bool := false
  /-- What a comment right before the token says of the code that begins with it. -/
  note : Annotation := {}
deriving Inhabited

namespace Token

def span (t : Token) : Span := ⟨t.start, t.stop⟩

def isPunctuator (t : Token) (p : Punctuator) : Bool := t.kind == .punctuator p

def isWord (t : Token) (w : String) : Bool := t.kind == .word && t.value == w

def isEnd (t : Token) : Bool := t.kind == .endOfText

/-- No more tokens can be read here. -/
def isStop (t : Token) : Bool := t.kind == .endOfText || t.kind == .invalid

/-- A name or any word, reserved or not. -/
def isIdentifierName (t : Token) : Bool := t.kind == .name || t.kind == .word

/-- A word that no name may be. -/
def isReserved (t : Token) : Bool := t.kind == .word && reservedWords.contains t.value

/-- A token that may bind or refer to something. -/
def isIdentifier (t : Token) : Bool := t.isIdentifierName && !t.isReserved

/-- How a message calls the token. -/
def describe (t : Token) : String :=
  match t.kind with
  | .endOfText => "EOF"
  | .invalid => "Unknown"
  | .name => "Identifier"
  | .word => t.value
  | .punctuator p => p.text
  | .string => "string"
  | .number _ form => form
  | .bigint _ form => form
  | .privateName => "#identifier"
  | .template true true => "$\x7b\x7d"
  | .template true false => "$\x7b"
  | .template false false => "$\x7bexpr\x7d"
  | .template false true => "\x7d"
  | .jsxText => "jsx"

end Token

end TypedJsx
