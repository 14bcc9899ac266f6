/-!
Kinds of characters: sets given by ranges of code points, each by its first and its last one; and blanks and
line ends. Of the latter three notions are in use: the Unicode property White_Space, by which text is trimmed;
the blanks of the language, which separate tokens; and its line terminators.

Byte offsets into a text in UTF-8, spans between them, and the positions that people know them by: lines and
columns from one on, where columns count characters and only a newline ends a line.
-/
namespace TypedJsx

/-- The value of a digit in base sixteen. -/
def hexValue? (c : Char) : Option Nat :=
  if '0' ≤ c && c ≤ '9' then some (c.toNat - '0'.toNat)
  else if 'a' ≤ c && c ≤ 'f' then some (c.toNat - 'a'.toNat + 10)
  else if 'A' ≤ c && c ≤ 'F' then some (c.toNat - 'A'.toNat + 10)
  else none

structure CharSet where
  ranges : List (Nat × Nat)

namespace CharSet

def containsCode (s : CharSet) (n : Nat) : Bool :=
  s.ranges.any fun r => r.1 ≤ n && n ≤ r.2

def contains (s : CharSet) (c : Char) : Bool := s.containsCode c.toNat

end CharSet

/-! ## Blanks and lines -/

/-- The Unicode property White_Space. -/
def isBlank (c : Char) : Bool :=
  let n := c.toNat
  (9 ≤ n && n ≤ 13) || n == 0x20 || n == 0x85 || n == 0xa0 || n == 0x1680
    || (0x2000 ≤ n && n ≤ 0x200a) || n == 0x2028 || n == 0x2029 || n == 0x202f
    || n == 0x205f || n == 0x3000

/-- A blank between tokens that does not end a line. -/
def isTokenBlank (c : Char) : Bool :=
  let n := c.toNat
  n == 9 || n == 11 || n == 12 || n == 0x20 || n == 0x85 || n == 0xa0 || n == 0x1680
    || (0x2000 ≤ n && n ≤ 0x200b) || n == 0x202f || n == 0x205f || n == 0x3000 || n == 0xfeff

/-- A character that ends a line of source text. -/
def isLineEnd (c : Char) : Bool :=
  c == '\n' || c == '\r' || c.toNat == 0x2028 || c.toNat == 0x2029

/-- The text without blanks at its start. -/
def trimLeft (cs : List Char) : List Char := cs.dropWhile isBlank

/-- The text without blanks at its end. -/
def trimRight (cs : List Char) : List Char := (cs.reverse.dropWhile isBlank).reverse

/-- The text without blanks at either end. -/
def trim (cs : List Char) : List Char := trimRight (trimLeft cs)

/-- The pieces between newlines; always at least one. -/
def splitNewlines : List Char → List (List Char)
  | [] => [[]]
  | c :: cs =>
    if c = '\n' then [] :: splitNewlines cs
    else match splitNewlines cs with
      | [] => [[c]]
      | l :: ls => (c :: l) :: ls

/-- A line without the carriage return that may end it. -/
def dropReturn (cs : List Char) : List Char :=
  match cs.reverse with
  | '\r' :: rest => rest.reverse
  | _ => cs

/-- The lines of a text. A newline ends a line, so text after the last newline is a line only when
it is not empty. A carriage return before the newline belongs to the line end. -/
def lines (cs : List Char) : List (List Char) :=
  let pieces := splitNewlines cs
  let ended := pieces.dropLast.map dropReturn
  match pieces.getLast? with
  | none | some [] => ended
  | some last => ended ++ [last]

/-- Lowercase of the letters A to Z, all else unchanged. -/
def asciiLower (c : Char) : Char :=
  if 'A' ≤ c && c ≤ 'Z' then Char.ofNat (c.toNat + 32) else c

/-! ## Offsets -/

/-- How many bytes a text takes. -/
def byteLength : List Char → Nat
  | [] => 0
  | c :: cs => c.utf8Size + byteLength cs

/-- How many bytes a text has before its end `rest`. -/
def bytesBefore (rest text : List Char) : Nat := byteLength (text.take (text.length - rest.length))

/-- What remains of a text after `n` bytes; a character cut by the offset is dropped. -/
def dropBytes : Nat → List Char → List Char
  | _, [] => []
  | n, c :: cs => if n = 0 then c :: cs else dropBytes (n - c.utf8Size) cs

/-- The characters that begin before byte `n`. -/
def takeBytes : Nat → List Char → List Char
  | _, [] => []
  | n, c :: cs => if n = 0 then [] else c :: takeBytes (n - c.utf8Size) cs

/-- The characters that end at or before byte `n`: the text before an offset, which inside a
character counts as the offset of that character. -/
def beforeByte : Nat → List Char → List Char
  | _, [] => []
  | n, c :: cs => if c.utf8Size ≤ n then c :: beforeByte (n - c.utf8Size) cs else []

/-- The text between two byte offsets. -/
def sliceBytes (start stop : Nat) (cs : List Char) : List Char :=
  takeBytes (stop - start) (dropBytes start cs)

/-! ## Spans -/

structure Span where
  start : Nat
  stop : Nat
deriving DecidableEq, Repr, Inhabited

/-- The span of nodes that no source text stands for. -/
def Span.none : Span := ⟨0, 0⟩

/-- A span that covers no text. -/
def Span.isEmpty (s : Span) : Bool := s.start == s.stop

/-- `inner` lies within `outer`. -/
def Span.contains (outer inner : Span) : Bool :=
  outer.start ≤ inner.start && inner.stop ≤ outer.stop

/-! ## Positions -/

structure Position where
  line : Nat
  column : Nat
deriving DecidableEq, Repr, Inhabited

/-- The position right behind a text. -/
def Position.after (text : List Char) : Position :=
  { line := text.count '\n' + 1
    column := (text.reverse.takeWhile (· != '\n')).length + 1 }

/-- The position of a byte offset; an offset past the end is taken as the end. -/
def Position.ofOffset (source : List Char) (offset : Nat) : Position :=
  Position.after (beforeByte offset source)

end TypedJsx
