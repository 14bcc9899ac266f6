import TypedJsx.Interface
import TypedJsx.Token.Reader
/-!
Keys of members, as the reader of tokens reads them. The two replacements of a quoted key come to one walk
over the name that puts a backslash before every backslash and every quote (`quotedKey_eq`), so each
character of the name is one unit of the string: what is read up to the closing quote is what was written
(`Lexeme.quoted_escaped`), and it decodes to the name (`Lexeme.decode_escaped`). Line ends are not escaped,
and a line end that stands for itself ends a string before its quote.

Main statement: a quoted key is one string whose value is the name just if the name holds no newline and no
carriage return.
-/
namespace TypedJsx

/-! ## Quoting -/

/-- A character between single quotes. -/
def escapedChar (c : Char) : List Char := if c = '\\' ∨ c = '\x27' then ['\\', c] else [c]

/-- A text between single quotes. -/
def escaped (text : List Char) : List Char := text.flatMap escapedChar

theorem escaped_cons (c : Char) (text : List Char) : escaped (c :: text) = escapedChar c ++ escaped text :=
  List.flatMap_cons

theorem escapedChar_cases (c : Char) :
    (c = '\\' ∨ c = '\x27') ∧ escapedChar c = ['\\', c]
      ∨ (c ≠ '\\' ∧ c ≠ '\x27') ∧ escapedChar c = [c] := by
  unfold escapedChar
  by_cases special : c = '\\' ∨ c = '\x27'
  · exact .inl ⟨special, if_pos special⟩
  · exact .inr ⟨not_or.mp special, if_neg special⟩

/-- The second replacement leaves alone what the first one writes. -/
theorem quotedKey_eq (name : List Char) : quotedKey name = '\x27' :: (escaped name ++ ['\x27']) := by
  have each : ∀ c : Char, replaceEach '\x27' ['\\', '\x27'] (if c == '\\' then ['\\', '\\'] else [c])
      = escapedChar c := by
    intro c
    rcases escapedChar_cases c with ⟨rfl | rfl, -⟩ | ⟨⟨backslash, quote⟩, plain⟩
    · rfl
    · rfl
    · simp [replaceEach, plain, backslash, quote]
  have all : replaceEach '\x27' ['\\', '\x27'] (replaceEach '\\' ['\\', '\\'] name) = escaped name :=
    calc replaceEach '\x27' ['\\', '\x27'] (replaceEach '\\' ['\\', '\\'] name)
        = name.flatMap fun c => replaceEach '\x27' ['\\', '\x27'] (if c == '\\' then ['\\', '\\'] else [c]) :=
          List.flatMap_assoc
      _ = escaped name := by simp only [each, escaped]
  rw [quotedKey, all]

/-! ## Reading -/

namespace Lexeme

variable {name : List Char}

theorem quoted_escaped (newline : '\n' ∉ name) (carriage : '\r' ∉ name) (rest : List Char) :
    quoted '\x27' (escaped name ++ '\x27' :: rest) = (escaped name, some rest) := by
  induction name with
  | nil => rfl
  | cons c name ih =>
    rw [List.mem_cons, not_or] at newline carriage
    have tail := ih newline.2 carriage.2
    rw [escaped_cons]
    rcases escapedChar_cases c with ⟨special, pair⟩ | ⟨⟨backslash, quote⟩, plain⟩
    · rw [pair]
      rcases special with rfl | rfl <;> simp [quoted, tail]
    · rw [plain]
      simp [quoted, tail, backslash, quote, Ne.symm newline.1, Ne.symm carriage.1]

/-- A line end among the characters ends the string before its closing quote. -/
theorem quoted_escaped_broken (broken : '\n' ∈ name ∨ '\r' ∈ name) (rest : List Char) :
    (quoted '\x27' (escaped name ++ rest)).2 = none := by
  induction name with
  | nil => simp at broken
  | cons c name ih =>
    rw [escaped_cons]
    by_cases lineEnd : c = '\n' ∨ c = '\r'
    · rcases lineEnd with rfl | rfl <;> rfl
    · have tail := ih (by simp only [List.mem_cons] at broken; grind)
      rcases escapedChar_cases c with ⟨special, pair⟩ | ⟨⟨backslash, quote⟩, plain⟩
      · rw [pair]
        rcases special with rfl | rfl <;> simp [quoted, tail]
      · rw [plain]
        simp [quoted, tail, backslash, quote, not_or.mp lineEnd]

theorem decode_escaped (name : List Char) : decode false (escaped name) = name.map CodeUnit.char := by
  -- the reader takes a pair in one step, so fuel for each written character is enough
  have run : ∀ fuel, (escaped name).length < fuel →
      decodeLoop false fuel (escaped name) = name.map CodeUnit.char := by
    induction name with
    | nil =>
      intro fuel enough
      cases fuel <;> rfl
    | cons c name ih =>
      intro fuel enough
      obtain ⟨fuel, rfl⟩ := Nat.exists_eq_succ_of_ne_zero (Nat.ne_zero_of_lt enough)
      rw [escaped_cons] at enough ⊢
      rcases escapedChar_cases c with ⟨special, pair⟩ | ⟨⟨backslash, quote⟩, plain⟩
      · rw [pair] at enough ⊢
        have tail := ih fuel (by simp at enough; omega)
        rcases special with rfl | rfl <;> simp [decodeLoop, escape, isLineEnd, octalValue?, tail]
      · rw [plain] at enough ⊢
        have tail := ih fuel (by simp at enough; omega)
        simp [decodeLoop, tail]
  exact run _ (Nat.lt_succ_self _)

theorem malformed_characters (name : List Char) : malformed (name.map CodeUnit.char) = [] := by
  simp [malformed]

theorem stringValue_characters (name : List Char) :
    stringValue (name.map CodeUnit.char) = (name, false) := by
  simp [stringValue, List.flatMap_map]

end Lexeme

namespace Reader

variable {name : List Char}

theorem read_quote (text : List Char) : read ('\x27' :: text) = readString '\x27' text := by
  have plain : isIdentifierStart '\x27' = false ∧ Lexeme.isDecimal '\x27' = false := by decide
  simp [read, plain]

theorem read_quotedKey (newline : '\n' ∉ name) (carriage : '\r' ∉ name) (rest : List Char) :
    read (quotedKey name ++ rest) = { kind := .string, rest := rest, value := String.ofList name } := by
  have split : quotedKey name ++ rest = '\x27' :: (escaped name ++ '\x27' :: rest) := by
    simp [quotedKey_eq]
  rw [split, read_quote]
  simp [readString, Lexeme.quoted_escaped newline carriage, Lexeme.decode_escaped,
    Lexeme.malformed_characters, Lexeme.stringValue_characters]

theorem read_quotedKey_broken (broken : '\n' ∈ name ∨ '\r' ∈ name) (rest : List Char) :
    (read (quotedKey name ++ rest)).kind = .invalid := by
  have split : quotedKey name ++ rest = '\x27' :: (escaped name ++ '\x27' :: rest) := by
    simp [quotedKey_eq]
  rw [split, read_quote]
  simp [readString, Lexeme.quoted_escaped_broken broken]

end Reader

/-! ## Keys -/

/-- The key of a member whose name is no identifier is read as one string with the name as its value, and
nothing of what follows, just if the name holds no newline and no carriage return. A key with a line end in
it is no token at all. -/
theorem quoted_key_denotes_name_iff {m : InterfaceMember} (quoted : isIdentifierName m.name.toList = false)
    (rest : List Char) :
    (Reader.read (m.key ++ rest) = { kind := .string, rest := rest, value := m.name } ↔
        '\n' ∉ m.name.toList ∧ '\r' ∉ m.name.toList)
      ∧ ('\n' ∈ m.name.toList ∨ '\r' ∈ m.name.toList →
        (Reader.read (m.key ++ rest)).kind = .invalid) := by
  have key : m.key = quotedKey m.name.toList := by
    simp [InterfaceMember.key, quoted]
  rw [key]
  have broken := fun h => @Reader.read_quotedKey_broken m.name.toList h rest
  refine ⟨⟨fun isString => not_or.mp fun lineEnd => ?_, fun ⟨newline, carriage⟩ => ?_⟩, broken⟩
  · have invalid := broken lineEnd
    rw [isString] at invalid
    cases invalid
  · rw [Reader.read_quotedKey newline carriage, String.ofList_toList]

/-- A prop whose name is of two lines. -/
def twoLineMember : InterfaceMember where
  name := "first\nsecond"
  type := "string"
  isOptional := true

/-- Its key stands for no name: the string is cut by the newline. -/
theorem two_line_key_broken :
    isIdentifierName twoLineMember.name.toList = false
      ∧ Reader.read (twoLineMember.key ++ "?: string;".toList)
        ≠ { kind := .string, rest := "?: string;".toList, value := twoLineMember.name }
      ∧ (Reader.read (twoLineMember.key ++ "?: string;".toList)).kind = .invalid := by
  have quoted : isIdentifierName twoLineMember.name.toList = false := by decide +kernel
  have newline : '\n' ∈ twoLineMember.name.toList := by decide +kernel
  have reading := quoted_key_denotes_name_iff quoted "?: string;".toList
  exact ⟨quoted, fun isString => (reading.1.mp isString).1 newline, reading.2 (.inl newline)⟩

end TypedJsx
