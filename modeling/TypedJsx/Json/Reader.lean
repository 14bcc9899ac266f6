import TypedJsx.Json.Value
import TypedJsx.Number
import TypedJsx.Text.Basic
/-!
Reading JSON text. Offsets are byte offsets into the text.
-/
namespace TypedJsx.JsonText

/-- What is left of a text, and where it stands. -/
structure Rest where
  chars : List Char
  offset : Nat
deriving Inhabited

/-- The rest after `n` characters. -/
def Rest.drop (r : Rest) (n : Nat) : Rest :=
  ⟨r.chars.drop n, r.offset + byteLength (r.chars.take n)⟩

/-- The offset behind the next character, at which a fault of that character is reported. -/
def Rest.ahead (r : Rest) : Nat :=
  match r.chars with
  | [] => r.offset
  | _ => r.offset + 1

def isSpace (c : Char) : Bool := c == ' ' || c == '\n' || c == '\t' || c == '\r'

def Rest.skipSpace (r : Rest) : Rest := r.drop (r.chars.takeWhile isSpace).length

/-- A value that was read, and the rest. Where the text stops being JSON there is no rest. -/
abbrev Step := Json × Option Rest

/-- The text is no JSON because of the next character. -/
def breakAhead (flaw : JsonFlaw) (r : Rest) : Step := (.broken flaw r.ahead, none)

/-! ## Words and numbers -/

/-- A word of which the first character is read. -/
def wordRest (r : Rest) : List Char → Except (JsonFlaw × Nat) Rest
  | [] => .ok r
  | c :: cs =>
    match r.chars with
    | [] => .error (.eofInValue, r.offset)
    | d :: _ => if c = d then wordRest (r.drop 1) cs else .error (.expectedWord, r.offset + 1)

def word (text : String) (value : Extent → Json) (r : Rest) : Step :=
  match wordRest (r.drop 1) (text.toList.drop 1) with
  | .ok after => (value ⟨r.offset, after.offset⟩, some after)
  | .error (flaw, offset) => (.broken flaw offset, none)

def isDigit (c : Char) : Bool := '0' ≤ c && c ≤ '9'

/-- At least one digit. -/
def digits1 (r : Rest) : Except (JsonFlaw × Nat) (List Char × Rest) :=
  let ds := r.chars.takeWhile isDigit
  match ds, r.chars with
  | [], [] => .error (.eofInValue, r.offset)
  | [], _ => .error (.invalidNumber, r.ahead)
  | ds, _ => .ok (ds, r.drop ds.length)

/-- The whole part of a number, which has no leading zero. -/
def wholePart (r : Rest) : Except (JsonFlaw × Nat) (List Char × Rest) := do
  let (ds, rest) ← digits1 r
  match ds with
  | '0' :: _ :: _ => .error (.invalidNumber, r.offset + 2)
  | _ => return (ds, rest)

/-- The digits of a fraction, if there is one. -/
def fractionPart (r : Rest) : Except (JsonFlaw × Nat) (List Char × Rest) :=
  match r.chars with
  | '.' :: _ => digits1 (r.drop 1)
  | _ => .ok ([], r)

/-- The sign and digits of an exponent, if there is one. -/
def exponentPart (r : Rest) : Except (JsonFlaw × Nat) (Option (Bool × List Char) × Rest) :=
  match r.chars with
  | 'e' :: _ | 'E' :: _ => do
    let r := r.drop 1
    let (isNegative, r) := match r.chars with
      | '+' :: _ => (false, r.drop 1)
      | '-' :: _ => (true, r.drop 1)
      | _ => (false, r)
    let (ds, rest) ← digits1 r
    return (some (isNegative, ds), rest)
  | _ => .ok (none, r)

def natOf (ds : List Char) : Nat := ds.foldl (fun n c => n * 10 + (c.toNat - '0'.toNat)) 0

/-- A number. One that no double comes near may be skipped but not read. -/
def number (r : Rest) : Step :=
  let isNegative := r.chars.head? == some '-'
  let body := if isNegative then r.drop 1 else r
  let parts : Except (JsonFlaw × Nat) (Json × Rest) := do
    let (whole, rest) ← wholePart body
    let (fraction, rest) ← fractionPart rest
    let (exponent, rest) ← exponentPart rest
    let extent : Extent := ⟨r.offset, rest.offset⟩
    let n := natOf whole
    let isWhole := fraction.isEmpty && exponent.isNone
      && (if isNegative then 0 < n && n ≤ Nat.pow 2 63 else n < Nat.pow 2 64)
    if isWhole then return (.number (.whole (if isNegative then -(n : Int) else n)) extent, rest)
    let scale : Int := match exponent with
      | some (true, ds) => -(natOf ds : Int)
      | some (false, ds) => natOf ds
      | none => 0
    let value : Numeral := ⟨natOf (whole ++ fraction), scale - fraction.length⟩
    let nearest := Double.ofNumeral value
    if nearest == .infinite then return (.unreadable .numberRange rest.offset, rest)
    let text := NumberText.pointed nearest
    return (.number (.other (String.ofList (if isNegative then '-' :: text else text))) extent, rest)
  match parts with
  | .ok (j, rest) => (j, some rest)
  | .error (flaw, offset) => (.broken flaw offset, none)

/-! ## Strings -/

/-- A string behind its opening quote: what it stands for, and the flaw that keeps it from being read
though its text is well formed. -/
structure StringStep where
  value : List Char := []
  flaw : Option (JsonFlaw × Nat) := none
  rest : Rest

/-- Four digits of base sixteen, which are looked for in the next four bytes. -/
def hexDigits4 (r : Rest) : Except (JsonFlaw × Nat) (Nat × Rest) :=
  match (r.chars.take 4).mapM hexValue? with
  | some [a, b, c, d] => .ok (((a * 16 + b) * 16 + c) * 16 + d, r.drop 4)
  | _ =>
    let left := byteLength (r.chars.take 4)
    if left < 4 then .error (.eofInString, r.offset + left) else .error (.invalidEscape, r.offset + 4)

/-- Puts a character before the rest of a string. -/
def StringStep.cons (c : Char) (s : StringStep) : StringStep := { s with value := c :: s.value }

/-- Marks a string that cannot be read; an earlier flaw wins, also over what ends the text later. -/
def markFlaw (flaw : JsonFlaw) (offset : Nat) (s : Except (JsonFlaw × Nat) StringStep) :
    Except (JsonFlaw × Nat) StringStep :=
  match s with
  | .ok s => .ok { s with flaw := some (flaw, offset) }
  | .error _ => .error (flaw, offset)

/-- The character that a simple escape stands for. -/
def simpleEscape? (c : Char) : Option Char :=
  match c.toNat with
  | 0x22 => some c
  | 0x5c => some c
  | 0x2f => some c
  | 0x62 => some '\x08'
  | 0x66 => some '\x0c'
  | 0x6e => some '\n'
  | 0x72 => some '\r'
  | 0x74 => some '\t'
  | _ => none

/-- The rest of a string, read with a bound on its length. -/
def stringRest : Nat → Rest → Except (JsonFlaw × Nat) StringStep
  | 0, r => .error (.eofInString, r.offset)
  | n + 1, r =>
    match r.chars with
    | [] => .error (.eofInString, r.offset)
    | c :: cs =>
      if c == '\x22' then .ok { rest := r.drop 1 }
      else if c == '\\' then
        match cs with
        | [] => .error (.eofInString, r.offset + 1)
        | 'u' :: _ => do
          let (unit, after) ← hexDigits4 (r.drop 2)
          if 0xdc00 ≤ unit && unit ≤ 0xdfff then
            return ← markFlaw .loneSurrogate after.offset (stringRest n after)
          if unit < 0xd800 || 0xdfff < unit then
            return (← stringRest n after).cons (Char.ofNat unit)
          match after.chars with
          | '\\' :: 'u' :: _ =>
            let (low, final) ← hexDigits4 (after.drop 2)
            if 0xdc00 ≤ low && low ≤ 0xdfff then
              let code := 0x10000 + (unit - 0xd800) * 0x400 + (low - 0xdc00)
              return (← stringRest n final).cons (Char.ofNat code)
            else markFlaw .loneSurrogate final.offset (stringRest n after)
          | [] => .error (.eofInString, after.offset)
          | ['\\'] => .error (.eofInString, after.offset + 1)
          | '\\' :: _ => markFlaw .endOfHexEscape (after.offset + 2) (stringRest n after)
          | _ => markFlaw .endOfHexEscape (after.offset + 1) (stringRest n after)
        | e :: _ =>
          match simpleEscape? e with
          | some d => do return (← stringRest n (r.drop 2)).cons d
          | none => .error (.invalidEscape, r.offset + 2)
      else if c.toNat < 0x20 then .error (.controlCharacter, r.offset + 1)
      else do return (← stringRest n (r.drop 1)).cons c

def quoted (r : Rest) : Except (JsonFlaw × Nat) StringStep :=
  stringRest (r.chars.length + 1) (r.drop 1)

def string (r : Rest) : Step :=
  match quoted r with
  | .error (flaw, offset) => (.broken flaw offset, none)
  | .ok s =>
    match s.flaw with
    | some (flaw, offset) => (.unreadable flaw offset, some s.rest)
    | none => (.string (String.ofList s.value) ⟨r.offset, s.rest.offset⟩, some s.rest)

/-! ## Lists and objects -/

/-- The items of a list behind its bracket, or behind an item; `isFirst` before the first. -/
def items (value : Rest → Step) : Nat → Bool → Rest → List Json × Option Rest
  | 0, _, r => ([.broken .eofInList r.offset], none)
  | n + 1, isFirst, r =>
    let r := r.skipSpace
    let item (r : Rest) : List Json × Option Rest :=
      match value r with
      | (j, none) => ([j], none)
      | (j, some rest) =>
        let (more, rest) := items value n false rest
        (j :: more, rest)
    match r.chars with
    | [] => ([.broken .eofInList r.ahead], none)
    | c :: _ =>
      if c == ']' then ([], some (r.drop 1))
      else if isFirst then item r
      else if c == ',' then
        let r := (r.drop 1).skipSpace
        match r.chars with
        | ']' :: _ => ([.broken .trailingComma r.ahead], none)
        | _ => item r
      else ([.broken .expectedListEnd r.ahead], none)

/-- A key of an object with its colon. -/
def key (r : Rest) : Except (JsonFlaw × Nat) (JsonKey × Rest) :=
  match r.chars with
  | [] => .error (.eofInValue, r.ahead)
  | c :: _ =>
    if c == '\x22' then do
      let s ← quoted r
      match s.flaw with
      | some flaw => .error flaw
      | none =>
        let r := s.rest.skipSpace
        match r.chars with
        | [] => .error (.eofInObject, r.ahead)
        | ':' :: _ => return (⟨String.ofList s.value, r.offset⟩, r.drop 1)
        | _ => .error (.expectedColon, r.ahead)
    else if c == '}' then .error (.trailingComma, r.ahead)
    else .error (.keyNotString, r.ahead)

/-- The members of an object behind its brace, or behind a member. A fault before a value is the value
of a member without a name. -/
def members (value : Rest → Step) : Nat → Bool → Rest → List (JsonKey × Json) × Option Rest
  | 0, _, r => ([(⟨"", r.offset⟩, .broken .eofInObject r.offset)], none)
  | n + 1, isFirst, r =>
    let r := r.skipSpace
    let stop (flaw : JsonFlaw) (offset : Nat) : List (JsonKey × Json) × Option Rest :=
      ([(⟨"", offset⟩, .broken flaw offset)], none)
    let member (r : Rest) : List (JsonKey × Json) × Option Rest :=
      match key r with
      | .error (flaw, offset) => stop flaw offset
      | .ok (k, r) =>
        match value r with
        | (j, none) => ([(k, j)], none)
        | (j, some rest) =>
          let (more, rest) := members value n false rest
          ((k, j) :: more, rest)
    match r.chars with
    | [] => stop .eofInObject r.ahead
    | c :: _ =>
      if c == '}' then ([], some (r.drop 1))
      else if isFirst then member r
      else if c == ',' then member ((r.drop 1).skipSpace)
      else stop .expectedObjectEnd r.ahead

/-- A value nested at most as deep as the bound says. -/
def value : Nat → Rest → Step
  | 0, r => (.broken .eofInValue r.offset, none)
  | depth + 1, r =>
    let r := r.skipSpace
    let extent (rest : Option Rest) : Extent := ⟨r.offset, (rest.map (·.offset)).getD r.offset⟩
    match r.chars with
    | [] => breakAhead .eofInValue r
    | c :: _ =>
      if c == '\x22' then string r
      else if c == '[' then
        let (found, rest) := items (value depth) (r.chars.length + 1) true (r.drop 1)
        (.array found (extent rest), rest)
      else if c == '{' then
        let (found, rest) := members (value depth) (r.chars.length + 1) true (r.drop 1)
        (.object found (extent rest), rest)
      else if c == '-' || isDigit c then number r
      else if c == 't' then word "true" (fun e => .bool true e) r
      else if c == 'f' then word "false" (fun e => .bool false e) r
      else if c == 'n' then word "null" (fun e => .null e) r
      else breakAhead .expectedValue r

/-- The value of a text, and what is wrong with the text behind it. -/
def document (text : List Char) : Json × Option (JsonFlaw × Nat) :=
  match value (text.length + 1) ⟨text, 0⟩ with
  | (j, none) => (j, none)
  | (j, some rest) =>
    let rest := rest.skipSpace
    (j, if rest.chars.isEmpty then none else some (.trailingCharacters, rest.ahead))

end TypedJsx.JsonText
