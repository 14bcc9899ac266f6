import Mathlib.Data.List.TakeWhile
import TypedJsx.Diagnostic
/-!
Locations at the end of a message. A text ends in a location just if it is the written form of one with blanks
behind it (`Location.suffix?_eq_some_iff`), and a written form opens one parenthesis only. So nothing that
stands before a location can run into it: the search through a message that has one at its end stops just
there.

Main statement: the location of a failure is read off its message as it was, whatever else the message says.
-/
namespace TypedJsx.Location

/-! ## Digits -/

/-- Some decimal digits. -/
structure IsDigits (ds : List Char) : Prop where
  ne_nil : ds ≠ []
  digits : ∀ c ∈ ds, isDecimalDigit c = true

/-- A text does not begin with a digit. -/
def NoDigitFirst (text : List Char) : Prop := ∀ c ∈ text.head?, isDecimalDigit c = false

theorem digits?_append {ds rest : List Char} (h : IsDigits ds) (first : NoDigitFirst rest) :
    digits? (ds ++ rest) = some (ds, rest) := by
  have none : rest.takeWhile isDecimalDigit = [] ∧ rest.dropWhile isDecimalDigit = rest := by
    cases rest with
    | nil => exact ⟨rfl, rfl⟩
    | cons c rest =>
      have : ¬isDecimalDigit c = true := by simp [first c rfl]
      exact ⟨List.takeWhile_cons_of_neg this, List.dropWhile_cons_of_neg this⟩
  have taken : (ds ++ rest).takeWhile isDecimalDigit = ds := by
    rw [List.takeWhile_append_of_pos h.digits, none.1, List.append_nil]
  have left : (ds ++ rest).dropWhile isDecimalDigit = rest := by
    rw [List.dropWhile_append_of_pos h.digits, none.2]
  unfold digits?
  rw [taken, left]
  split
  · exact absurd rfl h.ne_nil
  · rfl

theorem of_digits?_eq_some {text ds rest : List Char} (h : digits? text = some (ds, rest)) :
    IsDigits ds ∧ text = ds ++ rest := by
  unfold digits? at h
  split at h
  · cases h
  · rename_i some
    cases h
    exact ⟨⟨some, fun c hc => List.mem_takeWhile_imp hc⟩, List.takeWhile_append_dropWhile.symm⟩

theorem isDecimalDigit_of_isAsciiDigit {c : Char} (h : isAsciiDigit c = true) :
    isDecimalDigit c = true := by
  have ascii : isAscii c = true := by
    rw [isAsciiDigit, Bool.and_eq_true, decide_eq_true_eq, decide_eq_true_eq, Char.le_def, Char.le_def] at h
    rw [isAscii, decide_eq_true_eq]
    exact Nat.lt_of_le_of_lt (UInt32.le_iff_toNat_le.mp h.2) (by decide)
  rw [isDecimalDigit, if_pos ascii, h]

/-- A number as it is written. -/
def written (n : Nat) : List Char := (toString n).toList

theorem written_eq (n : Nat) : written n = Nat.toDigits 10 n := by
  rw [written, Nat.toString_eq_repr, Nat.toList_repr]

theorem isAsciiDigit_of_mem_written {n : Nat} {c : Char} (h : c ∈ written n) : isAsciiDigit c = true := by
  rw [written_eq] at h
  exact Nat.isDigit_of_mem_toDigits (by decide) (by decide) h

theorem isDigits_written (n : Nat) : IsDigits (written n) where
  ne_nil := by
    rw [written_eq]
    exact Nat.toDigits_ne_nil
  digits c h := isDecimalDigit_of_isAsciiDigit (isAsciiDigit_of_mem_written h)

theorem number?_written {n : Nat} (h : n < Nat.pow 2 32) : number? (written n) = some n := by
  have ascii : (written n).all isAsciiDigit = true :=
    List.all_eq_true.mpr fun c hc => isAsciiDigit_of_mem_written hc
  have value : (written n).foldl (fun n c => n * 10 + (c.toNat - '0'.toNat)) 0 = n := by
    have read := Nat.ofDigitChars_toDigits (b := 10) (n := n) (by decide) (by decide)
    rw [← written_eq, Nat.ofDigitChars] at read
    simpa only [Nat.mul_comm] using read
  rw [number?, if_pos ascii, value]
  exact if_pos h

/-! ## The written form of a location -/

theorem behind?_eq_some_iff {word text rest : List Char} :
    behind? word text = some rest ↔ text = word ++ rest := by
  induction word generalizing text with
  | nil => simp [behind?]
  | cons c word ih =>
    cases text with
    | nil => simp [behind?]
    | cons d text =>
      unfold behind?
      split
      · rename_i same
        rw [ih, List.cons_append, List.cons.injEq, and_iff_right same.symm]
      · rename_i other
        simp [Ne.symm other]

theorem behind?_append (word rest : List Char) : behind? word (word ++ rest) = some rest :=
  behind?_eq_some_iff.mpr rfl

/-- A location with digits for its line and its column. -/
def form (line column : List Char) : List Char :=
  "(line ".toList ++ (line ++ (", column ".toList ++ (column ++ [')'])))

theorem form_append (line column rest : List Char) : form line column ++ rest
    = "(line ".toList ++ (line ++ (", column ".toList ++ (column ++ ([')'] ++ rest)))) := by
  delta form
  simp only [List.append_assoc]

/-- A text is a location and nothing else but blanks just if it is the written form of one, with blanks
behind it. -/
theorem suffix?_eq_some_iff {text line column : List Char} : suffix? text = some (line, column) ↔
    IsDigits line ∧ IsDigits column ∧ ∃ blanks, (∀ c ∈ blanks, isBlank c = true)
      ∧ text = form line column ++ blanks := by
  constructor
  · intro h
    simp only [suffix?, Option.bind_eq_bind, Option.bind_eq_some_iff, behind?_eq_some_iff, Prod.exists] at h
    obtain ⟨_, rfl, l, _, hl, _, rfl, c, _, hc, blanks, rfl, h⟩ := h
    split_ifs at h with blank
    cases h
    obtain ⟨digits, rfl⟩ := of_digits?_eq_some hl
    obtain ⟨digits', rfl⟩ := of_digits?_eq_some hc
    exact ⟨digits, digits', blanks, List.all_eq_true.mp blank, (form_append ..).symm⟩
  · rintro ⟨digits, digits', blanks, blank, rfl⟩
    have comma : NoDigitFirst (", column ".toList ++ (column ++ ([')'] ++ blanks))) := by
      rintro c ⟨⟩
      decide
    have closed : NoDigitFirst ([')'] ++ blanks) := by
      rintro c ⟨⟩
      decide
    have all : blanks.all isBlank = true := List.all_eq_true.mpr blank
    rw [form_append, suffix?, behind?_append, Option.bind_eq_bind, Option.bind_some,
      digits?_append digits comma]
    simp only [Option.bind_eq_bind, Option.bind_some, behind?_append, digits?_append digits' closed, all,
      if_true]

theorem count_form {line column : List Char} (digits : IsDigits line) (digits' : IsDigits column) :
    (form line column).count '(' = 1 := by
  have none : ∀ {ds : List Char}, IsDigits ds → ds.count '(' = 0 := by
    intro ds h
    refine List.count_eq_zero.mpr fun mem => ?_
    have := h.digits _ mem
    revert this
    decide
  rw [← List.append_nil (form line column), form_append]
  simp only [List.count_append, none digits, none digits']
  rfl

/-- No location begins before one and ends in it. -/
theorem suffix?_append_form {line column : List Char} (digits : IsDigits line) (digits' : IsDigits column)
    {before : List Char} (some : before ≠ []) : suffix? (before ++ form line column) = none := by
  rw [Option.eq_none_iff_forall_ne_some]
  rintro ⟨line', column'⟩ found
  obtain ⟨h, h', blanks, blank, same⟩ := suffix?_eq_some_iff.mp found
  have counts := congrArg (List.count '(') same
  have none : blanks.count '(' = 0 := by
    refine List.count_eq_zero.mpr fun mem => ?_
    have := blank _ mem
    revert this
    decide
  rw [List.count_append, List.count_append, count_form digits digits', count_form h h', none] at counts
  -- what stands before begins with a parenthesis of its own
  cases before with
  | nil => exact some rfl
  | cons c before =>
    have first : c = '(' := (List.cons.inj same).1
    rw [first, List.count_cons_self] at counts
    omega

/-! ## The search -/

theorem atEnd?_append {rest : List Char} {found : List Char × List Char} (here : suffix? rest = some found)
    (before : List Char) (earlier : ∀ u, u ≠ [] → suffix? (u ++ rest) = none) :
    atEnd? (before ++ rest) = some found := by
  induction before with
  | nil =>
    cases rest with
    | nil => cases here
    | cons c rest => rw [List.nil_append, atEnd?, here]
  | cons c before ih =>
    have none := earlier (c :: before) (List.cons_ne_nil c before)
    rw [List.cons_append] at none ⊢
    rw [atEnd?, none]
    exact ih

theorem toList_located (message : String) (p : Position) : (Failure.located message p).toList
    = (message.toList ++ [' ']) ++ form (written p.line) (written p.column) := by
  rw [← List.append_nil (form _ _), form_append]
  simp only [Failure.located, String.toList_append, written, List.append_assoc]
  rfl

/-- The location behind a message is what the message is found to mention. -/
theorem ofMessage_located (message : String) {p : Position} (line : p.line < Nat.pow 2 32)
    (column : p.column < Nat.pow 2 32) : ofMessage (Failure.located message p).toList = p := by
  have digits := isDigits_written p.line
  have digits' := isDigits_written p.column
  have here : suffix? (form (written p.line) (written p.column)) = some (written p.line, written p.column) :=
    suffix?_eq_some_iff.mpr ⟨digits, digits', [], by simp, (List.append_nil _).symm⟩
  have found := atEnd?_append here (message.toList ++ [' ']) fun u hu => suffix?_append_form digits digits' hu
  rw [toList_located, ofMessage, found]
  dsimp only
  rw [number?_written line, number?_written column]

end TypedJsx.Location

namespace TypedJsx

theorem Failure.message_of_position? {failure : Failure} {p : Position} (h : failure.position? = some p) :
    ∃ message, failure.message = Failure.located message p := by
  cases failure with
  | parse message q =>
    cases h
    exact ⟨message, rfl⟩
  | transformAt message q =>
    cases h
    exact ⟨message, rfl⟩
  | transform message => cases h
  | serialization message => cases h

/-- A failure with a position has its position read off its message, whatever the message says before it. So
its diagnostic is that of a failure without a position that has the same message. -/
theorem position_read_off_message {failure : Failure} {p : Position} (located : failure.position? = some p)
    (line : p.line < Nat.pow 2 32) (column : p.column < Nat.pow 2 32) :
    Location.ofMessage failure.message.toList = p
      ∧ ∀ severity source, Diagnostic.ofFailure severity (.transform failure.message) source
        = Diagnostic.ofFailure severity failure source := by
  obtain ⟨message, said⟩ := failure.message_of_position? located
  have read : Location.ofMessage failure.message.toList = p := by
    rw [said]
    exact Location.ofMessage_located message line column
  refine ⟨read, fun severity source => ?_⟩
  have unplaced : (Failure.transform failure.message).position? = none := rfl
  have same : (Failure.transform failure.message).message = failure.message := rfl
  rw [Diagnostic.ofFailure, unplaced, same, Option.getD_none, read, Diagnostic.ofFailure, located,
    Option.getD_some]

/-- A message that mentions other lines, has a whole location in it and breaks off in another one. -/
def crowdedMessage : String := "Line 7 of `Column9` (line 1, column 2) (line 3, column 4"

/-- The last location of a message counts, up to the last line that there can be. -/
theorem position_read_off_crowded_message :
    (Failure.transformAt crowdedMessage ⟨4294967295, 12⟩).position? = some ⟨4294967295, 12⟩
      ∧ 4294967295 < Nat.pow 2 32 ∧ 12 < Nat.pow 2 32
      ∧ Location.ofMessage (Failure.transformAt crowdedMessage ⟨4294967295, 12⟩).message.toList
        = ⟨4294967295, 12⟩ :=
  ⟨rfl, by decide, by decide, (position_read_off_message rfl (by decide) (by decide)).1⟩

end TypedJsx
