import TypedJsx.Interface
import TypedJsx.Token.Reader
import TypedJsx.Proofs.Text.Lines
/-!
Comments above a member, as the reader of tokens reads them. A comment is written line by line, each line
trimmed and indented anew, so one has to see that no mark of a comment appears or is lost. A closing mark
stands within a line, and a trimmed line holds no mark that the line did not hold; the first line keeps the
opening mark and the last one the closing mark, since neither is blank (`IsWholeComment.written`). So a whole
comment stays a whole comment, and the reader skips it (`IsGap`), whatever comes before and after it.

Main statement: the reader skips the comments of a member, one by one, and stops at the key.
-/
namespace TypedJsx

/-! ## The end of a gap -/

theorem Reader.skip_code {c : Char} (noBlank : isTokenBlank c = false) (noEnd : isLineEnd c = false)
    (noMark : c ≠ '/') (text : List Char) (offset : Nat) (trivia : Trivia) (newline : Bool) :
    Reader.skip .blank offset trivia newline (c :: text) = ⟨c :: text, offset, trivia, newline, none⟩ := by
  rw [Reader.skip]
  · simp [noBlank, noEnd]
  · exact fun _ slash => absurd slash noMark
  · exact fun _ slash => absurd slash noMark

/-! ## Whole comments -/

/-- A text with a closing mark at its end and nowhere before. -/
def ClosesAtEnd (text : List Char) : Prop :=
  ['*', '/'] <:+ text ∧ ∀ before after, text = before ++ ['*', '/'] ++ after → after = []

/-- One comment and nothing else: an opening mark with a text of one line behind it, or with a text that
closes at its end. -/
inductive IsWholeComment : List Char → Prop
  | line {body : List Char} (single : ∀ c ∈ body, isLineEnd c = false) :
      IsWholeComment ('/' :: '/' :: body)
  | block {body : List Char} (closes : ClosesAtEnd body) : IsWholeComment ('/' :: '*' :: body)

/-- A text without a closing mark. -/
def IsOpen (text : List Char) : Prop := ∀ before after, text ≠ before ++ '*' :: '/' :: after

theorem IsOpen.of_infix {text part : List Char} (h : IsOpen text) (within : part <:+: text) :
    IsOpen part := by
  obtain ⟨front, back, rfl⟩ := within
  intro before after mark
  exact h (front ++ before) (after ++ back) (by simp [mark])

theorem isOpen_append_newline {first rest : List Char} (h : IsOpen first) (h' : IsOpen rest) :
    IsOpen (first ++ '\n' :: rest) := by
  intro before after mark
  rcases List.append_eq_append_iff.mp mark with ⟨later, -, split⟩ | ⟨reached, split, beyond⟩
  · cases later with
    | nil => simp at split
    | cons c later => exact h' later after (List.cons.inj split).2
  · -- the mark begins in the first part, and the newline is none of its characters
    match reached with
    | [] => simp at beyond
    | [c] => simp at beyond
    | c :: d :: reached =>
      simp only [List.cons_append, List.cons.injEq] at beyond
      exact h before reached (by rw [split, ← beyond.1, ← beyond.2.1])

theorem isOpen_blanks_append {text : List Char} (n : Nat) (h : IsOpen text) :
    IsOpen (List.replicate n ' ' ++ text) := by
  induction n with
  | zero => exact h
  | succ n ih =>
    intro before after mark
    cases before with
    | nil => simp [List.replicate_succ] at mark
    | cons c before =>
      rw [List.replicate_succ, List.cons_append, List.cons_append] at mark
      exact ih before after (List.cons.inj mark).2

theorem isOpen_iff {text : List Char} : IsOpen text ↔ occursIn ['*', '/'] text = false := by
  induction text with
  | nil => exact iff_of_true (fun before _ => by cases before <;> simp) rfl
  | cons c text ih =>
    rw [occursIn, Bool.or_eq_false_iff, ← ih]
    constructor
    · intro h
      refine ⟨?_, h.of_infix (List.suffix_cons c text).isInfix⟩
      rw [Bool.eq_false_iff, ne_eq, List.isPrefixOf_iff_prefix]
      rintro ⟨after, mark⟩
      exact h [] after mark.symm
    · rintro ⟨start, later⟩ before after mark
      cases before with
      | nil => simp [mark] at start
      | cons d before => exact later before after (List.cons.inj mark).2

instance (text : List Char) : Decidable (IsOpen text) := decidable_of_iff _ isOpen_iff.symm

theorem closesAtEnd_iff {text : List Char} :
    ClosesAtEnd text ↔ ∃ inner, text = inner ++ ['*', '/'] ∧ IsOpen (inner ++ ['*']) := by
  constructor
  · rintro ⟨⟨inner, rfl⟩, only⟩
    refine ⟨inner, rfl, fun before after mark => ?_⟩
    have earlier := only before (after ++ ['/']) (by
      calc inner ++ ['*', '/']
        _ = (inner ++ ['*']) ++ ['/'] := by simp
        _ = before ++ ['*', '/'] ++ (after ++ ['/']) := by simp [mark])
    simp at earlier
  · rintro ⟨inner, rfl, isOpen⟩
    refine ⟨List.suffix_append inner _, fun before after mark => ?_⟩
    rcases List.eq_nil_or_concat after with none | ⟨front, last, rfl⟩
    · exact none
    · -- the mark would stand before the last character
      have split : (inner ++ ['*']) ++ ['/'] = (before ++ '*' :: '/' :: front) ++ [last] := by
        simpa using mark
      exact absurd (List.append_inj' split rfl).1 (isOpen before front)

theorem closesAtEnd_append_newline_iff {first rest : List Char} :
    ClosesAtEnd (first ++ '\n' :: rest) ↔ IsOpen first ∧ ClosesAtEnd rest := by
  constructor
  · rintro ⟨⟨inner, e⟩, only⟩
    refine ⟨fun before after mark => ?_, ?_, fun before after mark => ?_⟩
    · have none := only before (after ++ '\n' :: rest) (by simp [mark])
      simp at none
    · rcases List.append_eq_append_iff.mp e with ⟨later, -, split⟩ | ⟨reached, -, beyond⟩
      · match later with
        | [] => simp at split
        | [c] => simp at split
        | c :: d :: later => simp at split
      · cases reached with
        | nil => simp at beyond
        | cons c reached => exact ⟨reached, (List.cons.inj beyond).2.symm⟩
    · exact only (first ++ '\n' :: before) after (by simp [mark])
  · rintro ⟨isOpen, closes⟩
    obtain ⟨inner, rfl, isOpen'⟩ := closesAtEnd_iff.mp closes
    refine closesAtEnd_iff.mpr ⟨first ++ '\n' :: inner, by simp, ?_⟩
    rw [List.append_assoc, List.cons_append]
    exact isOpen_append_newline isOpen isOpen'

/-! ## Trimming -/

theorem dropReturn_isPrefix (line : List Char) : dropReturn line <+: line := by
  rcases dropReturn_cases line with e | ⟨e, -⟩
  · exact ⟨['\r'], e.symm⟩
  · exact ⟨[], by rw [e, List.append_nil]⟩

theorem trimLeft_isSuffix (text : List Char) : trimLeft text <:+ text := List.dropWhile_suffix _

theorem trimRight_isPrefix (text : List Char) : trimRight text <+: text := by
  have reversed := List.dropWhile_suffix isBlank (l := text.reverse)
  rw [← List.reverse_prefix, List.reverse_reverse] at reversed
  exact reversed

theorem trim_isInfix (text : List Char) : trim text <:+: text :=
  (trimRight_isPrefix _).isInfix.trans (trimLeft_isSuffix text).isInfix

theorem trimLeft_cons {c : Char} (solid : isBlank c = false) (text : List Char) :
    trimLeft (c :: text) = c :: text := by
  rw [trimLeft, List.dropWhile_cons_of_neg (by simp [solid])]

theorem trimRight_append_cons {c : Char} (solid : isBlank c = false) (front back : List Char) :
    trimRight (front ++ c :: back) = front ++ c :: trimRight back := by
  have kept : (c :: front.reverse).dropWhile isBlank = c :: front.reverse :=
    List.dropWhile_cons_of_neg (by simp [solid])
  rw [trimRight, trimRight, List.reverse_append, List.reverse_cons, List.append_assoc,
    List.singleton_append, List.dropWhile_append, kept]
  split
  · rename_i none
    simp [List.isEmpty_iff.mp none]
  · simp

theorem trimLeft_append_cons {c : Char} (solid : isBlank c = false) (front back : List Char) :
    trimLeft (front ++ c :: back) = trimLeft front ++ c :: back := by
  have kept : (c :: back).dropWhile isBlank = c :: back := List.dropWhile_cons_of_neg (by simp [solid])
  rw [trimLeft, trimLeft, List.dropWhile_append, kept]
  split
  · rename_i none
    rw [List.isEmpty_iff.mp none, List.nil_append]
  · rfl

/-! ## Comments as they are written -/

namespace InterfaceMember

/-- Lines that close at the end of the last one do so when they are trimmed and indented. -/
theorem closesAtEnd_lines (indent : Nat) {text : List Char} (h : ClosesAtEnd text) :
    ∃ written, (lines text).flatMap (commentLine indent) = written ++ ['\n'] ∧ ClosesAtEnd written := by
  have slash : isBlank '/' = false := by decide
  have star : isBlank '*' = false := by decide
  induction text using line_induction with
  | none text single =>
    obtain ⟨inner, rfl, isOpen⟩ := closesAtEnd_iff.mp h
    have trimmed : trim (inner ++ ['*', '/']) = trimLeft inner ++ ['*', '/'] := by
      rw [trim, trimLeft_append_cons star, trimRight_append_cons star]
      rfl
    refine ⟨List.replicate indent ' ' ++ (trimLeft inner ++ ['*', '/']), ?_, ?_⟩
    · rw [lines_of_none single (by simp), List.flatMap_singleton, commentLine, trimmed]
    · refine closesAtEnd_iff.mpr ⟨List.replicate indent ' ' ++ trimLeft inner, by simp, ?_⟩
      -- what is trimmed is taken from inside of an open text, which leaves it open
      obtain ⟨front, split⟩ := trimLeft_isSuffix inner
      have within : trimLeft inner ++ ['*'] <:+: inner ++ ['*'] :=
        ⟨front, [], by rw [List.append_nil, ← List.append_assoc, split]⟩
      rw [List.append_assoc]
      exact isOpen_blanks_append indent (isOpen.of_infix within)
  | step first rest single ih =>
    obtain ⟨isOpen, closes⟩ := closesAtEnd_append_newline_iff.mp h
    obtain ⟨written, e, closes'⟩ := ih closes
    have within := (trim_isInfix (dropReturn first)).trans (dropReturn_isPrefix first).isInfix
    refine ⟨List.replicate indent ' ' ++ trim (dropReturn first) ++ '\n' :: written, ?_, ?_⟩
    · rw [lines_append_newline single, List.flatMap_cons, e, commentLine]
      simp
    · exact closesAtEnd_append_newline_iff.mpr
        ⟨isOpen_blanks_append indent (isOpen.of_infix within), closes'⟩

theorem commentLine_mark (indent : Nat) {c d : Char} (solid : isBlank c = false ∧ isBlank d = false)
    (text : List Char) :
    commentLine indent (c :: d :: text)
      = List.replicate indent ' ' ++ c :: d :: trimRight text ++ ['\n'] := by
  have trimmed : trim (c :: d :: text) = c :: d :: trimRight text := by
    rw [trim, trimLeft_cons solid.1]
    exact trimRight_append_cons solid.2 [c] text
  rw [commentLine, trimmed]

theorem dropReturn_mark {c d : Char} (mark : d ≠ '\r') (text : List Char) :
    dropReturn (c :: d :: text) = c :: d :: dropReturn text := by
  rcases dropReturn_cases text with e | ⟨e, last⟩
  · calc dropReturn (c :: d :: text)
      _ = dropReturn ((c :: d :: dropReturn text) ++ ['\r']) := by
        rw [List.cons_append, List.cons_append, ← e]
      _ = c :: d :: dropReturn text := dropReturn_append _
  · rcases dropReturn_cases (c :: d :: text) with e' | ⟨e', -⟩
    · have returned : (c :: d :: text).getLast? = some '\r' := by
        rw [e']
        exact List.getLast?_concat
      cases text with
      | nil => exact absurd (Option.some.inj returned) mark
      | cons => exact absurd (by simpa using returned) last
    · rw [e', e]

/-- A whole comment is written as a whole comment. -/
theorem commentText_spec {comment : String} (h : IsWholeComment comment.toList) :
    ∃ written, IsWholeComment written ∧ commentText comment = ' ' :: ' ' :: (written ++ ['\n']) := by
  have solid : isBlank '/' = false ∧ isBlank '*' = false := by decide
  rw [commentText]
  generalize comment.toList = text at h
  cases h with
  | @line body single =>
    -- a comment in one line only loses blanks at its end
    have noNewline : '\n' ∉ '/' :: '/' :: body := by
      have body : '\n' ∉ body := fun newline => absurd (single _ newline) (by decide)
      simpa using body
    have single' : ∀ c ∈ trimRight body, isLineEnd c = false := fun c hc =>
      single c ((trimRight_isPrefix body).subset hc)
    refine ⟨'/' :: '/' :: trimRight body, .line single', ?_⟩
    rw [lines_of_none noNewline (by simp)]
    dsimp only
    rw [commentLine_mark 2 ⟨solid.1, solid.1⟩]
    simp [List.replicate]
  | @block body closes =>
    rcases newline_cases body with single | ⟨first, rest, rfl, single⟩
    · -- a comment over lines that has one only: it ends in a slash, and loses nothing
      have noNewline : '\n' ∉ '/' :: '*' :: body := by simpa using single
      obtain ⟨inner, e⟩ := closes.1
      have kept : trimRight body = body := by
        rw [← e]
        exact trimRight_append_cons solid.2 inner ['/']
      refine ⟨'/' :: '*' :: body, .block closes, ?_⟩
      rw [lines_of_none noNewline (by simp)]
      dsimp only
      rw [commentLine_mark 2 solid, kept]
      simp [List.replicate]
    · -- the first line keeps the opening mark, and the lines behind it close at their end as before
      have noNewline : '\n' ∉ '/' :: '*' :: first := by simpa using single
      obtain ⟨isOpen, closes⟩ := closesAtEnd_append_newline_iff.mp closes
      obtain ⟨written, e, closes'⟩ := closesAtEnd_lines 3 closes
      have within := (trimRight_isPrefix (dropReturn first)).trans (dropReturn_isPrefix first)
      refine ⟨'/' :: '*' :: (trimRight (dropReturn first) ++ '\n' :: written),
        .block (closesAtEnd_append_newline_iff.mpr ⟨isOpen.of_infix within.isInfix, closes'⟩), ?_⟩
      rw [← List.cons_append, ← List.cons_append, lines_append_newline noNewline]
      dsimp only
      rw [dropReturn_mark (by decide), commentLine_mark 2 solid, e]
      simp [List.replicate]

end InterfaceMember

/-! ## Gaps between tokens -/

namespace Trivia

theorem length_comments_newline (t : Trivia) : t.newline.comments.length = t.comments.length := by
  unfold newline
  split
  · rfl
  · rename_i c cs waiting
    dsimp only
    split <;> simp [comments, settle, waiting]

theorem length_comments_addBlock (t : Trivia) (span : Span) (text : List Char) :
    (t.addBlock span text).comments.length = t.comments.length + 1 := by
  simp [comments, addBlock]
  omega

theorem length_comments_addLine (t : Trivia) (span : Span) (text : List Char) :
    (t.addLine span text).comments.length = t.comments.length + 1 := by
  unfold addLine
  dsimp only
  split <;> simp [comments, settle] <;> omega

end Trivia

namespace Reader

/-- A text between two tokens with `n` comments in it: whatever follows, the reader skips it. -/
def IsGap (n : Nat) (text : List Char) : Prop :=
  ∀ rest offset trivia newline, ∃ offset' trivia' newline',
    skip .blank offset trivia newline (text ++ rest) = skip .blank offset' trivia' newline' rest
      ∧ trivia'.comments.length = trivia.comments.length + n

namespace IsGap

theorem nil : IsGap 0 [] := fun _ offset trivia newline => ⟨offset, trivia, newline, rfl, rfl⟩

theorem append {n k : Nat} {text more : List Char} (h : IsGap n text) (h' : IsGap k more) :
    IsGap (n + k) (text ++ more) := by
  intro rest offset trivia newline
  obtain ⟨offset', trivia', newline', first, count⟩ := h (more ++ rest) offset trivia newline
  obtain ⟨offset'', trivia'', newline'', second, count'⟩ := h' rest offset' trivia' newline'
  refine ⟨offset'', trivia'', newline'', ?_, by omega⟩
  rw [List.append_assoc, first, second]

theorem blank : IsGap 0 [' '] := fun _ offset trivia newline => ⟨offset + 1, trivia, newline, rfl, rfl⟩

theorem newline : IsGap 0 ['\n'] := fun _ offset trivia _ =>
  ⟨offset + 1, trivia.newline, true, rfl, trivia.length_comments_newline⟩

end IsGap

/-- The reader takes two characters at once where a comment could begin. -/
theorem pair_induction {P : List Char → Prop} (nil : P [])
    (slashes : ∀ text, P text → P ('/' :: '/' :: text)) (opening : ∀ text, P text → P ('/' :: '*' :: text))
    (one : ∀ c text, (c = '/' → text.head? ≠ some '/' ∧ text.head? ≠ some '*') → P text → P (c :: text)) :
    ∀ text, P text
  | [] => nil
  | [c] => one c [] (by simp) nil
  | c :: d :: text => by
    have rest := pair_induction nil slashes opening one text
    have tail := pair_induction nil slashes opening one (d :: text)
    by_cases slash : c = '/' ∧ d = '/'
    · obtain ⟨rfl, rfl⟩ := slash
      exact slashes text rest
    · by_cases star : c = '/' ∧ d = '*'
      · obtain ⟨rfl, rfl⟩ := star
        exact opening text rest
      · exact one c (d :: text) (fun h => by simp_all) tail

theorem skip_line_one {c : Char} {text : List Char}
    (noPair : c = '/' → text.head? ≠ some '/' ∧ text.head? ≠ some '*') (inLine : isLineEnd c = false)
    (start offset : Nat) (read : List Char) (trivia : Trivia) (newline : Bool) :
    skip (.lineComment start read) offset trivia newline (c :: text)
      = skip (.lineComment start (c :: read)) (offset + c.utf8Size) trivia newline text := by
  rw [skip]
  · simp [inLine]
  · intro r slash pair
    exact (noPair slash).1 (by rw [pair]; rfl)
  · intro r slash pair
    exact (noPair slash).2 (by rw [pair]; rfl)

theorem skip_block_one {c : Char} {text : List Char}
    (noPair : c = '/' → text.head? ≠ some '/' ∧ text.head? ≠ some '*')
    (inside : c = '*' → text.head? ≠ some '/')
    (start offset : Nat) (read : List Char) (trivia : Trivia) (newline : Bool) :
    skip (.blockComment start read) offset trivia newline (c :: text)
      = skip (.blockComment start (c :: read)) (offset + c.utf8Size) trivia (newline || isLineEnd c)
        text := by
  rw [skip]
  · intro r slash pair
    exact (noPair slash).1 (by rw [pair]; rfl)
  · intro r slash pair
    exact (noPair slash).2 (by rw [pair]; rfl)
  · intro r star mark
    exact inside star (by rw [mark]; rfl)

theorem skip_line {body : List Char} (single : ∀ c ∈ body, isLineEnd c = false) (rest : List Char)
    (start offset : Nat) (read : List Char) (trivia : Trivia) (newline : Bool) :
    ∃ offset' span text, skip (.lineComment start read) offset trivia newline (body ++ '\n' :: rest)
      = skip .blank offset' (trivia.addLine span text) true rest := by
  induction body using pair_induction generalizing offset read with
  | nil => exact ⟨_, _, _, rfl⟩
  | slashes body ih => exact ih (fun c hc => single c (by simp [hc])) _ _
  | opening body ih => exact ih (fun c hc => single c (by simp [hc])) _ _
  | one c body noPair ih =>
    have inLine := single c List.mem_cons_self
    have noPair' : c = '/' → (body ++ '\n' :: rest).head? ≠ some '/'
        ∧ (body ++ '\n' :: rest).head? ≠ some '*' := by
      intro slash
      cases body with
      | nil => simp
      | cons d body => exact noPair slash
    rw [List.cons_append, skip_line_one noPair' inLine]
    exact ih (fun c hc => single c (List.mem_cons_of_mem _ hc)) _ _

theorem skip_block {inner : List Char} (isOpen : IsOpen (inner ++ ['*'])) (rest : List Char)
    (start offset : Nat) (read : List Char) (trivia : Trivia) (newline : Bool) :
    ∃ offset' span text newline',
      skip (.blockComment start read) offset trivia newline (inner ++ '*' :: '/' :: rest)
        = skip .blank offset' (trivia.addBlock span text) newline' rest := by
  induction inner using pair_induction generalizing offset read newline with
  | nil => exact ⟨_, _, _, _, rfl⟩
  | slashes inner ih =>
    exact ih (isOpen.of_infix ⟨['/', '/'], [], by simp⟩) _ _ _
  | opening inner ih =>
    cases inner with
    | nil => exact ⟨_, _, _, _, rfl⟩
    | cons d inner =>
      -- a slash here would close the comment before its end
      have noMark : d ≠ '/' := by
        rintro rfl
        exact isOpen ['/'] (inner ++ ['*']) rfl
      have tail := ih (isOpen.of_infix ⟨['/', '*'], [], by simp⟩) (offset + 2) ('*' :: '/' :: read) newline
      rw [List.cons_append, List.cons_append, List.cons_append, skip]
      · exact tail
      · intro r mark
        exact noMark (List.cons.inj mark).1
  | one c inner noPair ih =>
    cases inner with
    | nil =>
      by_cases slash : c = '/'
      · -- the slash and the star of the mark are read together
        rw [slash]
        exact ⟨_, _, _, _, rfl⟩
      · rw [List.singleton_append, skip_block_one (fun h => absurd h slash) (by simp)]
        exact ⟨_, _, _, _, rfl⟩
    | cons d inner =>
      have noMark : c = '*' → (d :: (inner ++ '*' :: '/' :: rest)).head? ≠ some '/' := by
        rintro rfl mark
        exact isOpen [] (inner ++ ['*']) (by simp [Option.some.inj mark])
      have tail := ih (isOpen.of_infix ⟨[c], [], by simp⟩) (offset + c.utf8Size) (c :: read)
        (newline || isLineEnd c)
      have noPair' : c = '/' → (d :: (inner ++ '*' :: '/' :: rest)).head? ≠ some '/'
          ∧ (d :: (inner ++ '*' :: '/' :: rest)).head? ≠ some '*' := noPair
      rw [List.cons_append, List.cons_append, skip_block_one noPair' noMark]
      exact tail

/-- A whole comment and the newline behind it are skipped as one comment. -/
theorem IsGap.comment {text : List Char} (h : IsWholeComment text) : IsGap 1 (text ++ ['\n']) := by
  intro rest offset trivia newline
  rw [List.append_assoc, List.singleton_append]
  cases h with
  | @line body single =>
    obtain ⟨offset', span, text, e⟩ :=
      skip_line single rest offset (offset + 2) ['/', '/'] trivia newline
    exact ⟨offset', _, true, e, trivia.length_comments_addLine span text⟩
  | @block body closes =>
    obtain ⟨inner, rfl, isOpen⟩ := closesAtEnd_iff.mp closes
    obtain ⟨after, span, text, newline', e⟩ :=
      skip_block isOpen ('\n' :: rest) offset (offset + 2) ['*', '/'] trivia newline
    obtain ⟨offset', trivia', newline'', e', count⟩ :=
      IsGap.newline rest after (trivia.addBlock span text) newline'
    have opened : skip .blank offset trivia newline ('/' :: '*' :: (inner ++ ['*', '/']) ++ '\n' :: rest)
        = skip (.blockComment offset ['*', '/']) (offset + 2) trivia newline
          (inner ++ '*' :: '/' :: '\n' :: rest) := by
      simp [skip]
    refine ⟨offset', trivia', newline'', (opened.trans e).trans e', ?_⟩
    rw [count, trivia.length_comments_addBlock]

theorem IsGap.comments {comments : List String} (whole : ∀ c ∈ comments, IsWholeComment c.toList) :
    IsGap comments.length (comments.flatMap InterfaceMember.commentText) := by
  induction comments with
  | nil => exact .nil
  | cons c comments ih =>
    rw [List.forall_mem_cons] at whole
    obtain ⟨written, isWhole, e⟩ := InterfaceMember.commentText_spec whole.1
    have first : IsGap 1 (InterfaceMember.commentText c) := by
      rw [e]
      exact IsGap.blank.append (IsGap.blank.append (IsGap.comment isWhole))
    rw [List.flatMap_cons, List.length_cons, Nat.add_comm]
    exact first.append (ih whole.2)

end Reader

/-! ## Keys -/

/-- The codes of blanks and line ends beyond the first 128. -/
def wideGapCodes : List Nat :=
  [0x85, 0xa0, 0x1680, 0x2000, 0x2001, 0x2002, 0x2003, 0x2004, 0x2005, 0x2006, 0x2007, 0x2008, 0x2009,
    0x200a, 0x200b, 0x2028, 0x2029, 0x202f, 0x205f, 0x3000, 0xfeff]

theorem not_alphabetic_of_mem_wideGapCodes :
    ∀ n ∈ wideGapCodes, alphabeticSet.containsCode n = false := by
  decide +kernel

theorem not_gap_of_code {c : Char} (ascii : c.toNat < 128 → 65 ≤ c.toNat)
    (wide : c.toNat ∉ wideGapCodes) : isTokenBlank c = false ∧ isLineEnd c = false ∧ c ≠ '/' := by
  simp only [wideGapCodes, List.mem_cons, List.not_mem_nil, or_false, not_or] at wide
  have apart : ∀ d : Char, d.toNat < 65 → c ≠ d := by
    rintro d low rfl
    omega
  have newline := apart '\n' (by decide)
  have carriage := apart '\r' (by decide)
  refine ⟨?_, ?_, apart '/' (by decide)⟩
  · simp only [isTokenBlank, Bool.or_eq_false_iff, beq_eq_false_iff_ne, Bool.and_eq_false_imp,
      decide_eq_true_iff, decide_eq_false_iff_not]
    omega
  · simp only [isLineEnd, Bool.or_eq_false_iff, beq_eq_false_iff_ne]
    exact ⟨⟨⟨newline, carriage⟩, by omega⟩, by omega⟩

theorem not_gap_of_isAlphabetic {c : Char} (h : isAlphabetic c = true) :
    isTokenBlank c = false ∧ isLineEnd c = false ∧ c ≠ '/' := by
  rw [isAlphabetic] at h
  split at h
  · rename_i ascii
    have low : 65 ≤ c.toNat := by
      simp only [isAsciiLetter, Bool.or_eq_true, Bool.and_eq_true, decide_eq_true_iff, Char.le_def,
        UInt32.le_iff_toNat_le] at h
      have codes : 'a'.val.toNat = 97 ∧ 'A'.val.toNat = 65 := by decide
      rw [Char.toNat]
      omega
    refine not_gap_of_code (fun _ => low) fun wide => ?_
    have high : ∀ n ∈ wideGapCodes, 128 ≤ n := by decide
    have small : c.toNat < 128 := by simpa [isAscii] using ascii
    exact absurd (high _ wide) (by omega)
  · rename_i wide
    refine not_gap_of_code (fun ascii => absurd (by simpa [isAscii] using ascii) wide) fun mem => ?_
    rw [CharSet.contains, not_alphabetic_of_mem_wideGapCodes _ mem] at h
    cases h

theorem InterfaceMember.exists_key_cons (m : InterfaceMember) : ∃ c rest, m.key = c :: rest
    ∧ isTokenBlank c = false ∧ isLineEnd c = false ∧ c ≠ '/' := by
  rw [key]
  split
  · rename_i plain
    cases name : m.name.toList with
    | nil => simp [name, isIdentifierName] at plain
    | cons c rest =>
      rw [name, isIdentifierName, Bool.and_eq_true, Bool.or_eq_true, Bool.or_eq_true, beq_iff_eq,
        beq_iff_eq] at plain
      refine ⟨c, rest, rfl, ?_⟩
      rcases plain.1 with (rfl | rfl) | letter
      · decide
      · decide
      · exact not_gap_of_isAlphabetic letter
  · exact ⟨_, _, rfl, by decide⟩

/-- A reader that skips blanks and comments from the start of a member whose comments are whole meets each of
them as one comment, and stops at the key: what is left is the key, the mark of an optional member, and the
type. -/
theorem comments_end_before_member {m : InterfaceMember}
    (whole : ∀ c ∈ m.comments, IsWholeComment c.toList) (offset : Nat) (trivia : Trivia) (newline : Bool) :
    let gap := Reader.skip .blank offset trivia newline m.render
    gap.rest = m.key ++ (if m.isOptional then ['?'] else []) ++ ": ".toList ++ m.type.toList ++ [';']
      ∧ gap.unterminated = none
      ∧ gap.trivia.comments.length = trivia.comments.length + m.comments.length := by
  obtain ⟨c, rest, key, noBlank, noEnd, noMark⟩ := m.exists_key_cons
  have gap := (Reader.IsGap.comments whole).append (Reader.IsGap.blank.append Reader.IsGap.blank)
  obtain ⟨offset', trivia', newline', skipped, count⟩ :=
    gap (m.key ++ (if m.isOptional then ['?'] else []) ++ ": ".toList ++ m.type.toList ++ [';']) offset
      trivia newline
  have render : m.render = m.comments.flatMap InterfaceMember.commentText ++ ([' '] ++ [' '])
      ++ (m.key ++ (if m.isOptional then ['?'] else []) ++ ": ".toList ++ m.type.toList ++ [';']) := by
    simp [InterfaceMember.render]
  have stopped : Reader.skip .blank offset trivia newline m.render
      = ⟨m.key ++ (if m.isOptional then ['?'] else []) ++ ": ".toList ++ m.type.toList ++ [';'], offset',
        trivia', newline', none⟩ := by
    rw [render, skipped, key]
    exact Reader.skip_code noBlank noEnd noMark _ _ _ _
  dsimp only
  rw [stopped]
  exact ⟨rfl, rfl, by omega⟩

/-- A member below a comment to the end of its line and one over three lines, with a mark in each that
closes or opens nothing. -/
def commentedMember : InterfaceMember where
  name := "data-id"
  type := "string"
  isOptional := true
  comments := ["// closes nothing: */ ", "/*/ opens\n   // nothing: /*\r\n * /\t\n  */"]

/-- The reader meets two comments and stops at the key. -/
theorem commentedMember_found :
    (∀ c ∈ commentedMember.comments, IsWholeComment c.toList)
      ∧ let gap := Reader.skip .blank 0 {} false commentedMember.render
        gap.rest = commentedMember.key ++ (if commentedMember.isOptional then ['?'] else []) ++ ": ".toList
            ++ commentedMember.type.toList ++ [';']
          ∧ gap.unterminated = none
          ∧ gap.trivia.comments.length
            = ({} : Trivia).comments.length + commentedMember.comments.length := by
  have line : IsWholeComment "// closes nothing: */ ".toList := by
    have text : "// closes nothing: */ ".toList = '/' :: '/' :: " closes nothing: */ ".toList := by
      decide +kernel
    have single : " closes nothing: */ ".toList.all (fun c => isLineEnd c == false) = true := by
      decide +kernel
    rw [text]
    exact .line fun c hc => beq_iff_eq.mp (List.all_eq_true.mp single c hc)
  have block : IsWholeComment "/*/ opens\n   // nothing: /*\r\n * /\t\n  */".toList := by
    have text : "/*/ opens\n   // nothing: /*\r\n * /\t\n  */".toList
        = '/' :: '*' :: ("/ opens\n   // nothing: /*\r\n * /\t\n  ".toList ++ ['*', '/']) := by
      decide +kernel
    rw [text]
    exact .block (closesAtEnd_iff.mpr ⟨_, rfl, by decide +kernel⟩)
  have whole : ∀ c ∈ commentedMember.comments, IsWholeComment c.toList := by
    simp only [commentedMember, List.forall_mem_cons]
    exact ⟨line, block, by simp⟩
  exact ⟨whole, comments_end_before_member whole 0 {} false⟩

end TypedJsx
