import Mathlib.Data.List.Basic
import TypedJsx.Diagnostic
import TypedJsx.Proofs.Text.Offset
import TypedJsx.Proofs.Text.Lines
/-!
Snippets around the line of an offset. The line of an offset is counted by the newlines before it, a snippet
counts the lines of the text. The two agree (`exists_lineOf`), but for an offset at the end of a text that has
nothing behind its last newline: there is no line there to show.

Main statement: a snippet shows the line of an offset, marked, and up to two lines on either side, each in
a row of its own, or there is no such line.
-/
namespace TypedJsx

/-! ## The line of an offset -/

/-- The line of an offset: the offset stands in it or in what ends it, or behind it at the end of the text. -/
structure IsLineOf (source : List Char) (offset : Nat) (before content ending : List Char) : Prop where
  line : IsLine source (Position.ofOffset source offset).line before content ending
  start_le : byteLength before ≤ offset
  lt_stop : offset < byteLength (before ++ (content ++ ending)) ∨ ending = []

theorem IsLine.not_endsLine {source before content : List Char} {n : Nat}
    (h : IsLine source n before content []) : ¬EndsLine source := by
  obtain ⟨rest, rfl, ends⟩ := h.ends
  cases ends with
  | atEnd some =>
    rintro (e | e)
    · simp [some] at e
    · rw [List.append_nil, List.append_nil, List.getLast?_append_of_ne_nil _ some] at e
      exact h.single (List.mem_of_getLast? e)

theorem IsLineOf.not_atEnd {source before content ending : List Char} {offset : Nat}
    (h : IsLineOf source offset before content ending) : ¬(byteLength source ≤ offset ∧ EndsLine source) := by
  rintro ⟨le, newline⟩
  rcases h.lt_stop with lt | rfl
  · obtain ⟨rest, rfl, -⟩ := h.line.ends
    simp only [byteLength_append] at le lt
    omega
  · exact h.line.not_endsLine newline

theorem lt_stop_of_cut {offset : Nat} {before last rest content ending behind : List Char}
    (single : '\n' ∉ last) (split : last ++ rest = content ++ (ending ++ behind))
    (ends : IsEnding content ending behind)
    (cut : ∀ c ∈ rest.head?, offset < byteLength (before ++ last) + c.utf8Size) :
    offset < byteLength (before ++ (content ++ ending)) ∨ ending = [] := by
  by_cases none : ending = []
  · exact .inr none
  have newline : '\n' ∈ content ++ ending := by
    cases ends with
    | atEnd some => exact absurd rfl none
    | _ => simp
  rw [← List.append_assoc] at split
  -- the newline that ends the line is not in `last`, so the line ends behind the cut
  rcases List.append_eq_append_iff.mp split with ⟨more, e, e'⟩ | ⟨more, e, -⟩
  · cases more with
    | nil =>
      rw [List.append_nil] at e
      exact absurd (e ▸ newline) single
    | cons c more =>
      have := cut c (by rw [e']; rfl)
      refine .inl ?_
      rw [e, ← List.append_assoc, byteLength_append, byteLength]
      omega
  · refine absurd ?_ single
    rw [e]
    exact List.mem_append_left _ newline

/-- An offset has a line, or it is at the end of a text that has nothing behind its last newline. Its line
would be behind the last one there. -/
theorem exists_lineOf (source : List Char) (offset : Nat) :
    (∃ before content ending, IsLineOf source offset before content ending)
      ∨ ((byteLength source ≤ offset ∧ EndsLine source)
        ∧ (Position.ofOffset source offset).line = (lines source).length + 1) := by
  obtain ⟨rest, same, le, cut⟩ := beforeByte_spec offset source
  obtain ⟨before, last, split, begins, single⟩ := exists_last_line (beforeByte offset source)
  have number : (Position.ofOffset source offset).line = before.count '\n' + 1 := by
    rw [line_ofOffset, split, List.count_append, List.count_eq_zero.mpr single, Nat.add_zero]
  rw [split] at same le cut
  by_cases none : last ++ rest = []
  · obtain ⟨rfl, rfl⟩ := List.append_eq_nil_iff.mp none
    simp only [List.append_nil] at same le
    subst same
    exact .inr ⟨⟨le, begins⟩, by rw [number, (lines_append begins []).2]⟩
  · obtain ⟨content, ending, behind, inner, ends, e⟩ := exists_first_line none
    refine .inl ⟨before, content, ending, ⟨begins, number, inner, behind, ?_, ends⟩, ?_,
      lt_stop_of_cut single e ends cut⟩
    · rw [same, List.append_assoc, e]
    · rw [byteLength_append] at le
      omega

/-! ## Rows -/

namespace Snippet

theorem getElem?_rows (width marked : Nat) (contents : List (List Char)) :
    ∀ n i : Nat, (rows width marked n contents)[i]? = contents[i]?.map (row width marked (n + i)) := by
  induction contents with
  | nil => intro n i; rfl
  | cons content contents ih =>
    intro n i
    cases i with
    | zero => rfl
    | succ i =>
      rw [rows, List.getElem?_cons_succ, List.getElem?_cons_succ, ih]
      congr 2
      omega

theorem length_rows (width marked n : Nat) (contents : List (List Char)) :
    (rows width marked n contents).length = contents.length := by
  induction contents generalizing n with
  | nil => rfl
  | cons content contents ih => rw [rows, List.length_cons, List.length_cons, ih]

theorem newline_not_mem_digitsOf (n : Nat) : '\n' ∉ digitsOf n := fun mem =>
  absurd (Nat.isDigit_of_mem_toDigits (by decide) (by decide) mem) (by decide)

theorem newline_not_mem_row {content : List Char} (h : '\n' ∉ content) (width marked n : Nat) :
    '\n' ∉ row width marked n content := by
  have digits := newline_not_mem_digitsOf n
  unfold row aligned
  split <;> simp [h, digits]

theorem length_digitsOf_le {m n : Nat} (h : m ≤ n) : (digitsOf m).length ≤ (digitsOf n).length := by
  have some : 0 < (digitsOf n).length := Nat.length_toDigits_pos
  have bound := (Nat.length_toDigits_le_iff (b := 10) (by decide) some).mp (Nat.le_refl _)
  exact (Nat.length_toDigits_le_iff (by decide) some).mpr (Nat.lt_of_le_of_lt h bound)

theorem length_aligned {width n : Nat} (h : (digitsOf n).length ≤ width) :
    (aligned width n).length = width := by
  rw [aligned, List.length_append, List.length_replicate]
  omega

theorem row_marker {width n : Nat} (h : (digitsOf n).length ≤ width) (marked : Nat) (content : List Char) :
    (row width marked n content)[width + 1]? = some (if n = marked then '>' else ' ') := by
  have length := length_aligned h
  rw [row, List.append_assoc, List.getElem?_append_right (by omega), length, Nat.add_sub_cancel_left]
  rfl

theorem joinWith_eq_intercalate (separator : List Char) (ts : List (List Char)) :
    joinWith separator ts = separator.intercalate ts := by
  induction ts with
  | nil => rfl
  | cons t ts ih =>
    cases ts with
    | nil => exact List.intercalate_singleton.symm
    | cons u ts =>
      rw [List.intercalate_cons_cons, ← ih]
      rfl

theorem splitOn_joinWith {rows : List (List Char)} (some : rows ≠ []) (single : ∀ r ∈ rows, '\n' ∉ r) :
    (joinWith ['\n'] rows).splitOn '\n' = rows := by
  rw [joinWith_eq_intercalate]
  exact List.splitOn_intercalate '\n' single some

theorem splitOn_joinWith_rows (width marked n : Nat) {contents : List (List Char)} (some : contents ≠ [])
    (single : ∀ content ∈ contents, '\n' ∉ content) :
    (joinWith ['\n'] (rows width marked n contents)).splitOn '\n' = rows width marked n contents := by
  refine splitOn_joinWith (fun none => some ?_) fun r mem => ?_
  · rw [← List.length_eq_zero_iff, ← length_rows width marked n contents, none]
    rfl
  · obtain ⟨i, hi⟩ := List.mem_iff_getElem?.mp mem
    rw [getElem?_rows] at hi
    obtain ⟨content, hc, rfl⟩ := Option.map_eq_some_iff.mp hi
    exact newline_not_mem_row (single content (List.mem_of_getElem? hc)) _ _ _

/-- A text whose rows are the lines `first` to `last` of a source, each once and in order, with its number
aligned to the last one. The row of one line has a mark, no other row does. -/
structure Shows (source : List Char) (marked first last : Nat) (text : List Char) : Prop where
  holds : first ≤ marked ∧ marked ≤ last
  count : (text.splitOn '\n').length = last + 1 - first
  row : ∀ n before content ending, first ≤ n → n ≤ last → IsLine source n before content ending →
    ∃ pad, pad + (digitsOf n).length = (digitsOf last).length
      ∧ (text.splitOn '\n')[n - first]? = some (List.replicate pad ' ' ++ digitsOf n
        ++ [' ', (if n = marked then '>' else ' '), ' ', '|', ' '] ++ content)
  mark : ∀ i row, (text.splitOn '\n')[i]? = some row →
    (row[(digitsOf last).length + 1]? = some '>' ↔ first + i = marked)

theorem shows_joinWith {source : List Char} {marked first last : Nat} {shown : List (List Char)}
    (holds : first ≤ marked ∧ marked ≤ last) (length : shown.length = last + 1 - first)
    (lines : ∀ i content, shown[i]? = some content ↔
      i < last + 1 - first ∧ ∃ before ending, IsLine source (first + i) before content ending) :
    Shows source marked first last (joinWith ['\n'] (rows (digitsOf last).length marked first shown)) := by
  have nonempty : shown ≠ [] := by
    rintro rfl
    rw [List.length_nil] at length
    omega
  have split := splitOn_joinWith_rows (digitsOf last).length marked first nonempty fun content mem => by
    obtain ⟨i, hi⟩ := List.mem_iff_getElem?.mp mem
    obtain ⟨-, before, ending, line⟩ := (lines i content).mp hi
    exact line.single
  have count := length_rows (digitsOf last).length marked first shown
  refine ⟨holds, by rw [split, count, length], fun n before content ending ge le line => ?_, fun i r hr => ?_⟩
  · have width := length_digitsOf_le le
    have atPlace : shown[n - first]? = some content := by
      refine (lines _ _).mpr ⟨by omega, before, ending, ?_⟩
      rwa [Nat.add_sub_cancel' ge]
    refine ⟨(digitsOf last).length - (digitsOf n).length, Nat.sub_add_cancel width, ?_⟩
    rw [split, getElem?_rows, atPlace, Nat.add_sub_cancel' ge]
    rfl
  · rw [split, getElem?_rows] at hr
    obtain ⟨content, hc, rfl⟩ := Option.map_eq_some_iff.mp hr
    obtain ⟨lt, -⟩ := (lines i content).mp hc
    rw [row_marker (length_digitsOf_le (by omega))]
    split <;> rename_i h <;> simp [h]

theorem getElem?_piece {source : List Char} {first : Nat} (pos : 1 ≤ first) (length i : Nat)
    (content : List Char) : (((lines source).drop (first - 1)).take length)[i]? = some content ↔
      i < length ∧ ∃ before ending, IsLine source (first + i) before content ending := by
  obtain ⟨k, rfl⟩ : ∃ k, first = k + 1 := ⟨first - 1, by omega⟩
  have place : k + 1 + i = k + i + 1 := by omega
  rw [List.getElem?_take, place, ← getElem?_lines_eq_some_iff]
  split
  · rename_i lt
    rw [List.getElem?_drop]
    simp [lt]
  · rename_i ge
    simp [ge]

theorem around?_of_not_line {source : List Char} {line : Nat} (h : (lines source).length < line) :
    around? source line = none :=
  if_pos (by simp [h])

/-- The snippet around a line of the text. -/
theorem around?_of_line {source : List Char} {line : Nat} (pos : 1 ≤ line) (le : line ≤ (lines source).length) :
    ∃ text, around? source line = some text
      ∧ Shows source line (max 1 (line - 2)) (min (lines source).length (line + 2)) text := by
  have inText : ¬(line = 0 || (lines source).length < line) = true := by
    simp only [Bool.or_eq_true, decide_eq_true_eq]
    omega
  refine ⟨_, if_neg inText, ?_⟩
  rw [Nat.min_comm (lines source).length]
  refine shows_joinWith (by omega) ?_ (getElem?_piece (by omega) _)
  rw [List.length_take, List.length_drop]
  omega

end Snippet

/-- The snippet around the line of an offset shows that line, marked, and up to two lines on either side. There
is none for an offset at the end of a text with nothing behind its last newline. -/
theorem snippet_shows_line_of_offset (source : List Char) (offset : Nat) :
    (Position.ofOffset source offset).line ≤ byteLength source + 1
      ∧ (Snippet.around? source (Position.ofOffset source offset).line = none
        ↔ byteLength source ≤ offset ∧ EndsLine source)
      ∧ ∀ text, Snippet.around? source (Position.ofOffset source offset).line = some text → ∃ total,
        HasLines source total
          ∧ Snippet.Shows source (Position.ofOffset source offset).line
            (max 1 ((Position.ofOffset source offset).line - 2))
            (min total ((Position.ofOffset source offset).line + 2)) text
          ∧ ∃ before content ending, IsLineOf source offset before content ending := by
  refine ⟨line_ofOffset_le source offset, ?_⟩
  rcases exists_lineOf source offset with ⟨before, content, ending, h⟩ | ⟨atEnd, behind⟩
  · obtain ⟨pos, le⟩ := (hasLines_length source _).mp ⟨before, content, ending, h.line⟩
    obtain ⟨text, shown, shows⟩ := Snippet.around?_of_line pos le
    rw [shown]
    refine ⟨iff_of_false (Option.some_ne_none _) h.not_atEnd, fun _ e => ?_⟩
    cases e
    exact ⟨_, hasLines_length source, shows, before, content, ending, h⟩
  · rw [Snippet.around?_of_not_line (by omega)]
    exact ⟨iff_of_true rfl atEnd, fun _ e => nomatch e⟩

end TypedJsx
