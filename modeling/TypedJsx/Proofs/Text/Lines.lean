import TypedJsx.Text.Basic
/-!
The lines of a text. A newline ends a line, so a line is told by what stands before it: nothing, or a text
that ends in a newline, with one newline for every earlier line. The list of lines has at each place the line
that stands there (`getElem?_lines_eq_some_iff`).
-/
namespace TypedJsx

/-! ## Newlines -/

/-- A text that is empty or ends in a newline: what follows it begins a line. -/
def EndsLine (text : List Char) : Prop := text = [] ∨ text.getLast? = some '\n'

theorem newline_cases (text : List Char) :
    '\n' ∉ text ∨ ∃ first rest, text = first ++ '\n' :: rest ∧ '\n' ∉ first := by
  by_cases h : '\n' ∈ text
  · exact .inr (List.eq_append_cons_of_mem h)
  · exact .inl h

/-- What holds of text without a newline, and of text that begins with a line if it holds of what follows,
holds of every text. -/
theorem line_induction {P : List Char → Prop} (none : ∀ text, '\n' ∉ text → P text)
    (step : ∀ first rest, '\n' ∉ first → P rest → P (first ++ '\n' :: rest)) (text : List Char) :
    P text := by
  rcases newline_cases text with h | ⟨first, rest, e, h⟩
  · exact none text h
  · have shorter : rest.length < text.length := by
      rw [e, List.length_append, List.length_cons]
      omega
    rw [e]
    exact step first rest h (line_induction none step rest)
termination_by text.length

theorem exists_last_line (text : List Char) :
    ∃ before last, text = before ++ last ∧ EndsLine before ∧ '\n' ∉ last := by
  rcases newline_cases text.reverse with none | ⟨last, before, e, none⟩
  · exact ⟨[], text, rfl, .inl rfl, by simpa using none⟩
  · have split := congrArg List.reverse e
    rw [List.reverse_reverse, List.reverse_append, List.reverse_cons] at split
    exact ⟨before.reverse ++ ['\n'], last.reverse, split, .inr (by simp), by simpa using none⟩

theorem splitNewlines_of_none {text : List Char} (h : '\n' ∉ text) : splitNewlines text = [text] := by
  induction text with
  | nil => rfl
  | cons c text ih =>
    rw [List.mem_cons, not_or] at h
    rw [splitNewlines, if_neg (Ne.symm h.1), ih h.2]

theorem splitNewlines_append {first : List Char} (h : '\n' ∉ first) (rest : List Char) :
    splitNewlines (first ++ '\n' :: rest) = first :: splitNewlines rest := by
  induction first with
  | nil => rw [List.nil_append, splitNewlines, if_pos rfl]
  | cons c first ih =>
    rw [List.mem_cons, not_or] at h
    rw [List.cons_append, splitNewlines, if_neg (Ne.symm h.1), ih h.2]

theorem splitNewlines_ne_nil (text : List Char) : splitNewlines text ≠ [] := by
  induction text using line_induction with
  | none text h =>
    rw [splitNewlines_of_none h]
    exact List.cons_ne_nil _ _
  | step first rest h =>
    rw [splitNewlines_append h]
    exact List.cons_ne_nil _ _

/-! ## The list of lines -/

theorem lines_nil : lines [] = [] := rfl

theorem lines_of_none {text : List Char} (h : '\n' ∉ text) (some : text ≠ []) : lines text = [text] := by
  cases text with
  | nil => exact absurd rfl some
  | cons c text => rw [lines, splitNewlines_of_none h]; rfl

theorem lines_append_newline {first : List Char} (h : '\n' ∉ first) (rest : List Char) :
    lines (first ++ '\n' :: rest) = dropReturn first :: lines rest := by
  have some := splitNewlines_ne_nil rest
  rw [lines, lines, splitNewlines_append h, List.dropLast_cons_of_ne_nil some,
    List.getLast?_cons_of_ne_nil some, List.map_cons]
  split <;> rfl

theorem EndsLine.of_append_newline {first rest : List Char} (h : EndsLine (first ++ '\n' :: rest)) :
    EndsLine rest := by
  cases rest with
  | nil => exact .inl rfl
  | cons c rest =>
    rcases h with h | h
    · simp at h
    · exact .inr (by simpa using h)

/-- Text in front that ends in a newline has lines of its own, as many as it has newlines. -/
theorem lines_append {before : List Char} (h : EndsLine before) (text : List Char) :
    lines (before ++ text) = lines before ++ lines text
      ∧ (lines before).length = before.count '\n' := by
  induction before using line_induction with
  | none before single =>
    rcases h with rfl | h
    · exact ⟨rfl, rfl⟩
    · exact absurd (List.mem_of_getLast? h) single
  | step first rest single ih =>
    obtain ⟨same, count⟩ := ih h.of_append_newline
    have none : first.count '\n' = 0 := List.count_eq_zero.mpr single
    rw [List.append_assoc, List.cons_append, lines_append_newline single, lines_append_newline single, same]
    exact ⟨rfl, by simp [count, none]⟩

/-! ## Lines by what stands before them -/

/-- How a line is ended: by a newline, by a carriage return and a newline, or by the end of the text. -/
inductive IsEnding (content : List Char) : (ending rest : List Char) → Prop
  | newline {rest : List Char} (bare : content.getLast? ≠ some '\r') : IsEnding content ['\n'] rest
  | returned {rest : List Char} : IsEnding content ['\r', '\n'] rest
  | atEnd (some : content ≠ []) : IsEnding content [] []

/-- Line `n` of a text: what stands before it, the line itself, and what ends it. -/
structure IsLine (text : List Char) (n : Nat) (before content ending : List Char) : Prop where
  begins : EndsLine before
  number : n = before.count '\n' + 1
  single : '\n' ∉ content
  ends : ∃ rest, text = before ++ (content ++ (ending ++ rest)) ∧ IsEnding content ending rest

theorem dropReturn_append (text : List Char) : dropReturn (text ++ ['\r']) = text := by
  simp [dropReturn]

theorem dropReturn_cases (text : List Char) :
    text = dropReturn text ++ ['\r'] ∨ (dropReturn text = text ∧ text.getLast? ≠ some '\r') := by
  unfold dropReturn
  split
  · rename_i rest e
    refine .inl ?_
    rw [← List.reverse_cons, ← e, List.reverse_reverse]
  · rename_i other
    refine .inr ⟨rfl, fun last => ?_⟩
    obtain ⟨rest, e⟩ := List.getLast?_eq_some_iff.mp last
    exact other rest.reverse (by rw [e, List.reverse_append, List.reverse_singleton]; rfl)

theorem IsEnding.lines_eq {content ending rest : List Char} (h : IsEnding content ending rest)
    (single : '\n' ∉ content) : lines (content ++ (ending ++ rest)) = content :: lines rest := by
  cases h with
  | newline bare =>
    rcases dropReturn_cases content with e | ⟨e, -⟩
    · exact absurd (by rw [e]; exact List.getLast?_concat) bare
    · rw [List.singleton_append, lines_append_newline single, e]
  | returned =>
    have single' : '\n' ∉ content ++ ['\r'] := by simpa using single
    have parts : content ++ (['\r', '\n'] ++ rest) = (content ++ ['\r']) ++ '\n' :: rest := by simp
    rw [parts, lines_append_newline single', dropReturn_append]
  | atEnd some =>
    rw [List.append_nil, List.append_nil, lines_of_none single some, lines_nil]

theorem exists_first_line {text : List Char} (some : text ≠ []) : ∃ content ending rest,
    '\n' ∉ content ∧ IsEnding content ending rest ∧ text = content ++ (ending ++ rest) := by
  rcases newline_cases text with none | ⟨first, rest, rfl, none⟩
  · exact ⟨text, [], [], none, .atEnd some, by simp⟩
  · rcases dropReturn_cases first with e | ⟨e, bare⟩
    · refine ⟨dropReturn first, ['\r', '\n'], rest, fun mem => none ?_, .returned, ?_⟩
      · rw [e]
        exact List.mem_append_left _ mem
      · calc first ++ '\n' :: rest
          _ = (dropReturn first ++ ['\r']) ++ '\n' :: rest := by rw [← e]
          _ = dropReturn first ++ (['\r', '\n'] ++ rest) := by simp
    · exact ⟨first, ['\n'], rest, none, .newline bare, rfl⟩

theorem EndsLine.append {first rest : List Char} (h : rest = [] → EndsLine first)
    (h' : EndsLine rest) : EndsLine (first ++ rest) := by
  rcases h' with rfl | h'
  · rw [List.append_nil]
    exact h rfl
  · exact .inr (by rw [List.getLast?_append, h', Option.some_or])

theorem IsEnding.newline_of_ne_nil {content ending rest : List Char} (h : IsEnding content ending rest)
    (more : rest ≠ []) : EndsLine ending ∧ ending.count '\n' = 1 := by
  cases h with
  | newline bare => exact ⟨.inr rfl, rfl⟩
  | returned => exact ⟨.inr rfl, rfl⟩
  | atEnd some => exact absurd rfl more

theorem IsLine.ne_nil {text before content ending : List Char} {n : Nat}
    (h : IsLine text n before content ending) : text ≠ [] := by
  obtain ⟨rest, rfl, ends⟩ := h.ends
  cases ends with
  | atEnd some => simp [some]
  | _ => simp

/-- Behind a first line, every line is one later. -/
theorem IsLine.behind {content ending rest before line last : List Char} {n : Nat}
    (first : IsEnding content ending rest) (single : '\n' ∉ content) (h : IsLine rest n before line last) :
    IsLine (content ++ (ending ++ rest)) (n + 1) (content ++ (ending ++ before)) line last := by
  obtain ⟨newline, one⟩ := first.newline_of_ne_nil h.ne_nil
  obtain ⟨begins, rfl, inner, tail, rfl, ends⟩ := h
  have none : content.count '\n' = 0 := List.count_eq_zero.mpr single
  have begins' : EndsLine (ending ++ before) := .append (fun _ => newline) begins
  refine ⟨.append (fun e => ?_) begins', ?_, inner, tail, ?_, ends⟩
  · rw [List.append_eq_nil_iff] at e
    simp [e.1] at one
  · rw [List.count_append, List.count_append, none, one]
    omega
  · simp only [List.append_assoc]

/-- The list of lines has line `n` of the text at place `n`, counted from one. -/
theorem getElem?_lines_eq_some_iff {text content : List Char} {i : Nat} :
    (lines text)[i]? = some content ↔ ∃ before ending, IsLine text (i + 1) before content ending := by
  constructor
  · intro h
    induction i generalizing text with
    | zero =>
      have some : text ≠ [] := by
        rintro rfl
        cases h
      obtain ⟨first, ending, rest, single, ends, rfl⟩ := exists_first_line some
      rw [ends.lines_eq single] at h
      cases h
      exact ⟨[], ending, .inl rfl, rfl, single, rest, rfl, ends⟩
    | succ i ih =>
      have some : text ≠ [] := by
        rintro rfl
        cases h
      obtain ⟨first, ending, rest, single, ends, rfl⟩ := exists_first_line some
      rw [ends.lines_eq single, List.getElem?_cons_succ] at h
      obtain ⟨before, last, line⟩ := ih h
      exact ⟨_, last, line.behind ends single⟩
  · rintro ⟨before, ending, begins, number, single, rest, rfl, ends⟩
    -- what stands in front has as many lines as it has newlines
    obtain ⟨same, count⟩ := lines_append begins (content ++ (ending ++ rest))
    have place : i = (lines before).length := by omega
    rw [same, ends.lines_eq single, place, List.getElem?_append_right (Nat.le_refl _), Nat.sub_self]
    rfl

theorem IsLine.getElem?_lines {text before content ending : List Char} {n : Nat}
    (h : IsLine text n before content ending) : (lines text)[n - 1]? = some content := by
  obtain ⟨i, rfl⟩ : ∃ i, n = i + 1 := ⟨_, h.number⟩
  exact getElem?_lines_eq_some_iff.mpr ⟨before, ending, h⟩

/-- The text has the lines 1 to `total`. -/
def HasLines (text : List Char) (total : Nat) : Prop :=
  ∀ n, (∃ before content ending, IsLine text n before content ending) ↔ 1 ≤ n ∧ n ≤ total

theorem hasLines_length (text : List Char) : HasLines text (lines text).length := by
  intro n
  constructor
  · rintro ⟨before, content, ending, h⟩
    have number := h.number
    obtain ⟨lt, -⟩ := List.getElem?_eq_some_iff.mp h.getElem?_lines
    omega
  · rintro ⟨pos, le⟩
    obtain ⟨i, rfl⟩ : ∃ i, n = i + 1 := ⟨n - 1, by omega⟩
    obtain ⟨before, ending, h⟩ := getElem?_lines_eq_some_iff.mp (List.getElem?_eq_getElem le)
    exact ⟨before, _, ending, h⟩

end TypedJsx
