import Mathlib.Data.List.TakeWhile
import TypedJsx.FileSystem
/-!
Paths and the paths of their directories. The parts of a text with a slash in it are those before the slash
and those behind it (`Path.parts_append`), and so the path without its last part has all parts but the last
(`Path.parts_parent`), and is absolute if the path is (`Path.isAbsolute_parent`).
-/
namespace TypedJsx.Path

/-! ## Parts -/

theorem pieces_ne_nil (path : List Char) : pieces path ≠ [] := by
  unfold pieces
  repeat' split
  all_goals simp

theorem pieces_append (before after : List Char) :
    pieces (before ++ '/' :: after) = pieces before ++ pieces after := by
  induction before with
  | nil => rfl
  | cons c before ih =>
    by_cases hc : c = '/'
    · simp [pieces, hc, ih]
    · cases hp : pieces before with
      | nil => exact absurd hp (pieces_ne_nil before)
      | cons p ps => simp [pieces, hc, ih, hp]

theorem pieces_of_no_slash {name : List Char} (h : '/' ∉ name) : pieces name = [name] := by
  induction name with
  | nil => rfl
  | cons c name ih =>
    rw [List.mem_cons, not_or] at h
    simp [pieces, Ne.symm h.1, ih h.2]

theorem exists_pieces_append (path : List Char) : ∃ front last, ∀ ending, '/' ∉ ending →
    pieces (path ++ ending) = front ++ [last ++ ending] := by
  induction path with
  | nil => exact ⟨[], [], fun _ h => pieces_of_no_slash h⟩
  | cons c path ih =>
    obtain ⟨front, last, split⟩ := ih
    by_cases hc : c = '/'
    · exact ⟨[] :: front, last, fun ending h => by simp [pieces, hc, split ending h]⟩
    · cases front with
      | nil => exact ⟨[], c :: last, fun ending h => by simp [pieces, hc, split ending h]⟩
      | cons p front => exact ⟨(c :: p) :: front, last, fun ending h => by simp [pieces, hc, split ending h]⟩

theorem parts_append (before after : List Char) :
    parts (before ++ '/' :: after) = parts before ++ parts after := by
  rw [parts, pieces_append, List.filter_append, parts, parts]

theorem dropLast_parts_of_no_slash {name : List Char} (h : '/' ∉ name) : (parts name).dropLast = [] := by
  rw [parts, pieces_of_no_slash h, List.filter_cons, List.filter_nil]
  split <;> rfl

theorem parts_of_name {name : List Char} (h : '/' ∉ name) (some : name ≠ []) (dot : name ≠ ['.']) :
    parts name = [name] := by
  simp [parts, pieces_of_no_slash h, some, dot]

/-! ## Ends that mean nothing -/

theorem parts_reverse_trimmed (r : List Char) : parts (trimmed r).reverse = parts r.reverse := by
  induction r using trimmed.induct with
  | case1 r ih =>
    rw [trimmed, ih, List.reverse_cons, parts_append]
    exact (List.append_nil _).symm
  | case2 r ih =>
    have split : ('.' :: '/' :: r).reverse = r.reverse ++ '/' :: ['.'] := by simp
    rw [trimmed, ih, split, parts_append]
    exact (List.append_nil _).symm
  | case3 r slash dot => rw [trimmed.eq_3 r slash dot]

theorem trimmed_ne (r k : List Char) : trimmed r ≠ '/' :: k ∧ trimmed r ≠ '.' :: '/' :: k := by
  induction r using trimmed.induct with
  | case1 r ih => exact ih
  | case2 r ih => exact ih
  | case3 r slash dot =>
    rw [trimmed.eq_3 r slash dot]
    exact ⟨fun h => slash k h, fun h => dot k h⟩

theorem exists_trimmed (r : List Char) :
    ∃ off, r = off ++ trimmed r ∧ (off = [] ∨ off.getLast? = some '/') := by
  induction r using trimmed.induct with
  | case1 r ih =>
    obtain ⟨off, split, last⟩ := ih
    refine ⟨'/' :: off, by rw [trimmed, List.cons_append, ← split], .inr ?_⟩
    rcases last with rfl | last
    · rfl
    · simp [List.getLast?_cons, last]
  | case2 r ih =>
    obtain ⟨off, split, last⟩ := ih
    refine ⟨'.' :: '/' :: off, by rw [trimmed, List.cons_append, List.cons_append, ← split], .inr ?_⟩
    rcases last with rfl | last
    · rfl
    · simp [List.getLast?_cons, last]
  | case3 r slash dot => exact ⟨[], by rw [trimmed.eq_3 r slash dot]; rfl, .inl rfl⟩

theorem getLast?_trimmed (r : List Char) :
    (trimmed r).getLast? = r.getLast? ∨ trimmed r = [] ∧ r.getLast? = some '/' := by
  obtain ⟨off, split, last⟩ := exists_trimmed r
  cases ht : trimmed r with
  | cons c rest =>
    rw [ht] at split
    exact .inl (by simp [split, List.getLast?_append, List.getLast?_cons])
  | nil =>
    rw [ht, List.append_nil] at split
    rcases last with rfl | last
    · exact .inl (by rw [split])
    · exact .inr ⟨rfl, by rw [split, last]⟩

/-! ## The path without its last part -/

theorem parts_of_trimmed {path r : List Char} (h : trimmed path.reverse = r) :
    parts path = parts r.reverse := by
  rw [← h, parts_reverse_trimmed, List.reverse_reverse]

/-- A path without its last part: from behind, a name goes, and what is left loses what means nothing. -/
theorem parent_cases (path : List Char) :
    '/' ∉ trimmed path.reverse ∧ parent path = []
      ∨ ∃ name rest, trimmed path.reverse = name ++ '/' :: rest ∧ '/' ∉ name ∧ name ≠ [] ∧ name ≠ ['.']
        ∧ (trimmed ('/' :: rest) = [] ∧ parent path = ['/']
          ∨ trimmed ('/' :: rest) ≠ [] ∧ parent path = (trimmed ('/' :: rest)).reverse) := by
  -- seen from behind, the last name is all that stands in front of the first slash
  have split : (trimmed path.reverse).takeWhile (· != '/') ++ (trimmed path.reverse).dropWhile (· != '/')
      = trimmed path.reverse := List.takeWhile_append_dropWhile
  have noSlash : '/' ∉ (trimmed path.reverse).takeWhile (· != '/') := fun h => by
    simpa using List.mem_takeWhile_imp h
  cases hk : (trimmed path.reverse).dropWhile (· != '/') with
  | nil =>
    rw [hk, List.append_nil] at split
    exact .inl ⟨split ▸ noSlash, by simp [parent, hk, trimmed]⟩
  | cons c rest =>
    obtain rfl : c = '/' := by
      have := List.head?_dropWhile_not (· != '/') (trimmed path.reverse)
      simpa [hk] using this
    rw [hk] at split
    refine .inr ⟨_, rest, split.symm, noSlash, fun h => ?_, fun h => ?_, ?_⟩
    · rw [h] at split
      exact (trimmed_ne _ _).1 split.symm
    · rw [h] at split
      exact (trimmed_ne _ _).2 split.symm
    · cases ht : trimmed ('/' :: rest) with
      | nil => exact .inl ⟨rfl, by simp [parent, hk, ht]⟩
      | cons d ds => exact .inr ⟨by simp, by simp [parent, hk, ht]⟩

/-- The path without its last part has all parts but the last. -/
theorem parts_parent (path : List Char) : parts (parent path) = (parts path).dropLast := by
  rcases parent_cases path with ⟨noSlash, above⟩ | ⟨name, rest, split, noSlash, some, dot, above⟩
  · have one : (parts (trimmed path.reverse).reverse).dropLast = [] :=
      dropLast_parts_of_no_slash fun h => noSlash (List.mem_reverse.mp h)
    rw [above, parts_of_trimmed (rfl : trimmed path.reverse = _), one]
    rfl
  · have name' : parts name.reverse = [name.reverse] :=
      parts_of_name (by simpa using noSlash) (by simpa using some) fun h => dot (List.reverse_eq_iff.mp h)
    have all : parts path = parts rest.reverse ++ [name.reverse] := by
      rw [parts_of_trimmed split, List.reverse_append, List.reverse_cons, List.append_assoc,
        List.singleton_append, parts_append, name']
    have most : parts (parent path) = parts (trimmed ('/' :: rest)).reverse := by
      rcases above with ⟨none, above⟩ | ⟨-, above⟩
      · rw [above, none]
        rfl
      · rw [above]
    rw [most, parts_reverse_trimmed, List.reverse_cons, parts_append, all, List.dropLast_concat]
    exact List.append_nil _

theorem isAbsolute_parent {path : List Char} (h : parts path ≠ []) :
    isAbsolute (parent path) = isAbsolute path := by
  have first : path.head? = path.reverse.getLast? := by simp
  rcases parent_cases path with ⟨noSlash, above⟩ | ⟨name, rest, split, -, -, -, above⟩
  · rcases getLast?_trimmed path.reverse with same | ⟨none, -⟩
    · rw [above, isAbsolute, isAbsolute, first, ← same]
      refine (beq_eq_false_iff_ne.mpr fun h => noSlash ?_).symm
      exact List.mem_of_getLast? h
    · exact absurd (parts_of_trimmed none) h
  · have last : path.head? = ('/' :: rest).getLast? := by
      rcases getLast?_trimmed path.reverse with same | ⟨none, -⟩
      · rw [first, ← same, split]
        simp [List.getLast?_append, List.getLast?_cons]
      · simp [none] at split
    rcases getLast?_trimmed ('/' :: rest) with same | ⟨none, slash⟩
    · rcases above with ⟨none, -⟩ | ⟨-, above⟩
      · simp [none, List.getLast?_cons] at same
      · rw [above, isAbsolute, isAbsolute, last, ← same, List.head?_reverse]
    · rcases above with ⟨-, above⟩ | ⟨some, -⟩
      · rw [above, isAbsolute, isAbsolute, last, slash]
        rfl
      · exact absurd none some

end TypedJsx.Path
