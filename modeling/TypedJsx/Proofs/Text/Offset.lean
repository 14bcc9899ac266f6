import Mathlib.Data.List.Infix
import Mathlib.Data.Nat.Find
import Mathlib.Data.Prod.Lex
import TypedJsx.Text.Basic
/-!
Byte offsets of text, and positions in order. Characters begin at some offsets only; an offset that cuts a
character stands for the one where that character begins, and an offset past the end for the end
(`boundaryAt`). What stands before an offset ends just there (`byteLength_beforeByte`).

One more character takes a position further, along its line or to the start of the next one
(`Position.key_lt_next`), so of two beginnings of a text the longer one ends further on
(`Position.key_after_lt`). Neither number of a position exceeds the bytes of the text by more than one, so
words of 32 bits hold both for any text that is not longer than they can count.

Main statement: offsets that stand for different boundaries of a text have different positions, in the order
of the boundaries.
-/
namespace TypedJsx

/-! ## Lengths -/

theorem byteLength_append (text rest : List Char) :
    byteLength (text ++ rest) = byteLength text + byteLength rest := by
  induction text with
  | nil => simp [byteLength]
  | cons c text ih => simp [byteLength, ih, Nat.add_assoc]

theorem length_le_byteLength (text : List Char) : text.length ≤ byteLength text := by
  induction text with
  | nil => exact Nat.le_refl _
  | cons c text ih =>
    have := c.utf8Size_pos
    rw [List.length_cons, byteLength]
    omega

theorem byteLength_le_of_isPrefix {before text : List Char} (h : before <+: text) :
    byteLength before ≤ byteLength text := by
  obtain ⟨rest, rfl⟩ := h
  rw [byteLength_append]
  exact Nat.le_add_right _ _

theorem byteLength_eq_zero_iff {text : List Char} : byteLength text = 0 ↔ text = [] := by
  rw [← List.length_eq_zero_iff]
  have := length_le_byteLength text
  refine ⟨fun none => by omega, fun none => ?_⟩
  rw [List.length_eq_zero_iff.mp none]
  rfl

theorem isPrefix_of_byteLength_le {u v text : List Char} (hu : u <+: text) (hv : v <+: text)
    (le : byteLength u ≤ byteLength v) : u <+: v := by
  rcases List.prefix_or_prefix_of_prefix hu hv with h | ⟨more, rfl⟩
  · exact h
  · rw [byteLength_append] at le
    have none : more = [] := byteLength_eq_zero_iff.mp (by omega)
    rw [none, List.append_nil]

theorem eq_of_isPrefix_of_byteLength_eq {u v text : List Char} (hu : u <+: text) (hv : v <+: text)
    (same : byteLength u = byteLength v) : u = v :=
  List.IsPrefix.eq_of_length_le (isPrefix_of_byteLength_le hu hv same.le)
    (isPrefix_of_byteLength_le hv hu same.ge).length_le

/-! ## What stands before an offset -/

theorem beforeByte_spec (offset : Nat) (text : List Char) : ∃ rest,
    text = beforeByte offset text ++ rest ∧ byteLength (beforeByte offset text) ≤ offset
      ∧ ∀ c ∈ rest.head?, offset < byteLength (beforeByte offset text) + c.utf8Size := by
  induction text generalizing offset with
  | nil => exact ⟨[], rfl, Nat.zero_le _, by simp⟩
  | cons c text ih =>
    unfold beforeByte
    split
    · rename_i fits
      obtain ⟨rest, same, le, cut⟩ := ih (offset - c.utf8Size)
      refine ⟨rest, by rw [List.cons_append, ← same], ?_, fun d hd => ?_⟩
      · rw [byteLength]
        omega
      · have := cut d hd
        rw [byteLength]
        omega
    · rename_i cut
      refine ⟨c :: text, rfl, Nat.zero_le _, fun d hd => ?_⟩
      cases hd
      rw [byteLength]
      omega

theorem beforeByte_isPrefix (offset : Nat) (text : List Char) : beforeByte offset text <+: text := by
  obtain ⟨rest, same, -⟩ := beforeByte_spec offset text
  exact ⟨rest, same.symm⟩

theorem byteLength_beforeByte_le (offset : Nat) (text : List Char) :
    byteLength (beforeByte offset text) ≤ offset := by
  obtain ⟨rest, -, le, -⟩ := beforeByte_spec offset text
  exact le

theorem length_beforeByte_le (offset : Nat) (text : List Char) :
    (beforeByte offset text).length ≤ byteLength text :=
  (length_le_byteLength _).trans (byteLength_le_of_isPrefix (beforeByte_isPrefix offset text))

/-- What stands before an offset is the longest beginning of the text that ends there at the latest. -/
theorem isPrefix_beforeByte_iff {u text : List Char} {offset : Nat} :
    u <+: beforeByte offset text ↔ u <+: text ∧ byteLength u ≤ offset := by
  constructor
  · intro h
    exact ⟨h.trans (beforeByte_isPrefix offset text),
      (byteLength_le_of_isPrefix h).trans (byteLength_beforeByte_le offset text)⟩
  · rintro ⟨⟨tail, split⟩, fits⟩
    obtain ⟨rest, same, -, cut⟩ := beforeByte_spec offset text
    rcases List.append_eq_append_iff.mp (split.trans same) with ⟨more, e, -⟩ | ⟨more, e, e'⟩
    · exact ⟨more, e.symm⟩
    · cases more with
      | nil =>
        rw [e, List.append_nil]
      | cons c more =>
        -- a longer beginning has the character that the offset cuts
        have := cut c (by rw [e']; rfl)
        rw [e, byteLength_append, byteLength] at fits
        omega

theorem beforeByte_isPrefix_of_le {a b : Nat} (le : a ≤ b) (text : List Char) :
    beforeByte a text <+: beforeByte b text :=
  isPrefix_beforeByte_iff.mpr ⟨beforeByte_isPrefix a text, (byteLength_beforeByte_le a text).trans le⟩

/-! ## Boundaries -/

/-- A character of the text begins at an offset, or the text ends there. -/
def IsBoundary (text : List Char) (offset : Nat) : Prop := ∃ before ∈ text.inits, byteLength before = offset

instance (text : List Char) : DecidablePred (IsBoundary text) := fun offset =>
  inferInstanceAs (Decidable (∃ before ∈ text.inits, byteLength before = offset))

/-- The boundary that an offset stands for: the offset, or the end of the text if that is before it, taken
down to where a character begins. -/
def boundaryAt (text : List Char) (offset : Nat) : Nat :=
  Nat.findGreatest (IsBoundary text) (min offset (byteLength text))

theorem isBoundary_of_isPrefix {before text : List Char} (h : before <+: text) :
    IsBoundary text (byteLength before) :=
  ⟨before, (List.mem_inits _ _).mpr h, rfl⟩

theorem isBoundary_boundaryAt (text : List Char) (offset : Nat) : IsBoundary text (boundaryAt text offset) :=
  Nat.findGreatest_spec (Nat.zero_le _) (isBoundary_of_isPrefix List.nil_prefix)

/-- What stands before an offset ends at the boundary that the offset stands for. -/
theorem byteLength_beforeByte (offset : Nat) (text : List Char) :
    byteLength (beforeByte offset text) = boundaryAt text offset := by
  have begins := beforeByte_isPrefix offset text
  have fits := byteLength_beforeByte_le offset text
  refine Nat.le_antisymm ?_ ?_
  · exact Nat.le_findGreatest (Nat.le_min_of_le_of_le fits (byteLength_le_of_isPrefix begins))
      (isBoundary_of_isPrefix begins)
  · obtain ⟨before, mem, ends⟩ := isBoundary_boundaryAt text offset
    have le : boundaryAt text offset ≤ min offset (byteLength text) := Nat.findGreatest_le _
    rw [← ends]
    refine byteLength_le_of_isPrefix (isPrefix_beforeByte_iff.mpr ⟨(List.mem_inits _ _).mp mem, ?_⟩)
    omega

theorem beforeByte_eq_iff {text : List Char} {a b : Nat} :
    beforeByte a text = beforeByte b text ↔ boundaryAt text a = boundaryAt text b := by
  rw [← byteLength_beforeByte, ← byteLength_beforeByte]
  exact ⟨congrArg byteLength,
    eq_of_isPrefix_of_byteLength_eq (beforeByte_isPrefix a text) (beforeByte_isPrefix b text)⟩

namespace Position

/-! ## Order -/

/-- The order of positions: by lines, and by columns within a line. -/
def key (p : Position) : Nat ×ₗ Nat := toLex (p.line, p.column)

/-- The position behind one more character. -/
def next (p : Position) (c : Char) : Position :=
  if c = '\n' then ⟨p.line + 1, 1⟩ else ⟨p.line, p.column + 1⟩

theorem key_lt_next (p : Position) (c : Char) : p.key < (p.next c).key := by
  rw [key, key, Prod.Lex.toLex_lt_toLex]
  unfold next
  split
  · exact .inl (Nat.lt_succ_self _)
  · exact .inr ⟨rfl, Nat.lt_succ_self _⟩

theorem after_concat (text : List Char) (c : Char) : after (text ++ [c]) = (after text).next c := by
  unfold after next
  rw [List.reverse_append, List.count_append, List.reverse_singleton, List.singleton_append]
  split
  · rename_i newline
    subst newline
    rfl
  · rename_i other
    rw [List.takeWhile_cons_of_pos (by simpa using other), List.count_singleton,
      if_neg (by simpa using other)]
    rfl

theorem key_after_lt {more : List Char} (some : more ≠ []) (text : List Char) :
    (after text).key < (after (text ++ more)).key := by
  induction more using List.reverseRecOn with
  | nil => exact absurd rfl some
  | append_singleton more c ih =>
    rw [← List.append_assoc, after_concat]
    by_cases none : more = []
    · rw [none, List.append_nil]
      exact key_lt_next _ c
    · exact (ih none).trans (key_lt_next _ c)

theorem after_eq_iff_of_isPrefix {u v : List Char} (h : u <+: v) : after u = after v ↔ u = v := by
  obtain ⟨more, rfl⟩ := h
  refine ⟨fun same => ?_, congrArg after⟩
  by_cases none : more = []
  · rw [none, List.append_nil]
  · exact absurd (congrArg key same) (key_after_lt none u).ne

theorem key_after_le_of_isPrefix {u v : List Char} (h : u <+: v) : (after u).key ≤ (after v).key := by
  obtain ⟨more, rfl⟩ := h
  by_cases none : more = []
  · rw [none, List.append_nil]
  · exact (key_after_lt none u).le

/-! ## Numbers -/

/-- Line and column of the position behind a text, counted in words of 32 bits, which wrap. -/
def wordsAfter (text : List Char) : UInt32 × UInt32 :=
  (UInt32.ofNat (text.count '\n') + 1, UInt32.ofNat (text.reverse.takeWhile (· != '\n')).length + 1)

theorem toNat_word_add_one {n : Nat} (h : n + 1 < Nat.pow 2 32) : (UInt32.ofNat n + 1).toNat = n + 1 := by
  have sum : UInt32.ofNat n + 1 = UInt32.ofNat (n + 1) := (UInt32.ofNat_add n 1).symm
  rw [sum]
  exact UInt32.toNat_ofNat_of_lt' h

theorem wordsAfter_eq {text : List Char} (line : (after text).line < Nat.pow 2 32)
    (column : (after text).column < Nat.pow 2 32) :
    (wordsAfter text).1.toNat = (after text).line ∧ (wordsAfter text).2.toNat = (after text).column :=
  ⟨toNat_word_add_one line, toNat_word_add_one column⟩

end Position

theorem line_ofOffset (source : List Char) (offset : Nat) :
    (Position.ofOffset source offset).line = (beforeByte offset source).count '\n' + 1 := rfl

/-- Lines and columns are counted in 32 bits where the bytes of the text can be. -/
theorem line_ofOffset_le (source : List Char) (offset : Nat) :
    (Position.ofOffset source offset).line ≤ byteLength source + 1 :=
  Nat.succ_le_succ (List.count_le_length.trans (length_beforeByte_le offset source))

theorem column_ofOffset_le (source : List Char) (offset : Nat) :
    (Position.ofOffset source offset).column ≤ byteLength source + 1 := by
  refine Nat.succ_le_succ ?_
  calc ((beforeByte offset source).reverse.takeWhile (· != '\n')).length
    _ ≤ (beforeByte offset source).reverse.length := (List.takeWhile_sublist _).length_le
    _ = (beforeByte offset source).length := List.length_reverse
    _ ≤ byteLength source := length_beforeByte_le offset source

/-- Positions tell offsets apart and have their order. Of two offsets the later one has no earlier position,
and the same one just if both stand for the same boundary of the text. Lines and columns count from one, and
counting them in words of 32 bits does not wrap. -/
theorem positions_order_offsets {source : List Char} (short : byteLength source < Nat.pow 2 32 - 1) {a b : Nat}
    (le : a ≤ b) :
    (Position.ofOffset source a).key ≤ (Position.ofOffset source b).key
      ∧ (Position.ofOffset source a = Position.ofOffset source b ↔ boundaryAt source a = boundaryAt source b)
      ∧ ∀ offset, IsBoundary source (boundaryAt source offset)
        ∧ 1 ≤ (Position.ofOffset source offset).line ∧ 1 ≤ (Position.ofOffset source offset).column
        ∧ (Position.wordsAfter (beforeByte offset source)).1.toNat = (Position.ofOffset source offset).line
        ∧ (Position.wordsAfter (beforeByte offset source)).2.toNat
          = (Position.ofOffset source offset).column := by
  have begins := beforeByte_isPrefix_of_le le source
  refine ⟨Position.key_after_le_of_isPrefix begins, ?_, fun offset => ?_⟩
  · rw [← beforeByte_eq_iff]
    exact Position.after_eq_iff_of_isPrefix begins
  · have line := line_ofOffset_le source offset
    have column := column_ofOffset_le source offset
    refine ⟨isBoundary_boundaryAt source offset, Nat.succ_pos _, Nat.succ_pos _, ?_⟩
    have small : byteLength source + 1 < Nat.pow 2 32 := Nat.add_lt_of_lt_sub short
    exact Position.wordsAfter_eq (line.trans_lt small) (column.trans_lt small)

/-- A text with a character of two bytes in it. -/
def accentedText : List Char := ['a', 'é', '\n', 'b']

/-- An offset inside of the character is before one past the end, and at the character. -/
theorem accented_offsets_ordered : byteLength accentedText < Nat.pow 2 32 - 1 ∧ 2 ≤ 9
    ∧ boundaryAt accentedText 2 = 1 ∧ boundaryAt accentedText 9 = 5
    ∧ (Position.ofOffset accentedText 2).key ≤ (Position.ofOffset accentedText 9).key
    ∧ Position.ofOffset accentedText 2 ≠ Position.ofOffset accentedText 9 := by
  have ends : boundaryAt accentedText 2 = 1 ∧ boundaryAt accentedText 9 = 5 := by decide
  obtain ⟨le, same, -⟩ := @positions_order_offsets accentedText (by decide) 2 9 (by decide)
  refine ⟨by decide, by decide, ends.1, ends.2, le, fun equal => ?_⟩
  have := same.mp equal
  rw [ends.1, ends.2] at this
  cases this

end TypedJsx
