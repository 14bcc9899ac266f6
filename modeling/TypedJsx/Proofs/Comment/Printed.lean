import TypedJsx.Conversion
import TypedJsx.Proofs.Comment.Placement
/-!
Whether a comment is printed at its new place. Comments are printed where a statement starts and at the end
of the program. But an arrow that is one expression keeps it as the statement of a body, and the expression
is printed without that statement; to the search for a new place it is a statement like any other.

Main statement: a comment that moves leads a statement of the tree or the end of the program, and it is
printed there just if it is not placed at the value of an arrow.
-/
namespace TypedJsx

/-! ## Statements and values -/

/-- Whether the child at position `i` of a node is the body of an arrow that is one expression. -/
def Kind.holdsValueAt (k : Kind) (i : Nat) : Bool :=
  match k with
  | .arrow form => form.isExpression && i == 3
  | _ => false

mutual

/-- The statements of a tree, each with whether it is printed as one. In the body of an arrow that is one
expression (`isValue`) they are not; what is in them is. -/
def Node.standing (isValue : Bool) : Node → List (Node × Bool)
  | .mk k _ cs => standingFrom isValue k 0 cs

def standingFrom (isValue : Bool) (k : Kind) (i : Nat) : List Node → List (Node × Bool)
  | [] => []
  | c :: cs =>
    (if k.holdsStatementAt i && !c.isDirective then [(c, !isValue)] else [])
      ++ c.standing (k.holdsValueAt i) ++ standingFrom isValue k (i + 1) cs

end

/-- The statement that holds the value of an arrow. -/
def Node.Returns (tree v : Node) : Prop := (v, false) ∈ tree.standing false

/-- Comments are printed that lead this offset: a statement that is printed as one starts there, or the
program ends. -/
def Node.PrintsCommentsAt (tree : Node) (t : Nat) : Prop :=
  t = tree.span.stop ∨
    ∃ s ∈ tree.standing false, s.2 = true ∧ s.1.span.isEmpty = false ∧ s.1.span.start = t

instance (tree : Node) (t : Nat) : Decidable (tree.PrintsCommentsAt t) :=
  inferInstanceAs (Decidable (_ ∨ _))

/-- The statements that comments are placed at are those that are printed as such, and the values. -/
theorem Node.statementSpans_eq (n : Node) : ∀ isValue, n.statementSpans
    = ((n.standing isValue).map fun s => s.1.span).filter fun s => !s.isEmpty := by
  induction n using Node.induction with
  | step k sp cs ih =>
    have parts : ∀ i isValue, statementSpansFrom k i cs
        = ((standingFrom isValue k i cs).map fun s => s.1.span).filter fun s => !s.isEmpty := by
      induction cs with
      | nil => exact fun _ _ => rfl
      | cons c cs rest =>
        rw [List.forall_mem_cons] at ih
        intro i isValue
        rw [statementSpansFrom, standingFrom, List.map_append, List.map_append, List.filter_append,
          List.filter_append, ih.1 (k.holdsValueAt i), rest ih.2 (i + 1) isValue]
        congr 2
        cases k.holdsStatementAt i <;> cases c.isDirective <;> cases he : c.span.isEmpty <;> simp [he]
    exact parts 0

/-- Over a span that comments are placed at stands a statement that is printed, or a value. -/
theorem Node.prints_or_returns {tree : Node} {s : Span} (h : s ∈ tree.statementSpans) :
    tree.PrintsCommentsAt s.start ∨ ∃ v, tree.Returns v ∧ v.span = s := by
  rw [tree.statementSpans_eq false, List.mem_filter, List.mem_map] at h
  obtain ⟨⟨⟨n, printed⟩, hn, rfl⟩, some⟩ := h
  cases printed with
  | true => exact .inl (.inr ⟨(n, true), hn, rfl, by simpa using some, rfl⟩)
  | false => exact .inr ⟨n, hn, rfl⟩

/-! ## All comments that move -/

/-- A comment that moves leads the statement that it is placed at, which is one of the tree, or the end of
the program. It is printed there just if it is not placed at a value of an arrow where nothing else is
printed. -/
theorem moved_comment_printed_iff (tree : Node) (source : List Char) (removed absorbed : List Span)
    (c : Comment) (h : (tree.anchors source).moves removed absorbed c = true) :
    let moved := (tree.anchors source).place removed absorbed c
    moved.isLeading = true
      ∧ ((∃ s ∈ tree.statementSpans, tree.LeadsTo source removed c s ∧ moved.attachedTo = s.start)
        ∨ moved.attachedTo = tree.span.stop)
      ∧ (tree.PrintsCommentsAt moved.attachedTo ↔
        ¬∃ v, tree.Returns v ∧ tree.LeadsTo source removed c v.span
          ∧ ¬tree.PrintsCommentsAt v.span.start) := by
  intro moved
  rw [Anchors.moves, Bool.and_eq_true, Option.isSome_iff_exists] at h
  obtain ⟨notTaken, t, ht⟩ := h
  have notAbsorbed : c.span ∉ absorbed := by simpa using notTaken
  have place : moved = _ := Anchors.place_of_target? _ notAbsorbed ht
  have here : moved.attachedTo = t := by rw [place]; rfl
  have leads : moved.isLeading = true := by rw [place]; rfl
  rw [here]
  refine ⟨leads, ?_, ?_, ?_⟩
  · rcases Node.leadsTo_of_target? ht with ⟨s, toward, e⟩ | e
    · exact .inl ⟨s, toward.mem, toward, e⟩
    · exact .inr e
  · rintro prints ⟨v, -, toward, silent⟩
    rw [toward.target?_eq] at ht
    exact silent (Option.some.inj ht ▸ prints)
  · intro noValue
    rcases Node.leadsTo_of_target? ht with ⟨s, toward, rfl⟩ | rfl
    · -- a statement that is not printed as such is a value, which is ruled out
      rcases Node.prints_or_returns toward.mem with prints | ⟨v, returns, rfl⟩
      · exact prints
      · exact Classical.byContradiction fun silent => noValue ⟨v, returns, toward, silent⟩
    · exact .inl rfl

/-- An arrow behind a function out of which a declaration is taken, with a comment above it. -/
def arrowBehindDeclaration : List Char :=
  ("describe(function () \x7b\n  // Props are declared elsewhere.\n  Foo.propTypes = \x7b\x7d;\n\x7d, "
    ++ "() => done());\n").toList

/-- The comment above the declaration is placed at the value of the arrow, where it is not printed. -/
theorem comment_moved_to_value : ∃ m, Module.parse arrowBehindDeclaration = .ok m
    ∧ ∃ c ∈ m.comments,
      let tree := m.annotated {}
      let removed := m.extraction.removed
      (tree.anchors m.source).moves removed m.extraction.absorbed c = true
        ∧ ¬tree.PrintsCommentsAt
          ((tree.anchors m.source).place removed m.extraction.absorbed c).attachedTo := by
  -- the text is read once, for all that is needed of the module
  have run : ∃ m, Module.parse arrowBehindDeclaration = .ok m
      ∧ (m.tree.children.filter Node.isPropTypesBinding).length = 0
      ∧ (m.propContext.declarations m.tree.withoutBindings).length = 1
      ∧ ∀ d ∈ m.propContext.declarations m.tree.withoutBindings, ∃ c ∈ m.comments,
        c.span ∉ m.extraction.absorbed ∧ d.span.contains c.span = false
          ∧ c.isLeading = true ∧ c.attachedTo = d.span.start
          ∧ ∃ v ∈ (m.annotated {}).standing false, v.2 = false
            ∧ (v.1.span ∈ (m.annotated {}).statementSpans ∧ d.span.stop ≤ v.1.span.start
              ∧ ∀ q ∈ (m.annotated {}).statementSpans, d.span.stop ≤ q.start →
                v.1.span.start ≤ q.start)
            ∧ ¬(m.annotated {}).PrintsCommentsAt v.1.span.start := by decide +kernel
  obtain ⟨m, hm, noBinding, oneDeclaration, all⟩ := run
  obtain ⟨d, only⟩ := List.length_eq_one_iff.mp oneDeclaration
  obtain ⟨c, hc, notAbsorbed, outside, leads, above, ⟨v, _⟩, hv, rfl, next, silent⟩ :=
    all d (only ▸ List.mem_singleton_self d)
  have removed : m.extraction.removed = [d.span] := by
    simp [Extraction.removed, Module.extraction, only, List.length_eq_zero_iff.mp noBinding]
  have belongs : c.BelongsTo m.extraction.removed d.span := by
    rw [removed]
    exact .inr ⟨by simpa using outside, leads, [], [], rfl, above, by simp⟩
  have toward : (m.annotated {}).LeadsTo m.source m.extraction.removed c v.span := .behind belongs next
  have moves : ((m.annotated {}).anchors m.source).moves m.extraction.removed m.extraction.absorbed c
      = true := by
    rw [Anchors.moves, toward.target?_eq]
    simpa using notAbsorbed
  refine ⟨m, hm, c, hc, moves, fun prints => ?_⟩
  have printed := (moved_comment_printed_iff _ _ _ _ c moves).2.2
  exact printed.mp prints ⟨v, hv, toward, silent⟩

end TypedJsx
