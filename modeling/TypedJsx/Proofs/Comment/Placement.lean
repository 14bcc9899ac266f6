import TypedJsx.Comment
import TypedJsx.Proofs.Tree
import TypedJsx.Grammar.Program
import TypedJsx.PropTypes
/-!
New places for comments. The statements of a tree are looked through in two ways: for the first one that
starts at or after an offset, and for the outermost one that ends last before a comment, on its line. Both are
searches of a sorted list; here they are told from the statements of the tree alone (`Node.next_eq_iff`,
`Node.closed?_eq_some_iff`).

A comment belongs to the first removed span around it, or else to the first one that it leads, and then it
moves to the next start behind that; any other comment moves only if it trails. A comment that has moved leads
code that is still there, so unless it stands inside a removed span it has no reason to move again.

Main statement: comments are conserved, none is left at removed code, and to place them once more changes
none.
-/
namespace TypedJsx

/-! ## The list of statements -/

theorem Span.before_trans (a b c : Span) : a.before b = true → b.before c = true → a.before c = true := by
  simp only [Span.before, Bool.or_eq_true, Bool.and_eq_true, decide_eq_true_eq, beq_iff_eq]
  omega

theorem Span.before_total (a b : Span) : (a.before b || b.before a) = true := by
  simp only [Span.before, Bool.or_eq_true, Bool.and_eq_true, decide_eq_true_eq, beq_iff_eq]
  omega

theorem Span.start_le_of_before {a b : Span} (h : a.before b = true) : a.start ≤ b.start := by
  simp only [Span.before, Bool.or_eq_true, Bool.and_eq_true, decide_eq_true_eq, beq_iff_eq] at h
  omega

section
variable (tree : Node) (source : List Char)

theorem Node.mem_statements_anchors (s : Span) :
    s ∈ (tree.anchors source).statements ↔ s ∈ tree.statementSpans :=
  List.mem_mergeSort

theorem Node.pairwise_statements_anchors :
    (tree.anchors source).statements.Pairwise fun a b => a.start ≤ b.start :=
  (List.pairwise_mergeSort Span.before_trans Span.before_total _).imp Span.start_le_of_before

end

/-! ## The next statement -/

/-- Over `s` stands a statement of the tree, and none starts nearer at or after an offset. -/
def Node.IsNext (tree : Node) (offset : Nat) (s : Span) : Prop :=
  s ∈ tree.statementSpans ∧ offset ≤ s.start
    ∧ ∀ q ∈ tree.statementSpans, offset ≤ q.start → s.start ≤ q.start

/-- The next start from an offset on: that of the next statement, or the end of the program if no statement
starts there. -/
def Node.IsNextStart (tree : Node) (offset t : Nat) : Prop :=
  (∃ s, tree.IsNext offset s ∧ s.start = t)
    ∨ ((∀ q ∈ tree.statementSpans, q.start < offset) ∧ t = tree.span.stop)

section
variable (tree : Node) (source : List Char)

theorem Node.isNextStart_next (offset : Nat) :
    tree.IsNextStart offset ((tree.anchors source).next offset) := by
  unfold Anchors.next
  cases found : (tree.anchors source).statements.find? fun s => decide (offset ≤ s.start) with
  | some s =>
    have least := find?_isFirst (tree.pairwise_statements_anchors source) (fun _ => Nat.le_refl _) found
    refine .inl ⟨s, ⟨?_, by simpa using List.find?_some found, fun q hq hle => ?_⟩, rfl⟩
    · exact (tree.mem_statements_anchors source s).mp (List.mem_of_find?_eq_some found)
    · exact least q ((tree.mem_statements_anchors source q).mpr hq) (decide_eq_true hle)
  | none =>
    refine .inr ⟨fun q hq => ?_, rfl⟩
    have := List.find?_eq_none.mp found q ((tree.mem_statements_anchors source q).mpr hq)
    simpa using this

theorem Node.IsNextStart.unique {tree : Node} {offset t u : Nat} (ht : tree.IsNextStart offset t)
    (hu : tree.IsNextStart offset u) : t = u := by
  rcases ht with ⟨s, ⟨hs, hle, least⟩, rfl⟩ | ⟨none, rfl⟩
  · rcases hu with ⟨s', ⟨hs', hle', least'⟩, rfl⟩ | ⟨none, -⟩
    · exact Nat.le_antisymm (least s' hs' hle') (least' s hs hle)
    · have := none s hs
      omega
  · rcases hu with ⟨s', ⟨hs', hle', -⟩, -⟩ | ⟨-, rfl⟩
    · have := none s' hs'
      omega
    · rfl

theorem Node.next_eq_iff (offset t : Nat) :
    (tree.anchors source).next offset = t ↔ tree.IsNextStart offset t :=
  ⟨fun h => h ▸ tree.isNextStart_next source offset,
    fun h => (tree.isNextStart_next source offset).unique h⟩

end

/-! ## The statement that closes -/

/-- Over `s` stands a statement that ends on the line of a comment: none ends nearer before it, there is no
line break between, and of those that end there it is the outermost. -/
structure Node.IsClosedBy (tree : Node) (source : List Char) (comment s : Span) : Prop where
  mem : s ∈ tree.statementSpans
  stop_le : s.stop ≤ comment.start
  isLast : ∀ q ∈ tree.statementSpans, q.stop ≤ comment.start → q.stop ≤ s.stop
  onLine : '\n' ∉ sliceBytes s.stop comment.start source
  isOutermost : ∀ q ∈ tree.statementSpans, q.stop = s.stop → s.start ≤ q.start

theorem Node.closed?_eq_some_iff (tree : Node) (source : List Char) (comment : Span) (t : Nat) :
    (tree.anchors source).closed? comment = some t ↔
      ∃ s, tree.IsClosedBy source comment s ∧ s.start = t := by
  -- the last end in front of the comment as a maximum, the outermost statement there as a minimum
  have last : ∀ stop, (((tree.anchors source).statements.filter fun q =>
        decide (q.stop ≤ comment.start)).map Span.stop).max? = some stop ↔
      (∃ s ∈ tree.statementSpans, s.stop ≤ comment.start ∧ s.stop = stop)
        ∧ ∀ q ∈ tree.statementSpans, q.stop ≤ comment.start → q.stop ≤ stop := by
    intro stop
    rw [List.max?_eq_some_iff, List.forall_mem_map, List.forall_mem_filter]
    simp [Node.mem_statements_anchors, and_assoc]
  have outermost : ∀ stop, (((tree.anchors source).statements.filter fun q =>
        q.stop == stop).map Span.start).min? = some t ↔
      (∃ s ∈ tree.statementSpans, s.stop = stop ∧ s.start = t)
        ∧ ∀ q ∈ tree.statementSpans, q.stop = stop → t ≤ q.start := by
    intro stop
    rw [List.min?_eq_some_iff, List.forall_mem_map, List.forall_mem_filter]
    simp [Node.mem_statements_anchors, and_assoc]
  have sameSource : (tree.anchors source).source = source := rfl
  simp only [Anchors.closed?, Option.bind_eq_bind, Option.bind_eq_some_iff, last, sameSource]
  constructor
  · rintro ⟨stop, ⟨⟨r, hr, before, rfl⟩, isLast⟩, h⟩
    split at h
    · cases h
    · rename_i onLine
      obtain ⟨⟨s, hs, same, rfl⟩, isOutermost⟩ := (outermost _).mp h
      rw [← same] at before isLast isOutermost onLine
      exact ⟨s, ⟨hs, before, isLast, by simpa using onLine, isOutermost⟩, rfl⟩
  · rintro ⟨s, closes, rfl⟩
    refine ⟨s.stop, ⟨⟨s, closes.mem, closes.stop_le, rfl⟩, closes.isLast⟩, ?_⟩
    rw [if_neg (by simpa using closes.onLine), outermost]
    exact ⟨⟨s, closes.mem, rfl, rfl⟩, closes.isOutermost⟩

/-! ## The removed span of a comment -/

/-- `r` is the removed span that a comment belongs to: the first one around it, else the first one that it
leads. -/
def Comment.BelongsTo (removed : List Span) (c : Comment) (r : Span) : Prop :=
  (∃ earlier later, removed = earlier ++ r :: later ∧ r.contains c.span = true
      ∧ ∀ q ∈ earlier, q.contains c.span = false)
    ∨ ((∀ q ∈ removed, q.contains c.span = false) ∧ c.isLeading = true
      ∧ ∃ earlier later, removed = earlier ++ r :: later ∧ c.attachedTo = r.start
        ∧ ∀ q ∈ earlier, c.attachedTo ≠ q.start)

/-- A comment that neither stands in a removed span nor leads one. -/
def Comment.IsApart (removed : List Span) (c : Comment) : Prop :=
  ∀ q ∈ removed, q.contains c.span = false ∧ (c.isLeading = true → c.attachedTo ≠ q.start)

theorem Comment.isLeading_eq_not_isTrailing (c : Comment) : c.isLeading = !c.isTrailing := by
  unfold Comment.isLeading Comment.isTrailing
  cases c.place <;> rfl

section
variable (a : Anchors) {removed : List Span} {c : Comment} {r : Span}

theorem Anchors.target?_of_find? (h : (removed.find? fun r => r.contains c.span) = some r) :
    a.target? removed c = some (a.next r.stop) := by
  rw [Anchors.target?, h]

theorem Anchors.target?_of_belongsTo (h : c.BelongsTo removed r) :
    a.target? removed c = some (a.next r.stop) := by
  rcases h with ⟨earlier, later, rfl, inside, outside⟩
    | ⟨outside, leads, earlier, later, rfl, here, notBefore⟩
  · refine a.target?_of_find? (List.find?_eq_some_iff_append.mpr ⟨inside, earlier, later, rfl, ?_⟩)
    intro q hq
    simp [outside q hq]
  · have none : ((earlier ++ r :: later).find? fun r => r.contains c.span) = none := by
      rw [List.find?_eq_none]
      intro q hq
      simp [outside q hq]
    have first : ((earlier ++ r :: later).find? fun r => c.isLeading && c.attachedTo == r.start)
        = some r := by
      refine List.find?_eq_some_iff_append.mpr ⟨by simp [leads, here], earlier, later, rfl, ?_⟩
      intro q hq
      simp [notBefore q hq]
    rw [Anchors.target?, none]
    dsimp only
    rw [first]

theorem Anchors.target?_of_isApart (h : c.IsApart removed) : a.target? removed c
    = if c.isTrailing then some ((a.closed? c.span).getD (a.next c.span.stop)) else none := by
  have around : (removed.find? fun r => r.contains c.span) = none := by
    rw [List.find?_eq_none]
    intro q hq
    simp [(h q hq).1]
  have led : (removed.find? fun r => c.isLeading && c.attachedTo == r.start) = none := by
    rw [List.find?_eq_none]
    intro q hq
    simpa using (h q hq).2
  rw [Anchors.target?, around]
  dsimp only
  rw [led]

theorem Comment.belongsTo_or_isApart (removed : List Span) (c : Comment) :
    (∃ r, c.BelongsTo removed r) ∨ c.IsApart removed := by
  cases around : removed.find? fun r => r.contains c.span with
  | some r =>
    obtain ⟨inside, earlier, later, e, outside⟩ := List.find?_eq_some_iff_append.mp around
    exact .inl ⟨r, .inl ⟨earlier, later, e, inside, fun q hq => by simpa using outside q hq⟩⟩
  | none =>
    have outside : ∀ q ∈ removed, q.contains c.span = false := by
      simpa using List.find?_eq_none.mp around
    cases led : removed.find? fun r => c.isLeading && c.attachedTo == r.start with
    | some r =>
      obtain ⟨here, earlier, later, e, before⟩ := List.find?_eq_some_iff_append.mp led
      rw [Bool.and_eq_true, beq_iff_eq] at here
      refine .inl ⟨r, .inr ⟨outside, here.1, earlier, later, e, here.2, fun q hq => ?_⟩⟩
      simpa [here.1] using before q hq
    | none =>
      exact .inr fun q hq => ⟨outside q hq, by simpa using List.find?_eq_none.mp led q hq⟩

end

/-! ## The statement that a comment is placed at -/

/-- `s` is the span of the statement that a comment is placed at: the next one behind the removed span that
it belongs to; if it trails, the one that it closes, else the next one. -/
inductive Node.LeadsTo (tree : Node) (source : List Char) (removed : List Span) (c : Comment) :
    Span → Prop where
  | behind {r s : Span} (belongs : c.BelongsTo removed r) (next : tree.IsNext r.stop s) :
      LeadsTo tree source removed c s
  | closed {s : Span} (apart : c.IsApart removed) (trails : c.isTrailing = true)
      (closes : tree.IsClosedBy source c.span s) : LeadsTo tree source removed c s
  | following {s : Span} (apart : c.IsApart removed) (trails : c.isTrailing = true)
      (closesNone : ∀ q, ¬tree.IsClosedBy source c.span q) (next : tree.IsNext c.span.stop s) :
      LeadsTo tree source removed c s

section
variable {tree : Node} {source : List Char} {removed : List Span} {c : Comment}

theorem Node.LeadsTo.mem {s : Span} (h : tree.LeadsTo source removed c s) : s ∈ tree.statementSpans := by
  cases h with
  | behind belongs next => exact next.1
  | closed apart trails closes => exact closes.mem
  | following apart trails closesNone next => exact next.1

theorem Node.IsNext.next_eq {offset : Nat} {s : Span} (h : tree.IsNext offset s) :
    (tree.anchors source).next offset = s.start :=
  (tree.next_eq_iff source offset s.start).mpr (.inl ⟨s, h, rfl⟩)

theorem Node.LeadsTo.target?_eq {s : Span} (h : tree.LeadsTo source removed c s) :
    (tree.anchors source).target? removed c = some s.start := by
  cases h with
  | behind belongs next => rw [Anchors.target?_of_belongsTo _ belongs, next.next_eq]
  | closed apart trails closes =>
    have found := (tree.closed?_eq_some_iff source c.span s.start).mpr ⟨s, closes, rfl⟩
    rw [Anchors.target?_of_isApart _ apart, if_pos trails, found, Option.getD_some]
  | following apart trails closesNone next =>
    have none : (tree.anchors source).closed? c.span = none := by
      rw [Option.eq_none_iff_forall_ne_some]
      intro t found
      obtain ⟨q, closes, -⟩ := (tree.closed?_eq_some_iff source c.span t).mp found
      exact closesNone q closes
    rw [Anchors.target?_of_isApart _ apart, if_pos trails, none, Option.getD_none, next.next_eq]

/-- A new place is the start of the statement that the comment is placed at, or the end of the program. -/
theorem Node.leadsTo_of_target? {t : Nat} (h : (tree.anchors source).target? removed c = some t) :
    (∃ s, tree.LeadsTo source removed c s ∧ t = s.start) ∨ t = tree.span.stop := by
  rcases c.belongsTo_or_isApart removed with ⟨r, belongs⟩ | apart
  · rw [Anchors.target?_of_belongsTo _ belongs] at h
    obtain rfl := Option.some.inj h
    rcases tree.isNextStart_next source r.stop with ⟨s, next, e⟩ | ⟨-, e⟩
    · exact .inl ⟨s, .behind belongs next, e.symm⟩
    · exact .inr e
  · rw [Anchors.target?_of_isApart _ apart] at h
    split at h
    · rename_i trails
      obtain rfl := Option.some.inj h
      cases closes : (tree.anchors source).closed? c.span with
      | some u =>
        obtain ⟨s, closed, e⟩ := (tree.closed?_eq_some_iff source c.span u).mp closes
        exact .inl ⟨s, .closed apart trails closed, e.symm⟩
      | none =>
        -- no statement ends in front of the comment on its line, so the comment goes to the next one
        have closesNone : ∀ q, ¬tree.IsClosedBy source c.span q := by
          intro q closed
          have found := (tree.closed?_eq_some_iff source c.span q.start).mpr ⟨q, closed, rfl⟩
          rw [closes] at found
          cases found
        rcases tree.isNextStart_next source c.span.stop with ⟨s, next, e⟩ | ⟨-, e⟩
        · exact .inl ⟨s, .following apart trails closesNone next, e.symm⟩
        · exact .inr e
    · cases h

end

/-! ## Places -/

section
variable (a : Anchors) {removed absorbed : List Span} {c : Comment}

theorem Anchors.place_of_absorbed (h : c.span ∈ absorbed) : a.place removed absorbed c = c := by
  rw [Anchors.place, if_pos (by simpa using h)]

theorem Anchors.place_of_target? {t : Nat} (h : c.span ∉ absorbed) (ht : a.target? removed c = some t) :
    a.place removed absorbed c = { c.leadTo t with newlineBefore := true, newlineAfter := true } := by
  rw [Anchors.place, if_neg (by simpa using h), ht]

theorem Anchors.place_of_target?_eq_none (ht : a.target? removed c = none) :
    a.place removed absorbed c = c := by
  rw [Anchors.place, ht]
  split <;> rfl

theorem Anchors.place_keeps (removed absorbed : List Span) (c : Comment) :
    (a.place removed absorbed c).span = c.span ∧ (a.place removed absorbed c).text = c.text
      ∧ (a.place removed absorbed c).isLine = c.isLine := by
  unfold Anchors.place
  split
  · exact ⟨rfl, rfl, rfl⟩
  · split <;> exact ⟨rfl, rfl, rfl⟩

end

section
variable (tree : Node) (source : List Char) {removed absorbed : List Span} {c : Comment}

/-- No statement that is left starts where a removed span starts, and the program does not end there. -/
structure Node.IsClearOf (tree : Node) (removed : List Span) : Prop where
  starts : ∀ s ∈ tree.statementSpans, ∀ r ∈ removed, s.start ≠ r.start
  stops : ∀ r ∈ removed, tree.span.stop ≠ r.start

instance (tree : Node) (removed : List Span) : Decidable (tree.IsClearOf removed) :=
  decidable_of_iff ((∀ s ∈ tree.statementSpans, ∀ r ∈ removed, s.start ≠ r.start)
    ∧ ∀ r ∈ removed, tree.span.stop ≠ r.start) ⟨fun h => ⟨h.1, h.2⟩, fun h => ⟨h.starts, h.stops⟩⟩

theorem Node.IsClearOf.target?_ne {tree : Node} (h : tree.IsClearOf removed) {t : Nat}
    (ht : (tree.anchors source).target? removed c = some t) : ∀ r ∈ removed, t ≠ r.start := by
  intro r hr
  rcases Node.leadsTo_of_target? ht with ⟨s, toward, rfl⟩ | rfl
  · exact h.starts s toward.mem r hr
  · exact h.stops r hr

/-- A comment that no entry took leads something afterwards, and nothing that was removed. -/
theorem Node.IsClearOf.place_leads {tree : Node} (h : tree.IsClearOf removed) (hc : c.span ∉ absorbed) :
    ((tree.anchors source).place removed absorbed c).isLeading = true
      ∧ ∀ r ∈ removed, ((tree.anchors source).place removed absorbed c).attachedTo ≠ r.start := by
  cases ht : (tree.anchors source).target? removed c with
  | some t =>
    rw [Anchors.place_of_target? _ hc ht]
    exact ⟨rfl, h.target?_ne source ht⟩
  | none =>
    rw [Anchors.place_of_target?_eq_none _ ht]
    rcases c.belongsTo_or_isApart removed with ⟨r, belongs⟩ | apart
    · rw [Anchors.target?_of_belongsTo _ belongs] at ht
      cases ht
    · rw [Anchors.target?_of_isApart _ apart] at ht
      have leads : c.isLeading = true := by
        cases trails : c.isTrailing with
        | true => simp [trails] at ht
        | false => rw [c.isLeading_eq_not_isTrailing, trails]; rfl
      exact ⟨leads, fun r hr => (apart r hr).2 leads⟩

/-- To place a comment once more does not change it. -/
theorem Node.IsClearOf.place_place {tree : Node} (h : tree.IsClearOf removed) (c : Comment) :
    (tree.anchors source).place removed absorbed ((tree.anchors source).place removed absorbed c)
      = (tree.anchors source).place removed absorbed c := by
  by_cases hc : c.span ∈ absorbed
  · rw [Anchors.place_of_absorbed _ hc, Anchors.place_of_absorbed _ hc]
  · have keeps := ((tree.anchors source).place_keeps removed absorbed c).1
    cases around : removed.find? fun r => r.contains c.span with
    | some r =>
      -- a comment inside a removed span stands there still, and is sent to the same place again
      rw [Anchors.place_of_target? _ hc (Anchors.target?_of_find? _ around)]
      exact Anchors.place_of_target? _ hc (Anchors.target?_of_find? _ around)
    | none =>
      -- any other comment is now apart from what was removed, and leads something
      obtain ⟨leads, apart⟩ := h.place_leads source hc
      refine Anchors.place_of_target?_eq_none _ ?_
      rw [Anchors.target?_of_isApart]
      · rw [Comment.isLeading_eq_not_isTrailing, Bool.not_eq_true'] at leads
        rw [leads]
        rfl
      · intro q hq
        refine ⟨?_, fun _ => apart q hq⟩
        rw [keeps]
        simpa using List.find?_eq_none.mp around q hq

end

/-! ## All comments -/

/-- Where nothing that is left starts or ends at the start of a removed span, comments that get new places
keep their number, their order, their spans and their texts. Those that entries took do not change at all.
Every other one leads something afterwards, and nothing that was removed; if it stood in a removed span, or
else led one, then it leads the next start behind the first such span. To place them all once more changes
none. -/
theorem relocation_conserves_and_settles (tree : Node) (source : List Char)
    (removed absorbed : List Span) (comments : List Comment) (h : tree.IsClearOf removed) :
    let move := (tree.anchors source).place removed absorbed
    ((comments.map move).map fun c => (c.span, c.text, c.isLine))
        = (comments.map fun c => (c.span, c.text, c.isLine))
      ∧ (∀ c, c.span ∈ absorbed → move c = c)
      ∧ (∀ c, c.span ∉ absorbed →
        (move c).isLeading = true ∧ ∀ r ∈ removed, (move c).attachedTo ≠ r.start)
      ∧ (∀ c, c.span ∉ absorbed → ∀ r, c.BelongsTo removed r →
        tree.IsNextStart r.stop (move c).attachedTo)
      ∧ (comments.map move).map move = comments.map move := by
  intro move
  refine ⟨?_, fun c hc => Anchors.place_of_absorbed _ hc, fun c hc => h.place_leads source hc, ?_, ?_⟩
  · rw [List.map_map]
    refine List.map_congr_left fun c _ => ?_
    obtain ⟨span, text, isLine⟩ := (tree.anchors source).place_keeps removed absorbed c
    exact Prod.ext span (Prod.ext text isLine)
  · intro c hc r belongs
    have place : move c = _ := Anchors.place_of_target? _ hc (Anchors.target?_of_belongsTo _ belongs)
    rw [place]
    exact tree.isNextStart_next source r.stop
  · rw [List.map_map]
    exact List.map_congr_left fun c _ => h.place_place source c

/-- A declaration inside the value of another one, with comments before, in and behind them. -/
def commentedDeclarations : List Char :=
  ("/* lead */\nFoo.propTypes = \x7b\n  // taken\n  a: f(function () \x7b\n    // nested\n"
    ++ "    Bar.propTypes = \x7b\x7d;\n  \x7d),\n\x7d;\nrun(); // why\n").toList

/-- Nothing that is left starts or ends where a declaration started, so its comments settle: the nested and
the trailing one lead something afterwards, and to place them once more changes none. -/
theorem commented_declarations_settle : ∃ m, Module.parse commentedDeclarations = .ok m
    ∧ m.tree.withoutProps.IsClearOf m.extraction.removed
    ∧ let move := (m.tree.withoutProps.anchors m.source).place m.extraction.removed m.extraction.absorbed
      (∃ c ∈ m.comments, c.isTrailing = true ∧ (move c).isLeading = true)
        ∧ (∃ c ∈ m.comments, (∃ r ∈ m.extraction.removed, r.contains c.span = true)
          ∧ ∀ r ∈ m.extraction.removed, (move c).attachedTo ≠ r.start)
        ∧ (m.comments.map move).map move = m.comments.map move := by
  have run : ∃ m, Module.parse commentedDeclarations = .ok m
      ∧ (m.tree.children.filter Node.isPropTypesBinding).length = 0
      ∧ (∀ d ∈ m.propContext.declarations m.tree.withoutBindings,
        (∀ s ∈ m.tree.withoutProps.statementSpans, s.start ≠ d.span.start)
          ∧ m.tree.withoutProps.span.stop ≠ d.span.start)
      ∧ (∃ c ∈ m.comments, c.isTrailing = true ∧ c.span ∉ m.extraction.absorbed)
      ∧ ∃ c ∈ m.comments, c.span ∉ m.extraction.absorbed
        ∧ ∃ d ∈ m.propContext.declarations m.tree.withoutBindings, d.span.contains c.span = true := by
    decide +kernel
  obtain ⟨m, hm, noBinding, clear, ⟨c, hc, trails, free⟩, ⟨c', hc', free', d, hd, inside⟩⟩ := run
  have removed : ∀ r, r ∈ m.extraction.removed ↔
      ∃ d ∈ m.propContext.declarations m.tree.withoutBindings, d.span = r := by
    simp [Extraction.removed, Module.extraction, List.length_eq_zero_iff.mp noBinding]
  have isClear : m.tree.withoutProps.IsClearOf m.extraction.removed := by
    constructor
    · intro s hs r hr
      obtain ⟨d, hd, rfl⟩ := (removed r).mp hr
      exact (clear d hd).1 s hs
    · intro r hr
      obtain ⟨d, hd, rfl⟩ := (removed r).mp hr
      exact (clear d hd).2
  obtain ⟨-, -, settled, -, again⟩ := relocation_conserves_and_settles m.tree.withoutProps m.source
    m.extraction.removed m.extraction.absorbed m.comments isClear
  refine ⟨m, hm, isClear, ⟨c, hc, trails, (settled c free).1⟩, ⟨c', hc', ?_, (settled c' free').2⟩, again⟩
  exact ⟨d.span, (removed d.span).mpr ⟨d, hd, rfl⟩, inside⟩

end TypedJsx
